import RobotDriver.Framing

/-!
# Framing does not depend on how bytes arrive

A frame that is complete stays the first frame of the buffer whatever comes behind it (`next?_append`), so
draining a buffer and then its rest with more bytes is the same as draining them together (`drain_append`).
`feedAll_flatten` carries this along a list of pieces. `decodeAll` asks the framer for packets until it has
none, and `decodeAll_eq` says that this is what `drain` yields without the skipped headers. Nor does the framer
ever fail: `decodeChecked` makes all the checks of a frame, and `decodeChecked_eq` says that they pass.
-/

namespace RobotDriver

/-- The bytes behind a whole packet play no part in it. -/
theorem Packet.ofBody_append (header : Header) {body : Bytes} (more : Bytes) (nonempty : header.length ≠ 0)
    (whole : header.length.toNat ≤ body.length) : ofBody header (body ++ more) = ofBody header body := by
  have pos : 0 < header.length.toNat := by
    rw [Nat.pos_iff_ne_zero]
    intro h
    exact nonempty (UInt8.toNat_inj.1 h)
  have fits : header.payloadLength < body.length := by
    unfold Header.payloadLength
    omega
  have split : body.drop header.payloadLength ≠ [] := by
    rw [ne_eq, List.drop_eq_nil_iff]
    omega
  obtain ⟨checksum, rest, cut⟩ := List.exists_cons_of_ne_nil split
  unfold ofBody
  rw [List.take_append_of_le_length (by omega), List.drop_append_of_le_length (by omega), cut]
  rfl

namespace Frame

/-! ## One frame -/

/-- A complete frame stays the first one when more bytes arrive. -/
theorem next?_append {buffer rest : Bytes} {f : Frame} (h : next? buffer = some (f, rest)) (more : Bytes) :
    next? (buffer ++ more) = some (f, rest ++ more) := by
  match buffer with
  | start :: type :: code :: seq :: length :: body =>
    simp only [next?, List.cons_append] at h ⊢
    split
    · next empty =>
      rw [if_pos empty] at h
      cases h
      rfl
    · next nonempty =>
      rw [if_neg nonempty] at h
      split at h
      · cases h
      · next short =>
        cases h
        have whole : length.toNat ≤ body.length := Nat.le_of_not_lt short
        rw [if_neg (by rw [List.length_append]; omega), Packet.ofBody_append _ more nonempty whole,
          List.drop_append_of_le_length whole]
  | [] | [_] | [_, _] | [_, _, _] | [_, _, _, _] => simp [next?] at h

theorem drain_of_none {buffer : Bytes} (h : next? buffer = none) : drain buffer = ([], buffer) := by
  rw [drain]
  split
  · rfl
  · next taken => rw [h] at taken; cases taken

theorem drain_of_some {buffer rest : Bytes} {f : Frame} (h : next? buffer = some (f, rest)) :
    drain buffer = (f :: (drain rest).1, (drain rest).2) := by
  rw [drain]
  split
  · next taken => rw [h] at taken; cases taken
  · next taken => rw [h] at taken; cases taken; rfl

/-! ## Pieces of a stream -/

/-- Draining what is left together with more bytes goes on where draining stopped. -/
theorem drain_append (buffer more : Bytes) :
    drain (buffer ++ more) =
      ((drain buffer).1 ++ (drain ((drain buffer).2 ++ more)).1, (drain ((drain buffer).2 ++ more)).2) := by
  induction buffer using drain.induct with
  | case1 buffer none =>
    rw [drain_of_none none]
    rfl
  | case2 buffer f rest some _ _ _ ih =>
    rw [drain_of_some (next?_append some more), ih, drain_of_some some]
    rfl

/-- What draining leaves begins with no complete frame. -/
theorem drain_drained (buffer : Bytes) : drain (drain buffer).2 = ([], (drain buffer).2) := by
  induction buffer using drain.induct with
  | case1 buffer none => rw [drain_of_none none, drain_of_none none]
  | case2 buffer f rest some _ _ _ ih => rw [drain_of_some some, ih]

theorem leftOver_cons (buffer : Bytes) (step : List Frame × Bytes) (fed : List (List Frame × Bytes)) :
    leftOver buffer (step :: fed) = leftOver step.2 fed := by
  cases fed <;> simp [leftOver, List.getLast?_cons]

/-- Pieces that arrive behind a drained buffer give the frames of the whole, and leave its rest. -/
theorem feedAll_flatten {buffer : Bytes} (drained : drain buffer = ([], buffer)) (chunks : List Bytes) :
    ((feedAll buffer chunks).flatMap (·.1), leftOver buffer (feedAll buffer chunks)) =
      drain (buffer ++ chunks.flatten) := by
  induction chunks generalizing buffer with
  | nil =>
    rw [List.flatten_nil, List.append_nil, drained]
    rfl
  | cons chunk chunks ih =>
    have more := ih (drain_drained (buffer ++ chunk))
    rw [Prod.ext_iff] at more
    rw [List.flatten_cons, ← List.append_assoc, drain_append (buffer ++ chunk), ← more.1, ← more.2]
    simp only [feedAll, feed, List.flatMap_cons, leftOver_cons]

/-! ## The framer's calls -/

theorem decode_of_none {buffer : Bytes} (h : next? buffer = none) : decode buffer = (none, buffer) := by
  rw [decode]
  split <;> simp_all

theorem decode_of_packet {buffer rest : Bytes} {p : Packet} (h : next? buffer = some (.packet p, rest)) :
    decode buffer = (some p, rest) := by
  rw [decode]
  split <;> simp_all

theorem decode_of_skipped {buffer rest : Bytes} {header : Header}
    (h : next? buffer = some (.skipped header, rest)) : decode buffer = decode rest := by
  rw [decode]
  split <;> simp_all

theorem length_decode_lt {buffer rest : Bytes} {p : Packet} (h : decode buffer = (some p, rest)) :
    rest.length < buffer.length := by
  induction buffer using decode.induct with
  | case1 buffer none =>
    rw [decode_of_none none] at h
    cases h
  | case2 buffer q next some =>
    rw [decode_of_packet some] at h
    cases h
    exact length_next?_lt some
  | case3 buffer header next some ih =>
    rw [decode_of_skipped some] at h
    exact Nat.lt_trans (ih h) (length_next?_lt some)

/-- Asks the framer for packets until it has none. -/
def decodeAll (buffer : Bytes) : List Packet × Bytes :=
  match _taken : decode buffer with
  | (none, rest) => ([], rest)
  | (some p, rest) =>
    let (packets, last) := decodeAll rest
    (p :: packets, last)
termination_by buffer.length
decreasing_by exact length_decode_lt _taken

/-- The framer's packets are the drained frames without the skipped headers, and it leaves the same rest. -/
theorem decodeAll_eq (buffer : Bytes) :
    decodeAll buffer = ((drain buffer).1.filterMap packet?, (drain buffer).2) := by
  induction buffer using drain.induct with
  | case1 buffer none =>
    rw [decodeAll, drain_of_none none]
    split <;> simp_all [decode_of_none none]
  | case2 buffer f rest some _ _ _ ih =>
    rw [drain_of_some some]
    cases f with
    | packet p =>
      rw [decodeAll]
      split <;> simp_all [decode_of_packet some, packet?]
    | skipped header =>
      have same : decodeAll buffer = decodeAll rest := by
        rw [decodeAll, decodeAll, decode_of_skipped some]
      rw [same, ih]
      rfl

/-! ## The checks of a frame -/

theorem headerLength_le {buffer : Bytes} {header : Header} (h : Header.ofBytes? buffer = some header) :
    headerLength ≤ buffer.length := by
  unfold Header.ofBytes? at h
  split at h
  · simp [headerLength]
  · cases h

/-- One call of the framer as it cuts frames: it reads the length in the header, takes so many bytes, and splits them
with checks of their own, which would make it fail. -/
def decodeChecked (buffer : Bytes) : Except PacketError (Option Packet) × Bytes :=
  match _read : Header.ofBytes? buffer with
  | none => (.ok none, buffer)
  | some header =>
    if header.length = 0 then decodeChecked (buffer.drop headerLength)
    else if buffer.length < header.packetLength then (.ok none, buffer)
    else ((Packet.ofFrame (buffer.take header.packetLength)).map some, buffer.drop header.packetLength)
termination_by buffer.length
decreasing_by
  have := headerLength_le _read
  rw [List.length_drop]
  simp only [headerLength] at this ⊢
  omega

/-- What `next?` takes, by the header. -/
theorem next?_eq (buffer : Bytes) : next? buffer =
    match Header.ofBytes? buffer with
    | none => none
    | some header =>
      if header.length = 0 then some (.skipped header, buffer.drop headerLength)
      else if buffer.length < header.packetLength then none
      else some (.packet (Packet.ofBody header (buffer.drop headerLength)), buffer.drop header.packetLength) := by
  match buffer with
  | start :: type :: code :: seq :: length :: body =>
    have short : (start :: type :: code :: seq :: length :: body).length < headerLength + length.toNat ↔
        body.length < length.toNat := by
      simp only [List.length_cons, headerLength]
      omega
    have rest : (start :: type :: code :: seq :: length :: body).drop (headerLength + length.toNat) =
        body.drop length.toNat := by
      rw [← List.drop_drop]
      rfl
    simp only [next?, Header.ofBytes?, Header.packetLength, short, rest]
    rfl
  | [] | [_] | [_, _] | [_, _, _] | [_, _, _, _] => rfl

/-- A frame that is cut by its header passes the checks. -/
theorem ofFrame_take {buffer : Bytes} {header : Header} (read : Header.ofBytes? buffer = some header)
    (nonempty : header.length ≠ 0) (whole : header.packetLength ≤ buffer.length) :
    Packet.ofFrame (buffer.take header.packetLength) = .ok (Packet.ofBody header (buffer.drop headerLength)) := by
  match buffer with
  | start :: type :: code :: seq :: length :: body =>
    obtain rfl : ⟨start, type, code, seq, length⟩ = header := Option.some.inj read
    have enough : length.toNat ≤ body.length := by
      simp only [Header.packetLength, headerLength, List.length_cons] at whole
      omega
    have cut : (start :: type :: code :: seq :: length :: body).take (headerLength + length.toNat) =
        start :: type :: code :: seq :: length :: body.take length.toNat := by
      rw [Nat.add_comm]
      rfl
    have same : Packet.ofBody ⟨start, type, code, seq, length⟩ (body.take length.toNat) =
        Packet.ofBody ⟨start, type, code, seq, length⟩ body := by
      have taken : length.toNat ≤ (body.take length.toNat).length := by
        rw [List.length_take]
        exact Nat.le_min.2 ⟨Nat.le_refl _, enough⟩
      have more := Packet.ofBody_append ⟨start, type, code, seq, length⟩ (body.drop length.toNat) nonempty taken
      rw [List.take_append_drop] at more
      exact more.symm
    have long : ¬ (start :: type :: code :: seq :: length :: body.take length.toNat).length <
        Header.packetLength ⟨start, type, code, seq, length⟩ := by
      simp only [Header.packetLength, headerLength, List.length_cons, List.length_take]
      omega
    rw [Header.packetLength, cut]
    unfold Packet.ofFrame
    simp only [Header.ofBytes?, if_neg nonempty, if_neg long]
    exact congrArg Except.ok same
  | [] | [_] | [_, _] | [_, _, _] | [_, _, _, _] => cases read

/-- The checks never fail, so a call of the framer does not fail either. -/
theorem decodeChecked_eq (buffer : Bytes) : decodeChecked buffer = (.ok (decode buffer).1, (decode buffer).2) := by
  induction buffer using decodeChecked.induct with
  | case1 buffer read =>
    have none : next? buffer = none := by rw [next?_eq, read]
    rw [decodeChecked, decode_of_none none]
    split <;> simp_all
  | case2 buffer header read empty ih =>
    have skipped : next? buffer = some (.skipped header, buffer.drop headerLength) := by
      rw [next?_eq, read]
      exact if_pos empty
    rw [decodeChecked, decode_of_skipped skipped]
    split <;> simp_all
  | case3 buffer header read nonempty short =>
    have none : next? buffer = none := by
      rw [next?_eq, read]
      exact (if_neg nonempty).trans (if_pos short)
    rw [decodeChecked, decode_of_none none]
    split <;> simp_all
  | case4 buffer header read nonempty long =>
    have packet : next? buffer =
        some (.packet (Packet.ofBody header (buffer.drop headerLength)), buffer.drop header.packetLength) := by
      rw [next?_eq, read]
      exact (if_neg nonempty).trans (if_neg long)
    have passed := ofFrame_take read nonempty (Nat.le_of_not_lt long)
    rw [decodeChecked, decode_of_packet packet]
    split <;> simp_all [Except.map]

/-- **Framing does not depend on how bytes arrive.** Each piece of a stream is a round of calls to the framer,
which goes on until it has no packet. Whatever the pieces, empty ones among them, together they give the
packets that one round takes from the whole, skipped headers included, leave the same bytes behind, and the
end of the stream comes out the same. -/
theorem feedAll_whole (chunks : List Bytes) :
    let fed := feedAll [] chunks
    (∀ buffer chunk,
      decodeAll (buffer ++ chunk) = ((feed buffer chunk).1.filterMap packet?, (feed buffer chunk).2)) ∧
    fed.flatMap (·.1) = (drain chunks.flatten).1 ∧
    fed.flatMap (·.1.filterMap packet?) = (decodeAll chunks.flatten).1 ∧
    leftOver [] fed = (decodeAll chunks.flatten).2 ∧
    decodeEnd (leftOver [] fed) = decodeEnd (decodeAll chunks.flatten).2 := by
  intro fed
  have start : drain [] = ([], []) := drain_of_none rfl
  have whole := feedAll_flatten start chunks
  rw [List.nil_append, Prod.ext_iff] at whole
  have packets : fed.flatMap (·.1.filterMap packet?) = (decodeAll chunks.flatten).1 := by
    rw [← List.filterMap_flatMap, decodeAll_eq]
    exact congrArg (List.filterMap packet?) whole.1
  have rest : leftOver [] fed = (decodeAll chunks.flatten).2 := by
    rw [decodeAll_eq]
    exact whole.2
  exact ⟨fun buffer chunk => decodeAll_eq (buffer ++ chunk), whole.1, packets, rest, congrArg decodeEnd rest⟩

end Frame

end RobotDriver
