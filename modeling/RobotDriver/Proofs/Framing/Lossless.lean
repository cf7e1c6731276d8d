import RobotDriver.Proofs.Framing

/-!
# Framing loses and invents nothing

A frame is `Whole` when its header counts what follows it. `next?_eq_some_iff` says that the framer takes a frame
off a buffer exactly when the buffer begins with the bytes of a whole one, and `next?_eq_none_iff` that it takes
none exactly when what is there is `Unfinished`. By induction on the buffer, `drain_eq_iff` makes draining the only
way to cut a buffer into whole frames and an unfinished rest. What is written packet by packet is therefore read
packet by packet.
-/

namespace RobotDriver

namespace Packet

variable {p : Packet} {frame body : Bytes}

/-! ## The bytes of a packet -/

/-- The header counts the payload and the checksum. -/
def Whole (p : Packet) : Prop :=
  p.payload.length + 1 = p.header.length.toNat

theorem Whole.nonempty (whole : p.Whole) : p.header.length ≠ 0 := by
  intro zero
  rw [Whole, zero] at whole
  cases whole

theorem Whole.payloadLength (whole : p.Whole) : p.header.payloadLength = p.payload.length := by
  rw [Header.payloadLength, ← whole]
  rfl

theorem payloadLength_lt (header : Header) (nonempty : header.length ≠ 0) :
    header.payloadLength + 1 = header.length.toNat := by
  have pos : 0 < header.length.toNat := Nat.pos_of_ne_zero fun zero => nonempty (UInt8.toNat_inj.1 zero)
  exact Nat.sub_add_cancel pos

theorem whole_ofBody (header : Header) (nonempty : header.length ≠ 0) (enough : header.length.toNat ≤ body.length) :
    (ofBody header body).Whole := by
  have counted := payloadLength_lt header nonempty
  have short : header.payloadLength ≤ body.length := by omega
  show (body.take header.payloadLength).length + 1 = header.length.toNat
  rw [List.length_take_of_le short, counted]

/-- A packet consists of the bytes that it was cut from. -/
theorem toBytes_ofBody (header : Header) (nonempty : header.length ≠ 0)
    (enough : header.length.toNat ≤ body.length) :
    (ofBody header body).toBytes = header.toBytes ++ body.take header.length.toNat := by
  have counted := payloadLength_lt header nonempty
  have inside : header.payloadLength < body.length := by omega
  have last : (body.drop header.payloadLength).headD 0 = body[header.payloadLength] := by
    rw [List.drop_eq_getElem_cons inside]
    rfl
  simp only [toBytes, ofBody, last]
  rw [List.append_assoc, List.take_append_getElem inside, counted]

/-- The packet whose bytes begin a buffer is cut out of it. -/
theorem Whole.ofBody (whole : p.Whole) (more : Bytes) :
    ofBody p.header (p.payload ++ p.checksum :: more) = p := by
  unfold Packet.ofBody
  rw [whole.payloadLength, List.take_left, List.drop_left]
  rfl

/-! ## Splitting a byte string -/

/-- A byte string can be split when its length byte is there, is not zero and does not count more than there is. -/
def Covered (frame : Bytes) : Prop :=
  ∃ length, frame[4]? = some length ∧ length ≠ 0 ∧ headerLength + length.toNat ≤ frame.length

theorem ofFrame_eq_ok (h : ofFrame frame = .ok p) :
    Covered frame ∧ frame[4]? = some p.header.length ∧
      p.toBytes = frame.take (headerLength + p.header.length.toNat) := by
  match frame with
  | start :: type :: code :: seq :: length :: body =>
    simp only [ofFrame, Header.ofBytes?] at h
    split at h
    · cases h
    · next nonempty =>
      split at h
      · cases h
      · next long =>
        obtain rfl : Packet.ofBody ⟨start, type, code, seq, length⟩ body = p := Except.ok.inj h
        have enough : headerLength + length.toNat ≤ (start :: type :: code :: seq :: length :: body).length :=
          Nat.le_of_not_lt long
        refine ⟨⟨length, rfl, nonempty, enough⟩, rfl, ?_⟩
        have counted : length.toNat ≤ body.length := by
          simp only [headerLength, List.length_cons] at enough
          omega
        rw [toBytes_ofBody _ nonempty counted, Nat.add_comm]
        rfl
  | [] | [_] | [_, _] | [_, _, _] | [_, _, _, _] => cases h

theorem ofFrame_of_covered (covered : Covered frame) : ∃ p, ofFrame frame = .ok p := by
  obtain ⟨length, present, nonempty, enough⟩ := covered
  match frame with
  | start :: type :: code :: seq :: length' :: body =>
    obtain rfl : length' = length := Option.some.inj present
    exact ⟨_, (if_neg nonempty).trans (if_neg (Nat.not_lt.2 enough))⟩
  | [] | [_] | [_, _] | [_, _, _] | [_, _, _, _] => cases present

/-! ## Built packets -/

variable {type code seq : UInt8} {payload : Bytes}

theorem build_of_le (short : payload.length ≤ 254) :
    build type code seq payload =
      .ok { header := ⟨startByte, type, code, seq, (payload.length + 1).toUInt8⟩
            payload
            checksum := RobotDriver.checksum ([code, seq, (payload.length + 1).toUInt8] ++ payload) } :=
  if_pos (by omega)

theorem build_isOk_iff : (build type code seq payload).isOk ↔ payload.length ≤ 254 := by
  by_cases short : payload.length ≤ 254
  · rw [build_of_le short]
    exact iff_of_true rfl short
  · have refused : build type code seq payload = .error (.malformedPayload .oversized) := if_neg (by omega)
    rw [refused]
    exact iff_of_false Bool.false_ne_true short

theorem parts_of_build (built : build type code seq payload = .ok p) :
    p.header = ⟨startByte, type, code, seq, (payload.length + 1).toUInt8⟩ ∧ p.payload = payload := by
  have short : payload.length ≤ 254 := build_isOk_iff.1 (by rw [built]; rfl)
  rw [build_of_le short] at built
  cases built
  exact ⟨rfl, rfl⟩

/-- What is built is whole and verifies. -/
theorem whole_of_build (built : build type code seq payload = .ok p) : p.Whole ∧ p.verify = .ok () := by
  have short : payload.length ≤ 254 := build_isOk_iff.1 (by rw [built]; rfl)
  rw [build_of_le short] at built
  cases built
  refine ⟨?_, if_pos rfl⟩
  show payload.length + 1 = (payload.length + 1).toUInt8.toNat
  rw [Nat.toUInt8_eq, UInt8.toNat_ofNat', Nat.mod_eq_of_lt (by omega)]

end Packet

namespace Frame

variable {buffer rest : Bytes} {f : Frame}

/-! ## One frame -/

/-- The header counts what the frame holds. -/
def Whole : Frame → Prop
  | packet p => p.Whole
  | skipped header => header.length = 0

/-- The buffer begins no more than a frame: its header is not complete, or declares more than there is. -/
def Unfinished (buffer : Bytes) : Prop :=
  buffer.length < headerLength ∨
    ∃ header, Header.ofBytes? buffer = some header ∧ buffer.length < header.packetLength

/-- Whatever follows a whole frame, the framer takes just this frame. -/
theorem next?_toBytes (whole : f.Whole) (more : Bytes) : next? (f.toBytes ++ more) = some (f, more) := by
  cases f with
  | skipped header => exact if_pos whole
  | packet p =>
    have body : p.toBytes ++ more = p.header.toBytes ++ (p.payload ++ p.checksum :: more) := by
      simp only [Packet.toBytes, List.append_assoc, List.singleton_append]
    have counted : (p.payload ++ p.checksum :: more).length = p.header.length.toNat + more.length := by
      rw [List.length_append, List.length_cons, ← show p.payload.length + 1 = _ from whole]
      omega
    have behind : (p.payload ++ p.checksum :: more).drop p.header.length.toNat = more := by
      rw [← show p.payload.length + 1 = _ from whole, ← List.drop_drop, List.drop_left]
      rfl
    rw [toBytes, body, next?_eq, Header.ofBytes?_toBytes]
    have long : ¬ (p.header.toBytes ++ (p.payload ++ p.checksum :: more)).length < p.header.packetLength := by
      rw [List.length_append, counted]
      simp only [Header.packetLength, Header.toBytes, headerLength, List.length_cons, List.length_nil]
      omega
    have ahead : (p.header.toBytes ++ (p.payload ++ p.checksum :: more)).drop headerLength =
        p.payload ++ p.checksum :: more := rfl
    dsimp only
    rw [if_neg (Packet.Whole.nonempty whole), if_neg long, Header.packetLength, ← List.drop_drop, ahead, behind,
      Packet.Whole.ofBody whole]

/-- The framer takes the frame whose bytes the buffer begins with. -/
theorem next?_eq_some_iff : next? buffer = some (f, rest) ↔ f.Whole ∧ buffer = f.toBytes ++ rest := by
  refine ⟨fun taken => ?_, fun ⟨whole, same⟩ => same ▸ next?_toBytes whole rest⟩
  match buffer with
  | start :: type :: code :: seq :: length :: body =>
    simp only [next?] at taken
    split at taken
    · next empty =>
      cases taken
      exact ⟨empty, rfl⟩
    · next nonempty =>
      split at taken
      · cases taken
      · next short =>
        cases taken
        have enough : length.toNat ≤ body.length := Nat.le_of_not_lt short
        refine ⟨Packet.whole_ofBody ⟨start, type, code, seq, length⟩ nonempty enough, ?_⟩
        rw [toBytes, Packet.toBytes_ofBody ⟨start, type, code, seq, length⟩ nonempty enough, List.append_assoc,
          List.take_append_drop]
        rfl
  | [] | [_] | [_, _] | [_, _, _] | [_, _, _, _] => cases taken

theorem next?_eq_none_iff : next? buffer = none ↔ Unfinished buffer := by
  match buffer with
  | start :: type :: code :: seq :: length :: body =>
    have header : ¬ (start :: type :: code :: seq :: length :: body).length < headerLength := by
      simp only [List.length_cons, headerLength]
      omega
    have read : Header.ofBytes? (start :: type :: code :: seq :: length :: body) =
        some ⟨start, type, code, seq, length⟩ := rfl
    rw [next?_eq, read, Unfinished, or_iff_right header]
    simp only [read, Option.some.injEq, exists_eq_left']
    split
    · next empty =>
      simp only [Header.packetLength, empty, reduceCtorEq, false_iff]
      exact header
    · split <;> simp_all
  | [] | [_] | [_, _] | [_, _, _] | [_, _, _, _] => simp [next?, Unfinished, headerLength]

/-! ## Draining -/

/-- Draining cuts a buffer into whole frames and an unfinished rest, and there is no other way to do so. -/
theorem drain_eq_iff {frames : List Frame} :
    drain buffer = (frames, rest) ↔
      buffer = frames.flatMap toBytes ++ rest ∧ (∀ f ∈ frames, f.Whole) ∧ Unfinished rest := by
  induction frames generalizing buffer with
  | nil =>
    simp only [List.flatMap_nil, List.nil_append, List.not_mem_nil, false_implies, implies_true, true_and]
    cases taken : next? buffer with
    | none =>
      rw [drain_of_none taken, Prod.mk.injEq, and_iff_right rfl]
      exact ⟨fun same => ⟨same, same ▸ next?_eq_none_iff.1 taken⟩, And.left⟩
    | some found =>
      rw [drain_of_some taken]
      refine iff_of_false (by simp) fun ⟨same, unfinished⟩ => ?_
      rw [same, next?_eq_none_iff.2 unfinished] at taken
      cases taken
  | cons f frames ih =>
    rw [List.flatMap_cons, List.append_assoc, List.forall_mem_cons]
    cases taken : next? buffer with
    | none =>
      rw [drain_of_none taken]
      refine iff_of_false (by simp) fun ⟨same, ⟨whole, _⟩, _⟩ => ?_
      rw [same, next?_toBytes whole] at taken
      cases taken
    | some found =>
      rw [drain_of_some taken]
      constructor
      · intro drained
        obtain ⟨rfl, later⟩ : found.1 = f ∧ drain found.2 = (frames, rest) := by simp_all [Prod.ext_iff]
        obtain ⟨whole, same⟩ := next?_eq_some_iff.1 taken
        obtain ⟨same', whole', unfinished⟩ := ih.1 later
        exact ⟨same' ▸ same, ⟨whole, whole'⟩, unfinished⟩
      · intro ⟨same, ⟨whole, whole'⟩, unfinished⟩
        rw [same, next?_toBytes whole] at taken
        obtain rfl := Option.some.inj taken
        rw [ih.2 ⟨rfl, whole', unfinished⟩]

/-! ## The framer -/

/-- Asks the framer, which checks what it cuts, for packets until it has none or fails. -/
def decodeEvery (buffer : Bytes) : Except PacketError (List Packet × Bytes) :=
  match _taken : decodeChecked buffer with
  | (.error e, _) => .error e
  | (.ok none, rest) => .ok ([], rest)
  | (.ok (some p), rest) => (decodeEvery rest).map fun (packets, last) => (p :: packets, last)
termination_by buffer.length
decreasing_by
  rw [decodeChecked_eq, Prod.mk.injEq, Except.ok.injEq] at _taken
  exact length_decode_lt (Prod.ext _taken.1 _taken.2)

theorem decodeAll_of_none (h : decode buffer = (none, rest)) : decodeAll buffer = ([], rest) := by
  rw [decodeAll]
  split <;> simp_all

theorem decodeAll_of_some {p : Packet} (h : decode buffer = (some p, rest)) :
    decodeAll buffer = (p :: (decodeAll rest).1, (decodeAll rest).2) := by
  rw [decodeAll]
  split <;> simp_all

theorem decodeEvery_eq (buffer : Bytes) : decodeEvery buffer = .ok (decodeAll buffer) := by
  induction buffer using decodeAll.induct with
  | case1 buffer rest taken =>
    rw [decodeEvery, decodeAll_of_none taken]
    split <;> simp_all [decodeChecked_eq]
  | case2 buffer p rest taken ih =>
    rw [decodeEvery, decodeAll_of_some taken]
    split <;> simp_all [decodeChecked_eq, Except.map]

/-- **Framing loses and invents nothing.** Whatever the buffer, the framer can be asked until it has no packet left,
and never fails. The buffer is the bytes of the packets that it gives, of headers that count nothing and are skipped,
and of a rest that begins no more than a packet, in this order. A packet can be built from every payload of at most
254 bytes, and built packets that are written one behind the other are read back as they are, each with the right
checksum and nothing left. A byte string can be split just if its length byte is there, is not zero and does not
count more than there is, and the packet then is the bytes that it counts. -/
theorem framing_lossless :
    (∀ buffer, ∃ (frames : List Frame) (rest : Bytes), decodeEvery buffer = .ok (frames.filterMap packet?, rest) ∧
      buffer = frames.flatMap toBytes ++ rest ∧ (∀ f ∈ frames, f.Whole) ∧ Unfinished rest) ∧
    (∀ type code seq payload, (Packet.build type code seq payload).isOk ↔ payload.length ≤ 254) ∧
    (∀ packets : List Packet,
      (∀ p ∈ packets, ∃ type code seq payload, Packet.build type code seq payload = .ok p) →
      decodeEvery (packets.flatMap Packet.toBytes) = .ok (packets, []) ∧ ∀ p ∈ packets, p.verify = .ok ()) ∧
    (∀ frame, (∃ p, Packet.ofFrame frame = .ok p) ↔ Packet.Covered frame) ∧
    (∀ frame p, Packet.ofFrame frame = .ok p →
      frame[4]? = some p.header.length ∧ p.toBytes = frame.take (headerLength + p.header.length.toNat)) := by
  refine ⟨fun buffer => ?_, fun _ _ _ _ => Packet.build_isOk_iff, fun packets built => ⟨?_, fun p present => ?_⟩,
    fun frame => ⟨fun ⟨_, split⟩ => (Packet.ofFrame_eq_ok split).1, Packet.ofFrame_of_covered⟩,
    fun frame p split => (Packet.ofFrame_eq_ok split).2⟩
  · exact ⟨(drain buffer).1, (drain buffer).2, (decodeEvery_eq buffer).trans (congrArg _ (decodeAll_eq buffer)),
      drain_eq_iff.1 rfl⟩
  · have whole : ∀ f ∈ packets.map packet, f.Whole := by
      intro f present
      obtain ⟨p, there, rfl⟩ := List.mem_map.1 present
      obtain ⟨type, code, seq, payload, made⟩ := built p there
      exact (Packet.whole_of_build made).1
    have drained : drain (packets.flatMap Packet.toBytes) = (packets.map packet, []) :=
      drain_eq_iff.2 ⟨by rw [List.append_nil, List.flatMap_map]; rfl, whole, .inl (by decide)⟩
    have taken : (packets.map packet).filterMap packet? = packets := by
      rw [List.filterMap_map]
      exact List.filterMap_some
    rw [decodeEvery_eq, decodeAll_eq, drained, taken]
  · obtain ⟨type, code, seq, payload, made⟩ := built p present
    exact (Packet.whole_of_build made).2

/-- Two answers, one without a payload; and a byte string that has a packet of one byte in front. -/
theorem framing_lossless_answers :
    decodeEvery [0xFF, 0xFF, 0x00, 0x00, 0x01, 0xFE, 0xFF, 0xFF, 0x00, 0x00, 0x02, 0x07, 0xF6] =
      .ok ([⟨⟨0xFF, 0xFF, 0x00, 0x00, 0x01⟩, [], 0xFE⟩, ⟨⟨0xFF, 0xFF, 0x00, 0x00, 0x02⟩, [0x07], 0xF6⟩], []) ∧
    Packet.toBytes ⟨⟨0xAB, 0xCD, 0x00, 0x00, 0x01⟩, [], 0x12⟩ =
      [0xAB, 0xCD, 0x00, 0x00, 0x01, 0x12, 0x34].take (headerLength + 1) := by
  have built : ∀ p ∈ [(⟨⟨0xFF, 0xFF, 0x00, 0x00, 0x01⟩, [], 0xFE⟩ : Packet),
      ⟨⟨0xFF, 0xFF, 0x00, 0x00, 0x02⟩, [0x07], 0xF6⟩],
      ∃ type code seq payload, Packet.build type code seq payload = .ok p := by
    simp only [List.forall_mem_cons, List.not_mem_nil, false_implies, implies_true, and_true]
    exact ⟨⟨0xFF, 0, 0, [], rfl⟩, 0xFF, 0, 0, [0x07], rfl⟩
  obtain ⟨-, -, read, -, split⟩ := framing_lossless
  exact ⟨(read _ built).1, (split [0xAB, 0xCD, 0x00, 0x00, 0x01, 0x12, 0x34] _ rfl).2⟩

end Frame

end RobotDriver
