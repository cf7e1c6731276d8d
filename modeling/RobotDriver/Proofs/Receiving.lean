import RobotDriver.Device
import RobotDriver.Command.Wire

/-!
# What the robot receives is what was sent

The encoder and the robot's end are written apart: one counts the checksum in its length byte, the other reads
a frame as far as that byte says. They meet in `byteSum`: a frame is sound when all of it behind the start bytes,
the checksum included, sums to 255 (`checkBody_eq`), which is so for a command's packet and stops being so when
one of these bytes is changed (`byteSum_set_ne`). The length byte itself has to arrive as it was sent, for it says
where the next frame begins.

A `Visit` is what happens at the robot's end: bytes arrive, cut as they may be, or somebody tries to read a command.
A complete frame stays the first one whatever comes behind it (`parse?_append`), so the tries find what they would
have found had they waited for all the bytes (`frames_eq`).
-/

namespace RobotDriver

/-! ## The sum of a frame -/

/-- The checksum of bytes is the byte that brings their sum to 255. -/
theorem checksum_eq_iff {bytes : Bytes} {b : UInt8} : checksum bytes = b ↔ byteSum bytes + b = 255 := by
  unfold checksum
  rw [UInt8.not_eq_neg_sub]
  grind

theorem byteSum_set {bytes : Bytes} {i : Nat} (h : i < bytes.length) (b : UInt8) :
    byteSum (bytes.set i b) + bytes[i] = byteSum bytes + b := by
  induction bytes generalizing i with
  | nil => cases h
  | cons a bytes ih =>
    cases i with
    | zero => simp; grind
    | succ i =>
      have rest := ih (Nat.lt_of_succ_lt_succ h)
      simp only [List.set_cons_succ, byteSum_cons, List.getElem_cons_succ]
      grind

/-- Changing one byte changes the sum. -/
theorem byteSum_set_ne {bytes : Bytes} {i : Nat} (h : i < bytes.length) {b : UInt8} (differs : b ≠ bytes[i]) :
    byteSum (bytes.set i b) ≠ byteSum bytes := by
  intro same
  have sums := byteSum_set h b
  rw [same] at sums
  grind

namespace Device

/-! ## One frame -/

/-- The bytes behind a whole frame play no part in its verdict. -/
theorem checkBody_append (device function sequence length : UInt8) {body : Bytes}
    (whole : length.toNat ≤ body.length) (more : Bytes) :
    checkBody device function sequence length (body ++ more) = checkBody device function sequence length body := by
  unfold checkBody
  split
  · rfl
  · next nonempty =>
    have pos : 0 < length.toNat := by
      rw [Nat.pos_iff_ne_zero]
      intro h
      exact nonempty (UInt8.toNat_inj.1 h)
    have split : body.drop (length.toNat - 1) ≠ [] := by
      rw [ne_eq, List.drop_eq_nil_iff]
      omega
    obtain ⟨last, rest, cut⟩ := List.exists_cons_of_ne_nil split
    rw [List.take_append_of_le_length (by omega), List.drop_append_of_le_length (by omega), cut]
    rfl

/-- A complete frame stays the first one when more bytes arrive. -/
theorem parse?_append {buffer rest : Bytes} {verdict : Except Fault Received}
    (h : parse? buffer = some (verdict, rest)) (more : Bytes) :
    parse? (buffer ++ more) = some (verdict, rest ++ more) := by
  match buffer with
  | start₁ :: start₂ :: device :: function :: sequence :: length :: body =>
    simp only [parse?, List.cons_append] at h ⊢
    split at h
    · cases h
    · next short =>
      cases h
      have whole : length.toNat ≤ body.length := Nat.le_of_not_lt short
      rw [if_neg (by rw [List.length_append]; omega), checkBody_append _ _ _ _ whole,
        List.drop_append_of_le_length whole]
  | [] | [_] | [_, _] | [_, _, _] | [_, _, _, _] | [_, _, _, _, _] => simp [parse?] at h

/-- A frame takes its bytes off the buffer. -/
theorem length_parse?_lt {buffer rest : Bytes} {verdict : Except Fault Received}
    (h : parse? buffer = some (verdict, rest)) : rest.length < buffer.length := by
  match buffer with
  | start₁ :: start₂ :: device :: function :: sequence :: length :: body =>
    simp only [parse?] at h
    split at h
    · cases h
    · cases h
      simp only [List.length_cons, List.length_drop]
      omega
  | [] | [_] | [_, _] | [_, _, _] | [_, _, _, _] | [_, _, _, _, _] => simp [parse?] at h

/-- A frame is sound if all of it behind the start bytes sums to 255. -/
theorem checkBody_eq (device function sequence : UInt8) {length : UInt8} {body : Bytes}
    (whole : body.length = length.toNat) (nonempty : body ≠ []) :
    checkBody device function sequence length body =
      if byteSum ([device, function, sequence, length] ++ body) = 255 then
        .ok ⟨device, function, sequence, body.dropLast⟩
      else .error .badChecksum := by
  obtain ⟨data, last, rfl⟩ := List.eq_nil_or_concat body |>.resolve_left nonempty
  have counted : length.toNat - 1 = data.length := by
    rw [← whole, List.length_concat]
    rfl
  have positive : length ≠ 0 := by
    rintro rfl
    simp at whole
  have sums : byteSum ([device, function, sequence, length] ++ data.concat last) =
      byteSum ([device, function, sequence, length] ++ data) + last := by
    rw [List.concat_eq_append, ← List.append_assoc, byteSum_append (_ ++ data)]
    simp
  unfold checkBody
  rw [if_neg positive, counted, List.concat_eq_append, List.take_left' rfl, List.drop_left' rfl,
    List.dropLast_concat, ← List.concat_eq_append, sums]
  simp only [List.headD_cons, checksum_eq_iff]

/-- A frame whose length byte counts what follows it is judged by its sum, and taken off the buffer either way. -/
theorem parse?_frame (device function sequence : UInt8) {length : UInt8} {body : Bytes}
    (whole : body.length = length.toNat) (nonempty : body ≠ []) (more : Bytes) :
    parse? ([startByte, startByte] ++ ([device, function, sequence, length] ++ body) ++ more) =
      some (if byteSum ([device, function, sequence, length] ++ body) = 255 then
        .ok ⟨device, function, sequence, body.dropLast⟩ else .error .badChecksum, more) := by
  have short : ¬ (body ++ more).length < length.toNat := by
    rw [List.length_append]
    omega
  have starts : ¬ (startByte ≠ startByte ∨ startByte ≠ startByte) := by simp
  rw [← checkBody_eq device function sequence whole nonempty,
    ← checkBody_append device function sequence length (Nat.le_of_eq whole.symm) more]
  simp only [List.cons_append, List.nil_append, parse?, if_neg short, if_neg starts]
  rw [← whole, List.drop_left]

theorem parse?_sound (device function sequence : UInt8) {length : UInt8} {body : Bytes}
    (whole : body.length = length.toNat) (nonempty : body ≠ [])
    (sum : byteSum ([device, function, sequence, length] ++ body) = 255) (more : Bytes) :
    parse? ([startByte, startByte] ++ ([device, function, sequence, length] ++ body) ++ more) =
      some (.ok ⟨device, function, sequence, body.dropLast⟩, more) := by
  rw [parse?_frame device function sequence whole nonempty, if_pos sum]

theorem parse?_unsound (device function sequence : UInt8) {length : UInt8} {body : Bytes}
    (whole : body.length = length.toNat) (nonempty : body ≠ [])
    (sum : byteSum ([device, function, sequence, length] ++ body) ≠ 255) (more : Bytes) :
    parse? ([startByte, startByte] ++ ([device, function, sequence, length] ++ body) ++ more) =
      some (.error .badChecksum, more) := by
  rw [parse?_frame device function sequence whole nonempty, if_neg sum]

/-- Any byte of a sound frame but its start and its length may change: the frame is told to be bad, and ends
where it ended. -/
theorem parse?_damaged (device function sequence : UInt8) {length : UInt8} {body : Bytes}
    (whole : body.length = length.toNat) (nonempty : body ≠ [])
    (sound : byteSum ([device, function, sequence, length] ++ body) = 255) {index : Nat} {byte : UInt8}
    (behindStart : 2 ≤ index) (notLength : index ≠ 5)
    (inside : index < ([startByte, startByte] ++ ([device, function, sequence, length] ++ body)).length)
    (differs : byte ≠ ([startByte, startByte] ++ ([device, function, sequence, length] ++ body))[index])
    (more : Bytes) :
    parse? (([startByte, startByte] ++ ([device, function, sequence, length] ++ body)).set index byte ++ more) =
      some (.error .badChecksum, more) := by
  obtain ⟨index, rfl⟩ := Nat.exists_eq_add_of_le' behindStart
  have sum : byteSum (([device, function, sequence, length] ++ body).set index byte) ≠ 255 :=
    sound ▸ byteSum_set_ne (Nat.lt_of_add_lt_add_right inside) differs
  -- The changed byte is one of the four in front, of which the last is spared, or one of the body.
  match index with
  | 0 => exact parse?_unsound byte function sequence whole nonempty sum more
  | 1 => exact parse?_unsound device byte sequence whole nonempty sum more
  | 2 => exact parse?_unsound device function byte whole nonempty sum more
  | 3 => exact absurd rfl notLength
  | index + 4 =>
    have whole' : (body.set index byte).length = length.toNat := by rw [List.length_set, whole]
    have nonempty' : body.set index byte ≠ [] := by
      rw [ne_eq, List.set_eq_nil_iff]
      exact nonempty
    exact parse?_unsound device function sequence whole' nonempty' sum more

/-! ## Commands as they arrive -/

/-- A command as the robot should receive it. -/
def Received.of (c : Command) : Received :=
  ⟨c.kind.deviceId, c.kind.commandId, Command.sequence, c.data⟩

end Device

namespace Command

/-- The part of a command's packet that its length byte counts. -/
def body (c : Command) : Bytes :=
  c.data ++ [checksum (covered c.kind c.data ++ c.data)]

/-- The part of a command's packet that its checksum vouches for, and the checksum. -/
def summed (c : Command) : Bytes :=
  covered c.kind c.data ++ c.body

theorem toBytes_eq {c : Command} (fits : c.Encodable) : c.toBytes = [startByte, startByte] ++ c.summed := by
  unfold toBytes packet summed body
  rw [List.take_of_length_le fits]
  simp only [List.append_assoc]

theorem length_body {c : Command} (fits : c.Encodable) : c.body.length = (c.data.length + 1).toUInt8.toNat := by
  have counted : c.data.length ≤ 254 := fits
  rw [body, List.length_append, Nat.toUInt8_eq, UInt8.toNat_ofNat', Nat.mod_eq_of_lt (by omega)]
  rfl

theorem body_ne_nil (c : Command) : c.body ≠ [] := by
  simp [body]

/-- The packet of a command is sound. -/
theorem byteSum_summed (c : Command) : byteSum c.summed = 255 := by
  rw [summed, body, ← List.append_assoc, byteSum_append, byteSum_cons, byteSum_nil, UInt8.add_zero]
  exact checksum_eq_iff.1 rfl

theorem dropLast_body (c : Command) : c.body.dropLast = c.data :=
  List.dropLast_concat

theorem encode_isOk_iff {c : Command} : c.encode.isOk ↔ c.Encodable := by
  by_cases fits : c.Encodable
  · rw [encode_of_encodable fits]
    exact iff_of_true rfl fits
  · rw [encode_of_not_encodable fits]
    exact iff_of_false Bool.false_ne_true fits

/-- The encoder's buffer holds the packets of the commands that it accepts, behind what was there. -/
theorem encodeEach_bytes (buffer : Bytes) (cs : List Command) :
    (encodeEach buffer cs).2 = buffer ++ (cs.filter (·.encode.isOk)).flatMap toBytes := by
  induction cs generalizing buffer with
  | nil => simp [encodeEach]
  | cons c cs ih =>
    by_cases fits : c.Encodable
    · rw [List.filter_cons, if_pos (encode_isOk_iff.2 fits), List.flatMap_cons, encodeEach_of_encodable fits, ih,
        List.append_assoc]
    · rw [List.filter_cons, if_neg fun accepted => fits (encode_isOk_iff.1 accepted), encodeEach_of_not_encodable fits, ih]

end Command

namespace Device

/-- The packet of a command is read back as the command. -/
theorem parse?_toBytes {c : Command} (fits : c.Encodable) (more : Bytes) :
    parse? (c.toBytes ++ more) = some (.ok (.of c), more) := by
  have sound := parse?_sound c.kind.deviceId c.kind.commandId Command.sequence (Command.length_body fits)
    c.body_ne_nil c.byteSum_summed more
  rw [c.dropLast_body] at sound
  rw [Command.toBytes_eq fits]
  exact sound

/-- One byte of a command's packet is not what was sent: of its addresses, its sequence byte, its data or its
checksum. The start bytes and the length byte are spared. -/
structure Damage (c : Command) where
  index : Fin c.toBytes.length
  behindStart : 2 ≤ index.val
  notLength : index.val ≠ 5
  byte : UInt8
  differs : byte ≠ c.toBytes[index]

/-- A command's packet on its way, which may be damaged. -/
structure Parcel where
  command : Command
  fits : command.Encodable
  damage : Option (Damage command) := none

namespace Parcel

/-- The bytes that arrive. -/
def bytes (p : Parcel) : Bytes :=
  match p.damage with
  | none => p.command.toBytes
  | some damage => p.command.toBytes.set damage.index damage.byte

/-- What the robot has to make of them. -/
def verdict (p : Parcel) : Except Fault Received :=
  match p.damage with
  | none => .ok (.of p.command)
  | some _ => .error .badChecksum

theorem parse?_bytes (p : Parcel) (more : Bytes) : parse? (p.bytes ++ more) = some (p.verdict, more) := by
  obtain ⟨c, fits, damage⟩ := p
  cases damage with
  | none => exact parse?_toBytes fits more
  | some damage =>
    obtain ⟨⟨index, inside⟩, behindStart, notLength, byte, differs⟩ := damage
    simp only [bytes, verdict, Fin.getElem_fin, Command.toBytes_eq fits] at inside differs ⊢
    exact parse?_damaged c.kind.deviceId c.kind.commandId Command.sequence (Command.length_body fits)
      c.body_ne_nil c.byteSum_summed behindStart notLength inside differs more

/-- Packets of commands, none of them damaged. -/
theorem exists_undamaged (cs : List Command) (fit : ∀ c ∈ cs, c.Encodable) :
    ∃ parcels : List Parcel, parcels.flatMap bytes = cs.flatMap Command.toBytes ∧
      parcels.map verdict = cs.map (.ok <| .of ·) := by
  refine ⟨cs.attach.map fun c => ⟨c.1, fit c.1 c.2, none⟩, ?_, ?_⟩
  · rw [List.flatMap_map, List.flatMap_def, List.flatMap_def]
    exact congrArg List.flatten (List.attach_map_val (f := Command.toBytes))
  · rw [List.map_map]
    exact List.attach_map_val (f := fun c => Except.ok (Received.of c))

end Parcel

/-! ## Reading -/

/-- A frame has been read, be it good or bad. -/
def Reading.isFrame : Reading → Bool
  | pending | ended => false
  | malformed _ | command _ => true

/-- How a verdict is told. -/
def Reading.ofVerdict : Except Fault Received → Reading
  | .ok received => command received
  | .error fault => malformed fault

theorem Reading.isFrame_ofVerdict (verdict : Except Fault Received) : (ofVerdict verdict).isFrame := by
  cases verdict <;> rfl

theorem read_of_none {d : Device} (h : parse? d.received = none) :
    d.read = (if d.hungUp then .ended else .pending, d) := by
  rw [read, h]

theorem read_of_some {d : Device} {verdict : Except Fault Received} {rest : Bytes}
    (h : parse? d.received = some (verdict, rest)) :
    d.read = (.ofVerdict verdict, { d with received := rest }) := by
  rw [read, h]
  cases verdict <;> rfl

theorem isFrame_of_none {d : Device} (h : parse? d.received = none) : d.read.1.isFrame = false := by
  rw [read_of_none h]
  cases d.hungUp <;> rfl

theorem length_read_lt {d : Device} (h : d.read.1.isFrame) : d.read.2.received.length < d.received.length := by
  cases taken : parse? d.received with
  | none => rw [isFrame_of_none taken] at h; cases h
  | some found =>
    rw [read_of_some taken]
    exact length_parse?_lt taken

/-- Reads frames as long as there are any. -/
def readAll (d : Device) : List Reading × Device :=
  if _found : d.read.1.isFrame then
    let (readings, last) := readAll d.read.2
    (d.read.1 :: readings, last)
  else ([], d)
termination_by d.received.length
decreasing_by exact length_read_lt _found

theorem readAll_of_none {d : Device} (h : parse? d.received = none) : d.readAll = ([], d) := by
  rw [readAll, isFrame_of_none h]
  rfl

theorem readAll_of_some {d : Device} {verdict : Except Fault Received} {rest : Bytes}
    (h : parse? d.received = some (verdict, rest)) :
    d.readAll = (.ofVerdict verdict :: (readAll { d with received := rest }).1,
      (readAll { d with received := rest }).2) := by
  rw [readAll, dif_pos (by rw [read_of_some h]; exact Reading.isFrame_ofVerdict verdict), read_of_some h]

/-- What happens at the robot's end of a connection. -/
inductive Visit where
  | arrival (bytes : Bytes)
  /-- Somebody tries to read a command. -/
  | reading

/-- All bytes that arrive. -/
def arrived (visits : List Visit) : Bytes :=
  visits.flatMap fun
    | .arrival bytes => bytes
    | .reading => []

/-- What the tries to read find, and how they leave the device. -/
def attend (d : Device) : List Visit → List Reading × Device
  | [] => ([], d)
  | .arrival bytes :: visits => attend (d.receive bytes).2 visits
  | .reading :: visits =>
    let (readings, last) := attend d.read.2 visits
    (d.read.1 :: readings, last)

/-- The frames that are read at these visits and, for as long as there are any, after them. -/
def frames (d : Device) (visits : List Visit) : List Reading × Device :=
  let (readings, left) := d.attend visits
  (readings.filter Reading.isFrame ++ left.readAll.1, left.readAll.2)

/-- A try that finds no frame changes nothing. -/
theorem frames_reading_of_none {d : Device} (h : parse? d.received = none) (visits : List Visit) :
    d.frames (.reading :: visits) = d.frames visits := by
  simp only [frames, attend, List.filter_cons, isFrame_of_none h]
  rw [read_of_none h]
  rfl

theorem frames_reading_of_some {d : Device} {verdict : Except Fault Received} {rest : Bytes}
    (h : parse? d.received = some (verdict, rest)) (visits : List Visit) :
    d.frames (.reading :: visits) =
      (.ofVerdict verdict :: (frames { d with received := rest } visits).1,
        (frames { d with received := rest } visits).2) := by
  simp only [frames, attend, read_of_some h, List.filter_cons, Reading.isFrame_ofVerdict]
  rfl

/-- Reading as bytes arrive finds what reading finds once all of them are there. -/
theorem frames_eq {d : Device} (present : d.hungUp = false) (visits : List Visit) :
    d.frames visits = readAll { d with received := d.received ++ arrived visits } := by
  induction visits generalizing d with
  | nil =>
    simp [frames, attend, arrived]
  | cons visit visits ih =>
    cases visit with
    | arrival bytes =>
      have received : (d.receive bytes).2 = { d with received := d.received ++ bytes } := by
        rw [receive, present]
        rfl
      have later := ih (d := { d with received := d.received ++ bytes }) present
      rw [List.append_assoc] at later
      rw [frames, attend, received]
      exact later
    | reading =>
      cases taken : parse? d.received with
      | none =>
        rw [frames_reading_of_none taken]
        exact ih present
      | some found =>
        have whole := readAll_of_some (d := { d with received := d.received ++ arrived visits })
          (parse?_append taken (arrived visits))
        rw [frames_reading_of_some taken, ih (d := { d with received := found.2 }) present]
        exact whole.symm

/-- The frames that parcels make, whatever is damaged. -/
theorem readAll_parcels (parcels : List Parcel) :
    readAll { received := parcels.flatMap Parcel.bytes } = (parcels.map (.ofVerdict ·.verdict), {}) := by
  induction parcels with
  | nil => exact readAll_of_none rfl
  | cons p parcels ih =>
    have first := p.parse?_bytes (parcels.flatMap Parcel.bytes)
    rw [List.flatMap_cons, readAll_of_some first, ih]
    rfl

/-- **The robot receives what was sent.** However the bytes that the encoder writes are cut on their way, and
whenever somebody tries to read, each command that the encoder accepted is read once and in turn, with the
addresses of its kind, sequence byte zero and its data; nothing else is read and no byte is left. Should a byte of
a packet be changed on the way, other than the start bytes and the length, that packet is told to be bad,
whichever byte it is, and all others are read as they were. -/
theorem frames_of_wire (visits : List Visit) :
    (∀ commands : List Command, arrived visits = (Command.encodeEach [] commands).2 →
      frames {} visits = ((commands.filter (·.encode.isOk)).map (.command <| .of ·), {})) ∧
    (∀ parcels : List Parcel, arrived visits = parcels.flatMap Parcel.bytes →
      frames {} visits = (parcels.map (.ofVerdict ·.verdict), {})) := by
  have read (parcels : List Parcel) (sent : arrived visits = parcels.flatMap Parcel.bytes) :
      frames {} visits = (parcels.map (.ofVerdict ·.verdict), {}) := by
    rw [frames_eq rfl, sent]
    exact readAll_parcels parcels
  refine ⟨fun commands sent => ?_, read⟩
  obtain ⟨parcels, bytes, verdicts⟩ := Parcel.exists_undamaged (commands.filter (·.encode.isOk))
    fun c accepted => Command.encode_isOk_iff.1 (List.mem_filter.1 accepted).2
  rw [Command.encodeEach_bytes, List.nil_append, ← bytes] at sent
  have told := congrArg (List.map Reading.ofVerdict) verdicts
  rw [List.map_map, List.map_map] at told
  rw [read parcels sent]
  exact congrArg (·, _) told

/-- Two packets, the second in two pieces; and a packet with a byte of its data changed, before another. -/
theorem frames_of_wire_ping_rgbLed :
    frames {} [.reading, .arrival [0xFF, 0xFF, 0x00, 0x01, 0x00, 0x01, 0xFD, 0xFF, 0xFF, 0x02], .reading, .reading,
        .arrival [0x20, 0x00, 0x05, 0x01, 0x02, 0x03, 0x00, 0xD2], .reading] =
      ([.command ⟨0x00, 0x01, 0, []⟩, .command ⟨0x02, 0x20, 0, [1, 2, 3, 0]⟩], {}) ∧
    frames {} [.arrival [0xFF, 0xFF, 0x02, 0x20, 0x00, 0x05, 0x01, 0x02], .reading,
        .arrival [0x04, 0x00, 0xD2, 0xFF, 0xFF, 0x00, 0x01, 0x00, 0x01, 0xFD]] =
      ([.malformed .badChecksum, .command ⟨0x00, 0x01, 0, []⟩], {}) :=
  ⟨(frames_of_wire _).1 [.ping, .rgbLed 1 2 3] (by decide),
    (frames_of_wire _).2 [⟨.rgbLed 1 2 3, by decide, some ⟨⟨8, by decide⟩, by decide, by decide, 4, by decide⟩⟩,
      ⟨.ping, by decide, none⟩] (by decide)⟩

end Device

end RobotDriver
