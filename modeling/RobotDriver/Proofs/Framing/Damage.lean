import RobotDriver.Information
import RobotDriver.Proofs.Framing.Responses
import RobotDriver.Proofs.Receiving

/-!
# A damaged packet is noticed

What stands behind the type of a packet that verifies sums to 255, the checksum included (`verify_eq_ok_iff`), and a
byte that is changed changes the sum. A `Damage` spares the length byte, so that the packet still ends where it ended
(`Damage.exists_packet`): it is cut out of the stream as before, and then refused.
-/

namespace RobotDriver

/-- The checksum of bytes that come in parts: one sum runs through all of them. -/
def checksumOfParts (parts : List Bytes) : UInt8 :=
  ~~~ parts.foldl (fun sum part => part.foldl (· + ·) sum) 0

/-- It makes no difference where the parts begin and end. -/
theorem checksumOfParts_eq (parts : List Bytes) : checksumOfParts parts = checksum parts.flatten := by
  unfold checksumOfParts checksum byteSum
  rw [List.foldl_flatten]

namespace Packet

variable {p : Packet}

/-! ## The sum of a packet -/

/-- The part of a packet that its checksum vouches for, and the checksum. -/
def summed (p : Packet) : Bytes :=
  p.header.covered ++ p.payload ++ [p.checksum]

theorem drop_toBytes (p : Packet) : p.toBytes.drop 2 = p.summed :=
  rfl

theorem byteSum_summed (p : Packet) : byteSum p.summed = byteSum (p.header.covered ++ p.payload) + p.checksum := by
  rw [summed, byteSum_append, byteSum_cons, byteSum_nil, UInt8.add_zero]

theorem expectedChecksum_eq_iff : p.expectedChecksum = p.checksum ↔ byteSum p.summed = 255 := by
  rw [byteSum_summed]
  exact checksum_eq_iff

theorem verify_eq_ok_iff : p.verify = .ok () ↔ byteSum p.summed = 255 := by
  rw [← expectedChecksum_eq_iff]
  unfold verify
  constructor
  · intro sound
    split at sound
    · assumption
    · cases sound
  · intro same
    exact if_pos same

/-- A packet with a wrong sum is refused with the checksum that it should have. -/
theorem verify_of_sum_ne (wrong : byteSum p.summed ≠ 255) :
    p.expectedChecksum ≠ p.checksum ∧
      p.verify = .error (.checksumMismatch p.expectedChecksum p.checksum) := by
  have differ : p.expectedChecksum ≠ p.checksum := by
    intro same
    exact wrong (expectedChecksum_eq_iff.1 same)
  exact ⟨differ, if_neg differ⟩

/-! ## Damage -/

theorem length_toBytes (p : Packet) : p.toBytes.length = headerLength + (p.payload.length + 1) := by
  simp only [toBytes, Header.toBytes, List.length_append, List.length_cons, List.length_nil, headerLength]
  omega

theorem whole_iff : p.Whole ↔ p.toBytes.length = p.header.packetLength := by
  rw [length_toBytes, Whole, Header.packetLength]
  omega

/-- One byte of a packet is not what was sent: its code, its sequence byte, a byte of its payload or its checksum. The
start, the type and the length are spared. -/
structure Damage (p : Packet) where
  index : Fin p.toBytes.length
  behindType : 2 ≤ index.val
  notLength : index.val ≠ 4
  byte : UInt8
  differs : byte ≠ p.toBytes[index]

namespace Damage

/-- The bytes that arrive. -/
def bytes (d : p.Damage) : Bytes :=
  p.toBytes.set d.index d.byte

theorem length_bytes (d : p.Damage) : d.bytes.length = p.toBytes.length :=
  List.length_set

/-- The length byte arrives as it was sent. -/
theorem getElem?_bytes (d : p.Damage) : d.bytes[4]? = some p.header.length := by
  rw [bytes, List.getElem?_set_ne d.notLength]
  rfl

/-- The bytes make one packet, as long as it was. -/
theorem exists_packet (whole : p.Whole) (d : p.Damage) : ∃ q : Packet, q.Whole ∧ q.toBytes = d.bytes := by
  have size : d.bytes.length = p.header.packetLength := by
    rw [length_bytes]
    exact whole_iff.1 whole
  obtain ⟨q, split⟩ := ofFrame_of_covered ⟨p.header.length, d.getElem?_bytes, whole.nonempty, Nat.le_of_eq size.symm⟩
  obtain ⟨-, length, taken⟩ := ofFrame_eq_ok split
  have same : q.header.length = p.header.length := by
    rw [d.getElem?_bytes] at length
    exact (Option.some.inj length).symm
  have all : q.toBytes = d.bytes := by
    rw [taken, same]
    exact List.take_of_length_le (Nat.le_of_eq size)
  refine ⟨q, ?_, all⟩
  apply whole_iff.2
  rw [all, size, Header.packetLength, Header.packetLength, same]

/-- Whatever packet the bytes make, its sum is not what it was. -/
theorem byteSum_ne (d : p.Damage) {q : Packet} (same : q.toBytes = d.bytes) : byteSum q.summed ≠ byteSum p.summed := by
  have behind := d.behindType
  have inside := d.index.isLt
  have within : d.index - 2 < p.summed.length := by
    rw [← drop_toBytes, List.length_drop]
    omega
  have changed : q.summed = p.summed.set (d.index - 2) d.byte := by
    rw [← drop_toBytes, ← drop_toBytes, same, bytes, List.drop_set, if_neg (Nat.not_lt.2 behind)]
  have sent : p.summed[d.index.val - 2] = p.toBytes[d.index] := by
    simp only [← drop_toBytes, List.getElem_drop, Nat.add_sub_cancel' behind, Fin.getElem_fin]
  rw [changed]
  apply byteSum_set_ne within
  rw [sent]
  exact d.differs

end Damage

/-! ## What becomes of it -/

/-- The bytes of a whole packet are cut out of the stream as this packet. -/
theorem Whole.decodeChecked (whole : p.Whole) (more : Bytes) :
    Frame.decodeChecked (p.toBytes ++ more) = (.ok (some p), more) := by
  have taken : Frame.next? (p.toBytes ++ more) = some (.packet p, more) :=
    Frame.next?_toBytes (f := .packet p) whole more
  rw [Frame.decodeChecked_eq, Frame.decode_of_packet taken]

theorem decode_of_refused {e : PacketError} (refused : p.verify = .error e) :
    (∀ kind, (Response.decode kind p).body = .corrupt e) ∧ Information.decode p = .error e := by
  constructor
  · intro kind
    simp only [Response.decode, refused]
  · simp only [Information.decode, refused, Except.map]

/-- **One damaged byte is always noticed.** A packet that is built verifies, and wherever the bytes under its checksum
are parted, their sum is the same. If one byte of its code, its sequence byte, its payload or its checksum arrives as
another, the bytes are still cut out of the stream as one packet of the same length, whatever follows them, but this
packet does not verify: as a response to a command of any kind it has a corrupt body, with the status byte that
arrived, and as information it is refused. -/
theorem damage_detected {type code seq : UInt8} {payload : Bytes} {p : Packet}
    (built : build type code seq payload = .ok p) :
    p.verify = .ok () ∧
    (∀ parts : List Bytes, parts.flatten = p.header.covered ++ p.payload →
      checksumOfParts parts = RobotDriver.checksum (p.header.covered ++ p.payload) ∧
        checksumOfParts parts = p.checksum) ∧
    ∀ damage : p.Damage, ∃ q : Packet,
      q.toBytes = damage.bytes ∧ q.toBytes.length = p.toBytes.length ∧
      (∀ more, Frame.decodeChecked (damage.bytes ++ more) = (.ok (some q), more)) ∧
      q.expectedChecksum ≠ q.checksum ∧
      q.verify = .error (.checksumMismatch q.expectedChecksum q.checksum) ∧
      (∀ kind, (Response.decode kind q).body = .corrupt (.checksumMismatch q.expectedChecksum q.checksum) ∧
        damage.bytes[2]? = some (Response.decode kind q).status.code) ∧
      Information.decode q = .error (.checksumMismatch q.expectedChecksum q.checksum) := by
  obtain ⟨whole, sound⟩ := whole_of_build built
  have sum : byteSum p.summed = 255 := verify_eq_ok_iff.1 sound
  refine ⟨sound, ?_, ?_⟩
  · intro parts cover
    have same := checksumOfParts_eq parts
    rw [cover] at same
    exact ⟨same, same.trans (expectedChecksum_eq_iff.2 sum)⟩
  · intro damage
    obtain ⟨q, framed, same⟩ := damage.exists_packet whole
    have wrong : byteSum q.summed ≠ 255 := by
      rw [← sum]
      exact damage.byteSum_ne same
    obtain ⟨differ, refused⟩ := verify_of_sum_ne wrong
    obtain ⟨corrupt, none⟩ := decode_of_refused refused
    refine ⟨q, same, ?_, ?_, differ, refused, ?_, none⟩
    · rw [same]
      exact damage.length_bytes
    · intro more
      rw [← same]
      exact framed.decodeChecked more
    · intro kind
      refine ⟨corrupt kind, ?_⟩
      rw [← same, Response.status, Status.code_ofCode]
      rfl

/-- The low bit of a payload byte is lost on the way. -/
theorem damage_detected_payload :
    ∃ p, build informationType 0x06 0x00 [0x02, 0x01] = .ok p ∧
      p.toBytes = [0xFF, 0xFE, 0x06, 0x00, 0x03, 0x02, 0x01, 0xF3] ∧
      ∃ damage : p.Damage, damage.bytes = [0xFF, 0xFE, 0x06, 0x00, 0x03, 0x02, 0x00, 0xF3] ∧
        ∃ q, Frame.decodeChecked (damage.bytes ++ [0xFF]) = (.ok (some q), [0xFF]) ∧
          Information.decode q = .error (.checksumMismatch q.expectedChecksum q.checksum) := by
  have built : build informationType 0x06 0x00 [0x02, 0x01] = .ok _ := rfl
  refine ⟨_, built, by decide, ⟨⟨6, by decide⟩, by decide, by decide, 0x00, by decide⟩, by decide, ?_⟩
  obtain ⟨q, -, -, framed, -, -, -, refused⟩ := (damage_detected built).2.2
    ⟨⟨6, by decide⟩, by decide, by decide, 0x00, by decide⟩
  exact ⟨q, framed [0xFF], refused⟩

end Packet

end RobotDriver
