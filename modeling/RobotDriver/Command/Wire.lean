import RobotDriver.Command
import RobotDriver.Packet

/-!
# Commands on the wire

A command travels as two start bytes, its device and function, a sequence byte that is always zero,
a count of what follows, its data and a checksum over everything after the start. The count is one
byte, so at most `maxData` bytes of data fit: `encode` refuses more and `toBytes` cuts the rest off.
-/

namespace RobotDriver.Command

/-- The number of bytes before the data. -/
def wireHeaderLength : Nat := 6

/-- The largest data block, which with its checksum fills the length byte. -/
def maxData : Nat := 254

/-- The sequence byte of every command: answers are matched by position, not by number. -/
def sequence : UInt8 := 0

/-- The bytes between the start and the data. -/
def covered (kind : Kind) (data : Bytes) : Bytes :=
  [kind.deviceId, kind.commandId, sequence, (data.length + 1).toUInt8]

/-- A command packet around a data block that fits. -/
def packet (kind : Kind) (data : Bytes) : Bytes :=
  [startByte, startByte] ++ covered kind data ++ data ++ [checksum (covered kind data ++ data)]

/-- The size of the command's packet, were its data to fit. -/
def packetLength (c : Command) : Nat :=
  wireHeaderLength + c.data.length + 1

/-- The packet of a command, its data cut to what fits. -/
def toBytes (c : Command) : Bytes :=
  packet c.kind (c.data.take maxData)

/-- A data block that does not fit a packet. -/
structure EncodeError where
  kind : Kind
  dataLength : Nat
  deriving DecidableEq

def EncodeError.message (e : EncodeError) : String :=
  e.kind.name ++ " carries " ++ toString e.dataLength ++ " data bytes"

/-- The packet of a command whose data fit. -/
def encode (c : Command) : Except EncodeError Bytes :=
  if c.data.length > maxData then .error ⟨c.kind, c.data.length⟩ else .ok (packet c.kind c.data)

/-- The data of the command fit a packet. -/
def Encodable (c : Command) : Prop :=
  c.data.length ≤ maxData

instance (c : Command) : Decidable c.Encodable :=
  inferInstanceAs (Decidable (_ ≤ _))

theorem encode_of_encodable {c : Command} (h : c.Encodable) : c.encode = .ok c.toBytes := by
  unfold encode toBytes
  rw [if_neg (Nat.not_lt.2 h), List.take_of_length_le h]

theorem encode_of_not_encodable {c : Command} (h : ¬ c.Encodable) : c.encode = .error ⟨c.kind, c.data.length⟩ :=
  if_pos (Nat.lt_of_not_le h)

/-- Appends each command to the buffer in turn: the buffer's length after it, or why it is left out. -/
def encodeEach (buffer : Bytes) : List Command → List (Except EncodeError Nat) × Bytes
  | [] => ([], buffer)
  | c :: cs =>
    match c.encode with
    | .ok bytes =>
      let (results, final) := encodeEach (buffer ++ bytes) cs
      (.ok (buffer ++ bytes).length :: results, final)
    | .error e =>
      let (results, final) := encodeEach buffer cs
      (.error e :: results, final)

theorem encodeEach_of_encodable {c : Command} (h : c.Encodable) (buffer : Bytes) (cs : List Command) :
    encodeEach buffer (c :: cs) =
      (.ok (buffer ++ c.toBytes).length :: (encodeEach (buffer ++ c.toBytes) cs).1,
        (encodeEach (buffer ++ c.toBytes) cs).2) := by
  rw [encodeEach, encode_of_encodable h]

theorem encodeEach_of_not_encodable {c : Command} (h : ¬ c.Encodable) (buffer : Bytes) (cs : List Command) :
    encodeEach buffer (c :: cs) =
      (.error ⟨c.kind, c.data.length⟩ :: (encodeEach buffer cs).1, (encodeEach buffer cs).2) := by
  rw [encodeEach, encode_of_not_encodable h]

end RobotDriver.Command
