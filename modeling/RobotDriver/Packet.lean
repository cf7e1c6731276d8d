import RobotDriver.Bytes

/-!
# Packets from the robot

A packet is a `Header` of five bytes whose last byte counts what follows, the payload, and one
checksum byte over everything after the type. The type byte tells answers to commands from
information that the robot sends on its own account. `Packet.ofFrame` splits a byte string,
`Packet.build` computes the checksum of a new packet, `Packet.verify` checks a received one.
-/

namespace RobotDriver

/-- The first byte of every packet, in both directions. -/
def startByte : UInt8 := 0xff

def headerLength : Nat := 5

/-- The type byte of a response. -/
def responseType : UInt8 := 0xff

/-- The type byte of an information packet. -/
def informationType : UInt8 := 0xfe

/-- The five bytes before the payload. -/
structure Header where
  start : UInt8
  type : UInt8
  /-- The status of a response, the id of an information packet. -/
  code : UInt8
  seq : UInt8
  /-- The number of bytes after the header: the payload and the checksum. -/
  length : UInt8
  deriving DecidableEq, Inhabited

/-- The two classes of packets. -/
inductive PacketClass where
  | response
  | information
  deriving DecidableEq

/-- Which rule on payloads was broken. -/
inductive PayloadFault where
  /-- The answer to a Bluetooth request lacks its two text fields. -/
  | bluetoothInfo
  /-- The payload and its checksum exceed what the length byte can say. -/
  | oversized
  deriving DecidableEq

def PayloadFault.name : PayloadFault → String
  | bluetoothInfo => "bluetooth info"
  | oversized => "oversized packet"

/-- Why a packet is refused. -/
inductive PacketError where
  | shortBuffer
  | invalidStart (found : UInt8)
  | unknownType (found : UInt8)
  | emptyLength (length : UInt8)
  | checksumMismatch (expected found : UInt8)
  | malformedPayload (fault : PayloadFault)
  deriving DecidableEq

def PacketError.message : PacketError → String
  | shortBuffer => "buffer too short"
  | invalidStart found => "invalid start of packet " ++ hexByte found
  | unknownType found => "unrecognised packet type " ++ hexByte found
  | emptyLength length => "declared length " ++ toString length.toNat ++ " is shorter than the checksum"
  | checksumMismatch expected found =>
    "checksum mismatch: expected " ++ hexByte expected ++ ", found " ++ hexByte found
  | malformedPayload fault => "malformed payload for " ++ fault.name

namespace Header

def toBytes (h : Header) : Bytes :=
  [h.start, h.type, h.code, h.seq, h.length]

/-- The header at the front of a byte string that is long enough. -/
def ofBytes? : Bytes → Option Header
  | start :: type :: code :: seq :: length :: _ => some ⟨start, type, code, seq, length⟩
  | _ => none

theorem ofBytes?_toBytes (h : Header) (rest : Bytes) : ofBytes? (h.toBytes ++ rest) = some h := rfl

/-- The class that the first two bytes announce; a wrong start is reported before a wrong type. -/
def packetClass (h : Header) : Except PacketError PacketClass :=
  if h.start ≠ startByte then .error (.invalidStart h.start)
  else if h.type = responseType then .ok .response
  else if h.type = informationType then .ok .information
  else .error (.unknownType h.type)

/-- The size of the whole packet. -/
def packetLength (h : Header) : Nat :=
  headerLength + h.length.toNat

/-- The size of the payload without its checksum. -/
def payloadLength (h : Header) : Nat :=
  h.length.toNat - 1

/-- The header bytes that the checksum covers. -/
def covered (h : Header) : Bytes :=
  [h.code, h.seq, h.length]

end Header

/-- A packet split into its parts. -/
structure Packet where
  header : Header
  payload : Bytes
  checksum : UInt8
  deriving DecidableEq

namespace Packet

def toBytes (p : Packet) : Bytes :=
  p.header.toBytes ++ p.payload ++ [p.checksum]

/-- The checksum that the other bytes call for. -/
def expectedChecksum (p : Packet) : UInt8 :=
  RobotDriver.checksum (p.header.covered ++ p.payload)

/-- Refuses a packet whose checksum is not the expected one. -/
def verify (p : Packet) : Except PacketError Unit :=
  if p.expectedChecksum = p.checksum then .ok ()
  else .error (.checksumMismatch p.expectedChecksum p.checksum)

/-- The packet of `header` whose remaining bytes begin `body`. -/
def ofBody (header : Header) (body : Bytes) : Packet :=
  { header
    payload := body.take header.payloadLength
    checksum := (body.drop header.payloadLength).headD 0 }

/-- Splits a byte string that begins with a whole packet; bytes after the packet are ignored. -/
def ofFrame (frame : Bytes) : Except PacketError Packet :=
  match Header.ofBytes? frame with
  | none => .error .shortBuffer
  | some header =>
    if header.length = 0 then .error (.emptyLength header.length)
    else if frame.length < header.packetLength then .error .shortBuffer
    else .ok (ofBody header (frame.drop headerLength))

/-- A packet with the right length and checksum for `payload`. -/
def build (type code seq : UInt8) (payload : Bytes) : Except PacketError Packet :=
  if payload.length + 1 < 256 then
    let header : Header := ⟨startByte, type, code, seq, (payload.length + 1).toUInt8⟩
    .ok { header, payload, checksum := RobotDriver.checksum (header.covered ++ payload) }
  else .error (.malformedPayload .oversized)

end Packet

end RobotDriver
