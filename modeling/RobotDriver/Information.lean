import RobotDriver.Packet

/-!
# Information that the robot sends unasked

An information packet says by its id what it is about. A macro marker tells that a running macro
has reached the end of an uploaded piece. A damaged information packet says nothing at all.
-/

namespace RobotDriver

/-- What an information packet is about. -/
inductive Information.Kind where
  | powerNotification
  | diagnostics
  | sensorStreaming
  | configBlock
  | preSleepWarning
  | macroMarker
  | collision
  | other (id : UInt8)
  deriving DecidableEq

namespace Information.Kind

def ofId (id : UInt8) : Kind :=
  match id with
  | 0x01 => powerNotification
  | 0x02 => diagnostics
  | 0x03 => sensorStreaming
  | 0x04 => configBlock
  | 0x05 => preSleepWarning
  | 0x06 => macroMarker
  | 0x07 => collision
  | id => other id

def id : Kind → UInt8
  | powerNotification => 0x01
  | diagnostics => 0x02
  | sensorStreaming => 0x03
  | configBlock => 0x04
  | preSleepWarning => 0x05
  | macroMarker => 0x06
  | collision => 0x07
  | other id => id

def name : Kind → String
  | powerNotification => "PowerNotification"
  | diagnostics => "Diagnostics"
  | sensorStreaming => "SensorStreaming"
  | configBlock => "ConfigBlock"
  | preSleepWarning => "PreSleepWarning"
  | macroMarker => "MacroMarker"
  | collision => "Collision"
  | other id => "Other(" ++ toString id.toNat ++ ")"

end Information.Kind

/-- An undamaged information packet. -/
structure Information where
  header : Header
  payload : Bytes
  deriving DecidableEq

namespace Information

/-- Reads a packet as information; only its checksum can be wrong. -/
def decode (packet : Packet) : Except PacketError Information :=
  packet.verify.map fun _ => { header := packet.header, payload := packet.payload }

def kind (i : Information) : Kind :=
  Kind.ofId i.header.code

/-- The packet reports that a macro has reached a marker. -/
def isMacroMarker (i : Information) : Bool :=
  i.kind == .macroMarker

end Information

end RobotDriver
