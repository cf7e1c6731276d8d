import RobotDriver.Command.Kind
import RobotDriver.Information
import RobotDriver.Response
import RobotDriver.Transport

/-!
# The robot's end of a connection

A `Device` stands in for the robot: it reads commands off the bytes that the driver has written and
answers with packets of its own. `Dock` is where a driver under test finds such devices.
-/

namespace RobotDriver

/-- A command as the robot receives it. -/
structure Device.Received where
  device : UInt8
  function : UInt8
  sequence : UInt8
  data : Bytes
  deriving DecidableEq

/-- What is wrong with the bytes of a command. -/
inductive Device.Fault where
  | missingStart
  | missingChecksum
  | badChecksum
  deriving DecidableEq

def Device.Fault.message : Device.Fault → String
  | missingStart => "missing start of packet"
  | missingChecksum => "missing checksum"
  | badChecksum => "bad checksum"

/-- What an attempt to read a command finds. -/
inductive Device.Reading where
  /-- More bytes are needed. -/
  | pending
  /-- More bytes are needed and the driver is gone. -/
  | ended
  | malformed (fault : Device.Fault)
  | command (command : Device.Received)
  deriving DecidableEq

/-- Why a packet cannot be sent. -/
inductive Device.SendError where
  | packet (error : PacketError)
  /-- The driver is gone. -/
  | stream (fault : StreamFault)
  deriving DecidableEq

def Device.SendError.message : Device.SendError → String
  | packet error => error.message
  | stream fault => fault.message

/-- The robot's end of one connection. -/
structure Device where
  /-- Bytes from the driver that are not read yet. -/
  received : Bytes := []
  /-- The driver has closed its end. -/
  hungUp : Bool := false
  deriving DecidableEq

namespace Device

/-- The received command addresses what a command of the given kind does. -/
def Received.is (r : Received) (kind : Command.Kind) : Bool :=
  r.device == kind.deviceId && r.function == kind.commandId

/-- Checks a command frame behind its start bytes. -/
def checkBody (device function sequence length : UInt8) (body : Bytes) : Except Fault Received :=
  if length = 0 then .error .missingChecksum
  else
    let data := body.take (length.toNat - 1)
    if checksum ([device, function, sequence, length] ++ data) = (body.drop (length.toNat - 1)).headD 0 then
      .ok ⟨device, function, sequence, data⟩
    else .error .badChecksum

/-- The first command frame of a buffer, judged, and the bytes behind it. A frame ends where its
length byte says, whatever is wrong with it. -/
def parse? : Bytes → Option (Except Fault Received × Bytes)
  | start₁ :: start₂ :: device :: function :: sequence :: length :: body =>
    if body.length < length.toNat then none
    else
      let verdict :=
        if start₁ ≠ startByte ∨ start₂ ≠ startByte then .error .missingStart
        else checkBody device function sequence length body
      some (verdict, body.drop length.toNat)
  | _ => none

/-- The driver writes: whether the bytes arrive. -/
def receive (d : Device) (bytes : Bytes) : Bool × Device :=
  if d.hungUp then (false, d) else (true, { d with received := d.received ++ bytes })

/-- The driver closes its end. -/
def hangUp (d : Device) : Device :=
  { d with hungUp := true }

/-- Reads the next command. -/
def read (d : Device) : Reading × Device :=
  match parse? d.received with
  | some (.ok command, rest) => (.command command, { d with received := rest })
  | some (.error fault, rest) => (.malformed fault, { d with received := rest })
  | none => (if d.hungUp then .ended else .pending, d)

/-- Sends bytes as they are. No bytes are sent even where the driver is gone. -/
def write (d : Device) (bytes : Bytes) : Except SendError Bytes :=
  if d.hungUp && !bytes.isEmpty then .error (.stream .brokenPipe) else .ok bytes

/-- Sends a packet. -/
def send (d : Device) (type code : UInt8) (payload : Bytes) : Except SendError Bytes :=
  match Packet.build type code 0 payload with
  | .error e => .error (.packet e)
  | .ok packet => d.write packet.toBytes

/-- Sends an answer with the given status. -/
def respond (d : Device) (status : Status) (payload : Bytes) : Except SendError Bytes :=
  d.send responseType status.code payload

/-- Sends information of the given kind. -/
def inform (d : Device) (kind : Information.Kind) (payload : Bytes) : Except SendError Bytes :=
  d.send informationType kind.id payload

/-- How reading and confirming a number of commands came out. -/
inductive Confirmation where
  | pending
  | ended
  | malformed (fault : Fault)
  | unsent (error : SendError)
  | commands (commands : List Received)
  deriving DecidableEq

/-- Reads commands and confirms each with an empty answer: how it came out, what was sent, and the
device. -/
def confirm (d : Device) (count : Nat) : Confirmation × Bytes × Device :=
  match count with
  | 0 => (.commands [], [], d)
  | count + 1 =>
    match d.read with
    | (.pending, d) => (.pending, [], d)
    | (.ended, d) => (.ended, [], d)
    | (.malformed fault, d) => (.malformed fault, [], d)
    | (.command command, d) =>
      match d.respond .ok [] with
      | .error e => (.unsent e, [], d)
      | .ok sent =>
        match d.confirm count with
        | (.commands commands, more, last) => (.commands (command :: commands), sent ++ more, last)
        | (other, more, last) => (other, sent ++ more, last)

end Device

/-- Where a driver finds devices to connect to. -/
structure Dock where
  /-- Connections are refused. -/
  refuse : Bool := false
  /-- Someone takes the devices of new connections. -/
  attended : Bool := true
  /-- Connections made so far. -/
  opened : Nat := 0
  /-- The robot's end of the newest connection. -/
  device : Option Device := none
  deriving DecidableEq

namespace Dock

/-- Makes a connection. -/
def connect (k : Dock) (address : String) : Except TransportError Unit × Dock :=
  if k.refuse then (.error (.cannotOpen address .connectionRefused), k)
  else if k.attended then (.ok (), { k with opened := k.opened + 1, device := some {} })
  else (.error (.cannotOpen address .notConnected), k)

end Dock

end RobotDriver
