import RobotDriver.Packet
import RobotDriver.Command.Kind

/-!
# Answers to commands

A response carries a `Status` and a payload whose meaning depends on the command it answers, so
`Response.decode` takes that command's kind. A damaged response is still a response: its status
counts, and only its body is `Body.corrupt`.
-/

namespace RobotDriver

/-- What the robot says about a command. -/
inductive Status where
  | ok
  | generalError
  | badChecksum
  | fragmented
  | unknownCommand
  | unsupported
  | badMessage
  | badParameter
  | executionFailed
  | unknownDevice
  | voltageTooLow
  | illegalPage
  | flashFailed
  | mainAppCorrupt
  | timeout
  | unknown (code : UInt8)
  deriving DecidableEq

namespace Status

def ofCode (code : UInt8) : Status :=
  match code with
  | 0x00 => ok
  | 0x01 => generalError
  | 0x02 => badChecksum
  | 0x03 => fragmented
  | 0x04 => unknownCommand
  | 0x05 => unsupported
  | 0x06 => badMessage
  | 0x07 => badParameter
  | 0x08 => executionFailed
  | 0x09 => unknownDevice
  | 0x31 => voltageTooLow
  | 0x32 => illegalPage
  | 0x33 => flashFailed
  | 0x34 => mainAppCorrupt
  | 0x35 => timeout
  | other => unknown other

def code : Status → UInt8
  | ok => 0x00
  | generalError => 0x01
  | badChecksum => 0x02
  | fragmented => 0x03
  | unknownCommand => 0x04
  | unsupported => 0x05
  | badMessage => 0x06
  | badParameter => 0x07
  | executionFailed => 0x08
  | unknownDevice => 0x09
  | voltageTooLow => 0x31
  | illegalPage => 0x32
  | flashFailed => 0x33
  | mainAppCorrupt => 0x34
  | timeout => 0x35
  | unknown code => code

def name : Status → String
  | ok => "Ok"
  | generalError => "GeneralError"
  | badChecksum => "BadChecksum"
  | fragmented => "Fragmented"
  | unknownCommand => "UnknownCommand"
  | unsupported => "Unsupported"
  | badMessage => "BadMessage"
  | badParameter => "BadParameter"
  | executionFailed => "ExecutionFailed"
  | unknownDevice => "UnknownDevice"
  | voltageTooLow => "VoltageTooLow"
  | illegalPage => "IllegalPage"
  | flashFailed => "FlashFailed"
  | mainAppCorrupt => "MainAppCorrupt"
  | timeout => "Timeout"
  | unknown code => "Unknown(" ++ toString code.toNat ++ ")"

def isOk (s : Status) : Bool :=
  s == ok

end Status

/-- What a response tells beyond its status. -/
inductive Response.Body where
  | empty
  /-- Data that the driver does not interpret. -/
  | raw (data : Bytes)
  | bluetoothInfo (name address : String)
  /-- The packet is damaged or malformed and its payload must not be used. -/
  | corrupt (error : PacketError)
  deriving DecidableEq

/-- A response together with the kind of command that it answers. -/
structure Response where
  header : Header
  kind : Command.Kind
  body : Response.Body
  deriving DecidableEq

namespace Response

/-- The width of the name field in an answer to a Bluetooth request. -/
def nameWidth : Nat := 16

/-- The width of the address field behind it. -/
def addressWidth : Nat := 12

/-- The text of a field without the NULs that pad it. -/
def fieldText? (field : Bytes) : Option String :=
  (String.fromUTF8? ⟨field.toArray⟩).map fun text =>
    String.ofList (text.toList.reverse.dropWhile (· == '\x00')).reverse

/-- The two fields of an answer to a Bluetooth request; bytes behind them are ignored. -/
def bluetoothBody (payload : Bytes) : Except PacketError Body :=
  if payload.length < nameWidth + addressWidth then .error (.malformedPayload .bluetoothInfo)
  else
    match fieldText? (payload.take nameWidth),
        fieldText? ((payload.drop nameWidth).take addressWidth) with
    | some name, some address => .ok (.bluetoothInfo name address)
    | _, _ => .error (.malformedPayload .bluetoothInfo)

/-- The body of an undamaged response to a command of the given kind. -/
def bodyOf (kind : Command.Kind) (payload : Bytes) : Except PacketError Body :=
  match kind with
  | .getBluetoothInfo => bluetoothBody payload
  | _ => .ok (if payload.isEmpty then .empty else .raw payload)

/-- Reads a packet as the answer to a command of the given kind. -/
def decode (kind : Command.Kind) (packet : Packet) : Response :=
  { header := packet.header
    kind
    body :=
      match packet.verify with
      | .error e => .corrupt e
      | .ok () =>
        match bodyOf kind packet.payload with
        | .error e => .corrupt e
        | .ok body => body }

def status (r : Response) : Status :=
  Status.ofCode r.header.code

def isCorrupt (r : Response) : Bool :=
  match r.body with
  | .corrupt _ => true
  | _ => false

def text (r : Response) : String :=
  r.kind.name ++ " response (" ++ r.status.name ++ ")"

end Response

end RobotDriver
