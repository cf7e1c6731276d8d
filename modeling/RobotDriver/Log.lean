import RobotDriver.Command.Wire
import RobotDriver.Information
import RobotDriver.Response
import RobotDriver.Transport

/-!
# The driver's log

`Note` lists what the driver logs, each with the data it names; `Note.level`, `Note.message` and
`Note.fields` say how a note reads.
-/

namespace RobotDriver

inductive LogLevel where
  | error
  | warn
  | info
  | debug
  deriving DecidableEq

namespace LogLevel

def name : LogLevel → String
  | error => "ERROR"
  | warn => "WARN"
  | info => "INFO"
  | debug => "DEBUG"

def severity : LogLevel → Nat
  | error => 0
  | warn => 1
  | info => 2
  | debug => 3

/-- Notes of level `l` appear in a log kept at level `limit`. -/
def isWithin (l limit : LogLevel) : Bool :=
  decide (l.severity ≤ limit.severity)

end LogLevel

/-- A number of milliseconds as a log tells it: in milliseconds below a second, else in seconds with
as many decimals as there are; no time at all is zero nanoseconds. -/
def spanText (ms : Nat) : String :=
  if ms = 0 then "0ns"
  else if ms < 1000 then toString ms ++ "ms"
  else
    let digits := Nat.toDigits 10 (1000 + ms % 1000) |>.drop 1
    let shown := (digits.reverse.dropWhile (· == '0')).reverse
    let decimals := if shown.isEmpty then [] else '.' :: shown
    toString (ms / 1000) ++ String.ofList decimals ++ "s"

/-- Something the driver logs. -/
inductive Note where
  | connecting (address : String)
  | alreadyConnected (address : String)
  | openFailed (error : TransportError) (address : String)
  | connected (address : String) (generation : Nat)
  | transportDropped (generation : Nat)
  | disconnecting (generation : Nat)
  | disconnected (generation : Nat)
  | nothingToDisconnect
  | shutdownUnconfirmed (generation grace : Nat)
  | closedUnexpectedly (generation : Nat) (error : TransportError)
  | closedWhileDisconnecting (generation : Nat) (error : TransportError)
  | handleDropped (generation : Nat)
  | responseOverdue (command : Command) (timeout : Nat)
  | responseUnmatched (status : Status)
  | responseMatched (response : Response) (system : Bool)
  | responseCorrupt (error : PacketError) (command : Command)
  | commandRejected (status : Status) (command : Command)
  | nameUpdated (name : String)
  | packetUnrecognised (error : PacketError)
  | packetEmpty (header : Header)
  | informationCorrupt (error : PacketError) (code : UInt8)
  | informationReceived (kind : Information.Kind)
  | queueClosed (command : Command) (system : Bool)
  | writerStopped (command : Command)
  | unencodable (error : Command.EncodeError) (command : Command)
  | macroWithoutConnection
  | macroStreamingDisabled
  | macroSubmitted (steps : Nat)
  | macroAborted (backlog outstanding : Nat)
  | macroFinished (followUps : Nat)
  deriving DecidableEq

namespace Note

def level : Note → LogLevel
  | closedUnexpectedly _ _ | openFailed _ _ => .error
  | transportDropped _ | shutdownUnconfirmed _ _ | responseOverdue _ _ | responseUnmatched _
  | responseCorrupt _ _ | commandRejected _ _ | packetUnrecognised _ | packetEmpty _
  | informationCorrupt _ _ | unencodable _ _ => .warn
  | connecting _ | connected _ _ | disconnecting _ | disconnected _
  | closedWhileDisconnecting _ _ => .info
  | _ => .debug

def message : Note → String
  | connecting _ => "connecting"
  | alreadyConnected _ => "already connected"
  | openFailed _ _ => "failed to open transport"
  | connected _ _ => "connected"
  | transportDropped _ => "connection already active; dropping new transport"
  | disconnecting _ => "disconnecting"
  | disconnected _ => "disconnected"
  | nothingToDisconnect => "disconnect requested without a connection"
  | shutdownUnconfirmed _ _ => "shutdown not confirmed in time"
  | closedUnexpectedly _ _ => "connection closed unexpectedly"
  | closedWhileDisconnecting _ _ => "transport closed during disconnect"
  | handleDropped _ => "robot dropped; stopping connection"
  | responseOverdue _ _ => "no response before timeout"
  | responseUnmatched _ => "response with no outstanding command"
  | responseMatched _ _ => "response matched"
  | responseCorrupt _ _ => "corrupt response payload"
  | commandRejected _ _ => "command rejected by robot"
  | nameUpdated _ => "robot name updated"
  | packetUnrecognised _ => "skipping unrecognised packet"
  | packetEmpty _ => "skipping zero-length packet"
  | informationCorrupt _ _ => "skipping corrupt information packet"
  | informationReceived _ => "information received"
  | queueClosed _ _ => "dropping command: queue closed"
  | writerStopped _ => "dropping command: writer stopped"
  | unencodable _ _ => "dropping unencodable command"
  | macroWithoutConnection => "dropping macro: no connection"
  | macroStreamingDisabled => "dropping macro: streaming disabled"
  | macroSubmitted _ => "streaming macro submitted"
  | macroAborted _ _ => "aborting streaming macro"
  | macroFinished _ => "streaming macro finished"

/-- The bytes of a header that was skipped. -/
def headerText (h : Header) : String :=
  "Some([" ++ ", ".intercalate (h.toBytes.map fun b => toString b.toNat) ++ "])"

def flagText (flag : Bool) : String :=
  if flag then "true" else "false"

/-- The named values of a note. -/
def fields : Note → List (String × String)
  | connecting address | alreadyConnected address => [("address", address)]
  | openFailed error address => [("error", error.message), ("address", address)]
  | connected address generation => [("address", address), ("generation", toString generation)]
  | transportDropped generation | disconnecting generation | disconnected generation
  | handleDropped generation => [("generation", toString generation)]
  | shutdownUnconfirmed generation grace =>
    [("generation", toString generation), ("grace", spanText grace)]
  | closedUnexpectedly generation error | closedWhileDisconnecting generation error =>
    [("generation", toString generation), ("error", error.message)]
  | responseOverdue command timeout => [("command", command.name), ("timeout", spanText timeout)]
  | responseUnmatched status => [("code", status.name)]
  | responseMatched response system => [("response", response.text), ("system", flagText system)]
  | responseCorrupt error command => [("error", error.message), ("command", command.name)]
  | commandRejected status command => [("code", status.name), ("command", command.name)]
  | nameUpdated name => [("name", name)]
  | packetUnrecognised error => [("error", error.message)]
  | packetEmpty header => [("header", headerText header)]
  | informationCorrupt error code => [("error", error.message), ("code", toString code.toNat)]
  | informationReceived kind => [("kind", kind.name)]
  | queueClosed command system => [("command", command.name), ("system", flagText system)]
  | writerStopped command => [("command", command.name)]
  | unencodable error command => [("error", error.message), ("command", command.name)]
  | macroSubmitted steps => [("steps", toString steps)]
  | macroAborted backlog outstanding =>
    [("backlog", toString backlog), ("outstanding", toString outstanding)]
  | macroFinished followUps => [("follow_up", toString followUps)]
  | nothingToDisconnect | macroWithoutConnection | macroStreamingDisabled => []

end Note

end RobotDriver
