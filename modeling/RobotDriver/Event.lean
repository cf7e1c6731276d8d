import RobotDriver.Information
import RobotDriver.Response
import RobotDriver.Command

/-!
# What listeners are told

Listeners hear of the events of a connection, of answers to user commands and of information from
the robot. `Event.text` is how an event is told in words.
-/

namespace RobotDriver

/-- An event in the life of a connection. -/
inductive Event where
  | connected
  | connectFailed
  /-- A connection that was being closed is closed. -/
  | disconnected
  /-- A connection failed while it was in use. -/
  | unexpectedDisconnect
  /-- There was no connection to close. -/
  | noConnection
  | macroDone
  /-- An answer came when no command was waiting for one. -/
  | unmatchedResponse (status : Status)
  | responseTimeout (command : Command)
  deriving DecidableEq

namespace Event

def name : Event → String
  | connected => "Connected"
  | connectFailed => "ConnectFailed"
  | disconnected => "Disconnected"
  | unexpectedDisconnect => "UnexpectedDisconnect"
  | noConnection => "NoConnection"
  | macroDone => "MacroDone"
  | unmatchedResponse _ => "UnmatchedResponse"
  | responseTimeout _ => "ResponseTimeout"

def text : Event → String
  | connected => "connected"
  | connectFailed => "connect failed"
  | disconnected => "disconnected"
  | unexpectedDisconnect => "connection closed unexpectedly"
  | noConnection => "no active connection"
  | macroDone => "macro done"
  | unmatchedResponse status => "unmatched response (" ++ status.name ++ ")"
  | responseTimeout command => command.name ++ " timed out"

end Event

/-- What a listener hears. -/
inductive Report where
  | event (event : Event)
  | response (response : Response) (command : Command)
  | information (information : Information)
  deriving DecidableEq

/-- What a listener waits for in order to send a command of its own. -/
inductive Trigger where
  | event (name : String)
  | response
  | information
  deriving DecidableEq

def Trigger.fires : Trigger → Report → Bool
  | event name, .event e => name == e.name
  | response, .response _ _ => true
  | information, .information _ => true
  | _, _ => false

/-- A listener: it takes note of what it hears, or not, and may answer with a command. -/
structure Listener where
  silent : Bool := false
  reply : Option (Trigger × Command) := none
  deriving DecidableEq

end RobotDriver
