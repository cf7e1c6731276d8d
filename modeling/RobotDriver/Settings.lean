/-!
# Settings of a connection

`Settings` are the tunables of a driver, with times in milliseconds. `Settings.validate` refuses the
values under which no connection can work, naming the first of them.
-/

namespace RobotDriver

/-- The tunables of one connection. -/
structure Settings where
  /-- The time between two keep-alive commands. -/
  pingInterval : Nat := 60000
  /-- The most bytes in one write. -/
  maxBatch : Nat := 256
  /-- A failed connection attempt is an error rather than a negative answer. -/
  raiseOnConnectFailure : Bool := false
  /-- The time after which an answer is given up, if ever. -/
  responseTimeout : Option Nat := none
  /-- The time that a robot has to confirm a disconnection. -/
  disconnectGrace : Nat := 5000
  /-- Macros may be streamed. -/
  macroStreaming : Bool := true
  deriving DecidableEq

/-- Why settings are refused. -/
inductive SettingsError where
  /-- A source cannot be read or gives a value of the wrong kind. -/
  | unreadable
  | zeroPingInterval
  | zeroMaxBatch
  | zeroResponseTimeout
  deriving DecidableEq

def SettingsError.message : SettingsError → String
  | unreadable => "failed to load configuration"
  | zeroPingInterval => "invalid configuration: ping_interval_ms must be positive"
  | zeroMaxBatch => "invalid configuration: max_batch_bytes must be positive"
  | zeroResponseTimeout => "invalid configuration: response_timeout_ms must be positive when set"

/-- Refuses settings that cannot work. -/
def Settings.validate (s : Settings) : Except SettingsError Settings :=
  if s.pingInterval = 0 then .error .zeroPingInterval
  else if s.maxBatch = 0 then .error .zeroMaxBatch
  else if s.responseTimeout = some 0 then .error .zeroResponseTimeout
  else .ok s

end RobotDriver
