import RobotDriver.Single
import RobotDriver.Command.Kind

/-!
# Commands to the robot

`Command` lists what the driver can ask for; angles are in degrees and the other fractions run from
zero to one. `Command.data` is the data block that a command carries on the wire, with every
fraction clamped and rounded there and nowhere else.
-/

namespace RobotDriver

inductive MotorMode where
  | off
  | forward
  | reverse
  | brake
  | ignore
  deriving DecidableEq

def MotorMode.code : MotorMode → UInt8
  | off => 0
  | forward => 1
  | reverse => 2
  | brake => 3
  | ignore => 4

/-- What one motor is to do. -/
structure Motor where
  mode : MotorMode
  power : UInt8
  deriving DecidableEq

/-- A command to the robot. -/
inductive Command where
  | ping
  | getBluetoothInfo
  | setName (name : String)
  /-- Sleep for `wakeup` seconds, zero for ever, and then run a stored macro, zero for none. -/
  | sleep (wakeup : UInt16) (macroId : UInt8)
  | jumpToBootloader
  /-- Make the present heading the given one. -/
  | calibrate (heading : Single)
  | stabilization (on : Bool)
  | rotationRate (rate : Single)
  | rgbLed (red green blue : UInt8)
  | frontLed (brightness : Single)
  /-- Roll towards `heading`; `stop` brings the robot to rest. -/
  | roll (heading velocity : Single) (stop : Bool)
  | rawMotor (left right : Motor)
  | runMacro (id : UInt8)
  | saveTemporaryMacro (flags : UInt8) (steps : Bytes)
  | saveMacro (id flags : UInt8) (steps : Bytes)
  | abortMacro
  | raw (device function : UInt8) (data : Bytes)
  deriving DecidableEq

namespace Command

/-- The macro id under which pieces of a streamed macro are stored. -/
def streamingMacroId : UInt8 := 0xfe

/-- The macro id of the slot for a macro that is run once. -/
def temporaryMacroId : UInt8 := 0xff

/-- The macro flag that stops the motors when the macro ends. -/
def motorControlFlag : UInt8 := 0x01

/-- The longest name, in bytes, that the robot stores. -/
def maxNameLength : Nat := 48

def kind : Command → Kind
  | ping => .ping
  | getBluetoothInfo => .getBluetoothInfo
  | setName _ => .setName
  | sleep _ _ => .sleep
  | jumpToBootloader => .jumpToBootloader
  | calibrate _ => .calibrate
  | stabilization _ => .stabilization
  | rotationRate _ => .rotationRate
  | rgbLed _ _ _ => .rgbLed
  | frontLed _ => .frontLed
  | roll _ _ _ => .roll
  | rawMotor _ _ => .rawMotor
  | runMacro _ => .runMacro
  | saveTemporaryMacro _ _ => .saveTemporaryMacro
  | saveMacro _ _ _ => .saveMacro
  | abortMacro => .abortMacro
  | raw device function _ => .other device function

/-- The command as messages name it. -/
def name (c : Command) : String :=
  c.kind.name

/-- The data block behind the command header. -/
def data : Command → Bytes
  | ping | getBluetoothInfo | jumpToBootloader | abortMacro => []
  | setName name => name.toByteArray.data.toList.take maxNameLength
  | sleep wakeup macroId => bigEndian wakeup ++ [macroId]
  | calibrate heading => bigEndian heading.wholeDegrees
  | stabilization on => [flagByte on]
  | rotationRate rate => [rate.unitByte]
  | rgbLed red green blue => [red, green, blue, 0]
  | frontLed brightness => [brightness.unitByte]
  | roll heading velocity stop =>
    (if stop then 0 else velocity.unitByte) :: bigEndian heading.wholeDegrees ++ [flagByte !stop]
  | rawMotor left right => [left.mode.code, left.power, right.mode.code, right.power]
  | runMacro id => [id]
  | saveTemporaryMacro flags steps => flags :: steps
  | saveMacro id flags steps => id :: flags :: steps
  | raw _ _ data => data

/-- The robot's remembered state depends on the command. -/
def updatesShadow : Command → Bool
  | roll _ _ _ | rotationRate _ | rawMotor _ _ | rgbLed _ _ _ | frontLed _ => true
  | _ => false

end Command

end RobotDriver
