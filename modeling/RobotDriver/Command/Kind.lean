import RobotDriver.Bytes

/-!
# Kinds of commands

A command addresses a device of the robot and a function of that device. `Command.Kind` names the
pairs the driver knows; any other pair is `Kind.other`.
-/

namespace RobotDriver.Command

/-- The device and function that a command addresses. -/
inductive Kind where
  | ping
  | getBluetoothInfo
  | setName
  | sleep
  | jumpToBootloader
  | calibrate
  | stabilization
  | rotationRate
  | rgbLed
  | frontLed
  | roll
  | rawMotor
  | runMacro
  | saveTemporaryMacro
  | saveMacro
  | abortMacro
  | other (device function : UInt8)
  deriving DecidableEq

namespace Kind

/-- The device of connection and power commands. -/
def coreDevice : UInt8 := 0x00

/-- The device of the commands that move and light the robot. -/
def ballDevice : UInt8 := 0x02

def deviceId : Kind → UInt8
  | ping | getBluetoothInfo | setName | sleep | jumpToBootloader => coreDevice
  | other device _ => device
  | _ => ballDevice

def commandId : Kind → UInt8
  | ping => 0x01
  | setName => 0x10
  | getBluetoothInfo => 0x11
  | sleep => 0x22
  | jumpToBootloader => 0x30
  | calibrate => 0x01
  | stabilization => 0x02
  | rotationRate => 0x03
  | rgbLed => 0x20
  | frontLed => 0x21
  | roll => 0x30
  | rawMotor => 0x33
  | runMacro => 0x50
  | saveTemporaryMacro => 0x51
  | saveMacro => 0x52
  | abortMacro => 0x55
  | other _ function => function

/-- The kind as messages name it. -/
def name : Kind → String
  | ping => "Ping"
  | getBluetoothInfo => "GetBluetoothInfo"
  | setName => "SetName"
  | sleep => "Sleep"
  | jumpToBootloader => "JumpToBootloader"
  | calibrate => "Calibrate"
  | stabilization => "Stabilization"
  | rotationRate => "RotationRate"
  | rgbLed => "RgbLed"
  | frontLed => "FrontLed"
  | roll => "Roll"
  | rawMotor => "RawMotor"
  | runMacro => "RunMacro"
  | saveTemporaryMacro => "SaveTemporaryMacro"
  | saveMacro => "SaveMacro"
  | abortMacro => "AbortMacro"
  | other device function => "command " ++ hexByte device ++ "/" ++ hexByte function

end Kind

end RobotDriver.Command
