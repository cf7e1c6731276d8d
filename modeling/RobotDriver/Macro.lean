import RobotDriver.Single
import RobotDriver.Total

/-!
# Macros

A macro is a list of steps that the robot runs without a command for each. Every step has a fixed
code and size; `Step.length` is the room it takes in the robot's memory, `Step.toBytes` its form
there. `Macro.toBytes` is a whole macro with the byte that ends it.
-/

namespace RobotDriver

/-- The byte that ends a macro. -/
def macroEnd : UInt8 := 0

/-- How a macro reaches the robot. -/
inductive Macro.Mode where
  /-- Stored in one piece and run once. -/
  | normal
  /-- Uploaded in chunks while it runs. -/
  | streaming
  deriving DecidableEq

/-- One step of a macro; `pause` is a wait in milliseconds after the step. -/
inductive Macro.Step where
  /-- Report `id` when execution gets here. -/
  | emit (id : UInt8)
  | delay (ms : UInt16)
  | rgb (red green blue pause : UInt8)
  | frontLed (brightness : Single) (pause : UInt8)
  | roll (speed heading : Single) (pause : UInt8)
  | stabilization (on : Bool)
  /-- A step that is already encoded. -/
  | raw (data : Bytes)
  deriving DecidableEq

namespace Macro.Step

def toBytes : Step → Bytes
  | emit id => [0x15, id]
  | delay ms => 0x0b :: bigEndian ms
  | rgb red green blue pause => [0x07, red, green, blue, pause]
  | frontLed brightness pause => [0x09, brightness.unitByte, pause]
  | roll speed heading pause => 0x05 :: speed.unitByte :: bigEndian heading.wholeDegrees ++ [pause]
  | stabilization on => [0x03, flagByte on, 0]
  | raw data => data

/-- The room that the step takes in the robot's memory. -/
def length : Step → Nat
  | emit _ => 2
  | delay _ | frontLed _ _ | stabilization _ => 3
  | rgb _ _ _ _ | roll _ _ _ => 5
  | raw data => data.length

theorem length_toBytes (s : Step) : s.toBytes.length = s.length := by
  cases s <;> rfl

def isEmpty (s : Step) : Bool :=
  s.length == 0

end Macro.Step

/-- A list of steps and the way they are to be uploaded. -/
structure Macro where
  mode : Macro.Mode := .normal
  steps : List Macro.Step := []
  deriving DecidableEq

namespace Macro

def push (m : Macro) (step : Step) : Macro :=
  { m with steps := m.steps ++ [step] }

def setMode (m : Macro) (mode : Mode) : Macro :=
  { m with mode }

/-- The bytes of all steps in order. -/
def stepBytes (steps : List Step) : Bytes :=
  steps.flatMap Step.toBytes

/-- The room that a list of steps takes. -/
def stepsLength (steps : List Step) : Nat :=
  total (steps.map Step.length)

/-- The macro as it is stored. -/
def toBytes (m : Macro) : Bytes :=
  stepBytes m.steps ++ [macroEnd]

end Macro

end RobotDriver
