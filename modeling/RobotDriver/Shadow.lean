import RobotDriver.Command

/-!
# The shadow of the robot

The driver keeps a copy of what the robot has confirmed about its motion and its lights.
`Shadow.apply` records one confirmed command, each of the five tracked kinds in its own fields;
`resetSequence` lists the commands that bring a robot into the remembered state.
-/

namespace RobotDriver

/-- The last confirmed state of the robot. -/
structure Shadow where
  heading : Single := .zero
  velocity : Single := .zero
  rotationRate : Single := .zero
  stopped : Bool := true
  left : Motor := ⟨.forward, 0⟩
  right : Motor := ⟨.forward, 0⟩
  red : UInt8 := 255
  green : UInt8 := 255
  blue : UInt8 := 255
  front : Single := .zero
  deriving DecidableEq

namespace Shadow

/-- The state after a confirmed command, if the command is of a tracked kind. -/
def track? (s : Shadow) : Command → Option Shadow
  | .roll heading velocity stop => some { s with heading, velocity, stopped := stop }
  | .rotationRate rate => some { s with rotationRate := rate }
  | .rawMotor left right => some { s with left, right }
  | .rgbLed red green blue => some { s with red, green, blue }
  | .frontLed brightness => some { s with front := brightness }
  | _ => none

/-- The state after a confirmed command. -/
def apply (s : Shadow) (c : Command) : Shadow :=
  (s.track? c).getD s

/-- The command that repeats the remembered motion. -/
def motion (s : Shadow) : Command :=
  .roll s.heading s.velocity s.stopped

/-- Commands that bring a newly connected robot into the remembered state. -/
def resetSequence (s : Shadow) : List Command :=
  [.abortMacro, .rgbLed s.red s.green s.blue, s.motion, .calibrate s.heading, .frontLed s.front]

end Shadow

end RobotDriver
