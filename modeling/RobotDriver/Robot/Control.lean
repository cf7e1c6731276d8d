import RobotDriver.Robot.Reading

/-!
# Controlling a robot

These are the requests of users that take effect at once. Those that send commands say whether every
command was accepted by the queue of the connection.
-/

namespace RobotDriver

/-- Why a driver cannot be made. -/
inductive Robot.SetupError where
  | address (error : AddressError)
  | settings (error : SettingsError)
  deriving DecidableEq

def Robot.SetupError.message : Robot.SetupError → String
  | address e => e.message
  | settings e => e.message

namespace Robot

/-- The step that ends every chunk of a streamed macro. -/
def marker : Macro.Step :=
  .emit 1

/-- The upload of a driver that runs no macro. -/
def idleUpload : Macro.Upload :=
  { limits := .standard, marker, marker_fits := by decide }

/-- A driver without a connection and without listeners. -/
def make (address : String) (settings : Settings) : Except SetupError Robot :=
  match Address.parse address with
  | .error e => .error (.address e)
  | .ok address =>
    match settings.validate with
    | .error e => .error (.settings e)
    | .ok settings => .ok { address, settings, upload := idleUpload }

/-- How the handle of the driver is told in words. -/
def describe (r : Robot) : String :=
  "Robot \x7b address: RobotAddress(\"" ++ r.address.digits ++ "\"), state: " ++ r.session.stateName ++ ", .. \x7d"

/-! ## Commands -/

/-- Sends commands one after the other until one is not accepted. -/
def sendEach (r : Robot) : List Command → Bool × Robot
  | [] => (true, r)
  | command :: commands =>
    match r.send command with
    | (true, r) => r.sendEach commands
    | (false, r) => (false, r)

/-- The commands that turn the robot to `heading` and make it the new zero. -/
def calibration (heading : Single) : List Command :=
  [.roll heading .zero false, .calibrate heading]

/-- The commands that make the present direction the zero heading. -/
def headingReset (shadow : Shadow) : List Command :=
  [.roll .zero shadow.velocity shadow.stopped, .calibrate .zero]

/-- Rolls at full speed for some time and then as before. -/
def boost (r : Robot) (duration : Nat) : Bool × Robot :=
  let motion := r.shadow.motion
  match r.submit ⟨.roll r.shadow.heading .one false, true⟩ with
  | (false, r) => (false, r)
  | (true, r) =>
    (true, r.onLink fun r link => (r.plan link ⟨motion, true⟩ (.once r.clock duration)).2)

/-! ## Scheduled commands -/

/-- Schedules a command of the user, if there is a connection: the number by which it can be cancelled. -/
def schedulePlan (r : Robot) (command : Command) (timer : Timer) : Option Nat × Robot :=
  match r.link? with
  | none => (none, r)
  | some link =>
    let (task, r) := r.plan link ⟨command, false⟩ timer
    (some r.schedule.length, { r with schedule := r.schedule ++ [(link.generation, task)] })

/-- Cancels a scheduled command. -/
def cancelPlan (r : Robot) (number : Nat) : Robot :=
  match r.schedule[number]? with
  | none => r
  | some (generation, task) =>
    r.onCurrent generation fun r link =>
      r.withLink { link with scheduler := link.scheduler.cancelTask task }

/-- A scheduled command is cancelled, by itself or with its connection. -/
def isPlanCancelled (r : Robot) (plan : Nat × Nat) : Bool :=
  match r.current? plan.1 with
  | none => true
  | some link => link.scheduler.isCancelled plan.2

/-! ## Macros -/

/-- The longest macro, in bytes, that is stored in one piece; a byte of flags goes with it. -/
def maxStoredMacro : Nat :=
  Command.maxData - 1

/-- Stores a macro in one piece and runs it. -/
def storeMacro (r : Robot) (bytes : Bytes) : Except MacroError Bool × Robot :=
  if bytes.length > maxStoredMacro then (.error (.macroTooLong bytes.length maxStoredMacro), r)
  else
    let (_, r) := r.enqueue ⟨.saveTemporaryMacro Command.motorControlFlag bytes, true⟩
    let (accepted, r) := r.enqueue ⟨.runMacro Command.temporaryMacroId, true⟩
    (.ok accepted, r)

/-- Notes that an upload is given up. -/
def noteAbort (r : Robot) : Robot :=
  r.note (.macroAborted r.upload.backlog.length r.upload.outstanding)

/-- Starts to stream a macro in place of the one that runs. -/
def streamMacro (r : Robot) (steps : List Macro.Step) : Except MacroError Bool × Robot :=
  match r.upload.submit steps with
  | .error e => (.error e, r)
  | .ok (upload, progress) =>
    let r := if r.upload.isBusy then r.noteAbort else r
    (.ok true, r.note (.macroSubmitted steps.length) |>.progressMacro upload progress)

/-- Uploads and runs a macro. -/
def playMacro (r : Robot) (m : Macro) : Except MacroError Bool × Robot :=
  if r.link?.isNone then (.ok false, r.note .macroWithoutConnection)
  else
    match m.mode with
    | .normal => r.storeMacro m.toBytes
    | .streaming =>
      if r.settings.macroStreaming then r.streamMacro m.steps
      else (.ok false, r.note .macroStreamingDisabled)

/-- Gives up the macro that runs. -/
def stopMacro (r : Robot) : Robot :=
  let (upload, commands) := r.upload.abort
  { r.noteAbort with upload }.enqueueAll (commands.map fun c => ⟨c, true⟩)

def sendAfterMacro (r : Robot) (command : Command) : Robot :=
  { r with upload := r.upload.sendAfter command }

def clearAfterMacro (r : Robot) : Robot :=
  { r with upload := r.upload.clearAfter }

/-! ## Listeners -/

/-- Registers a new listener: its number. -/
def addListener (r : Robot) (listener : Listener) : Nat × Robot :=
  let number := r.audience.listeners.length
  (number, { r with audience :=
    { listeners := r.audience.listeners ++ [listener], registered := r.audience.registered ++ [number] } })

/-- Registers a listener once more. -/
def registerAgain (r : Robot) (number : Nat) : Robot :=
  { r with audience := { r.audience with registered := r.audience.registered ++ [number] } }

/-- Drops every registration of a listener: whether there was one. -/
def removeListener (r : Robot) (number : Nat) : Bool × Robot :=
  (r.audience.registered.contains number,
    { r with audience := { r.audience with registered := r.audience.registered.filter (· != number) } })

end Robot

end RobotDriver
