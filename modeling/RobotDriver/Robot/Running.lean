import RobotDriver.Robot.Opening
import RobotDriver.Robot.Reading
import RobotDriver.Total

/-!
# Running the tasks

Tasks run one at a time, in the order in which they became ready, each until it has to wait. `settle` runs
them until none is ready. Every task makes fewer and lighter tasks ready than itself: `Task.weight` says how
many may follow from one at most, so that the weight of what is ready bounds the number of turns.
`advance` moves the clock in one jump; the tasks that were ready run, and then the alarms that are due become
ready in the order of their deadlines.
-/

namespace RobotDriver

/-- A bound on the number of tasks that run because of an alarm. -/
def Alarm.weight : Alarm → Nat
  | grace => 4
  | timer _ | sweep => 8

/-- A bound on the number of tasks that run because of one that is ready, itself included. -/
def Task.weight : Task → Nat
  | disconnected _ => 1
  | write _ => 2
  | wake _ alarm => alarm.weight
  | read _ => 8
  | disconnect _ => 8
  | connect _ | dial _ => 32

namespace Robot

/-! ## The writer -/

/-- From now on a command awaits its answer. -/
def register (generation : Nat) (r : Robot) (item : Outbox.Item) : Robot :=
  let entry : InFlight.Entry := ⟨item.command, item.system, r.clock⟩
  { r with inFlight := r.inFlight.register entry }.record (.registered generation entry)

/-- Takes over one thing that the writer did. -/
def takeEmission (link : Link) (r : Robot) : Outbox.Emission → Robot
  | .dropped command e => r.note (.unencodable e command)
  | .registered batch => batch.foldl (register link.generation) r
  | .wrote bytes => r.record (.wrote link.channel bytes)

/-- The connection is lost if its writer has failed. -/
def checkWriter (r : Robot) (generation : Nat) (activity : Outbox.Activity) : Robot :=
  match activity with
  | .ended (some fault) => r.record (.halted generation fault) |>.connectionLost (.write fault)
  | _ => r

/-- Lets the writer of a connection work until it has to wait. -/
def runWriter (r : Robot) (link : Link) : Robot :=
  let (writer, emissions) := link.writer.work false false
  let r := r.withLink { link with writer }
  emissions.foldl (takeEmission link) r |>.checkWriter link.generation writer.activity

/-! ## Alarms -/

/-- Sets an alarm of a connection, if it is to be set again. -/
def rearm (r : Robot) (deadline : Option Nat) (alarm : Alarm) : Robot :=
  match deadline with
  | none => r
  | some deadline => r.mapLink fun link => link.arm deadline alarm

/-- Looks at a scheduled command. -/
def runTimer (r : Robot) (link : Link) (task : Nat) : Robot :=
  let (items, next, scheduler) := link.scheduler.look r.rung r.clock task
  r.withLink { link with scheduler } |>.enqueueAll items |>.rearm next (.timer task)

/-- Gives up an answer. -/
def giveUp (timeout : Nat) (r : Robot) (entry : InFlight.Entry) : Robot :=
  r.note (.responseOverdue entry.command timeout) |>.tellEvent (.responseTimeout entry.command)

/-- Gives up all answers that are overdue. -/
def giveUpOverdue (r : Robot) (generation timeout : Nat) : Robot :=
  let (entries, inFlight) := r.inFlight.expire r.clock timeout
  entries.foldl (giveUp timeout) ({ r with inFlight }.recordAll (entries.map (.expired generation)))

/-- The timer of the search for overdue answers. It is set when it is first looked at. -/
def sweepTimer (r : Robot) (link : Link) (timeout : Nat) : Timer :=
  link.sweep.getD { deadline := r.clock, period := some (Timer.clampPeriod timeout) }

/-- Looks at the timer of the search for overdue answers. -/
def runSweep (r : Robot) (link : Link) : Robot :=
  match r.settings.responseTimeout with
  | some timeout =>
    let (count, next) := (r.sweepTimer link timeout).fire r.rung r.clock
    let r := r.withLink { link with sweep := next }
    let r := if count = 0 then r else r.giveUpOverdue link.generation timeout
    r.rearm (next.map (·.deadline)) .sweep
  | none => r

/-- Answers are never given up, or it is too early to look for overdue ones, or they are given up. -/
theorem runSweep_cases {p : Robot → Prop} {r : Robot} {link : Link} (patient : p r)
    (early : ∀ sweep deadline, p ((r.withLink { link with sweep }).rearm deadline .sweep))
    (due : ∀ timeout, r.settings.responseTimeout = some timeout → ∀ sweep deadline,
      p (((r.withLink { link with sweep }).giveUpOverdue link.generation timeout).rearm deadline .sweep)) :
    p (r.runSweep link) := by
  unfold runSweep
  dsimp only
  split
  · next timeout asked =>
    split
    · exact early _ _
    · exact due timeout asked _ _
  · exact patient

def runAlarm (r : Robot) (link : Link) : Alarm → Robot
  | .timer task => r.runTimer link task
  | .sweep => r.runSweep link
  | .grace => r.graceOver

/-! ## Calls -/

/-- Runs a call to disconnect until it is done or has to wait for the end of the connection. -/
def disconnectCall (r : Robot) (call : Nat) : Robot :=
  match r.session with
  | .up link => r.beginDisconnect link (some call)
  | _ =>
    r.note .nothingToDisconnect |>.tellEvent .noConnection |>.finish call (.answered false)

/-! ## Turns -/

/-- Runs a task until it has to wait. -/
def run (r : Robot) : Task → Robot
  | .connect call => r.connectCall call
  | .dial call => r.dial call
  | .disconnect call => r.disconnectCall call
  | .disconnected call => r.finish call (.answered true)
  | .write generation => r.onCurrent generation runWriter
  | .read generation => r.onCurrent generation runReader
  | .wake generation alarm => r.onCurrent generation fun r link => r.runAlarm link alarm

/-- The weight of what is ready. -/
def load (r : Robot) : Nat :=
  total (r.ready.map Task.weight)

/-- Runs at most so many tasks. -/
def turns : Nat → Robot → Robot
  | 0, r => r
  | n + 1, r =>
    match r.ready with
    | [] => r
    | task :: others => turns n ({ r with ready := others }.run task)

/-- Runs tasks until none is ready. -/
def settle (r : Robot) : Robot :=
  turns r.load r

/-- The alarms that are due go off: they become ready. -/
def ring (r : Robot) : Robot :=
  let next := { r with rung := r.clock }
  next.onLink fun r link =>
    let r := r.withLink { link with agenda := link.agenda.later r.clock }
    { r with ready := r.ready ++ (link.agenda.due r.clock).map (.wake link.generation) }

/-- Moves the clock in one jump. What was ready before the jump runs first, then the alarms go off. -/
def advance (r : Robot) (ms : Nat) : Robot :=
  { r with clock := r.clock + ms }.settle.ring

end Robot

end RobotDriver
