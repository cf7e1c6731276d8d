import RobotDriver.Outbox
import RobotDriver.Timer

/-!
# Scheduled commands

A `Scheduler` keeps the commands that a connection is to send later. Tasks are numbered in the order
in which they were asked for. A task stops when it is cancelled or when the whole scheduler stops;
neither can be taken back, and a task asked for after the stop is cancelled from the start.
-/

namespace RobotDriver

/-- A command to be sent later. -/
structure Scheduler.Task where
  item : Outbox.Item
  /-- The timer, until a single command has been sent. -/
  timer : Option Timer
  /-- The task itself was cancelled. -/
  cancelled : Bool := false
  deriving DecidableEq

/-- The scheduled commands of a connection. -/
structure Scheduler where
  tasks : List Scheduler.Task := []
  /-- Everything is cancelled. -/
  stopped : Bool := false
  deriving DecidableEq

namespace Scheduler

/-- Adds a task: its number and the scheduler. -/
def add (s : Scheduler) (item : Outbox.Item) (timer : Timer) : Nat × Scheduler :=
  (s.tasks.length, { s with tasks := s.tasks ++ [⟨item, some timer, false⟩] })

/-- The task was cancelled, by itself or with all others. -/
def isCancelled (s : Scheduler) (task : Nat) : Bool :=
  s.stopped ||
    match s.tasks[task]? with
    | some t => t.cancelled
    | none => false

/-- Each task's state of cancellation. -/
def flags (s : Scheduler) : List Bool :=
  s.tasks.map fun t => s.stopped || t.cancelled

def cancelTask (s : Scheduler) (task : Nat) : Scheduler :=
  { s with tasks := s.tasks.modify task fun t => { t with cancelled := true } }

def stop (s : Scheduler) : Scheduler :=
  { s with stopped := true }

/-- Looks at a task: the items it sends now, its next deadline, and the scheduler. A cancelled task
sends nothing and is not looked at again. -/
def look (s : Scheduler) (rung now task : Nat) : List Outbox.Item × Option Nat × Scheduler :=
  if s.isCancelled task then ([], none, s)
  else
    match s.tasks[task]? with
    | some { item, timer := some timer, .. } =>
      let (count, next) := timer.fire rung now
      (List.replicate count item, next.map (·.deadline),
        { s with tasks := s.tasks.modify task fun t => { t with timer := next } })
    | _ => ([], none, s)

end Scheduler

end RobotDriver
