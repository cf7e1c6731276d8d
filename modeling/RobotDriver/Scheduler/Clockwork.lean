import RobotDriver.Agenda
import RobotDriver.Scheduler

/-!
# A scheduler with a clock

`Clockwork` puts a scheduler beside the clock it goes by and the queue it fills. The clock moves only
by `Request.advance`, in one jump; the timers that the jump finds due are then looked at in the order
of their deadlines. A new task is looked at as soon as it is there.
-/

namespace RobotDriver

/-- A scheduler, its clock, its armed timers and its queue. -/
structure Clockwork where
  now : Nat := 0
  scheduler : Scheduler := {}
  /-- The deadlines of the tasks that wait. -/
  agenda : Agenda Nat := {}
  outbox : Outbox := {}
  deriving DecidableEq

/-- What a clockwork is asked to do. -/
inductive Clockwork.Request where
  | sendNow (item : Outbox.Item)
  | after (item : Outbox.Item) (delay : Nat)
  | periodic (item : Outbox.Item) (initial period : Nat)
  | cancelTask (task : Nat)
  /-- Stop the scheduler and all its tasks. -/
  | stop
  /-- Stop the connection that the scheduler works for: the scheduler stops with it. -/
  | stopConnection
  | closeGate
  /-- The reader of the queue goes away. -/
  | abandonQueue
  | advance (ms : Nat)
  deriving DecidableEq

/-- What a request gives back. -/
inductive Clockwork.Reply where
  | done
  | accepted (accepted : Bool)
  | task (number : Nat)
  deriving DecidableEq

namespace Clockwork

/-- Looks at a task: what it sends goes to the queue, and it is armed again if it goes on. -/
def look (c : Clockwork) (task : Nat) : Clockwork :=
  let (items, next, scheduler) := c.scheduler.look c.now c.now task
  { c with
    scheduler
    outbox := items.foldl Outbox.offer c.outbox
    agenda :=
      match next with
      | none => c.agenda
      | some deadline => c.agenda.arm deadline task }

/-- Adds a task and looks at it. -/
def add (c : Clockwork) (item : Outbox.Item) (timer : Timer) : Nat × Clockwork :=
  let (task, scheduler) := c.scheduler.add item timer
  (task, { c with scheduler }.look task)

/-- Moves the clock and looks at the tasks that have become due. -/
def advance (c : Clockwork) (ms : Nat) : Clockwork :=
  let now := c.now + ms
  (c.agenda.due now).foldl look { c with now, agenda := c.agenda.later now }

/-- Sends an item at once unless the scheduler has stopped. -/
def sendNow (c : Clockwork) (item : Outbox.Item) : Bool × Clockwork :=
  if c.scheduler.stopped then (false, c)
  else
    match c.outbox.enqueue item with
    | .ok outbox => (true, { c with outbox })
    | .error _ => (false, c)

def handle (c : Clockwork) : Request → Reply × Clockwork
  | .sendNow item =>
    let (accepted, c) := c.sendNow item
    (.accepted accepted, c)
  | .after item delay =>
    let (task, c) := c.add item (.once c.now delay)
    (.task task, c)
  | .periodic item initial period =>
    let (task, c) := c.add item (.repeating c.now initial period)
    (.task task, c)
  | .cancelTask task => (.done, { c with scheduler := c.scheduler.cancelTask task })
  | .stop | .stopConnection => (.done, { c with scheduler := c.scheduler.stop })
  | .closeGate => (.done, { c with outbox := c.outbox.close })
  | .abandonQueue => (.done, { c with outbox := c.outbox.abandon })
  | .advance ms => (.done, c.advance ms)

/-- Handles a request and takes out what it has queued. -/
def step (c : Clockwork) (request : Request) : Reply × List Outbox.Item × Clockwork :=
  let (reply, c) := c.handle request
  let (items, outbox) := c.outbox.drain
  (reply, items, { c with outbox })

end Clockwork

end RobotDriver
