import RobotDriver.Agenda
import RobotDriver.Outbox.Writer
import RobotDriver.Scheduler

/-!
# One connection

A `Link` is everything that belongs to one connection and goes with it: the writer and its queue, what
has arrived from the robot, the commands scheduled on it and its alarms. Links are told apart by their
generation, which no two connections share.
-/

namespace RobotDriver

/-- What a connection is woken for when its time has come. -/
inductive Alarm where
  /-- A scheduled command. -/
  | timer (task : Nat)
  /-- A search for overdue answers. -/
  | sweep
  /-- The end of the wait for a robot to confirm its disconnection. -/
  | grace
  deriving DecidableEq

/-- What the reading end of a channel yields. -/
inductive Arrival where
  | bytes (chunk : Bytes)
  /-- The robot has closed the stream. -/
  | ended
  | failed (fault : StreamFault)
  deriving DecidableEq

/-- One connection. -/
structure Link where
  generation : Nat
  /-- The number of the opened channel. -/
  channel : Nat
  writer : Outbox.Writer
  /-- What has arrived and is not read yet. -/
  inbox : List Arrival := []
  /-- The beginning of a packet that has not arrived in full. -/
  buffer : Bytes := []
  scheduler : Scheduler := {}
  /-- When to search for overdue answers, once the search has begun. -/
  sweep : Option Timer := none
  agenda : Agenda Alarm := {}
  deriving DecidableEq

namespace Link

def outbox (l : Link) : Outbox :=
  l.writer.outbox

def withOutbox (l : Link) (outbox : Outbox) : Link :=
  { l with writer := { l.writer with outbox } }

/-- The writer waits for an item, so that a new one wakes it. -/
def isWriterIdle (l : Link) : Bool :=
  l.writer.activity == .waiting

/-- The writer waits for the channel, so that a change of the channel wakes it. -/
def isWriterBlocked (l : Link) : Bool :=
  match l.writer.activity with
  | .writing _ => true
  | _ => false

def arrive (l : Link) (arrivals : List Arrival) : Link :=
  { l with inbox := l.inbox ++ arrivals }

/-- Nothing is scheduled and nothing accepted any more. -/
def shut (l : Link) : Link :=
  { l with scheduler := l.scheduler.stop }.withOutbox l.outbox.close

def arm (l : Link) (deadline : Nat) (alarm : Alarm) : Link :=
  { l with agenda := l.agenda.arm deadline alarm }

end Link

/-- The graceful end of a connection. -/
structure Closure where
  /-- The time at which the wait for the robot ends, once the wait has begun. -/
  deadline : Option Nat := none
  /-- One of the two confirmations has come. -/
  echoed : Bool := false
  /-- The call that waits for the end. -/
  waiter : Option Nat
  deriving DecidableEq

/-- The connection of a robot. -/
inductive Session where
  | down
  | up (link : Link)
  /-- The connection is being closed and takes no more commands. -/
  | closing (link : Link) (closure : Closure)
  deriving DecidableEq

namespace Session

def link? : Session → Option Link
  | down => none
  | up link | closing link _ => some link

theorem eq_of_link? {s : Session} {link : Link} (hl : s.link? = some link) :
    s = up link ∨ ∃ closure, s = closing link closure := by
  cases s with
  | down => cases hl
  | up here => exact .inl (congrArg up (Option.some.inj hl))
  | closing here closure => exact .inr ⟨closure, congrArg (closing · closure) (Option.some.inj hl)⟩

def isUp : Session → Bool
  | up _ => true
  | _ => false

def mapLink (f : Link → Link) : Session → Session
  | down => down
  | up link => up (f link)
  | closing link closure => closing (f link) closure

@[simp] theorem link?_mapLink (f : Link → Link) (s : Session) : (s.mapLink f).link? = s.link?.map f := by
  cases s <;> rfl

@[simp] theorem isUp_mapLink (f : Link → Link) (s : Session) : (s.mapLink f).isUp = s.isUp := by
  cases s <;> rfl

/-- The call that waits for the end of the connection. -/
def waiter? : Session → Option Nat
  | closing _ closure => closure.waiter
  | _ => none

/-- The state as users see it: a connection that is being closed counts as none. -/
def stateName (s : Session) : String :=
  if s.isUp then "Connected" else "Disconnected"

end Session

end RobotDriver
