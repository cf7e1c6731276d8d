import RobotDriver.Command

/-!
# The outbound queue

Everything that is to be written goes through one queue with a gate. `enqueue` stops at a closed
gate; `force` does not, so that the last commands of a connection get past it. When the writer goes
away it takes the waiting commands with it, and nothing is accepted any more.
-/

namespace RobotDriver

/-- A command waiting to be written. -/
structure Outbox.Item where
  command : Command
  /-- The driver itself asked for the command. -/
  system : Bool
  deriving DecidableEq

/-- Why a command is not accepted. -/
inductive Outbox.Refusal where
  | gateClosed
  | writerGone
  deriving DecidableEq

/-- The queue in front of the writer. -/
structure Outbox where
  queue : List Outbox.Item := []
  /-- The gate is open. -/
  accepting : Bool := true
  /-- The writer is there to take commands. -/
  attended : Bool := true
  deriving DecidableEq

namespace Outbox

/-- Appends an item whatever the gate says. -/
def push (o : Outbox) (item : Item) : Except Refusal Outbox :=
  if o.attended then .ok { o with queue := o.queue ++ [item] } else .error .writerGone

/-- Appends an item if the gate is open. -/
def enqueue (o : Outbox) (item : Item) : Except Refusal Outbox :=
  if o.accepting then o.push item else .error .gateClosed

/-- Appends a command of the driver's own past a closed gate. -/
def force (o : Outbox) (c : Command) : Except Refusal Outbox :=
  o.push ⟨c, true⟩

/-- The queue after an item was offered, whether it was accepted or not. -/
def offer (o : Outbox) (item : Item) : Outbox :=
  match o.enqueue item with
  | .ok next => next
  | .error _ => o

/-- Shuts the gate for good. -/
def close (o : Outbox) : Outbox :=
  { o with accepting := false }

/-- The oldest item, taken out. -/
def take (o : Outbox) : Option Item × Outbox :=
  (o.queue.head?, { o with queue := o.queue.tail })

/-- All items, taken out. -/
def drain (o : Outbox) : List Item × Outbox :=
  (o.queue, { o with queue := [] })

/-- The writer goes away. -/
def abandon (o : Outbox) : Outbox :=
  { o with queue := [], attended := false }

end Outbox

end RobotDriver
