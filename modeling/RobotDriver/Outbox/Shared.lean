import RobotDriver.Outbox

/-!
# A queue behind several handles

Whoever sends commands holds a handle on the queue. Handles are copied freely and all lead to the one
queue and its one gate, so a request may name any of them.
-/

namespace RobotDriver.Outbox

/-- A queue and the number of handles on it. -/
structure Shared where
  outbox : Outbox := {}
  handles : Nat := 1
  deriving DecidableEq

/-- What is asked of a shared queue; `handle` says through which handle. -/
inductive Shared.Request where
  | enqueue (handle : Nat) (item : Item)
  | force (handle : Nat) (command : Command)
  | close (handle : Nat)
  | copy (handle : Nat)
  | take
  | drain
  /-- The reader of the queue goes away. -/
  | abandon
  deriving DecidableEq

/-- What a request gives back. -/
inductive Shared.Reply where
  | done
  | accepted (accepted : Bool)
  | handle (number : Nat)
  | item (item : Option Item)
  | items (items : List Item)
  deriving DecidableEq

namespace Shared

/-- Takes over the result of offering an item. -/
def accept (s : Shared) : Except Refusal Outbox → Reply × Shared
  | .ok outbox => (.accepted true, { s with outbox })
  | .error _ => (.accepted false, s)

def step (s : Shared) : Request → Reply × Shared
  | .enqueue _ item => s.accept (s.outbox.enqueue item)
  | .force _ command => s.accept (s.outbox.force command)
  | .close _ => (.done, { s with outbox := s.outbox.close })
  | .copy _ => (.handle s.handles, { s with handles := s.handles + 1 })
  | .take =>
    let (item, outbox) := s.outbox.take
    (.item item, { s with outbox })
  | .drain =>
    let (items, outbox) := s.outbox.drain
    (.items items, { s with outbox })
  | .abandon => (.done, { s with outbox := s.outbox.abandon })

end Shared

end RobotDriver.Outbox
