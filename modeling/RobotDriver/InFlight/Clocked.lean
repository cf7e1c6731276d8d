import RobotDriver.InFlight

/-!
# Commands in flight and their clock

`Clocked` puts a queue of commands in flight beside the clock that stamps its entries. What is overdue
may be asked for the present or for an earlier moment.
-/

namespace RobotDriver.InFlight

/-- Commands in flight and the clock they are stamped by. -/
structure Clocked where
  now : Nat := 0
  waiting : InFlight := {}
  deriving DecidableEq

/-- What is asked of it. -/
inductive Clocked.Request where
  | register (command : Command) (system : Bool)
  | resolve (response : Header)
  /-- Expire what was overdue `back` milliseconds ago. -/
  | expire (timeout back : Nat)
  | clear
  | advance (ms : Nat)
  deriving DecidableEq

/-- What a request gives back: the entries that it took out. -/
inductive Clocked.Reply where
  | done
  | entry (entry : Option Entry)
  | entries (entries : List Entry)
  deriving DecidableEq

namespace Clocked

def step (c : Clocked) : Request → Reply × Clocked
  | .register command system =>
    (.done, { c with waiting := c.waiting.register ⟨command, system, c.now⟩ })
  | .resolve response =>
    let (entry, waiting) := c.waiting.resolve response
    (.entry entry, { c with waiting })
  | .expire timeout back =>
    let (entries, waiting) := c.waiting.expire (c.now - back) timeout
    (.entries entries, { c with waiting })
  | .clear => (.done, { c with waiting := c.waiting.clear })
  | .advance ms => (.done, { c with now := c.now + ms })

end Clocked

end RobotDriver.InFlight
