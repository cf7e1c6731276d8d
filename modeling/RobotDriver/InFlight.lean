import RobotDriver.Command
import RobotDriver.Packet

/-!
# Commands in flight

The robot answers commands in the order in which it got them and says nothing else about which
answer is whose. `InFlight` therefore is a queue: a command enters when its bytes are written, the
oldest one leaves with the next response, and `expire` takes out those that have waited too long.
-/

namespace RobotDriver

/-- A command whose answer is awaited. -/
structure InFlight.Entry where
  command : Command
  /-- The driver itself asked for the command. -/
  system : Bool
  /-- The clock when the bytes were written, in milliseconds. -/
  sentAt : Nat
  deriving DecidableEq

/-- Commands whose answers are awaited, oldest first. -/
structure InFlight where
  entries : List InFlight.Entry := []
  deriving DecidableEq

namespace InFlight

/-- The entry has waited for at least `timeout`; before it was sent it has waited for no time. -/
def Entry.isOverdue (now timeout : Nat) (e : Entry) : Bool :=
  decide (timeout ≤ now - e.sentAt)

def register (q : InFlight) (e : Entry) : InFlight :=
  { entries := q.entries ++ [e] }

/-- The entry that a response answers: the oldest, whatever the response says. -/
def resolve (q : InFlight) (_response : Header) : Option Entry × InFlight :=
  (q.entries.head?, { entries := q.entries.tail })

/-- Takes out the oldest entries as long as they are overdue. -/
def expire (q : InFlight) (now timeout : Nat) : List Entry × InFlight :=
  (q.entries.takeWhile (Entry.isOverdue now timeout),
    { entries := q.entries.dropWhile (Entry.isOverdue now timeout) })

def size (q : InFlight) : Nat :=
  q.entries.length

def isEmpty (q : InFlight) : Bool :=
  q.entries.isEmpty

def clear (_q : InFlight) : InFlight :=
  {}

end InFlight

end RobotDriver
