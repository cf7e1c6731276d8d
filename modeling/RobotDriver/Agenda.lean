/-!
# Alarms in order

An `Agenda` holds alarms with the times at which they are due. It is kept in the order in which they
go off: by deadline, and for equal deadlines in the order in which they were armed. `due` and `later`
split it at a moment.
-/

namespace RobotDriver

/-- Alarms `κ` with their deadlines, in the order in which they go off. -/
structure Agenda (κ : Type) where
  alarms : List (Nat × κ) := []
  deriving DecidableEq

namespace Agenda

variable {κ : Type}

/-- Puts an alarm behind all that are due no later. -/
def insert (deadline : Nat) (alarm : κ) : List (Nat × κ) → List (Nat × κ)
  | [] => [(deadline, alarm)]
  | a :: as => if a.1 ≤ deadline then a :: insert deadline alarm as else (deadline, alarm) :: a :: as

/-- Arms an alarm. -/
def arm (g : Agenda κ) (deadline : Nat) (alarm : κ) : Agenda κ :=
  { alarms := insert deadline alarm g.alarms }

/-- The alarms that are due at `now`, in order. -/
def due (g : Agenda κ) (now : Nat) : List κ :=
  (g.alarms.takeWhile fun a => a.1 ≤ now).map (·.2)

/-- The agenda without the alarms that are due at `now`. -/
def later (g : Agenda κ) (now : Nat) : Agenda κ :=
  { alarms := g.alarms.dropWhile fun a => a.1 ≤ now }

/-- The agenda without the alarms that `p` picks. -/
def without (g : Agenda κ) (p : κ → Bool) : Agenda κ :=
  { alarms := g.alarms.filter fun a => !p a.2 }

end Agenda

end RobotDriver
