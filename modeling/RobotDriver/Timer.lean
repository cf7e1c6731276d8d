/-!
# Timers

Times are milliseconds on a clock that jumps. A timer fires once at its deadline, or again and again
at a beat. Behind a jump, deadlines are met only when the alarms of the clock go off: `rung` is the time
up to which they have. A repeating timer that a jump finds on time keeps its beat and catches up on every
deadline that has been met; one that is found late starts a new beat from now.
-/

namespace RobotDriver

/-- The distance between two firings of a repeating timer, never zero. -/
structure Period where
  ms : Nat
  pos : 0 < ms

instance : DecidableEq Period := fun p q =>
  if h : p.ms = q.ms then .isTrue (by cases p; cases q; cases h; rfl)
  else .isFalse fun e => h (congrArg Period.ms e)

/-- A period of some milliseconds, at least one. -/
def Period.ofMs (ms : Nat) : Period :=
  ⟨max ms 1, by omega⟩

namespace Timer

/-- The longest delay and period: thirty years of 365 days. -/
def maxDelay : Nat := 1000 * 86400 * 365 * 30

/-- How late a repeating timer may be found without losing its beat. -/
def tolerance : Nat := 5

/-- The deadline of something asked for at `now`. -/
def deadlineAfter (now delay : Nat) : Nat :=
  now + min delay maxDelay

/-- A period brought between one millisecond and the longest delay. -/
def clampPeriod (ms : Nat) : Period :=
  .ofMs (min ms maxDelay)

/-- The deadline that follows one met at `now`. -/
def nextDeadline (now : Nat) (period : Period) (deadline : Nat) : Nat :=
  if now > deadline + tolerance then now + period.ms else deadline + period.ms

theorem lt_nextDeadline (now : Nat) (period : Period) (deadline : Nat) :
    deadline < nextDeadline now period deadline := by
  have := period.pos
  unfold nextDeadline
  split <;> omega

/-- How often a repeating timer fires when it is looked at, and its deadline afterwards. -/
def catchUp (rung now : Nat) (period : Period) (deadline : Nat) : Nat × Nat :=
  if rung < deadline then (0, deadline)
  else
    let (count, last) := catchUp rung now period (nextDeadline now period deadline)
    (count + 1, last)
termination_by rung + 1 - deadline
decreasing_by
  have := lt_nextDeadline now period deadline
  omega

end Timer

/-- A deadline, and for a repeating timer its beat. -/
structure Timer where
  deadline : Nat
  period : Option Period := none
  deriving DecidableEq

namespace Timer

/-- Looks at a timer: how often it fires, and the timer that is left, if any. -/
def fire (t : Timer) (rung now : Nat) : Nat × Option Timer :=
  match t.period with
  | none => if rung < t.deadline then (0, some t) else (1, none)
  | some period =>
    let (count, deadline) := catchUp rung now period t.deadline
    (count, some { t with deadline })

/-- A timer that fires once. -/
def once (now delay : Nat) : Timer :=
  { deadline := deadlineAfter now delay }

/-- A timer that fires after `initial` and then at every `period`. -/
def repeating (now initial period : Nat) : Timer :=
  { deadline := deadlineAfter now initial, period := some (clampPeriod period) }

end Timer

end RobotDriver
