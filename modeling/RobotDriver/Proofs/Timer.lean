import RobotDriver.Timer

/-!
# How often a timer fires

A repeating timer has a deadline at `start` and one more after every period. `met` counts those that have passed by a
moment. A timer that a jump finds late fires once, however many that are, and starts a new beat; one that is found on
time fires once for each of them and keeps its beat (`catchUp_of_late`, `catchUp_of_onTime`). So it never gets ahead of
its deadlines (`Paced`), and never behind them if it is never found late.
-/

namespace RobotDriver.Timer

variable {now later deadline start count k : Nat} {period : Period}

/-! ## Deadlines that have passed -/

/-- How many of the deadlines at `start` and after every period from there on have passed. -/
def met (now start : Nat) (period : Period) : Nat :=
  if now < start then 0 else (now - start) / period.ms + 1

/-- The deadline with the number `k` has passed just if more than `k` have. -/
theorem lt_met_iff : k < met now start period ↔ start + k * period.ms ≤ now := by
  unfold met
  split
  · next early =>
    have : start ≤ start + k * period.ms := Nat.le_add_right _ _
    omega
  · next passed =>
    rw [Nat.lt_succ_iff, Nat.le_div_iff_mul_le period.pos]
    omega

theorem met_le_iff : met now start period ≤ k ↔ now < start + k * period.ms := by
  rw [← Nat.not_lt, lt_met_iff, Nat.not_le]

theorem met_eq_zero (early : now < start) : met now start period = 0 := by
  rw [met, if_pos early]

/-- As time goes by, no fewer deadlines have passed. -/
theorem met_mono (goes : now ≤ later) : met now start period ≤ met later start period := by
  rw [met_le_iff]
  exact Nat.lt_of_le_of_lt goes (met_le_iff.1 (Nat.le_refl _))

/-- A deadline that has passed counts for one more than those behind it. -/
theorem met_of_le (passed : start ≤ now) : met now start period = met now (start + period.ms) period + 1 := by
  apply Nat.le_antisymm
  · have rest := met_le_iff.1 (Nat.le_refl (met now (start + period.ms) period))
    rw [met_le_iff, Nat.succ_mul]
    omega
  · rw [Nat.succ_le_iff, lt_met_iff]
    cases h : met now (start + period.ms) period with
    | zero => simpa using passed
    | succ n =>
      have last : start + period.ms + n * period.ms ≤ now := lt_met_iff.1 (by omega)
      rw [Nat.succ_mul]
      omega

/-! ## To look at a timer -/

theorem catchUp_of_lt (early : now < deadline) : catchUp now now period deadline = (0, deadline) := by
  rw [catchUp, if_pos early]

/-- A repeating timer that is found late fires once and is due again a period from now. -/
theorem catchUp_of_late (late : deadline + tolerance < now) :
    catchUp now now period deadline = (1, now + period.ms) := by
  have next : nextDeadline now period deadline = now + period.ms := by rw [nextDeadline, if_pos late]
  have passed : ¬now < deadline := by omega
  have pos := period.pos
  rw [catchUp, if_neg passed, next, catchUp_of_lt (by omega)]

/-- A repeating timer that is found on time fires once for each deadline that has passed, and keeps its beat. -/
theorem catchUp_of_onTime (onTime : now ≤ deadline + tolerance) :
    catchUp now now period deadline =
      (met now deadline period, deadline + met now deadline period * period.ms) := by
  induction deadline using catchUp.induct now now period with
  | case1 deadline early =>
    rw [catchUp_of_lt early, met_eq_zero early]
    simp
  | case2 deadline passed _ _ _ ih =>
    have next : nextDeadline now period deadline = deadline + period.ms := by
      rw [nextDeadline, if_neg (by omega)]
    rw [next] at ih
    rw [catchUp, if_neg passed, next, ih (by omega), met_of_le (Nat.not_lt.1 passed), Nat.succ_mul]
    simp only [Prod.mk.injEq, true_and]
    omega

/-- A repeating timer that has been looked at is due later. -/
theorem lt_catchUp (now deadline : Nat) (period : Period) : now < (catchUp now now period deadline).2 := by
  rcases Nat.lt_or_ge (deadline + tolerance) now with late | onTime
  · have pos := period.pos
    rw [catchUp_of_late late]
    show now < now + period.ms
    omega
  · rw [catchUp_of_onTime onTime]
    exact met_le_iff.1 (Nat.le_refl _)

/-- What is left of any timer that has been looked at is due later. -/
theorem lt_of_fire {t left : Timer} (rest : (t.fire now now).2 = some left) : now < left.deadline := by
  unfold fire at rest
  split at rest
  · split at rest
    · next early =>
      cases rest
      exact early
    · cases rest
  · cases rest
    exact lt_catchUp now t.deadline _

/-- To look at a timer before its deadline changes nothing. -/
theorem fire_of_lt {t : Timer} (early : now < t.deadline) : t.fire now now = (0, some t) := by
  unfold fire
  split
  · rw [if_pos early]
  · rw [catchUp_of_lt early]

/-- To look at what may be left of a timer. -/
def fireLeft (left : Option Timer) (now : Nat) : Nat × Option Timer :=
  match left with
  | none => (0, none)
  | some t => t.fire now now

/-! ## A timer that fires once -/

/-- What is left at some time of a timer that fires once. -/
def leftAt (deadline now : Nat) : Option Timer :=
  if now < deadline then some ⟨deadline, none⟩ else none

/-- How often a timer that fires once has fired. -/
def timesFired (deadline now : Nat) : Nat :=
  if deadline ≤ now then 1 else 0

theorem period_of_leftAt {t : Timer} (left : leftAt deadline now = some t) : t.period = none := by
  unfold leftAt at left
  split at left
  · cases left
    rfl
  · cases left

theorem fireLeft_once (deadline now : Nat) :
    fireLeft (some ⟨deadline, none⟩) now = (timesFired deadline now, leftAt deadline now) := by
  unfold fireLeft fire leftAt timesFired
  by_cases early : now < deadline
  · simp [early, Nat.not_le.2 early]
  · simp [early, Nat.not_lt.1 early]

/-- A timer that fires once is gone when it is looked at after its deadline. -/
theorem fireLeft_of_le (passed : deadline ≤ now) : fireLeft (some ⟨deadline, none⟩) now = (1, none) := by
  rw [fireLeft_once, timesFired, leftAt, if_pos passed, if_neg (Nat.not_lt.2 passed)]

/-- A timer that fires once does so when it is looked at for the first time at its deadline or later. -/
theorem fireLeft_leftAt (goes : now ≤ later) :
    fireLeft (leftAt deadline now) later =
      (if now < deadline ∧ deadline ≤ later then 1 else 0, leftAt deadline later) := by
  by_cases waits : now < deadline
  · rw [leftAt, if_pos waits, fireLeft_once]
    simp [timesFired, waits]
  · have passed : ¬later < deadline := by omega
    rw [leftAt, if_neg waits, leftAt, if_neg passed]
    simp [waits, fireLeft]

theorem timesFired_of_goes (goes : now ≤ later) :
    timesFired deadline later = timesFired deadline now + if now < deadline ∧ deadline ≤ later then 1 else 0 := by
  unfold timesFired
  split <;> split <;> split <;> omega

/-! ## The pace of a repeating timer -/

/-- A repeating timer that was due first at `start` has fired `count` times by now, no more often than it was due, and
is due next when it would be had it never been late, or later. -/
structure Paced (start : Nat) (period : Period) (now count deadline : Nat) : Prop where
  bounded : count ≤ met now start period
  behind : start + count * period.ms ≤ deadline

theorem Paced.first (start : Nat) (period : Period) (now : Nat) : Paced start period now 0 start :=
  ⟨Nat.zero_le _, by simp⟩

/-- To look at a timer keeps its pace. -/
theorem Paced.look (h : Paced start period now count deadline) (goes : now ≤ later) :
    Paced start period later (count + (catchUp later later period deadline).1)
      (catchUp later later period deadline).2 := by
  obtain ⟨bounded, behind⟩ := h
  rcases Nat.lt_or_ge (deadline + tolerance) later with late | onTime
  · rw [catchUp_of_late late]
    have passed : start + count * period.ms ≤ later := by omega
    refine ⟨Nat.succ_le_of_lt (lt_met_iff.2 passed), ?_⟩
    show start + (count + 1) * period.ms ≤ later + period.ms
    rw [Nat.succ_mul]
    omega
  · rw [catchUp_of_onTime onTime]
    refine ⟨?_, ?_⟩
    · show count + met later deadline period ≤ met later start period
      cases h : met later deadline period with
      | zero => exact Nat.le_trans bounded (met_mono goes)
      | succ n =>
        have last : deadline + n * period.ms ≤ later := lt_met_iff.1 (by omega)
        rw [← Nat.add_assoc, Nat.succ_le_iff, lt_met_iff, Nat.add_mul]
        omega
    · show start + (count + met later deadline period) * period.ms ≤ deadline + met later deadline period * period.ms
      rw [Nat.add_mul]
      omega

/-- A timer that is found on time stays on its beat. -/
theorem deadline_of_onTime (beat : deadline = start + count * period.ms) (onTime : later ≤ deadline + tolerance) :
    (catchUp later later period deadline).2 =
      start + (count + (catchUp later later period deadline).1) * period.ms := by
  rw [catchUp_of_onTime onTime, Nat.add_mul, beat, Nat.add_assoc]

/-- A timer that is on its beat and waits has fired as often as it was due. -/
theorem Paced.count_eq (h : Paced start period now count deadline) (beat : deadline = start + count * period.ms)
    (waits : now < deadline) : count = met now start period := by
  apply Nat.le_antisymm h.bounded
  rw [met_le_iff, ← beat]
  exact waits

end RobotDriver.Timer
