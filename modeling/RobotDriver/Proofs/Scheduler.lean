import RobotDriver.Proofs.Timer
import RobotDriver.Scheduler

/-!
# To look at one task

To look at a scheduled task changes its timer and nothing else. So what a task sends and when it is looked at next is a
matter of that task alone and of whether the scheduler has stopped (`look_congr`), and only who cancels a task or stops
the scheduler changes what is `cancelled`. A task that goes on `Holds` an item and what is left of its timer, and to look
at it is to look at that (`look_of_holds`).
-/

namespace RobotDriver.Scheduler

variable {s t : Scheduler}

/-- To look at a scheduled command neither stops the scheduler nor takes a command away. -/
theorem look_same (s : Scheduler) (rung now task : Nat) :
    (s.look rung now task).2.2.stopped = s.stopped ∧ (s.look rung now task).2.2.tasks.length = s.tasks.length := by
  unfold look
  split
  · exact ⟨rfl, rfl⟩
  · split
    · exact ⟨rfl, List.length_modify _ _ _⟩
    · exact ⟨rfl, rfl⟩

/-- To look at one scheduled command leaves the others as they are. -/
theorem look_other (s : Scheduler) (rung now : Nat) {task other : Nat} (ne : task ≠ other) :
    (s.look rung now task).2.2.tasks[other]? = s.tasks[other]? := by
  unfold look
  split
  · rfl
  · split
    · simp [ne]
    · rfl

/-- Schedulers that have the same command under a number look at it alike, if both go on or neither does. -/
theorem look_congr {task : Nat} (stopped : s.stopped = t.stopped) (here : s.tasks[task]? = t.tasks[task]?)
    (rung now : Nat) :
    (s.look rung now task).1 = (t.look rung now task).1 ∧
    (s.look rung now task).2.1 = (t.look rung now task).2.1 ∧
    (s.look rung now task).2.2.tasks[task]? = (t.look rung now task).2.2.tasks[task]? := by
  have cancelled : s.isCancelled task = t.isCancelled task := by
    unfold isCancelled
    rw [stopped, here]
  unfold look
  rw [cancelled]
  split
  · exact ⟨rfl, rfl, here⟩
  · rw [← here]
    split
    · refine ⟨rfl, rfl, ?_⟩
      simp only [List.getElem?_modify, here]
    · exact ⟨rfl, rfl, here⟩

/-- A command that was cancelled sends nothing and is not looked at again. -/
theorem look_of_cancelled {task : Nat} (cancelled : s.isCancelled task = true) (rung now : Nat) :
    s.look rung now task = ([], none, s) := by
  rw [look, if_pos cancelled]

/-! ## Which commands are cancelled -/

/-- Which commands were cancelled by themselves. -/
def cancelled (s : Scheduler) : List Bool :=
  s.tasks.map (·.cancelled)

@[simp] theorem length_cancelled (s : Scheduler) : s.cancelled.length = s.tasks.length := List.length_map _

theorem isCancelled_iff {task : Nat} :
    s.isCancelled task = true ↔ s.stopped = true ∨ s.cancelled[task]? = some true := by
  unfold isCancelled cancelled
  rw [Bool.or_eq_true, List.getElem?_map]
  cases s.tasks[task]? <;> simp

/-- A flag is set just if the command is there and is cancelled. -/
theorem flags_iff {task : Nat} :
    s.flags[task]? = some true ↔ task < s.tasks.length ∧ s.isCancelled task = true := by
  unfold flags isCancelled
  rw [List.getElem?_map]
  rcases Nat.lt_or_ge task s.tasks.length with there | beyond
  · simp [there]
  · simp [Nat.not_lt.2 beyond]

theorem cancelled_add (s : Scheduler) (item : Outbox.Item) (timer : Timer) :
    (s.add item timer).2.cancelled = s.cancelled ++ [false] :=
  List.map_append

/-- What is done to one command is done to what is kept of it. -/
theorem map_cancelled_modify {f : Task → Task} {g : Bool → Bool} (same : ∀ t, (f t).cancelled = g t.cancelled)
    (tasks : List Task) (task : Nat) :
    (tasks.modify task f).map (·.cancelled) = (tasks.map (·.cancelled)).modify task g := by
  apply List.ext_getElem?
  intro other
  simp only [List.getElem?_map, List.getElem?_modify]
  cases tasks[other]? with
  | none => rfl
  | some t =>
    by_cases here : task = other
    · simp [here, same]
    · simp [here]

theorem cancelled_cancelTask (s : Scheduler) (task : Nat) :
    (s.cancelTask task).cancelled = s.cancelled.modify task fun _ => true :=
  map_cancelled_modify (fun _ => rfl) s.tasks task

/-- To look at a command cancels none. -/
theorem cancelled_look (s : Scheduler) (rung now task : Nat) : (s.look rung now task).2.2.cancelled = s.cancelled := by
  unfold look
  split
  · rfl
  · split
    · refine (map_cancelled_modify (g := id) ?_ s.tasks task).trans (List.modify_id _ _)
      intro t
      rfl
    · rfl

/-! ## A task that goes on -/

/-- The task is not cancelled. It sends the item whenever its timer fires, and this is left of the timer. -/
structure Holds (s : Scheduler) (task : Nat) (item : Outbox.Item) (left : Option Timer) : Prop where
  going : s.stopped = false
  here : s.tasks[task]? = some ⟨item, left, false⟩

variable {task : Nat} {item : Outbox.Item} {left : Option Timer}

theorem Holds.lt (h : s.Holds task item left) : task < s.tasks.length :=
  (List.getElem?_eq_some_iff.1 h.here).1

theorem Holds.isCancelled (h : s.Holds task item left) : s.isCancelled task = false := by
  simp [Scheduler.isCancelled, h.going, h.here]

/-- What a task holds is a matter of that task and of whether the scheduler has stopped. -/
theorem holds_congr (stopped : s.stopped = t.stopped) (here : s.tasks[task]? = t.tasks[task]?) :
    s.Holds task item left ↔ t.Holds task item left := by
  constructor
  · rintro ⟨going, holds⟩
    exact ⟨stopped ▸ going, here ▸ holds⟩
  · rintro ⟨going, holds⟩
    exact ⟨stopped.trans going, here.trans holds⟩

/-- A task that is there and not cancelled goes on with some item and with what is left of its timer. -/
theorem exists_holds (there : task < s.tasks.length) (going : s.isCancelled task = false) :
    ∃ item left, s.Holds task item left := by
  have here := List.getElem?_eq_getElem there
  obtain ⟨stopped, own⟩ := Bool.or_eq_false_iff.1 going
  rw [here] at own
  replace own : s.tasks[task].cancelled = false := own
  refine ⟨s.tasks[task].item, s.tasks[task].timer, stopped, ?_⟩
  rw [here, ← own]

theorem Holds.unique {other : Outbox.Item} {also : Option Timer} (h : s.Holds task item left)
    (g : s.Holds task other also) : item = other ∧ left = also := by
  have same := h.here.symm.trans g.here
  cases same
  exact ⟨rfl, rfl⟩

/-- A new task holds its item and its whole timer. -/
theorem holds_add (going : s.stopped = false) (item : Outbox.Item) (timer : Timer) :
    (s.add item timer).2.Holds s.tasks.length item (some timer) :=
  ⟨going, by simp [add]⟩

/-- A new task leaves the others what they hold. -/
theorem holds_add_other (there : task < s.tasks.length) (new : Outbox.Item) (timer : Timer) :
    (s.add new timer).2.Holds task item left ↔ s.Holds task item left :=
  holds_congr rfl (List.getElem?_append_left there)

/-- To look at a task that goes on is to look at what is left of its timer. -/
theorem look_of_holds (h : s.Holds task item left) (now : Nat) :
    (s.look now now task).1 = List.replicate (Timer.fireLeft left now).1 item ∧
    (s.look now now task).2.1 = (Timer.fireLeft left now).2.map (·.deadline) ∧
    (s.look now now task).2.2.Holds task item (Timer.fireLeft left now).2 := by
  cases left with
  | none =>
    have looked : s.look now now task = ([], none, s) := by simp [look, h.isCancelled, h.here]
    rw [looked]
    exact ⟨rfl, rfl, h⟩
  | some timer =>
    have looked : s.look now now task =
        (List.replicate (timer.fire now now).1 item, (timer.fire now now).2.map (·.deadline),
          { s with tasks := s.tasks.modify task fun t => { t with timer := (timer.fire now now).2 } }) := by
      simp only [look, h.isCancelled, h.here]
      rfl
    rw [looked]
    refine ⟨rfl, rfl, h.going, ?_⟩
    simp only [List.getElem?_modify_eq, h.here]
    rfl

/-- A task whose timer fires alike at two times is looked at alike. -/
theorem look_eq_of_fires (h : s.Holds task item left) {now later : Nat}
    (alike : Timer.fireLeft left later = Timer.fireLeft left now) :
    s.look later later task = s.look now now task := by
  unfold look
  rw [h.isCancelled, h.here]
  cases left with
  | none => rfl
  | some timer =>
    replace alike : timer.fire later later = timer.fire now now := alike
    simp only [alike]

/-- A task that is looked at again is looked at later. -/
theorem lt_of_look {now deadline : Nat} (next : (s.look now now task).2.1 = some deadline) : now < deadline := by
  unfold look at next
  split at next
  · cases next
  · split at next
    · obtain ⟨timer, rest, rfl⟩ := Option.map_eq_some_iff.1 next
      exact Timer.lt_of_fire rest
    · cases next

end RobotDriver.Scheduler
