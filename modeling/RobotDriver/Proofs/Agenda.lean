import RobotDriver.Agenda
import RobotDriver.Proofs.Ordered

/-!
# No alarm is lost

An agenda stays in order when an alarm is armed and when those that are due are taken off, and an ordered agenda is
split by a moment into all that is due and all that is not. What is done to some alarms of an ordered agenda does not
depend on the others: it makes no difference whether these are left out before or afterwards.
-/

namespace RobotDriver.Agenda

variable {κ : Type} {g : Agenda κ} {alarm : κ} {deadline now : Nat}

/-- The alarms stand in the order of their deadlines. -/
def Ordered (g : Agenda κ) : Prop :=
  g.alarms.Pairwise fun a b => a.1 ≤ b.1

/-- An alarm goes off behind one that is due no later. -/
theorem insert_of_le {b : Nat × κ} (early : b.1 ≤ deadline) (bs : List (Nat × κ)) :
    insert deadline alarm (b :: bs) = b :: insert deadline alarm bs := by
  rw [insert, if_pos early]

/-- An alarm goes off before those that are all due later. -/
theorem insert_of_lt {as : List (Nat × κ)} (late : ∀ a ∈ as, deadline < a.1) :
    insert deadline alarm as = (deadline, alarm) :: as := by
  cases as with
  | nil => rfl
  | cons a as => rw [insert, if_neg (Nat.not_le.2 (late a List.mem_cons_self))]

theorem mem_insert {a : Nat × κ} {as : List (Nat × κ)} :
    a ∈ insert deadline alarm as ↔ a = (deadline, alarm) ∨ a ∈ as := by
  induction as with
  | nil => simp [insert]
  | cons b bs ih =>
    unfold insert
    split
    · rw [List.mem_cons, ih, List.mem_cons]
      exact or_left_comm
    · exact List.mem_cons

/-- To arm an alarm adds it and loses none. -/
theorem insert_perm (deadline : Nat) (alarm : κ) (as : List (Nat × κ)) :
    (insert deadline alarm as).Perm ((deadline, alarm) :: as) := by
  induction as with
  | nil => exact .refl _
  | cons b bs ih =>
    unfold insert
    split
    · exact (ih.cons b).trans (.swap _ _ _)
    · exact .refl _

theorem mem_arm {a : Nat × κ} : a ∈ (g.arm deadline alarm).alarms ↔ a = (deadline, alarm) ∨ a ∈ g.alarms :=
  mem_insert

/-- A new alarm keeps a list in an order if it may stand behind those that are due no later and before those that are
due later. -/
theorem pairwise_insert {r : Nat × κ → Nat × κ → Prop} {as : List (Nat × κ)}
    (ordered : as.Pairwise fun a b => a.1 ≤ b.1) (h : as.Pairwise r)
    (behind : ∀ a ∈ as, a.1 ≤ deadline → r a (deadline, alarm))
    (before : ∀ a ∈ as, deadline < a.1 → r (deadline, alarm) a) : (insert deadline alarm as).Pairwise r := by
  induction as with
  | nil => exact List.pairwise_singleton _ _
  | cons b bs ih =>
    obtain ⟨earlier, ordered⟩ := List.pairwise_cons.1 ordered
    obtain ⟨first, rest⟩ := List.pairwise_cons.1 h
    unfold insert
    split
    · next early =>
      refine List.pairwise_cons.2 ⟨fun c hc => ?_, ih ordered rest ?_ ?_⟩
      · rcases mem_insert.1 hc with rfl | hc
        · exact behind b List.mem_cons_self early
        · exact first c hc
      · exact fun a member => behind a (List.mem_cons_of_mem _ member)
      · exact fun a member => before a (List.mem_cons_of_mem _ member)
    · next late =>
      refine List.pairwise_cons.2 ⟨fun c hc => before c hc ?_, h⟩
      rcases List.mem_cons.1 hc with rfl | hc
      · exact Nat.lt_of_not_le late
      · exact Nat.lt_of_lt_of_le (Nat.lt_of_not_le late) (earlier c hc)

theorem Ordered.arm (h : g.Ordered) (deadline : Nat) (alarm : κ) : (g.arm deadline alarm).Ordered :=
  pairwise_insert h h (fun _ _ early => early) (fun _ _ late => Nat.le_of_lt late)

theorem Ordered.later (h : g.Ordered) (now : Nat) : (g.later now).Ordered :=
  h.sublist (List.dropWhile_sublist _)

/-- An alarm that is not due stays. -/
theorem mem_later (h : (deadline, alarm) ∈ g.alarms) (early : now < deadline) :
    (deadline, alarm) ∈ (g.later now).alarms := by
  rw [← List.takeWhile_append_dropWhile (p := fun a => decide (a.1 ≤ now)) (l := g.alarms), List.mem_append] at h
  refine h.resolve_left fun taken => ?_
  have due := List.all_eq_true.1 (List.all_takeWhile (p := fun a : Nat × κ => decide (a.1 ≤ now))) _ taken
  have passed : deadline ≤ now := of_decide_eq_true due
  omega

/-- An alarm that is due goes off. -/
theorem Ordered.mem_due (h : g.Ordered) (there : (deadline, alarm) ∈ g.alarms) (passed : deadline ≤ now) :
    alarm ∈ g.due now := by
  obtain ⟨as⟩ := g
  replace h : as.Pairwise fun a b => a.1 ≤ b.1 := h
  replace there : (deadline, alarm) ∈ as := there
  show alarm ∈ (as.takeWhile fun a => decide (a.1 ≤ now)).map (·.2)
  induction as with
  | nil => cases there
  | cons b bs ih =>
    obtain ⟨first, rest⟩ := List.pairwise_cons.1 h
    rcases List.mem_cons.1 there with rfl | there
    · simp [passed]
    · have due : b.1 ≤ now := Nat.le_trans (first _ there) passed
      rw [List.takeWhile_cons_of_pos (by simpa using due)]
      exact List.mem_cons_of_mem _ (ih rest there)

/-- What was due before an alarm that is due is due too. -/
theorem due_of_le {a b : Nat × κ} (earlier : a.1 ≤ b.1) (due : decide (b.1 ≤ now) = true) :
    decide (a.1 ≤ now) = true := by
  rw [decide_eq_true_eq] at *
  omega

/-- What is left of an agenda is not due. -/
theorem Ordered.lt_of_mem_later (h : g.Ordered) {a : Nat × κ} (member : a ∈ (g.later now).alarms) : now < a.1 := by
  have stays : a ∈ g.alarms.filter fun a => !decide (a.1 ≤ now) := by
    rw [← dropWhile_eq_filter h fun _ _ => due_of_le]
    exact member
  have := (List.mem_filter.1 stays).2
  simpa using this

/-- An alarm that goes off was armed and is due. -/
theorem armed_of_mem_due (due : alarm ∈ g.due now) : ∃ deadline, (deadline, alarm) ∈ g.alarms ∧ deadline ≤ now := by
  obtain ⟨⟨deadline, _⟩, taken, rfl⟩ := List.mem_map.1 due
  refine ⟨deadline, (List.takeWhile_sublist _).subset taken, ?_⟩
  exact of_decide_eq_true (List.all_eq_true.1 (List.all_takeWhile (p := fun a : Nat × κ => decide (a.1 ≤ now))) _ taken)

/-- An agenda is what is due and what is not, in this order. -/
theorem due_append_later (g : Agenda κ) (now : Nat) :
    g.due now ++ (g.later now).alarms.map (·.2) = g.alarms.map (·.2) := by
  rw [due, later, ← List.map_append, List.takeWhile_append_dropWhile]

/-! ## Two moments -/

/-- What is due at a moment is what was due before, and of the rest what is due now. -/
theorem due_eq_append (g : Agenda κ) {before : Nat} (goes : before ≤ now) :
    g.due now = g.due before ++ (g.later before).due now := by
  obtain ⟨as⟩ := g
  simp only [due, later, ← List.map_append]
  apply congrArg
  induction as with
  | nil => rfl
  | cons a as ih =>
    by_cases early : a.1 ≤ before
    · have due : a.1 ≤ now := Nat.le_trans early goes
      simp [early, due, ih]
    · simp [early]

theorem later_later (g : Agenda κ) {before : Nat} (goes : before ≤ now) :
    (g.later before).later now = g.later now := by
  obtain ⟨as⟩ := g
  apply congrArg mk
  show (as.dropWhile _).dropWhile _ = as.dropWhile _
  induction as with
  | nil => rfl
  | cons a as ih =>
    by_cases early : a.1 ≤ before
    · have due : a.1 ≤ now := Nat.le_trans early goes
      simp only [early, due, decide_true, List.dropWhile_cons_of_pos, ih]
    · rw [List.dropWhile_cons_of_neg (by simpa using early)]

/-! ## Without some alarms -/

section Without

variable {p : κ → Bool}

theorem Ordered.without (h : g.Ordered) (p : κ → Bool) : (g.without p).Ordered :=
  h.sublist List.filter_sublist

theorem Ordered.due_without (h : g.Ordered) (now : Nat) :
    (g.without p).due now = (g.due now).filter fun alarm => !p alarm := by
  have all : ∀ g : Agenda κ, g.Ordered → g.due now = (g.alarms.filter fun a => decide (a.1 ≤ now)).map (·.2) := by
    intro g h
    rw [due, takeWhile_eq_filter h fun _ _ => due_of_le]
  rw [all g h, all _ (h.without p), List.filter_map]
  simp only [Agenda.without, List.filter_filter, Function.comp_def, Bool.and_comm]

theorem Ordered.later_without (h : g.Ordered) (now : Nat) : (g.without p).later now = (g.later now).without p := by
  have all : ∀ g : Agenda κ, g.Ordered → (g.later now).alarms = g.alarms.filter fun a => !decide (a.1 ≤ now) := by
    intro g h
    exact dropWhile_eq_filter h fun _ _ => due_of_le
  have same : ((g.without p).later now).alarms = ((g.later now).without p).alarms := by
    rw [all _ (h.without p)]
    simp only [Agenda.without, all g h, List.filter_filter, Bool.and_comm]
  exact congrArg mk same

/-- An alarm that is left out need not be armed. -/
theorem without_arm_of_pos (g : Agenda κ) (deadline : Nat) (out : p alarm = true) :
    (g.arm deadline alarm).without p = g.without p := by
  obtain ⟨as⟩ := g
  apply congrArg mk
  show (insert deadline alarm as).filter (fun a => !p a.2) = as.filter fun a => !p a.2
  induction as with
  | nil => simp [insert, out]
  | cons b bs ih =>
    unfold insert
    split
    · rw [List.filter_cons, ih, List.filter_cons]
    · rw [List.filter_cons_of_neg (by simp [out])]

/-- An alarm that is not left out is armed among those that are not. -/
theorem Ordered.without_arm_of_neg (h : g.Ordered) (deadline : Nat) (stays : p alarm = false) :
    (g.arm deadline alarm).without p = (g.without p).arm deadline alarm := by
  obtain ⟨as⟩ := g
  replace h : as.Pairwise fun a b => a.1 ≤ b.1 := h
  apply congrArg mk
  show (insert deadline alarm as).filter (fun a => !p a.2) = insert deadline alarm (as.filter fun a => !p a.2)
  induction as with
  | nil => simp [insert, stays]
  | cons b bs ih =>
    obtain ⟨first, rest⟩ := List.pairwise_cons.1 h
    by_cases early : b.1 ≤ deadline
    · rw [insert_of_le early, List.filter_cons, List.filter_cons, ih rest]
      split
      · rw [insert_of_le early]
      · rfl
    · have late : ∀ c ∈ b :: bs, deadline < c.1 := by
        intro c member
        rcases List.mem_cons.1 member with rfl | behind
        · omega
        · have := first c behind
          omega
      rw [insert_of_lt late, List.filter_cons_of_pos (by simp [stays]), insert_of_lt]
      intro c member
      exact late c (List.mem_filter.1 member).1

end Without

end RobotDriver.Agenda
