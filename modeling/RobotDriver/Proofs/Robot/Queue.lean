import RobotDriver.Proofs.Robot.Chronicle

/-!
# The queue of a connection, read from a journal

Commands enter the queue of a connection when they are registered and leave it when they are answered or given
up. `Queued` says that they leave it in the order in which they entered, and that the queue is what is left.
-/

namespace RobotDriver

namespace Deed

/-- The command that the writer of a connection has registered. -/
def registered? (g : Nat) : Deed → Option InFlight.Entry
  | registered n entry => if n = g then some entry else none
  | _ => none

/-- The command of a connection that a response has taken out. -/
def answered? (g : Nat) : Deed → Option InFlight.Entry
  | answered n entry _ => if n = g then some entry else none
  | _ => none

/-- The command of a connection that has been given up. -/
def expired? (g : Nat) : Deed → Option InFlight.Entry
  | expired n entry => if n = g then some entry else none
  | _ => none

/-- The command of a connection that no longer awaits its answer. -/
def removed? (g : Nat) (d : Deed) : Option InFlight.Entry :=
  (d.answered? g).or (d.expired? g)

end Deed

/-- The commands registered on a connection. -/
def registrations (g : Nat) (journal : List Deed) : List InFlight.Entry :=
  journal.filterMap (Deed.registered? g)

theorem mem_of_mem_registrations {g : Nat} {journal : List Deed} {entry : InFlight.Entry}
    (h : entry ∈ registrations g journal) : .registered g entry ∈ journal := by
  obtain ⟨d, hd, same⟩ := List.mem_filterMap.1 h
  cases d with
  | registered n other =>
    simp only [Deed.registered?, Option.ite_none_right_eq_some, Option.some.injEq] at same
    obtain ⟨rfl, rfl⟩ := same
    exact hd
  | _ => cases same

/-- The commands taken out of the queue of a connection. -/
def removals (g : Nat) (journal : List Deed) : List InFlight.Entry :=
  journal.filterMap (Deed.removed? g)

/-! ## What a turn does to the queue -/

namespace Deed

/-- A command enters the queue or leaves it. -/
def isQueueing : Deed → Bool
  | registered _ _ | answered _ _ _ | expired _ _ => true
  | _ => false

theorem isQueueing_of_isSilent {d : Deed} (h : d.isSilent = true) : d.isQueueing = false := by
  cases d <;> simp_all [isSilent, isCalm, isQueueing]

end Deed

theorem Telling.isQueueing {report : Report} {hearers : List Nat} {ds : List Deed} (h : Telling report hearers ds) :
    ∀ d ∈ ds, d.isQueueing = false := by
  intro d hd
  rcases h.mem hd with rfl | silent
  · rfl
  · exact Deed.isQueueing_of_isSilent silent

theorem Failure.isQueueing {g : Nat} {d : Deed} {cause : TransportError} (h : Failure g d cause) :
    d.isQueueing = false := by
  cases h <;> rfl

theorem registrations_append (g : Nat) (xs ys : List Deed) :
    registrations g (xs ++ ys) = registrations g xs ++ registrations g ys :=
  List.filterMap_append

theorem removals_append (g : Nat) (xs ys : List Deed) : removals g (xs ++ ys) = removals g xs ++ removals g ys :=
  List.filterMap_append

theorem registrations_of_isQueueing {ds : List Deed} (h : ∀ d ∈ ds, d.isQueueing = false) (g : Nat) :
    registrations g ds = [] := by
  refine List.filterMap_eq_nil_iff.2 fun d hd => ?_
  have quiet := h d hd
  cases d <;> first | rfl | cases quiet

theorem removals_of_isQueueing {ds : List Deed} (h : ∀ d ∈ ds, d.isQueueing = false) (g : Nat) :
    removals g ds = [] := by
  refine List.filterMap_eq_nil_iff.2 fun d hd => ?_
  have quiet := h d hd
  cases d <;> first | rfl | cases quiet

/-- What a turn can do to the queue. -/
inductive QueueTurn (s : Outline) (ds : List Deed) (t : Outline) : Prop where
  | same (quiet : ∀ d ∈ ds, d.isQueueing = false) (phase : t.phase.generation? = s.phase.generation?)
      (waiting : t.waiting = s.waiting) (generations : s.generations ≤ t.generations)
  /-- A connection begins with an empty queue. -/
  | begun (quiet : ∀ d ∈ ds, d.isQueueing = false) (phase : t.phase.generation? = some t.generations)
      (waiting : t.waiting = []) (generations : s.generations < t.generations)
  | emptied (quiet : ∀ d ∈ ds, d.isQueueing = false) (phase : t.phase.generation? = none)
      (waiting : t.dropped = false → t.waiting = []) (generations : t.generations = s.generations)
  | put {g : Nat} (entry : InFlight.Entry) (here : s.phase.generation? = some g)
      (registered : ∀ n, registrations n ds = if g = n then [entry] else []) (kept : ∀ n, removals n ds = [])
      (phase : t.phase = s.phase) (waiting : t.waiting = s.waiting ++ [entry])
      (generations : t.generations = s.generations)
  | take {g : Nat} (entry : InFlight.Entry) (here : s.phase.generation? = some g)
      (kept : ∀ n, registrations n ds = []) (removed : ∀ n, removals n ds = if g = n then [entry] else [])
      (phase : t.phase = s.phase) (waiting : s.waiting = entry :: t.waiting)
      (generations : t.generations = s.generations)

theorem Turn.queue {s t : Outline} {ds : List Deed} (turn : Turn s ds t) : QueueTurn s ds t := by
  cases turn with
  | @calm d h =>
    refine .same ?_ rfl rfl (Nat.le_refl _)
    exact List.forall_mem_singleton.2 (Deed.isQueueing_of_isSilent (Deed.isSilent_of_isCalm h))
  | aside h told => exact .same told.isQueueing rfl rfl (Nat.le_refl _)
  | surplus => exact .same (by simp) rfl rfl (Nat.le_succ _)
  | connected idle address told =>
    exact .begun (List.forall_mem_cons.2 ⟨rfl, told.isQueueing⟩) rfl rfl (Nat.lt_succ_self _)
  | closing live => exact .same (by simp [Deed.isQueueing]) (by rw [live]; rfl) rfl (Nat.le_refl _)
  | closed closing told => exact .emptied (List.forall_mem_cons.2 ⟨rfl, told.isQueueing⟩) rfl (fun _ => rfl) rfl
  | lost live failed told | broken closing failed told =>
    refine .emptied ?_ rfl (fun _ => rfl) rfl
    exact List.forall_mem_cons.2 ⟨failed.isQueueing, List.forall_mem_cons.2 ⟨rfl, told.isQueueing⟩⟩
  | dropped =>
    refine .emptied ?_ rfl (fun alive => by cases alive) rfl
    unfold Phase.farewell
    cases s.phase.generation? <;> simp [Deed.isQueueing]
  | took => exact .same (by simp [Deed.isQueueing]) rfl rfl (Nat.le_refl _)
  | @registered g here entry =>
    refine .put entry here (fun n => ?_) (fun n => rfl) rfl rfl rfl
    by_cases e : g = n <;> simp [registrations, Deed.registered?, e]
  | passed => exact .same (by simp [Deed.isQueueing]) rfl rfl (Nat.le_refl _)
  | @answered g p entry rest here h oldest =>
    refine .take entry here (fun n => rfl) (fun n => ?_) rfl oldest rfl
    by_cases e : g = n <;> simp [removals, Deed.removed?, Deed.answered?, Deed.expired?, e]
  | unmatched here h none told =>
    refine .same ?_ rfl rfl (Nat.le_refl _)
    exact List.forall_mem_cons.2 ⟨rfl, List.forall_mem_cons.2 ⟨rfl, told.isQueueing⟩⟩
  | @expired g entry rest here oldest =>
    refine .take entry here (fun n => rfl) (fun n => ?_) rfl oldest rfl
    by_cases e : g = n <;> simp [removals, Deed.removed?, Deed.answered?, Deed.expired?, e]
  | paid first told => exact .same told.isQueueing rfl rfl (Nat.le_refl _)

/-! ## Journals -/

/-- A journal and the queue to which it has led. -/
structure Queued (journal : List Deed) (s : Outline) : Prop where
  queue : ∀ g, s.phase.generation? = some g → registrations g journal = removals g journal ++ s.waiting
  cleared : s.phase.generation? = none → s.dropped = false → s.waiting = []
  removed : ∀ g, removals g journal <+: registrations g journal
  /-- Nothing is registered on connections that are still to come. -/
  fresh : ∀ g, s.generations < g → registrations g journal = []
  bound : ∀ g, s.phase.generation? = some g → g ≤ s.generations

section

variable {s t : Outline} {journal ds : List Deed}

theorem registrations_append_of_isQueueing (quiet : ∀ d ∈ ds, d.isQueueing = false) (journal : List Deed)
    (g : Nat) : registrations g (journal ++ ds) = registrations g journal := by
  rw [registrations_append, registrations_of_isQueueing quiet, List.append_nil]

theorem removals_append_of_isQueueing (quiet : ∀ d ∈ ds, d.isQueueing = false) (journal : List Deed) (g : Nat) :
    removals g (journal ++ ds) = removals g journal := by
  rw [removals_append, removals_of_isQueueing quiet, List.append_nil]

/-- All that has to do with single connections stays as it is where no command enters or leaves a queue. -/
theorem Queued.same (h : Queued journal s) (quiet : ∀ d ∈ ds, d.isQueueing = false)
    (generations : s.generations ≤ t.generations) :
    (∀ g, removals g (journal ++ ds) <+: registrations g (journal ++ ds)) ∧
      ∀ g, t.generations < g → registrations g (journal ++ ds) = [] := by
  constructor
  · intro g
    rw [registrations_append_of_isQueueing quiet, removals_append_of_isQueueing quiet]
    exact h.removed g
  · intro g hg
    rw [registrations_append_of_isQueueing quiet]
    apply h.fresh
    omega

/-- A command enters the queue. -/
theorem Queued.put (h : Queued journal s) {g : Nat} {entry : InFlight.Entry} (here : s.phase.generation? = some g)
    (registered : ∀ n, registrations n ds = if g = n then [entry] else []) (kept : ∀ n, removals n ds = [])
    (phase : t.phase = s.phase) (waiting : t.waiting = s.waiting ++ [entry])
    (generations : t.generations = s.generations) : Queued (journal ++ ds) t := by
  have more (n : Nat) : registrations n (journal ++ ds) = registrations n journal ++ if g = n then [entry] else [] := by
    rw [registrations_append, registered]
  have same (n : Nat) : removals n (journal ++ ds) = removals n journal := by
    rw [removals_append, kept, List.append_nil]
  constructor
  case queue =>
    intro n hn
    rw [phase, here] at hn
    obtain rfl : g = n := Option.some.inj hn
    rw [more, same, waiting, if_pos rfl, h.queue g here, List.append_assoc]
  case cleared =>
    intro hn _
    rw [phase, here] at hn
    cases hn
  case removed =>
    intro n
    rw [more, same]
    exact (h.removed n).trans (List.prefix_append _ _)
  case fresh =>
    intro n hn
    rw [generations] at hn
    have := h.bound g here
    have other : g ≠ n := by omega
    rw [more, if_neg other, List.append_nil]
    exact h.fresh n hn
  case bound =>
    intro n hn
    rw [phase] at hn
    rw [generations]
    exact h.bound n hn

/-- The oldest command leaves the queue. -/
theorem Queued.take (h : Queued journal s) {g : Nat} {entry : InFlight.Entry} (here : s.phase.generation? = some g)
    (kept : ∀ n, registrations n ds = []) (removed : ∀ n, removals n ds = if g = n then [entry] else [])
    (phase : t.phase = s.phase) (waiting : s.waiting = entry :: t.waiting)
    (generations : t.generations = s.generations) : Queued (journal ++ ds) t := by
  have same (n : Nat) : registrations n (journal ++ ds) = registrations n journal := by
    rw [registrations_append, kept, List.append_nil]
  have more (n : Nat) : removals n (journal ++ ds) = removals n journal ++ if g = n then [entry] else [] := by
    rw [removals_append, removed]
  have left : registrations g journal = removals g journal ++ [entry] ++ t.waiting := by
    rw [h.queue g here, waiting, List.append_assoc, List.singleton_append]
  constructor
  case queue =>
    intro n hn
    rw [phase, here] at hn
    obtain rfl : g = n := Option.some.inj hn
    rw [same, more, if_pos rfl, left]
  case cleared =>
    intro hn _
    rw [phase, here] at hn
    cases hn
  case removed =>
    intro n
    rw [same, more]
    by_cases other : g = n
    · subst other
      rw [if_pos rfl, left]
      exact List.prefix_append _ _
    · rw [if_neg other, List.append_nil]
      exact h.removed n
  case fresh =>
    intro n hn
    rw [generations] at hn
    rw [same]
    exact h.fresh n hn
  case bound =>
    intro n hn
    rw [phase] at hn
    rw [generations]
    exact h.bound n hn

/-- Nothing happens to the queue. -/
theorem Queued.rest (h : Queued journal s) (alive : s.dropped = false) (quiet : ∀ d ∈ ds, d.isQueueing = false)
    (phase : t.phase.generation? = s.phase.generation?) (waiting : t.waiting = s.waiting)
    (generations : s.generations ≤ t.generations) : Queued (journal ++ ds) t := by
  obtain ⟨inOrder, fresh⟩ := h.same quiet generations
  refine ⟨?_, ?_, inOrder, fresh, ?_⟩
  · intro g hg
    rw [phase] at hg
    rw [registrations_append_of_isQueueing quiet, removals_append_of_isQueueing quiet, waiting]
    exact h.queue g hg
  · intro hg _
    rw [phase] at hg
    rw [waiting]
    exact h.cleared hg alive
  · intro g hg
    rw [phase] at hg
    have := h.bound g hg
    omega

/-- A connection begins, with nothing in its queue. -/
theorem Queued.begin (h : Queued journal s) (quiet : ∀ d ∈ ds, d.isQueueing = false)
    (phase : t.phase.generation? = some t.generations) (waiting : t.waiting = [])
    (generations : s.generations < t.generations) : Queued (journal ++ ds) t := by
  obtain ⟨inOrder, fresh⟩ := h.same quiet (Nat.le_of_lt generations)
  refine ⟨?_, fun _ _ => waiting, inOrder, fresh, ?_⟩
  · intro g hg
    rw [phase] at hg
    obtain rfl : t.generations = g := Option.some.inj hg
    have unused : registrations t.generations journal = [] := h.fresh _ generations
    have none := h.removed t.generations
    rw [unused, List.prefix_nil] at none
    rw [registrations_append_of_isQueueing quiet, removals_append_of_isQueueing quiet, unused, none, waiting]
    rfl
  · intro g hg
    rw [phase] at hg
    obtain rfl : t.generations = g := Option.some.inj hg
    omega

/-- The connection is gone, and its queue with it. -/
theorem Queued.empty (h : Queued journal s) (quiet : ∀ d ∈ ds, d.isQueueing = false)
    (phase : t.phase.generation? = none) (waiting : t.dropped = false → t.waiting = [])
    (generations : t.generations = s.generations) : Queued (journal ++ ds) t := by
  obtain ⟨inOrder, fresh⟩ := h.same quiet (Nat.le_of_eq generations.symm)
  refine ⟨?_, fun _ alive => waiting alive, inOrder, fresh, ?_⟩
  all_goals
    intro g hg
    rw [phase] at hg
    cases hg

theorem Queued.next (h : Queued journal s) (alive : s.dropped = false) (turn : QueueTurn s ds t) :
    Queued (journal ++ ds) t := by
  cases turn with
  | put entry here registered kept phase waiting generations =>
    exact h.put here registered kept phase waiting generations
  | take entry here kept removed phase waiting generations =>
    exact h.take here kept removed phase waiting generations
  | same quiet phase waiting generations => exact h.rest alive quiet phase waiting generations
  | begun quiet phase waiting generations => exact h.begin quiet phase waiting generations
  | emptied quiet phase waiting generations => exact h.empty quiet phase waiting generations

end

theorem Chronicle.queued {journal : List Deed} {s : Outline} (h : Chronicle journal s) : Queued journal s := by
  induction h with
  | start =>
    refine ⟨?_, fun _ _ => rfl, fun g => List.nil_prefix, fun _ _ => rfl, ?_⟩
    · intro g hg
      cases hg
    · intro g hg
      cases hg
  | next _ here turn ih => exact ih.next here turn.queue

/-- A command that is removed is either answered or given up. -/
theorem count_removals (g : Nat) (entry : InFlight.Entry) (journal : List Deed) :
    (removals g journal).count entry =
      (journal.filterMap (Deed.answered? g)).count entry + (journal.filterMap (Deed.expired? g)).count entry := by
  have cons (f : Deed → Option InFlight.Entry) (d : Deed) (ds : List Deed) :
      ((d :: ds).filterMap f).count entry = (f d).toList.count entry + (ds.filterMap f).count entry := by
    rw [List.filterMap_cons]
    cases f d with
    | none => simp
    | some e =>
      simp only [Option.toList_some, List.count_cons, List.count_nil]
      omega
  have one (d : Deed) : (d.removed? g).toList.count entry =
      (d.answered? g).toList.count entry + (d.expired? g).toList.count entry := by
    unfold Deed.removed?
    cases d <;> simp [Deed.answered?, Deed.expired?]
  unfold removals
  induction journal with
  | nil => rfl
  | cons d ds ih =>
    rw [cons, cons, cons, ih, one]
    omega

theorem Queued.once {journal : List Deed} {s : Outline} (h : Queued journal s) (g : Nat) (entry : InFlight.Entry) :
    (journal.filterMap (Deed.answered? g)).count entry + (journal.filterMap (Deed.expired? g)).count entry ≤
      (registrations g journal).count entry := by
  rw [← count_removals]
  exact (h.removed g).sublist.count_le entry

end RobotDriver
