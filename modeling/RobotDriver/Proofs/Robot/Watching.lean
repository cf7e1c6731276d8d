import RobotDriver.Proofs.Robot.Moments

/-!
# The wait for the end is watched

While a connection is being closed, either the task that looks at the time of grace is ready or its alarm is set, and an
alarm that is set is not overdue. `Watched` says so, with what it takes to show it; every passage of a run keeps it. So
once the time of grace is over and no task is ready, the connection is gone.
-/

namespace RobotDriver

theorem mem_eraseIdx_of_ne {α : Type} {as : List α} {a b : α} {index : Nat} (there : a ∈ as)
    (here : as[index]? = some b) (other : a ≠ b) : a ∈ as.eraseIdx index := by
  obtain ⟨i, hi⟩ := List.mem_iff_getElem?.1 there
  refine List.mem_eraseIdx_iff_getElem?.2 ⟨i, fun same => ?_, hi⟩
  rw [same, here] at hi
  exact other (Option.some.inj hi).symm

/-- The connection that is there takes commands until it is closed, none of its alarms is out of order, and the end of
its closing is waited for. -/
def Session.Watched (ready : List Task) (rung generations : Nat) : Session → Prop
  | down => True
  | up link =>
    link.generation ≤ generations ∧ link.agenda.Ordered ∧ link.writer.outbox.attended = true ∧
      link.writer.activity.pending ≠ none
  | closing link closure =>
    link.generation ≤ generations ∧ link.agenda.Ordered ∧
      (.wake link.generation .grace ∈ ready ∨
        ∃ deadline, closure.deadline = some deadline ∧ rung < deadline ∧ (deadline, .grace) ∈ link.agenda.alarms)

namespace Session.Watched

variable {s t : Session} {ready tasks : List Task} {rung generations : Nat}

theorem known (h : s.Watched ready rung generations) {link : Link} (hl : s.link? = some link) :
    link.generation ≤ generations := by
  cases s with
  | down => cases hl
  | up | closing =>
    cases hl
    exact h.1

/-- Tasks may become ready, and others than the one that looks at the time of grace may be taken away. -/
theorem mono (h : s.Watched ready rung generations) {n : Nat} (more : generations ≤ n)
    (keep : ∀ link closure, s = .closing link closure → .wake link.generation .grace ∈ ready →
      .wake link.generation .grace ∈ tasks) : s.Watched tasks rung n := by
  cases s with
  | down => trivial
  | up link => exact ⟨Nat.le_trans h.1 more, h.2⟩
  | closing link closure => exact ⟨Nat.le_trans h.1 more, h.2.1, h.2.2.imp_left (keep link closure rfl)⟩

theorem tended (h : s.Watched ready rung generations) (tended : s.Tended t) (more : ready ⊆ tasks) :
    t.Watched tasks rung generations := by
  cases tended with
  | down => trivial
  | up tended =>
    obtain ⟨known, ordered, attended, live⟩ := h
    obtain ⟨offers, writer⟩ := tended.writer
    refine ⟨tended.generation ▸ known, tended.ordered ordered, ?_⟩
    rw [writer]
    exact ⟨(Outbox.foldl_offer_attended offers _).trans attended, live⟩
  | closing closure tended =>
    obtain ⟨known, ordered, waited⟩ := h
    rw [← tended.generation] at known waited
    refine ⟨known, tended.ordered ordered, waited.imp (fun there => more there) ?_⟩
    rintro ⟨deadline, set, early, armed⟩
    exact ⟨deadline, set, early, tended.alarms _ armed⟩

end Session.Watched

namespace Robot

/-- The connection that is there is watched, and no alarm has gone off before its time. -/
structure Watched (r : Robot) : Prop where
  rung : r.rung ≤ r.clock
  session : r.session.Watched r.ready r.rung r.generations

variable {may : Privilege → Prop} {r s : Robot} {link : Link} {ds : List Deed}

theorem watched_make {address : String} {settings : Settings} (made : make address settings = .ok r) : Watched r := by
  obtain ⟨address, rfl⟩ := eq_of_make made
  exact ⟨Nat.le_refl 0, trivial⟩

theorem watched_part (rung : r.rung ≤ r.clock) (n : Note) (e : Event) : Watched (r.part n e) := by
  obtain ⟨hearers, told, -, -, same⟩ := r.part_eq n e
  rw [same]
  exact ⟨rung, trivial⟩

theorem Watched.tends (h : Watched r) (tends : Tends r ds s) : Watched s := by
  obtain ⟨tasks, -, ready⟩ := tends.ready
  have more : r.ready ⊆ s.ready := ready ▸ List.subset_append_left _ _
  have session := h.session.tended tends.session more
  have rest := tends.rest
  constructor
  · rw [rest]
    exact h.rung
  · have rung : s.rung = r.rung := by rw [rest]
    have generations : s.generations = r.generations := by rw [rest]
    rw [rung, generations]
    exact session

/-- Nothing has changed that concerns the watch but the tasks. -/
theorem Watched.of_session (h : Watched r) (session : s.session = r.session) (rung : s.rung = r.rung)
    (clock : s.clock = r.clock) (generations : r.generations ≤ s.generations)
    (keep : ∀ link closure, r.session = .closing link closure → .wake link.generation .grace ∈ r.ready →
      .wake link.generation .grace ∈ s.ready) : Watched s := by
  constructor
  · rw [rung, clock]
    exact h.rung
  · rw [session, rung]
    exact h.session.mono generations keep

theorem watched_fresh (h : r.rung ≤ r.clock) : Watched r.fresh := by
  rw [fresh_eq]
  exact ⟨h, Nat.le_refl _, List.Pairwise.nil, rfl, nofun⟩

theorem Watched.act (h : Watched r) (act : Act may r s) : Watched s := by
  cases act with
  | tends tends =>
    obtain ⟨ds, -, tends⟩ := tends
    exact h.tends tends
  | @sink link hl sink =>
    refine ⟨h.rung, ?_⟩
    have session := h.session
    show (r.session.mapLink _).Watched r.ready r.rung r.generations
    obtain hs | ⟨closure, hs⟩ := session_of_link? hl
    all_goals
      rw [hs] at session ⊢
      exact session
  | dialled | called =>
    exact h.of_session rfl rfl rfl (Nat.le_refl _) fun _ _ _ there => List.mem_append_left _ there
  | marked hl marker running progresses | submitted allowed accepted progresses =>
    refine Watched.tends ?_ progresses.tends
    exact h.of_session rfl rfl rfl (Nat.le_refl _) fun _ _ _ there => there
  | took | received | answered | expired | finished | aborted | followed =>
    exact h.of_session rfl rfl rfl (Nat.le_refl _) fun _ _ _ there => there
  | surplus => exact h.of_session rfl rfl rfl (Nat.le_succ _) fun _ _ _ there => there
  | @echoed link closure hs =>
    have session := h.session
    rw [hs] at session
    exact ⟨h.rung, session⟩
  | confirmed | lost | broken | lapsed => exact watched_part (by exact h.rung) _ _
  | @worked allowed link hl ds tells going =>
    refine ⟨h.rung, ?_⟩
    have session := h.session
    show (r.session.mapLink _).Watched r.ready r.rung r.generations
    obtain hs | ⟨closure, hs⟩ := session_of_link? hl
    · rw [hs] at session ⊢
      obtain ⟨known, ordered, attended, live⟩ := session
      have going := Outbox.live_work live going
      exact ⟨known, ordered, ((Outbox.gate_work link.writer).2 going).trans attended, going⟩
    · rw [hs] at session ⊢
      exact session
  | begun hs launched =>
    obtain ⟨calm, hearers, told, -, -, -, tends⟩ := begun_tends launched
    exact (watched_fresh h.rung).tends tends
  | @closing link hs waiter =>
    have session := h.session
    rw [hs] at session
    obtain ⟨known, ordered, attended, -⟩ := session
    obtain ⟨tasks, -, begins⟩ := r.beginDisconnect_eq attended waiter
    rw [begins]
    exact ⟨h.rung, known, ordered, .inl (by simp [partingLink, Link.shut, Link.withOutbox])⟩
  | @watched link closure allowed hs early index here =>
    have session := h.session
    rw [hs] at session
    obtain ⟨known, ordered, -⟩ := session
    exact ⟨h.rung, known, ordered.arm _ _, .inr ⟨_, rfl, early, Agenda.mem_arm.2 (.inl rfl)⟩⟩
  | taken here other =>
    refine h.of_session rfl rfl rfl (Nat.le_refl _) fun link closure hs there => ?_
    exact mem_eraseIdx_of_ne there here (other link closure hs).symm
  | returned here =>
    exact h.of_session rfl rfl rfl (Nat.le_refl _) fun _ _ _ there => mem_eraseIdx_of_ne there here (by simp)

/-- When alarms go off, the one that the end of a closing waits for is among them if it is due. -/
theorem Watched.ring (h : Watched r) : Watched r.ring := by
  obtain ⟨-, session⟩ := h
  unfold Robot.ring onLink
  cases hs : r.session with
  | down =>
    simp only [link?, Session.link?]
    exact ⟨Nat.le_refl _, trivial⟩
  | up link =>
    rw [hs] at session
    obtain ⟨known, ordered, writer⟩ := session
    simp only [link?, Session.link?, withLink, mapLink, Session.mapLink]
    exact ⟨Nat.le_refl _, known, ordered.later _, writer⟩
  | closing link closure =>
    rw [hs] at session
    obtain ⟨known, ordered, waited⟩ := session
    simp only [link?, Session.link?, withLink, mapLink, Session.mapLink]
    refine ⟨Nat.le_refl _, known, ordered.later _, ?_⟩
    rcases waited with ready | ⟨deadline, set, -, armed⟩
    · exact .inl (List.mem_append_left _ ready)
    · by_cases passed : deadline ≤ r.clock
      · exact .inl (List.mem_append_right _ (List.mem_map_of_mem (ordered.mem_due armed passed)))
      · exact .inr ⟨deadline, set, Nat.lt_of_not_le passed, Agenda.mem_later armed (Nat.lt_of_not_le passed)⟩

theorem Watched.abandonCalls (h : Watched r) : Watched r.abandonCalls := by
  refine ⟨h.rung, ?_⟩
  have session := h.session
  show (forgetWaiter r.session).Watched (r.ready.filter fun task => !isCall task) r.rung r.generations
  cases hs : r.session with
  | down => trivial
  | up link =>
    rw [hs] at session
    exact session
  | closing link closure =>
    rw [hs] at session
    obtain ⟨known, ordered, waited⟩ := session
    exact ⟨known, ordered, waited.imp_left fun ready => List.mem_filter.2 ⟨ready, rfl⟩⟩

theorem Watched.quit (h : Watched r) : Watched r.quit := by
  rw [quit_eq]
  exact ⟨h.rung, trivial⟩

theorem Watched.passage (h : Watched r) {kept : Prop} (passage : Passage kept r s) : Watched s := by
  cases passage with
  | act act => exact h.act act
  | tick ms => exact ⟨Nat.le_trans h.rung (Nat.le_add_right _ _), h.session⟩
  | ring => exact h.ring
  | abandon => exact h.abandonCalls
  | quit => exact h.quit

theorem Watched.after (h : Watched r) (moves : List Move) : Watched (r.after moves) :=
  keeps_after False (fun h passage => h.passage passage) moves nofun h

/-- The end of a closing is watched all along. -/
theorem watched_after {address : String} {settings : Settings} {start : Robot}
    (made : make address settings = .ok start) (moves : List Move) : Watched (start.after moves) :=
  (watched_make made).after moves

end Robot

end RobotDriver
