import RobotDriver.Proofs.Robot.Ample
import RobotDriver.Proofs.Robot.Hearing

/-!
# What leaves scheduled commands alone

A scheduled command is sent when its timer is looked at; it goes with its connection, and the user may cancel the
commands that the user has scheduled. Whatever else a driver does leaves it alone: `Minds` says so of two states, and
it is ample (`ample_minds`).
-/

namespace RobotDriver

/-- The scheduler goes on: commands may have been scheduled behind the others, and no alarm is lost. -/
structure Link.Minds (before after : Link) : Prop where
  generation : after.generation = before.generation
  tasks : before.scheduler.tasks <+: after.scheduler.tasks
  stopped : after.scheduler.stopped = before.scheduler.stopped
  alarms : ∀ a ∈ before.agenda.alarms, a ∈ after.agenda.alarms

namespace Link.Minds

variable {l m n : Link}

theorem of_eq (generation : m.generation = l.generation) (scheduler : m.scheduler = l.scheduler)
    (agenda : m.agenda = l.agenda) : l.Minds m :=
  ⟨generation, scheduler ▸ List.prefix_rfl, scheduler ▸ rfl, agenda ▸ fun _ there => there⟩

theorem refl (l : Link) : l.Minds l :=
  .of_eq rfl rfl rfl

theorem trans (h : l.Minds m) (k : m.Minds n) : l.Minds n :=
  ⟨k.generation.trans h.generation, h.tasks.trans k.tasks, k.stopped.trans h.stopped,
    fun a there => k.alarms a (h.alarms a there)⟩

end Link.Minds

/-- What lasts is minded. -/
theorem Link.Lasts.minds {before after : Link} (h : before.Lasts after) : before.Minds after :=
  ⟨h.generation, h.tasks, h.stopped, h.alarms⟩

namespace Robot

/-- From `r` to `s` no scheduled command has been sent or lost on a connection that is still in use. -/
structure Minds (r s : Robot) : Prop where
  generations : r.generations ≤ s.generations
  schedule : s.schedule = r.schedule
  /-- The connection in use was there before, or it is a new one. -/
  session : ∀ next, s.session = .up next →
    (∃ link, r.session = .up link ∧ link.Minds next ∧ s.rung = r.rung ∧
      ∀ n, .wake link.generation (.timer n) ∈ r.ready → .wake link.generation (.timer n) ∈ s.ready) ∨
    r.generations < next.generation ∧ next.scheduler.stopped = false

variable {r s t : Robot} {link : Link} {ds : List Deed}

namespace Minds

theorem trans (h : Minds r s) (k : Minds s t) : Minds r t := by
  refine ⟨Nat.le_trans h.generations k.generations, k.schedule.trans h.schedule, fun last up => ?_⟩
  rcases k.session last up with ⟨next, up, minds, rung, ready⟩ | ⟨newer, going⟩
  · rcases h.session next up with ⟨link, up, first, rung', ready'⟩ | ⟨newer, going⟩
    · refine .inl ⟨link, up, first.trans minds, rung.trans rung', fun n there => ?_⟩
      have kept := ready n
      rw [first.generation] at kept
      exact kept (ready' n there)
    · exact .inr ⟨minds.generation ▸ newer, minds.stopped.trans going⟩
  · exact .inr ⟨Nat.lt_of_le_of_lt h.generations newer, going⟩

/-- The connection changes in what does not concern its scheduled commands. -/
theorem of_mapLink {f : Link → Link} (session : s.session = r.session.mapLink f)
    (minds : ∀ link, r.link? = some link → link.Minds (f link))
    (generations : r.generations ≤ s.generations) (rung : s.rung = r.rung) (schedule : s.schedule = r.schedule)
    (ready : ∀ task ∈ r.ready, isCall task = false → task ∈ s.ready) : Minds r s := by
  refine ⟨generations, schedule, fun next up => ?_⟩
  rw [session] at up
  cases hs : r.session with
  | down | closing => rw [hs] at up; cases up
  | up link =>
    rw [hs] at up
    cases up
    exact .inl ⟨link, rfl, minds link (link?_of_up hs), rung, fun n there => ready _ there rfl⟩

theorem of_session (session : s.session = r.session) (generations : r.generations ≤ s.generations)
    (rung : s.rung = r.rung) (schedule : s.schedule = r.schedule)
    (ready : ∀ task ∈ r.ready, isCall task = false → task ∈ s.ready) : Minds r s :=
  .of_mapLink (session.trans r.session.mapLink_id.symm) (fun link _ => .refl link) generations rung schedule ready

theorem of_eq (session : s.session = r.session) (generations : s.generations = r.generations) (rung : s.rung = r.rung)
    (schedule : s.schedule = r.schedule) (ready : s.ready = r.ready) : Minds r s :=
  .of_session session (Nat.le_of_eq generations.symm) rung schedule fun _ there _ => ready ▸ there

theorem refl (r : Robot) : Minds r r :=
  .of_eq rfl rfl rfl rfl rfl

/-- No connection is in use. -/
theorem of_unused (unused : s.session.isUp = false) (generations : r.generations ≤ s.generations)
    (schedule : s.schedule = r.schedule) : Minds r s :=
  ⟨generations, schedule, fun next up => by rw [up] at unused; cases unused⟩

end Minds

/-- Nothing is scheduled on a new connection but what keeps it alive. -/
theorem minds_launched (r : Robot) : Minds r r.launched := by
  obtain ⟨link, tasks, launched, generation, going, -⟩ := r.launched_eq
  rw [launched, fresh_eq]
  refine ⟨Nat.le_succ _, rfl, fun next up => .inr ?_⟩
  cases up
  exact ⟨generation ▸ Nat.lt_succ_self _, going⟩

theorem minds_beginDisconnect (r : Robot) (link : Link) (waiter : Option Nat) :
    Minds r (r.beginDisconnect link waiter) := by
  obtain ⟨ds, -, send, ready, forced⟩ :=
    (sends_force { r with session := .closing link.shut { waiter } } finalStop).trans (sends_force _ finalDark)
  have same : r.beginDisconnect link waiter =
      ((({ r with session := .closing link.shut { waiter } }.force finalStop).force finalDark).note
        (.disconnecting link.generation)).spawn (.wake link.generation .grace) := rfl
  rw [same, forced]
  exact .of_unused rfl (Nat.le_refl _) rfl

/-- Whatever a driver does of itself leaves the scheduled commands alone. -/
theorem ample_minds : Ample Minds where
  refl := .refl
  trans := .trans
  aside session generations rung schedule _ ready := .of_session session generations rung schedule ready
  recordAll _ _ _ := .of_eq rfl rfl rfl rfl rfl
  mapLink r _ lasts :=
    .of_mapLink rfl (fun link hl => (lasts link hl).minds) (Nat.le_refl _) rfl rfl fun _ there _ => there
  reply _ _ _ sent := sent.trans (.of_eq rfl rfl rfl rfl rfl)
  begin _ := (minds_launched _).trans (.of_eq rfl rfl rfl rfl rfl)
  close _ waiter := minds_beginDisconnect _ _ waiter
  linger _ _ := .of_unused rfl (Nat.le_refl _) rfl
  leave _ session generations schedule _ := .of_unused (by rw [session]; rfl) generations schedule

/-- A task is taken up that is not the turn of a scheduled command. -/
theorem minds_taken {index : Nat} {task : Task} (here : r.ready[index]? = some task)
    (other : ∀ (link : Link) (n : Nat), r.link? = some link → task ≠ .wake link.generation (.timer n)) :
    Minds r { r with ready := r.ready.eraseIdx index } := by
  refine ⟨Nat.le_refl _, rfl, fun next up => .inl ⟨next, up, .refl next, rfl, fun n there => ?_⟩⟩
  have hl : r.link? = some next := link?_of_up up
  exact mem_eraseIdx_of_ne there here (other next n hl).symm

end Robot

end RobotDriver
