import RobotDriver.Proofs.Robot.Minding
import RobotDriver.Proofs.Scheduler

/-!
# The numbers of scheduled commands

The commands that are scheduled on a connection are numbered, and the user has the numbers of some of them. `Disposes`
lists what a move can mean for scheduled commands if it looks at none of them; `Listed` is what holds of the numbers in
every run, so that no number that the user has is ever that of a command that the driver schedules for itself.
-/

namespace RobotDriver

/-- The connection after a scheduled command has had its turn: what it sends is offered to the queue, and the alarm is
set if it goes on. -/
def Link.looked (l : Link) (rung now task : Nat) : Link :=
  let turn := l.scheduler.look rung now task
  let sent := { l with scheduler := turn.2.2 }.withOutbox (turn.1.foldl Outbox.offer l.outbox)
  match turn.2.1 with
  | none => sent
  | some deadline => sent.arm deadline (.timer task)

namespace Link

variable (l : Link) (rung now task : Nat)

@[simp] theorem generation_looked : (l.looked rung now task).generation = l.generation := by
  unfold looked
  dsimp only
  split <;> rfl

@[simp] theorem scheduler_looked : (l.looked rung now task).scheduler = (l.scheduler.look rung now task).2.2 := by
  unfold looked
  dsimp only
  split <;> rfl

theorem outbox_looked :
    (l.looked rung now task).outbox = (l.scheduler.look rung now task).1.foldl Outbox.offer l.outbox := by
  unfold looked
  dsimp only
  split <;> rfl

theorem mem_looked {a : Nat × Alarm} : a ∈ (l.looked rung now task).agenda.alarms ↔
    (∃ deadline, (l.scheduler.look rung now task).2.1 = some deadline ∧ a = (deadline, .timer task)) ∨
      a ∈ l.agenda.alarms := by
  unfold looked
  dsimp only
  split
  · next none => simp [none, withOutbox]
  · next deadline some =>
    simp only [some, Option.some.injEq, exists_eq_left']
    exact Agenda.mem_arm

end Link

namespace Robot

variable {r s : Robot} {link : Link}

/-- The number of the scheduled command of a connection that a move looks at. -/
def looked? (g : Nat) (r : Robot) : Move → Option Nat
  | .run index =>
    match r.ready[index]? with
    | some (.wake n (.timer task)) => if n = g then some task else none
    | _ => none
  | _ => none

/-- What a move can mean for scheduled commands if it looks at none of them. -/
inductive Disposes (r : Robot) : Robot → Prop
  | minds {s : Robot} (h : Minds r s) : Disposes r s
  /-- The user schedules a command. -/
  | listed {link : Link} (hl : r.link? = some link) (item : Outbox.Item) (timer : Timer) :
      Disposes r { (r.plan link item timer).2 with
        schedule := r.schedule ++ [(link.generation, link.scheduler.tasks.length)] }
  /-- The user cancels a command that the user has scheduled. -/
  | cancelled {link : Link} (hl : r.link? = some link) {task : Nat} (listed : (link.generation, task) ∈ r.schedule) :
      Disposes r (r.withLink { link with scheduler := link.scheduler.cancelTask task })
  | rung : Disposes r r.ring

theorem disposes_schedulePlan (r : Robot) (command : Command) (timer : Timer) :
    Disposes r (r.schedulePlan command timer).2 := by
  unfold schedulePlan
  split
  · exact .minds (.refl r)
  · next hl => exact .listed hl ⟨command, false⟩ timer

theorem disposes_cancelPlan (r : Robot) (number : Nat) : Disposes r (r.cancelPlan number) := by
  unfold cancelPlan
  split
  · exact .minds (.refl r)
  · next here =>
    refine onCurrent_cases (.minds (.refl r)) fun link hl own => ?_
    subst own
    exact .cancelled hl (List.mem_of_getElem? here)

theorem disposes_perform (r : Robot) {step : Step} (single : step.isSingle = true) : Disposes r (r.perform step).2 :=
  ample_minds.perform .minds (disposes_schedulePlan r) (disposes_cancelPlan r) single

theorem disposes_move (r : Robot) {m : Move} (single : m.isSingle = true)
    (unlooked : ∀ link, r.link? = some link → looked? link.generation r m = none) : Disposes r (r.move m) := by
  cases m with
  | perform step => exact disposes_perform r single
  | tick ms => exact .minds (.of_eq rfl rfl rfl rfl rfl)
  | ring => exact .rung
  | abandon => exact .minds (ample_minds.abandonCalls r)
  | quit => exact .minds (ample_minds.quit r)
  | run index =>
    simp only [move]
    split
    · exact .minds (.refl r)
    · next task here =>
      have other (link : Link) (n : Nat) (hl : r.link? = some link) : task ≠ .wake link.generation (.timer n) := by
        rintro rfl
        have looked := unlooked link hl
        simp [looked?, here] at looked
      have taken := minds_taken here other
      by_cases wakes : ∃ g n, task = .wake g (.timer n)
      · -- The command was scheduled on a connection that is gone.
        obtain ⟨g, n, rfl⟩ := wakes
        have gone : { r with ready := r.ready.eraseIdx index }.current? g = none := by
          refine Option.eq_none_iff_forall_ne_some.2 fun link current => ?_
          obtain ⟨hl, rfl⟩ := current?_eq_some.1 current
          exact other link n hl rfl
        rw [run_stale rfl gone]
        exact .minds taken
      · exact .minds (taken.trans (ample_minds.run _ fun g n same => wakes ⟨g, n, same⟩))

/-- A scheduled command has its turn. -/
theorem move_looked {m : Move} {n : Nat} (hl : r.link? = some link) (looked : looked? link.generation r m = some n) :
    ∃ index, r.ready[index]? = some (.wake link.generation (.timer n)) ∧
      r.move m = { r with ready := r.ready.eraseIdx index }.runTimer link n := by
  cases m with
  | run index =>
    simp only [looked?] at looked
    split at looked
    · next g task here =>
      split at looked
      · next same =>
        obtain rfl := Option.some.inj looked
        subst same
        have current : { r with ready := r.ready.eraseIdx index }.current? link.generation = some link :=
          current?_of_link hl
        refine ⟨index, here, ?_⟩
        simp only [move_run here, run, onCurrent, current, runAlarm]
      · cases looked
    · cases looked
  | _ => cases looked

/-! ## The turn of a command -/

theorem session_runTimer (hl : r.link? = some link) (n : Nat) :
    (r.runTimer link n).session = r.session.mapLink fun link => link.looked r.rung r.clock n := by
  have sent : ((r.withLink { link with scheduler := (link.scheduler.look r.rung r.clock n).2.2 }).enqueueAll
      (link.scheduler.look r.rung r.clock n).1).session = r.session.mapLink fun link =>
        { link with scheduler := (link.scheduler.look r.rung r.clock n).2.2 }.withOutbox
          ((link.scheduler.look r.rung r.clock n).1.foldl Outbox.offer link.outbox) := by
    rw [session_enqueueAll]
    show (r.session.mapLink _).mapLink _ = _
    rw [Session.mapLink_mapLink]
    exact Session.mapLink_congr hl rfl
  unfold runTimer rearm
  dsimp only
  split
  · next none =>
    refine sent.trans (Session.mapLink_congr hl ?_)
    simp only [Link.looked, none]
  · next deadline some =>
    show (Robot.session _).mapLink _ = _
    rw [sent, Session.mapLink_mapLink]
    refine Session.mapLink_congr hl ?_
    simp only [Link.looked, some]

/-- What a scheduled command sends enters the queue of a connection that is in use. -/
theorem entered_runTimer (gated : Gated r) (hs : r.session = .up link) (n : Nat) :
    entered link.generation r (r.runTimer link n) = (link.scheduler.look r.rung r.clock n).1 := by
  have hl : r.link? = some link := link?_of_up hs
  have there : (r.runTimer link n).link? = some (link.looked r.rung r.clock n) := by
    rw [link?, session_runTimer hl, hs]
    rfl
  obtain ⟨⟨-, watched⟩, accepting⟩ := gated
  rw [hs] at watched accepting
  have queue : (link.looked r.rung r.clock n).outbox.queue =
      link.outbox.queue ++ (link.scheduler.look r.rung r.clock n).1 := by
    rw [Link.outbox_looked, Outbox.foldl_offer_of_open _ accepting watched.2.2.1]
  have current := current?_of_link there
  rw [Link.generation_looked] at current
  rw [entered, queueOf_current current, queueOf_current (current?_of_link hl), queue, List.drop_left]

/-! ## Numbers -/

theorem session_of_withLink {next after : Link} (hl : r.link? = some link) (up : (r.withLink next).session = .up after) :
    r.session = .up link ∧ after = next := by
  unfold withLink mapLink at up
  obtain hs | ⟨closure, hs⟩ := session_of_link? hl
  · rw [hs] at up
    exact ⟨hs, (Session.up.inj up).symm⟩
  · rw [hs] at up
    cases up

/-- The user has the numbers of commands of this connection or of earlier ones, and the scheduler of a connection in use
has not stopped. -/
structure Listed (r : Robot) : Prop where
  known : ∀ plan ∈ r.schedule, plan.1 ≤ r.generations
  going : ∀ link, r.session = .up link → link.scheduler.stopped = false
  numbers : ∀ link, r.session = .up link → ∀ n, (link.generation, n) ∈ r.schedule → n < link.scheduler.tasks.length

theorem listed_make {address : String} {settings : Settings} (made : make address settings = .ok r) : Listed r := by
  obtain ⟨address, rfl⟩ := eq_of_make made
  refine ⟨fun _ there => ?_, fun _ up => ?_, fun _ up => ?_⟩
  · cases there
  · cases up
  · cases up

theorem Listed.minds (h : Listed r) (minds : Minds r s) : Listed s := by
  refine ⟨fun plan there => ?_, fun next up => ?_, fun next up n there => ?_⟩
  · rw [minds.schedule] at there
    exact Nat.le_trans (h.known plan there) minds.generations
  · rcases minds.session next up with ⟨link, up, same, -⟩ | ⟨-, going⟩
    · exact same.stopped.trans (h.going link up)
    · exact going
  · rw [minds.schedule] at there
    rcases minds.session next up with ⟨link, up, same, -⟩ | ⟨newer, -⟩
    · rw [same.generation] at there
      exact Nat.lt_of_lt_of_le (h.numbers link up n there) same.tasks.length_le
    · have := h.known _ there
      omega

/-- The scheduler of the connection changes, but it neither stops nor loses commands. -/
theorem Listed.withLink (h : Listed r) (hl : r.link? = some link) {scheduler : Scheduler}
    (stopped : scheduler.stopped = link.scheduler.stopped)
    (length : scheduler.tasks.length = link.scheduler.tasks.length) : Listed (r.withLink { link with scheduler }) := by
  refine ⟨h.known, fun next up => ?_, fun next up n there => ?_⟩
  · obtain ⟨used, rfl⟩ := session_of_withLink hl up
    exact stopped.trans (h.going link used)
  · obtain ⟨used, rfl⟩ := session_of_withLink hl up
    exact Nat.lt_of_lt_of_eq (h.numbers link used n there) length.symm

theorem Listed.disposes (h : Listed r) (watched : Watched r) (disposes : Disposes r s) : Listed s := by
  cases disposes with
  | minds minds => exact h.minds minds
  | @listed link hl item timer =>
    have planned := h.minds (ample_minds.plan hl item timer)
    refine ⟨fun plan there => ?_, planned.going, fun next up n there => ?_⟩
    · rcases List.mem_append.1 there with old | new
      · exact planned.known plan old
      · rw [List.mem_singleton.1 new]
        exact watched.session.known hl
    · rcases List.mem_append.1 there with old | new
      · exact planned.numbers next up n old
      · obtain ⟨-, rfl⟩ := session_of_withLink hl up
        obtain ⟨-, rfl⟩ := Prod.mk.inj (List.mem_singleton.1 new)
        simp
  | cancelled hl => exact h.withLink hl rfl (List.length_modify _ _ _)
  | rung =>
    obtain ⟨tasks, rings⟩ := r.ring_eq
    have before {next : Link} (up : r.ring.session = .up next) : ∃ link, r.session = .up link ∧
        next.generation = link.generation ∧ next.scheduler = link.scheduler := by
      rw [rings] at up
      cases hs : r.session with
      | down | closing => simp [hs, Session.mapLink] at up
      | up link =>
        simp only [hs, Session.mapLink, Session.up.injEq] at up
        subst up
        exact ⟨link, rfl, rfl, rfl⟩
    have schedule : r.ring.schedule = r.schedule := by rw [rings]
    refine ⟨fun plan there => ?_, fun next up => ?_, fun next up n there => ?_⟩
    · rw [rings]
      exact h.known plan (schedule ▸ there)
    · obtain ⟨link, up, -, same⟩ := before up
      rw [same]
      exact h.going link up
    · obtain ⟨link, up, generation, same⟩ := before up
      rw [schedule, generation] at there
      rw [same]
      exact h.numbers link up n there

theorem Listed.runTimer (h : Listed r) (hl : r.link? = some link) (n : Nat) : Listed (r.runTimer link n) := by
  obtain ⟨stopped, length⟩ := link.scheduler.look_same r.rung r.clock n
  exact ((h.withLink hl stopped length).minds (ample_minds.enqueueAll _ _)).minds (ample_minds.rearm _ _ _)

theorem Listed.move (h : Listed r) (watched : Watched r) {m : Move} (single : m.isSingle = true) :
    Listed (r.move m) := by
  by_cases looked : ∃ link n, r.link? = some link ∧ looked? link.generation r m = some n
  · obtain ⟨link, n, hl, looked⟩ := looked
    obtain ⟨index, -, turn⟩ := move_looked hl looked
    rw [turn]
    have taken : Listed { r with ready := r.ready.eraseIdx index } := ⟨h.known, h.going, h.numbers⟩
    exact taken.runTimer hl n
  · refine h.disposes watched (disposes_move r single fun link hl => ?_)
    exact Option.eq_none_iff_forall_ne_some.2 fun n there => looked ⟨link, n, hl, there⟩

theorem Listed.after (h : Listed r) (gated : Gated r) (moves : List Move) (single : ∀ m ∈ moves, m.isSingle = true) :
    Listed (r.after moves) := by
  induction moves generalizing r with
  | nil => exact h
  | cons m moves ih =>
    obtain ⟨first, rest⟩ := List.forall_mem_cons.1 single
    exact ih (h.move gated.watched first) ((strides_move r first).gated gated) rest

end Robot

end RobotDriver
