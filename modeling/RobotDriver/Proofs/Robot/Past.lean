import Mathlib.Data.List.Basic
import RobotDriver.Proofs.Robot.Transcript

/-!
# What a driver has behind it

A driver that connects again has a `History`: connections that it has made, time that has gone by, a journal, and the
name that the robot has told. What a driver without a past does, one with a past does later and under other numbers: the
maps here tell how, for everything that the state of a driver is made of, and each operation on timers, alarms and
scheduled commands goes along with them.
-/

namespace RobotDriver

theorem modify_map {α β : Type} {f : α → β} {g : β → β} {h : α → α} (same : ∀ a, g (f a) = f (h a)) (as : List α)
    (i : Nat) : (as.map f).modify i g = (as.modify i h).map f := by
  induction as generalizing i with
  | nil => simp
  | cons a as ih =>
    cases i with
    | zero => simp [same]
    | succ i => simp [ih]

theorem eq_append_of_getElem? {α : Type} {as : List α} {i : Nat} {a : α} (here : as[i]? = some a) :
    as = as.take i ++ a :: as.drop (i + 1) := by
  obtain ⟨there, rfl⟩ := List.getElem?_eq_some_iff.1 here
  rw [← List.drop_eq_getElem_cons there, List.take_append_drop]

/-- What a driver has behind it. -/
structure History where
  /-- The number of connections made. -/
  generations : Nat
  /-- The time that has gone by. -/
  clock : Nat
  name : Option String
  journal : List Deed

namespace History

variable (past : History)

/-! ## Timers and alarms -/

def timer (t : Timer) : Timer :=
  { t with deadline := t.deadline + past.clock }

theorem deadlineAfter (now delay : Nat) :
    Timer.deadlineAfter (now + past.clock) delay = Timer.deadlineAfter now delay + past.clock :=
  Nat.add_right_comm _ _ _

theorem nextDeadline (now : Nat) (period : Period) (deadline : Nat) :
    Timer.nextDeadline (now + past.clock) period (deadline + past.clock) =
      Timer.nextDeadline now period deadline + past.clock := by
  unfold Timer.nextDeadline
  split <;> split <;> omega

theorem catchUp (rung now : Nat) (period : Period) (deadline : Nat) :
    Timer.catchUp (rung + past.clock) (now + past.clock) period (deadline + past.clock) =
      ((Timer.catchUp rung now period deadline).1, (Timer.catchUp rung now period deadline).2 + past.clock) := by
  induction deadline using Timer.catchUp.induct rung now period with
  | case1 deadline early =>
    have sooner : rung + past.clock < deadline + past.clock := Nat.add_lt_add_right early _
    conv => lhs; rw [Timer.catchUp, if_pos sooner]
    conv => rhs; rw [Timer.catchUp, if_pos early]
  | case2 deadline due _ _ _ ih =>
    have later : ¬ rung + past.clock < deadline + past.clock := fun early => due (Nat.lt_of_add_lt_add_right early)
    conv => lhs; rw [Timer.catchUp, if_neg later, nextDeadline, ih]
    conv => rhs; rw [Timer.catchUp, if_neg due]

theorem fire (t : Timer) (rung now : Nat) :
    (past.timer t).fire (rung + past.clock) (now + past.clock) =
      ((t.fire rung now).1, (t.fire rung now).2.map past.timer) := by
  unfold Timer.fire
  cases t with
  | mk deadline period =>
    cases period with
    | none =>
      simp only [timer, Nat.add_lt_add_iff_right]
      split <;> rfl
    | some period => simp [timer, catchUp]

def agenda (a : Agenda Alarm) : Agenda Alarm :=
  { alarms := a.alarms.map fun alarm => (alarm.1 + past.clock, alarm.2) }

theorem arm (a : Agenda Alarm) (deadline : Nat) (alarm : Alarm) :
    (past.agenda a).arm (deadline + past.clock) alarm = past.agenda (a.arm deadline alarm) := by
  suffices inserted : ∀ alarms : List (Nat × Alarm),
      Agenda.insert (deadline + past.clock) alarm (alarms.map fun alarm => (alarm.1 + past.clock, alarm.2)) =
        (Agenda.insert deadline alarm alarms).map fun alarm => (alarm.1 + past.clock, alarm.2) from
    congrArg Agenda.mk (inserted a.alarms)
  intro alarms
  induction alarms with
  | nil => rfl
  | cons first others ih =>
    simp only [List.map_cons, Agenda.insert, Nat.add_le_add_iff_right]
    split
    · rw [ih, List.map_cons]
    · rfl

theorem due (a : Agenda Alarm) (now : Nat) : (past.agenda a).due (now + past.clock) = a.due now := by
  simp [Agenda.due, agenda, List.takeWhile_map, Function.comp_def]

theorem later (a : Agenda Alarm) (now : Nat) :
    (past.agenda a).later (now + past.clock) = past.agenda (a.later now) := by
  simp [Agenda.later, agenda, List.dropWhile_map, Function.comp_def]

/-! ## Scheduled commands -/

def scheduled (task : Scheduler.Task) : Scheduler.Task :=
  { task with timer := task.timer.map past.timer }

def scheduler (s : Scheduler) : Scheduler :=
  { s with tasks := s.tasks.map past.scheduled }

theorem add (s : Scheduler) (item : Outbox.Item) (timer : Timer) :
    (past.scheduler s).add item (past.timer timer) = ((s.add item timer).1, past.scheduler (s.add item timer).2) := by
  simp [Scheduler.add, scheduler, scheduled]

theorem isCancelled (s : Scheduler) (task : Nat) : (past.scheduler s).isCancelled task = s.isCancelled task := by
  unfold Scheduler.isCancelled
  simp only [scheduler, List.getElem?_map]
  cases s.tasks[task]? <;> rfl

theorem modify (s : Scheduler) (task : Nat) {g h : Scheduler.Task → Scheduler.Task}
    (same : ∀ t, g (past.scheduled t) = past.scheduled (h t)) :
    { past.scheduler s with tasks := (past.scheduler s).tasks.modify task g } =
      past.scheduler { s with tasks := s.tasks.modify task h } :=
  congrArg (Scheduler.mk · s.stopped) (modify_map same s.tasks task)

theorem cancelTask (s : Scheduler) (task : Nat) :
    (past.scheduler s).cancelTask task = past.scheduler (s.cancelTask task) := by
  exact past.modify s task fun _ => rfl

theorem look (s : Scheduler) (rung now task : Nat) :
    (past.scheduler s).look (rung + past.clock) (now + past.clock) task =
      ((s.look rung now task).1, (s.look rung now task).2.1.map (· + past.clock),
        past.scheduler (s.look rung now task).2.2) := by
  have here : (past.scheduler s).tasks[task]? = (s.tasks[task]?).map past.scheduled := List.getElem?_map
  unfold Scheduler.look
  rw [isCancelled, here]
  split
  · rfl
  · cases s.tasks[task]? with
    | none => rfl
    | some found =>
      obtain ⟨item, timer, cancelled⟩ := found
      cases timer with
      | none => rfl
      | some timer =>
        simp only [Option.map_some, scheduled, fire]
        refine Prod.ext rfl (Prod.ext ?_ ?_)
        · cases (timer.fire rung now).2 <;> rfl
        · exact past.modify s task fun _ => rfl

/-! ## The connection -/

def link (l : Link) : Link :=
  { l with
    generation := l.generation + past.generations
    scheduler := past.scheduler l.scheduler
    sweep := l.sweep.map past.timer
    agenda := past.agenda l.agenda }

def session : Session → Session
  | .down => .down
  | .up l => .up (past.link l)
  | .closing l closure =>
    .closing (past.link l) { closure with deadline := closure.deadline.map (· + past.clock) }

def entry (e : InFlight.Entry) : InFlight.Entry :=
  { e with sentAt := e.sentAt + past.clock }

def inFlight (q : InFlight) : InFlight :=
  { entries := q.entries.map past.entry }

theorem isOverdue (now timeout : Nat) (e : InFlight.Entry) :
    (past.entry e).isOverdue (now + past.clock) timeout = e.isOverdue now timeout := by
  simp [InFlight.Entry.isOverdue, entry, Nat.add_sub_add_right]

theorem expire (q : InFlight) (now timeout : Nat) : (past.inFlight q).expire (now + past.clock) timeout =
    ((q.expire now timeout).1.map past.entry, past.inFlight (q.expire now timeout).2) := by
  simp [InFlight.expire, inFlight, List.takeWhile_map, List.dropWhile_map, Function.comp_def, isOverdue]

/-! ## The journal -/

def note : Note → Note
  | .connected address g => .connected address (g + past.generations)
  | .transportDropped g => .transportDropped (g + past.generations)
  | .disconnecting g => .disconnecting (g + past.generations)
  | .disconnected g => .disconnected (g + past.generations)
  | .shutdownUnconfirmed g grace => .shutdownUnconfirmed (g + past.generations) grace
  | .closedUnexpectedly g cause => .closedUnexpectedly (g + past.generations) cause
  | .closedWhileDisconnecting g cause => .closedWhileDisconnecting (g + past.generations) cause
  | .handleDropped g => .handleDropped (g + past.generations)
  | n => n

def deed : Deed → Deed
  | .noted n => .noted (past.note n)
  | .took g arrival => .took (g + past.generations) arrival
  | .halted g fault => .halted (g + past.generations) fault
  | .received g packet => .received (g + past.generations) packet
  | .registered g e => .registered (g + past.generations) (past.entry e)
  | .answered g e packet => .answered (g + past.generations) (past.entry e) packet
  | .expired g e => .expired (g + past.generations) (past.entry e)
  | d => d

/-! ## Tasks -/

def task : Task → Task
  | .write g => .write (g + past.generations)
  | .read g => .read (g + past.generations)
  | .wake g alarm => .wake (g + past.generations) alarm
  | task => task

/-- The number of a connection among those that are not past. -/
def since? (g : Nat) : Option Nat :=
  if g ≤ past.generations then none else some (g - past.generations)

/-- What the task is without the past, unless it belongs to a connection that is past. -/
def fresh? : Task → Option Task
  | .write g => (past.since? g).map .write
  | .read g => (past.since? g).map .read
  | .wake g alarm => (past.since? g).map (.wake · alarm)
  | task => some task

theorem since?_add {g : Nat} (live : 0 < g) : past.since? (g + past.generations) = some g := by
  rw [since?, if_neg (by omega), Nat.add_sub_cancel]

theorem since?_eq_some {g n : Nat} (h : past.since? g = some n) : g = n + past.generations ∧ 0 < n := by
  unfold since? at h
  split at h
  · cases h
  · cases h
    omega

theorem fresh?_task {task : Task} (live : ∀ g, task.generation? = some g → 0 < g) :
    past.fresh? (past.task task) = some task := by
  cases task with
  | write g | read g | wake g alarm => simp [fresh?, History.task, past.since?_add (live g rfl)]
  | _ => rfl

theorem fresh?_eq_some {old new : Task} (h : past.fresh? old = some new) :
    old = past.task new ∧ ∀ g, new.generation? = some g → 0 < g := by
  cases old with
  | write n | read n | wake n alarm =>
    obtain ⟨g, since, rfl⟩ := Option.map_eq_some_iff.1 h
    obtain ⟨rfl, live⟩ := past.since?_eq_some since
    refine ⟨rfl, fun g same => ?_⟩
    cases same
    exact live
  | _ =>
    cases h
    exact ⟨rfl, nofun⟩

theorem fresh?_eq_none {old : Task} (h : past.fresh? old = none) :
    ∃ g, old.generation? = some g ∧ g ≤ past.generations := by
  have before {g : Nat} (h : past.since? g = none) : g ≤ past.generations := by
    unfold since? at h
    split at h
    · assumption
    · cases h
  cases old with
  | write g | read g | wake g alarm => exact ⟨g, rfl, before (Option.map_eq_none_iff.1 h)⟩
  | _ => cases h

/-- The place of a task among those that do not belong to connections that are past. -/
def place (ready : List Task) (index : Nat) : Nat :=
  ((ready.take index).filterMap past.fresh?).length

/-! ## The driver -/

/-- The driver `t` with this past, given the tasks that are ready and the scheduled commands. -/
def robot (t : Robot) (ready : List Task) (schedule : List (Nat × Nat)) : Robot :=
  { t with
    session := past.session t.session
    inFlight := past.inFlight t.inFlight
    name := t.name.or past.name
    generations := t.generations + past.generations
    clock := t.clock + past.clock
    rung := t.rung + past.clock
    ready
    schedule
    journal := past.journal ++ t.journal.map past.deed }

end History

namespace Robot

/-- Nothing belongs to a connection that is still to come, and connections are counted from one. -/
structure Numbered (r : Robot) : Prop where
  link : ∀ link, r.link? = some link → 0 < link.generation ∧ link.generation ≤ r.generations
  ready : ∀ task ∈ r.ready, ∀ g, task.generation? = some g → g ≤ r.generations
  schedule : ∀ plan ∈ r.schedule, plan.1 ≤ r.generations

end Robot

/-- `s` is `t` with a past: tasks of connections that are past may be ready in between, and scheduled commands of such
connections are known. -/
inductive History.Renews (past : History) : Robot → Robot → Prop
  | intro {t : Robot} {ready : List Task} {schedule : List (Nat × Nat)}
      (fresh : ready.filterMap past.fresh? = t.ready)
      (plans : schedule.map (fun plan => (plan.1 - past.generations, plan.2)) = t.schedule) (numbered : t.Numbered) :
      Renews past (past.robot t ready schedule) t

namespace History.Renews

variable {past : History} {s t : Robot} {link : Link}

/-! ## What is the same -/

theorem numbered (h : past.Renews s t) : t.Numbered := by
  cases h with | intro _ _ numbered => exact numbered

theorem fresh (h : past.Renews s t) : s.ready.filterMap past.fresh? = t.ready := by
  cases h with | intro fresh => exact fresh

theorem session (h : past.Renews s t) : s.session = past.session t.session := by
  cases h
  rfl

theorem link? (h : past.Renews s t) : s.link? = t.link?.map past.link := by
  cases h with | @intro t ready schedule fresh plans numbered =>
  show (past.session t.session).link? = t.session.link?.map past.link
  cases t.session <;> rfl

theorem kept (h : past.Renews s t) : s.address = t.address ∧ s.settings = t.settings ∧ s.upload = t.upload ∧
    s.shadow = t.shadow ∧ s.audience = t.audience ∧ s.dialler = t.dialler ∧ s.calls = t.calls ∧
    s.dropped = t.dropped := by
  cases h
  exact ⟨rfl, rfl, rfl, rfl, rfl, rfl, rfl, rfl⟩

theorem clock (h : past.Renews s t) : s.clock = t.clock + past.clock ∧ s.rung = t.rung + past.clock := by
  cases h
  exact ⟨rfl, rfl⟩

theorem current? (h : past.Renews s t) (g : Nat) :
    s.current? (g + past.generations) = (t.current? g).map past.link := by
  unfold Robot.current?
  rw [h.link?]
  cases t.link? with
  | none => rfl
  | some link =>
    simp only [Option.map_some, Option.filter_some, History.link]
    have same : (link.generation + past.generations == g + past.generations) = (link.generation == g) := by
      rw [Bool.eq_iff_iff, beq_iff_eq, beq_iff_eq, Nat.add_right_cancel_iff]
    rw [same]
    split <;> rfl

/-- A connection that is past is gone. -/
theorem current?_of_past (h : past.Renews s t) {g : Nat} (old : g ≤ past.generations) : s.current? g = none := by
  unfold Robot.current?
  rw [h.link?]
  cases hl : t.link? with
  | none => rfl
  | some link =>
    have live := (h.numbered.link link hl).1
    rw [Option.map_some, Option.filter_some, if_neg]
    simp only [History.link, beq_iff_eq]
    omega

/-! ## Small steps -/

/-- Something changes that the past has nothing to do with. -/
theorem of_kept {s' t' : Robot} (h : past.Renews s t) (change : ∀ ready schedule, s = past.robot t ready schedule →
    s' = past.robot t' ready schedule) (session : t'.session = t.session) (ready : t'.ready = t.ready)
    (schedule : t'.schedule = t.schedule) (generations : t'.generations = t.generations) : past.Renews s' t' := by
  cases h with | @intro t rs ss fresh plans numbered =>
  rw [change rs ss rfl]
  refine .intro (fresh.trans ready.symm) (plans.trans schedule.symm) ⟨?_, ?_, ?_⟩
  · unfold Robot.link?
    rw [session, generations]
    exact numbered.link
  · rw [ready, generations]
    exact numbered.ready
  · rw [schedule, generations]
    exact numbered.schedule

theorem recordAll (h : past.Renews s t) (ds : List Deed) :
    past.Renews (s.recordAll (ds.map past.deed)) (t.recordAll ds) := by
  refine h.of_kept (fun ready schedule same => ?_) rfl rfl rfl rfl
  rw [same]
  simp [Robot.recordAll, robot]

theorem record (h : past.Renews s t) (d : Deed) : past.Renews (s.record (past.deed d)) (t.record d) :=
  h.recordAll [d]

theorem note (h : past.Renews s t) (n : Note) : past.Renews (s.note (past.note n)) (t.note n) :=
  h.record (.noted n)

/-- Tasks become ready. -/
theorem spawnAll (h : past.Renews s t) (tasks : List Task)
    (known : ∀ task ∈ tasks, ∀ g, task.generation? = some g → 0 < g ∧ g ≤ t.generations) :
    past.Renews { s with ready := s.ready ++ tasks.map past.task } { t with ready := t.ready ++ tasks } := by
  cases h with | @intro t ready schedule fresh plans numbered =>
  have more : (ready ++ tasks.map past.task).filterMap past.fresh? = t.ready ++ tasks := by
    rw [List.filterMap_append, fresh, List.filterMap_map]
    refine congrArg _ ((List.filterMap_congr fun task there => ?_).trans List.filterMap_some)
    exact past.fresh?_task fun g own => (known task there g own).1
  refine @intro past { t with ready := t.ready ++ tasks } _ _ more plans
    ⟨numbered.link, fun other there => ?_, numbered.schedule⟩
  rcases List.mem_append.1 there with there | there
  · exact numbered.ready other there
  · exact fun g own => (known other there g own).2

theorem spawn (h : past.Renews s t) (task : Task)
    (known : ∀ g, task.generation? = some g → 0 < g ∧ g ≤ t.generations) :
    past.Renews (s.spawn (past.task task)) (t.spawn task) :=
  h.spawnAll [task] (List.forall_mem_singleton.2 known)

theorem contains (h : past.Renews s t) {task : Task} (live : ∀ g, task.generation? = some g → 0 < g) :
    s.ready.contains (past.task task) = t.ready.contains task := by
  cases h with | @intro t ready schedule fresh plans numbered =>
  rw [Bool.eq_iff_iff, List.contains_iff_mem, List.contains_iff_mem, ← fresh, List.mem_filterMap]
  refine ⟨fun there => ⟨_, there, past.fresh?_task live⟩, ?_⟩
  rintro ⟨old, there, same⟩
  rw [← (past.fresh?_eq_some same).1]
  exact there

theorem rouse (h : past.Renews s t) (task : Task)
    (known : ∀ g, task.generation? = some g → 0 < g ∧ g ≤ t.generations) :
    past.Renews (s.rouse (past.task task)) (t.rouse task) := by
  unfold Robot.rouse
  rw [h.contains fun g own => (known g own).1]
  split
  · exact h
  · exact h.spawn task known

/-- A task of a connection that is past does nothing. -/
theorem run_stale (h : past.Renews s t) {task : Task} (stale : past.fresh? task = none) : s.run task = s := by
  obtain ⟨g, own, old⟩ := past.fresh?_eq_none stale
  exact Robot.run_stale own (h.current?_of_past old)

/-- A task of a connection that is past is not missed. -/
theorem erase_stale (h : past.Renews s t) {index : Nat} {task : Task} (here : s.ready[index]? = some task)
    (stale : past.fresh? task = none) : past.Renews { s with ready := s.ready.eraseIdx index } t := by
  cases h with | @intro t ready schedule fresh plans numbered =>
  have split : ready = ready.take index ++ task :: ready.drop (index + 1) := eq_append_of_getElem? here
  have rest : (ready.eraseIdx index).filterMap past.fresh? = t.ready := by
    rw [split, List.filterMap_append, List.filterMap_cons_none stale, ← List.filterMap_append] at fresh
    rw [List.eraseIdx_eq_take_drop_succ, fresh]
  exact .intro rest plans numbered

theorem erase_fresh (h : past.Renews s t) {index : Nat} {old new : Task} (here : s.ready[index]? = some old)
    (own : past.fresh? old = some new) : t.ready[past.place s.ready index]? = some new ∧
      past.Renews { s with ready := s.ready.eraseIdx index }
        { t with ready := t.ready.eraseIdx (past.place s.ready index) } := by
  cases h with | @intro t ready schedule fresh plans numbered =>
  have split : ready = ready.take index ++ old :: ready.drop (index + 1) := eq_append_of_getElem? here
  have split : t.ready = (ready.take index).filterMap past.fresh? ++
      new :: (ready.drop (index + 1)).filterMap past.fresh? := by
    rw [← fresh, ← List.filterMap_cons_some own, ← List.filterMap_append, ← split]
  have rest : t.ready.eraseIdx ((ready.take index).filterMap past.fresh?).length =
      (ready.eraseIdx index).filterMap past.fresh? := by
    rw [split, List.eraseIdx_append_of_length_le (Nat.le_refl _), Nat.sub_self, List.eraseIdx_cons_zero,
      List.eraseIdx_eq_take_drop_succ, List.filterMap_append]
  refine ⟨?_, @intro past { t with ready := _ } _ _ rest.symm plans
    ⟨numbered.link, fun task there => ?_, numbered.schedule⟩⟩
  · show t.ready[((ready.take index).filterMap past.fresh?).length]? = some new
    rw [split, List.getElem?_append_right (Nat.le_refl _), Nat.sub_self, List.getElem?_cons_zero]
  · exact numbered.ready task (List.mem_of_mem_eraseIdx there)

theorem mapLink (h : past.Renews s t) {f f' : Link → Link}
    (same : ∀ link, t.link? = some link → f' (past.link link) = past.link (f link))
    (own : ∀ link, t.link? = some link → (f link).generation = link.generation) :
    past.Renews (s.mapLink f') (t.mapLink f) := by
  cases h with | @intro t ready schedule fresh plans numbered =>
  have mapped : (past.session t.session).mapLink f' = past.session (t.session.mapLink f) := by
    unfold Robot.link? at same
    cases hs : t.session with
    | down => rfl
    | up link =>
      rw [hs] at same
      exact congrArg Session.up (same link rfl)
    | closing link closure =>
      rw [hs] at same
      exact congrArg (Session.closing · _) (same link rfl)
  have all : (past.robot t ready schedule).mapLink f' = past.robot (t.mapLink f) ready schedule := by
    simp only [Robot.mapLink, robot, mapped]
  rw [all]
  refine .intro fresh plans ⟨fun next hn => ?_, numbered.ready, numbered.schedule⟩
  have there : (t.link?.map f) = some next := by
    rw [← hn]
    exact (Session.link?_mapLink f t.session).symm
  obtain ⟨link, hl, rfl⟩ := Option.map_eq_some_iff.1 there
  rw [own link hl]
  exact numbered.link link hl

theorem withLink (h : past.Renews s t) (hl : t.link? = some link) {next : Link}
    (own : next.generation = link.generation) : past.Renews (s.withLink (past.link next)) (t.withLink next) :=
  h.mapLink (fun _ _ => rfl) fun other ho => by
    rw [hl] at ho
    exact own.trans (congrArg Link.generation (Option.some.inj ho))

theorem onLink (h : past.Renews s t) {f : Robot → Link → Robot}
    (step : ∀ link, t.link? = some link → past.Renews (f s (past.link link)) (f t link)) :
    past.Renews (s.onLink f) (t.onLink f) := by
  unfold Robot.onLink
  rw [h.link?]
  cases hl : t.link? with
  | none => exact h
  | some link => exact step link hl

theorem onCurrent (h : past.Renews s t) {g : Nat} {f : Robot → Link → Robot}
    (step : ∀ link, t.link? = some link → past.Renews (f s (past.link link)) (f t link)) :
    past.Renews (s.onCurrent (g + past.generations) f) (t.onCurrent g f) := by
  unfold Robot.onCurrent
  rw [h.current?]
  cases current : t.current? g with
  | none => exact h
  | some link => exact step link (Robot.current?_eq_some.1 current).1

theorem foldl {α : Type} {f f' : Robot → α → Robot}
    (step : ∀ {s t}, past.Renews s t → ∀ a, past.Renews (f' s a) (f t a))
    (h : past.Renews s t) (as : List α) : past.Renews (as.foldl f' s) (as.foldl f t) := by
  induction as generalizing s t with
  | nil => exact h
  | cons a as ih => exact ih (step h a)

end History.Renews

end RobotDriver
