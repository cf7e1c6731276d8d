import Mathlib.Data.List.Basic
import RobotDriver.Proofs.Scheduler.Cancelling
import RobotDriver.Total

/-!
# Each timer by itself

What a task sends when it is looked at does not depend on the others that are looked at along with it (`firesAll_eq`,
`tasks_foldl_look`). Between requests every task that goes on is armed once, for a deadline that lies ahead (`Wound`);
so on each request its timer is looked at once at the time that it is then, whether or not it is called, and the task
sends as often as the timer fires (`Wound.step_task`).
-/

namespace RobotDriver.Clockwork

variable {c : Clockwork} {i : Nat} {item : Outbox.Item} {left : Option Timer}

/-! ## Looks do not depend on each other -/

/-- To look at one task leaves the others what they send. -/
theorem fires_look {i j : Nat} (ne : i ≠ j) : (c.look i).fires j = c.fires j := by
  obtain ⟨stopped, -⟩ := c.scheduler.look_same c.now c.now i
  have other := c.scheduler.look_other c.now c.now ne
  unfold fires
  rw [now_look, scheduler_look, (Scheduler.look_congr stopped other c.now c.now).1]

/-- Tasks that are looked at one after the other, each once, send what each would send first. -/
theorem firesAll_eq {tasks : List Nat} (once : tasks.Nodup) : c.firesAll tasks = tasks.flatMap c.fires := by
  induction tasks generalizing c with
  | nil => rfl
  | cons j tasks ih =>
    obtain ⟨fresh, once⟩ := List.nodup_cons.1 once
    rw [firesAll, List.flatMap_cons, ih once]
    congr 1
    apply List.flatMap_congr
    intro k member
    apply fires_look
    rintro rfl
    exact fresh member

/-- Of what tasks send that are looked at once each, one task's part is what it would send first. -/
theorem filter_firesAll {tasks : List Nat} (once : tasks.Nodup) (i : Nat) :
    (c.firesAll tasks).filter (·.task == i) = if i ∈ tasks then c.fires i else [] := by
  rw [firesAll_eq once]
  induction tasks with
  | nil => rfl
  | cons j tasks ih =>
    obtain ⟨fresh, once⟩ := List.nodup_cons.1 once
    rw [List.flatMap_cons, List.filter_append, ih once]
    by_cases own : j = i
    · subst own
      have all : (c.fires j).filter (·.task == j) = c.fires j := by
        rw [List.filter_eq_self]
        intro f member
        simp [(mem_fires member).1]
      rw [all, if_neg fresh, if_pos List.mem_cons_self, List.append_nil]
    · have nothing : (c.fires j).filter (·.task == i) = [] := by
        rw [List.filter_eq_nil_iff]
        intro f member
        simp [(mem_fires member).1, own]
      have same : i ∈ j :: tasks ↔ i ∈ tasks := by simp [Ne.symm own]
      rw [nothing, List.nil_append]
      simp only [same]

theorem stopped_foldl_look (tasks : List Nat) (c : Clockwork) :
    (tasks.foldl look c).scheduler.stopped = c.scheduler.stopped := by
  refine foldl_look_induction (P := fun d => d.scheduler.stopped = c.scheduler.stopped) rfl ?_ tasks
  intro d task same
  rw [scheduler_look, (d.scheduler.look_same d.now d.now task).1, same]

theorem now_foldl_look (tasks : List Nat) (c : Clockwork) : (tasks.foldl look c).now = c.now :=
  foldl_look_induction (P := fun d => d.now = c.now) rfl (fun _ _ same => same) tasks

/-- When tasks have been looked at once each, each of them is as if it had been the only one. -/
theorem tasks_foldl_look {tasks : List Nat} (once : tasks.Nodup) (i : Nat) :
    (tasks.foldl look c).scheduler.tasks[i]? =
      if i ∈ tasks then (c.look i).scheduler.tasks[i]? else c.scheduler.tasks[i]? := by
  induction tasks generalizing c with
  | nil => rfl
  | cons j tasks ih =>
    obtain ⟨fresh, once⟩ := List.nodup_cons.1 once
    rw [List.foldl_cons, ih once]
    by_cases own : j = i
    · subst own
      rw [if_neg fresh, if_pos List.mem_cons_self]
    · have same : i ∈ j :: tasks ↔ i ∈ tasks := by simp [Ne.symm own]
      obtain ⟨stopped, -⟩ := c.scheduler.look_same c.now c.now j
      have other := c.scheduler.look_other c.now c.now own
      simp only [same]
      split
      · exact (Scheduler.look_congr stopped other c.now c.now).2.2
      · exact other

/-- Tasks that are not to be looked at again leave the agenda as it is. -/
theorem agenda_foldl_look {tasks : List Nat} (once : tasks.Nodup)
    (last : ∀ i ∈ tasks, (c.scheduler.look c.now c.now i).2.1 = none) : (tasks.foldl look c).agenda = c.agenda := by
  induction tasks generalizing c with
  | nil => rfl
  | cons j tasks ih =>
    obtain ⟨fresh, once⟩ := List.nodup_cons.1 once
    have first : (c.look j).agenda = c.agenda := by rw [agenda_look, last j List.mem_cons_self]
    rw [List.foldl_cons, ih once, first]
    intro i member
    have ne : j ≠ i := by
      rintro rfl
      exact fresh member
    obtain ⟨stopped, -⟩ := c.scheduler.look_same c.now c.now j
    have other := c.scheduler.look_other c.now c.now ne
    rw [now_look, scheduler_look, (Scheduler.look_congr stopped other c.now c.now).2.1]
    exact last i (List.mem_cons_of_mem _ member)

theorem firesAll_append (tasks more : List Nat) (c : Clockwork) :
    c.firesAll (tasks ++ more) = c.firesAll tasks ++ (tasks.foldl look c).firesAll more := by
  induction tasks generalizing c with
  | nil => rfl
  | cons task tasks ih => rw [List.cons_append, firesAll, ih, firesAll, List.append_assoc, List.foldl_cons]

/-- What tasks do does not depend on what is in the queue. -/
theorem looks_withOutbox (tasks : List Nat) (c : Clockwork) (outbox : Outbox) :
    ({ c with outbox } : Clockwork).firesAll tasks = c.firesAll tasks ∧
    ∃ outbox', tasks.foldl look { c with outbox } = { tasks.foldl look c with outbox := outbox' } := by
  induction tasks generalizing c outbox with
  | nil => exact ⟨rfl, outbox, rfl⟩
  | cons task tasks ih =>
    obtain ⟨sends, outbox', looked⟩ := ih (c.look task) (({ c with outbox } : Clockwork).look task).outbox
    constructor
    · exact congrArg (c.fires task ++ ·) sends
    · exact ⟨outbox', looked⟩

/-! ## Every task that goes on is armed -/

/-- The alarms lie ahead, and a task has one at most. A task that goes on and has a timer is armed for its deadline,
unless it is one of those that are still to be looked at. -/
structure Wound (c : Clockwork) (called : List Nat) : Prop where
  ordered : c.agenda.Ordered
  ahead : ∀ a ∈ c.agenda.alarms, c.now < a.1
  single : (called ++ c.agenda.alarms.map (·.2)).Nodup
  known : ∀ i ∈ called ++ c.agenda.alarms.map (·.2), i < c.scheduler.tasks.length
  armed : ∀ i item timer, c.scheduler.Holds i item (some timer) → i ∉ called → (timer.deadline, i) ∈ c.agenda.alarms

theorem wound_initial : Wound {} [] where
  ordered := List.Pairwise.nil
  ahead := by simp
  single := List.nodup_nil
  known := by simp
  armed := by
    intro i item timer holds
    have := holds.lt
    simp at this

/-- Of a task that has been looked at, what was there before was looked at. -/
theorem holds_of_look (holds : (c.look i).scheduler.Holds i item left) :
    ∃ old, c.scheduler.Holds i item old ∧ left = (Timer.fireLeft old c.now).2 := by
  have going : c.scheduler.isCancelled i = false := by rw [← isCancelled_look, holds.isCancelled]
  have there : i < c.scheduler.tasks.length := by
    rw [← (c.scheduler.look_same c.now c.now i).2]
    exact holds.lt
  obtain ⟨item', old, before⟩ := Scheduler.exists_holds there going
  obtain ⟨-, -, after⟩ := Scheduler.look_of_holds before c.now
  obtain ⟨rfl, rfl⟩ := holds.unique after
  exact ⟨old, before, rfl⟩

/-- To look at one task changes nothing in which others go on and with what. -/
theorem holds_look_other {i j : Nat} (ne : i ≠ j) :
    (c.look i).scheduler.Holds j item left ↔ c.scheduler.Holds j item left :=
  Scheduler.holds_congr (c.scheduler.look_same c.now c.now i).1 (c.scheduler.look_other c.now c.now ne)

theorem mem_agenda_look {a : Nat × Nat} (member : a ∈ c.agenda.alarms) : a ∈ (c.look i).agenda.alarms := by
  rw [agenda_look]
  split
  · exact member
  · exact Agenda.mem_arm.2 (.inr member)

/-- A task that is looked at is armed again, if it is to be. -/
theorem Wound.look {called : List Nat} (h : Wound c (i :: called)) : Wound (c.look i) called := by
  have length := (c.scheduler.look_same c.now c.now i).2
  have armed : ∀ j item timer, (c.look i).scheduler.Holds j item (some timer) → j ∉ called →
      (timer.deadline, j) ∈ (c.look i).agenda.alarms := by
    intro j item timer holds absent
    by_cases own : i = j
    · subst own
      obtain ⟨old, before, rest⟩ := holds_of_look holds
      obtain ⟨-, next, -⟩ := Scheduler.look_of_holds before c.now
      rw [← rest] at next
      rw [agenda_look, next]
      exact Agenda.mem_arm.2 (.inl rfl)
    · have before := (holds_look_other own).1 holds
      exact mem_agenda_look (h.armed j item timer before (by simp [absent, Ne.symm own]))
  cases next : (c.scheduler.look c.now c.now i).2.1 with
  | none =>
    have same : (c.look i).agenda = c.agenda := by rw [agenda_look, next]
    constructor
    · rw [same]
      exact h.ordered
    · rw [same]
      exact h.ahead
    · rw [same]
      exact (List.nodup_cons.1 h.single).2
    · intro j member
      rw [same] at member
      rw [scheduler_look, length]
      exact h.known j (List.mem_cons_of_mem _ member)
    · exact armed
  | some deadline =>
    have same : (c.look i).agenda = c.agenda.arm deadline i := by rw [agenda_look, next]
    have perm : (called ++ (c.look i).agenda.alarms.map (·.2)).Perm (i :: called ++ c.agenda.alarms.map (·.2)) := by
      rw [same]
      exact (((Agenda.insert_perm deadline i _).map _).append_left called).trans List.perm_middle
    constructor
    · exact ordered_look h.ordered i
    · intro a member
      rw [same, Agenda.mem_arm] at member
      rcases member with rfl | old
      · exact Scheduler.lt_of_look next
      · exact h.ahead a old
    · exact perm.nodup_iff.2 h.single
    · intro j member
      rw [scheduler_look, length]
      exact h.known j (perm.subset member)
    · exact armed

theorem Wound.foldl_look {called : List Nat} (h : Wound c called) : Wound (called.foldl Clockwork.look c) [] := by
  induction called generalizing c with
  | nil => exact h
  | cons i called ih => exact ih h.look

/-! ## Requests -/

/-- To make ready for a request changes nothing in what a task holds, unless it cancels the task. -/
theorem holds_prepared (there : i < c.scheduler.tasks.length) (request : Request) :
    (c.prepared request).scheduler.Holds i item left ↔
      c.scheduler.Holds i item left ∧ (c.prepared request).scheduler.isCancelled i = false := by
  -- A request that cancels nothing leaves alone what the task holds, and who holds something is not cancelled.
  have spared (same : (c.prepared request).scheduler.Holds i item left ↔ c.scheduler.Holds i item left) :
      (c.prepared request).scheduler.Holds i item left ↔
        c.scheduler.Holds i item left ∧ (c.prepared request).scheduler.isCancelled i = false := by
    rw [← same]
    exact ⟨fun holds => ⟨holds, holds.isCancelled⟩, And.left⟩
  cases request with
  | sendNow item =>
    obtain ⟨outbox, result⟩ := sendNow_eq c item
    apply spared
    rw [prepared, result]
  | after _ _ | periodic _ _ _ => exact spared (Scheduler.holds_add_other there _ _)
  | cancelTask task =>
    by_cases own : task = i
    · subst own
      have cancelled : (c.prepared (.cancelTask task)).scheduler.isCancelled task = true := by
        simp [prepared, Scheduler.cancelTask, Scheduler.isCancelled, there]
      constructor
      · intro holds
        rw [holds.isCancelled] at cancelled
        cases cancelled
      · rintro ⟨-, going⟩
        rw [going] at cancelled
        cases cancelled
    · exact spared (Scheduler.holds_congr rfl (by simp [prepared, Scheduler.cancelTask, own]))
  | stop | stopConnection =>
    constructor
    · rintro ⟨going, -⟩
      cases going
    · rintro ⟨-, going⟩
      cases going
  | closeGate | abandonQueue | advance _ => exact spared Iff.rfl

/-- Only to be asked for a task makes one. -/
theorem length_prepared (c : Clockwork) (request : Request) :
    (c.prepared request).scheduler.tasks.length = c.scheduler.tasks.length + if request.adds then 1 else 0 := by
  cases request with
  | sendNow item =>
    obtain ⟨outbox, result⟩ := sendNow_eq c item
    rw [prepared, result]
    rfl
  | after _ _ | periodic _ _ _ => exact List.length_append
  | cancelTask task => exact List.length_modify _ _ _
  | stop | stopConnection | closeGate | abandonQueue | advance _ => rfl

theorem Wound.withOutbox {called : List Nat} (h : Wound c called) (outbox : Outbox) :
    Wound { c with outbox } called :=
  ⟨h.ordered, h.ahead, h.single, h.known, h.armed⟩

/-- To be asked for a task leaves the others armed. -/
theorem Wound.add (h : Wound c []) (item : Outbox.Item) (timer : Timer) :
    Wound { c with scheduler := (c.scheduler.add item timer).2 } [c.scheduler.tasks.length] where
  ordered := h.ordered
  ahead := h.ahead
  single := by
    refine List.nodup_cons.2 ⟨?_, h.single⟩
    intro member
    exact Nat.lt_irrefl _ (h.known _ member)
  known := by
    intro i member
    simp only [Scheduler.add, List.length_append, List.length_singleton]
    rcases List.mem_cons.1 member with rfl | old
    · exact Nat.lt_succ_self _
    · exact Nat.lt_succ_of_lt (h.known i old)
  armed := by
    intro i item' timer' holds old
    have there : i < c.scheduler.tasks.length := by
      have := holds.lt
      simp only [Scheduler.add, List.length_append, List.length_singleton] at this
      rw [List.mem_singleton] at old
      omega
    exact h.armed i item' timer' ((Scheduler.holds_add_other there item timer).1 holds) List.not_mem_nil

/-- The tasks that a jump of the clock calls are those that it finds due. -/
theorem Wound.advance (h : Wound c []) (ms : Nat) :
    Wound (c.prepared (.advance ms)) (c.called (.advance ms)) where
  ordered := h.ordered.later _
  ahead := fun _ member => h.ordered.lt_of_mem_later member
  single := by
    show (c.agenda.due _ ++ (c.agenda.later _).alarms.map (·.2)).Nodup
    rw [Agenda.due_append_later]
    exact h.single
  known := by
    intro i member
    replace member : i ∈ c.agenda.due (c.now + ms) ++ (c.agenda.later (c.now + ms)).alarms.map (·.2) := member
    rw [Agenda.due_append_later] at member
    exact h.known i member
  armed := by
    intro i item timer holds early
    have armed := h.armed i item timer holds List.not_mem_nil
    apply Agenda.mem_later armed
    rw [← Nat.not_le]
    intro passed
    exact early (h.ordered.mem_due armed passed)

theorem Wound.prepared (h : Wound c []) (request : Request) : Wound (c.prepared request) (c.called request) := by
  cases request with
  | sendNow item =>
    obtain ⟨outbox, result⟩ := sendNow_eq c item
    rw [Clockwork.prepared, result]
    exact h.withOutbox outbox
  | after item delay => exact h.add item _
  | periodic item initial period => exact h.add item _
  | cancelTask task =>
    refine ⟨h.ordered, h.ahead, h.single, ?_, ?_⟩
    · intro i member
      rw [Clockwork.prepared, Scheduler.cancelTask, List.length_modify]
      exact h.known i member
    · intro i item timer holds absent
      have there : i < c.scheduler.tasks.length := by simpa [Clockwork.prepared, Scheduler.cancelTask] using holds.lt
      exact h.armed i item timer ((holds_prepared there _).1 holds).1 absent
  | stop | stopConnection =>
    refine ⟨h.ordered, h.ahead, h.single, h.known, ?_⟩
    rintro i item timer ⟨going, -⟩
    cases going
  | closeGate | abandonQueue => exact h.withOutbox _
  | advance ms => exact h.advance ms

theorem Wound.step (h : Wound c []) (request : Request) : Wound (c.step request).2.2 [] := by
  rw [(step_eq c request).2]
  exact (h.prepared request).foldl_look.withOutbox _

theorem Wound.after (h : Wound c []) (requests : List Request) : Wound (c.after requests) [] :=
  after_induction (P := fun c => Wound c []) h (fun _ request h => h.step request) requests

theorem now_step (c : Clockwork) (request : Request) : (c.step request).2.2.now = (c.prepared request).now := by
  rw [(step_eq c request).2]
  exact now_foldl_look _ _

/-- What a task holds that is called, or that need not be, is looked at once. -/
theorem Wound.holds_foldl_look {called : List Nat} (h : Wound c called) (holds : c.scheduler.Holds i item left) :
    (called.foldl Clockwork.look c).scheduler.Holds i item (Timer.fireLeft left c.now).2 ∧
    (c.firesAll called).filter (·.task == i) = List.replicate (Timer.fireLeft left c.now).1 ⟨c.now, i, item⟩ := by
  have once : called.Nodup := (List.nodup_append.1 h.single).1
  rw [filter_firesAll once]
  by_cases member : i ∈ called
  · obtain ⟨items, -, after⟩ := Scheduler.look_of_holds holds c.now
    constructor
    · refine (Scheduler.holds_congr ?_ ?_).2 after
      · rw [stopped_foldl_look, (c.scheduler.look_same c.now c.now i).1]
      · rw [tasks_foldl_look once, if_pos member, scheduler_look]
    · rw [if_pos member, fires, items, List.map_replicate]
  · -- A task that is not called waits for a deadline that lies ahead, if it waits.
    have still : Timer.fireLeft left c.now = (0, left) := by
      cases left with
      | none => rfl
      | some timer => exact Timer.fire_of_lt (h.ahead _ (h.armed i item timer holds member))
    rw [still, if_neg member]
    refine ⟨(Scheduler.holds_congr ?_ ?_).2 holds, rfl⟩
    · exact stopped_foldl_look _ _
    · rw [tasks_foldl_look once, if_neg member]

/-- **Each timer by itself.** Whatever is asked, what is left of the timer of a task that goes on is looked at once, at
the time that it is then, and the task sends as often as the timer fires. -/
theorem Wound.step_task (h : Wound c []) (holds : c.scheduler.Holds i item left) {request : Request}
    (going : (c.step request).2.2.scheduler.isCancelled i = false) :
    let now := (c.step request).2.2.now
    (c.step request).2.2.scheduler.Holds i item (Timer.fireLeft left now).2 ∧
    (c.fired request).filter (·.task == i) = List.replicate (Timer.fireLeft left now).1 ⟨now, i, item⟩ := by
  intro now
  have ready : (c.prepared request).scheduler.isCancelled i = false := by
    rw [← going, Bool.eq_iff_iff, Scheduler.isCancelled_iff, Scheduler.isCancelled_iff, (scheduler_step c request).1,
      (scheduler_step c request).2]
  have before := (holds_prepared holds.lt request).2 ⟨holds, ready⟩
  have looked := (h.prepared request).holds_foldl_look before
  have same : now = (c.prepared request).now := now_step c request
  rw [same]
  refine ⟨?_, looked.2⟩
  rw [(step_eq c request).2]
  exact looked.1

/-- The task that a request made at some time asks for: its item and its timer. -/
def Request.starts (now : Nat) : Request → Option (Outbox.Item × Timer)
  | after item delay => some (item, .once now delay)
  | periodic item initial period => some (item, .repeating now initial period)
  | sendNow _ | cancelTask _ | stop | stopConnection | closeGate | abandonQueue | advance _ => none

/-- The timer of a new task is looked at as soon as it is there. -/
theorem Wound.step_new (h : Wound c []) (going : c.scheduler.stopped = false) {request : Request} {timer : Timer}
    (starts : request.starts c.now = some (item, timer)) :
    (c.step request).2.2.scheduler.Holds c.scheduler.tasks.length item (Timer.fireLeft (some timer) c.now).2 ∧
    (c.fired request).filter (·.task == c.scheduler.tasks.length) =
      List.replicate (Timer.fireLeft (some timer) c.now).1 ⟨c.now, c.scheduler.tasks.length, item⟩ := by
  rw [(step_eq c request).2]
  cases request with
  | after _ _ | periodic _ _ _ =>
    cases starts
    exact (h.prepared _).holds_foldl_look (Scheduler.holds_add going _ _)
  | sendNow _ | cancelTask _ | stop | stopConnection | closeGate | abandonQueue | advance _ => cases starts

/-! ## Runs -/

/-- The time that passes with a request. -/
def Request.ms : Request → Nat
  | .advance ms => ms
  | .sendNow _ | .after _ _ | .periodic _ _ _ | .cancelTask _ | .stop | .stopConnection | .closeGate
  | .abandonQueue => 0

/-- The time that passes in the course of requests. -/
def elapsed (requests : List Request) : Nat :=
  total (requests.map Request.ms)

theorem now_prepared (c : Clockwork) (request : Request) : (c.prepared request).now = c.now + request.ms := by
  cases request with
  | sendNow item =>
    obtain ⟨outbox, result⟩ := sendNow_eq c item
    rw [prepared, result]
    rfl
  | after _ _ | periodic _ _ _ | cancelTask _ | stop | stopConnection | closeGate | abandonQueue | advance _ => rfl

theorem now_after (c : Clockwork) (requests : List Request) : (c.after requests).now = c.now + elapsed requests := by
  induction requests generalizing c with
  | nil => rfl
  | cons request requests ih =>
    have later : (c.after (request :: requests)).now = ((c.step request).2.2.after requests).now := rfl
    rw [later, ih, now_step, now_prepared, Nat.add_assoc]
    rfl

theorem now_after_initial (requests : List Request) : (({} : Clockwork).after requests).now = elapsed requests :=
  (now_after {} requests).trans (Nat.zero_add _)

theorem length_after_initial (requests : List Request) :
    (({} : Clockwork).after requests).scheduler.tasks.length = requests.countP Request.adds :=
  (length_after {} requests).trans (Nat.zero_add _)

/-- What tasks send in the course of requests. -/
def firings (c : Clockwork) : List Request → List Firing
  | [] => []
  | request :: requests => c.fired request ++ (c.step request).2.2.firings requests

theorem firings_concat (c : Clockwork) (requests : List Request) (request : Request) :
    c.firings (requests ++ [request]) = c.firings requests ++ (c.after requests).fired request := by
  induction requests generalizing c with
  | nil => exact List.append_nil _
  | cons first requests ih =>
    rw [List.cons_append, firings, ih, firings, List.append_assoc]
    rfl

theorem now_concat (c : Clockwork) (requests : List Request) (request : Request) :
    (c.after (requests ++ [request])).now = (c.after requests).now + request.ms := by
  rw [now_after, now_after, elapsed, List.map_append, total_append, ← Nat.add_assoc]
  rfl

/-- A task that is not cancelled has not been before. -/
theorem going_of_concat {requests : List Request} {request : Request}
    (going : (c.after (requests ++ [request])).scheduler.isCancelled i = false) :
    (c.after requests).scheduler.isCancelled i = false := by
  cases before : (c.after requests).scheduler.isCancelled i with
  | false => rfl
  | true =>
    have still := isCancelled_step before request
    rw [after_append] at going
    cases going.symm.trans still

/-- A flag that is not set is that of a task that goes on. -/
theorem isCancelled_of_flags (set : c.scheduler.flags[i]? = some false) : c.scheduler.isCancelled i = false := by
  rw [Bool.eq_false_iff]
  intro cancelled
  have there : i < c.scheduler.tasks.length := by
    obtain ⟨lt, -⟩ := List.getElem?_eq_some_iff.1 set
    simpa [Scheduler.flags] using lt
  have flag := Scheduler.flags_iff.2 ⟨there, cancelled⟩
  rw [set] at flag
  cases flag

theorem runs_of_going {requests : List Request} (going : (c.after requests).scheduler.isCancelled i = false) :
    c.scheduler.stopped = false := by
  rw [Bool.eq_false_iff]
  intro stopped
  have set : (c.after requests).scheduler.isCancelled i = true :=
    Scheduler.isCancelled_iff.2 (.inl ((stopped_after c requests).2 (.inl stopped)))
  cases going.symm.trans set

/-- What holds of a new task when its timer has been looked at first, and goes on to hold whenever the timer is looked
at again, holds as long as the task is not cancelled: `P` is about the requests since, how often the task has sent, and
what is left of its timer. -/
theorem Wound.run_induction {P : List Request → Nat → Option Timer → Prop} (h : Wound c []) {call : Request}
    {timer : Timer} (starts : call.starts c.now = some (item, timer))
    (first : P [] (Timer.fireLeft (some timer) c.now).1 (Timer.fireLeft (some timer) c.now).2)
    (next : ∀ later request count left, P later count left →
      (c.after (call :: later)).scheduler.Holds c.scheduler.tasks.length item left →
      let looked := Timer.fireLeft left (c.after (call :: later ++ [request])).now
      P (later ++ [request]) (count + looked.1) looked.2)
    (later : List Request)
    (going : (c.after (call :: later)).scheduler.isCancelled c.scheduler.tasks.length = false) :
    ∃ left, (c.after (call :: later)).scheduler.Holds c.scheduler.tasks.length item left ∧
      P later ((c.firings (call :: later)).filter (·.task == c.scheduler.tasks.length)).length left := by
  induction later using List.reverseRecOn with
  | nil =>
    obtain ⟨holds, sends⟩ := h.step_new (runs_of_going going) starts
    have all : c.firings [call] = c.fired call := List.append_nil _
    refine ⟨_, holds, ?_⟩
    rw [all, sends, List.length_replicate]
    exact first
  | append_singleton later request ih =>
    rw [← List.cons_append] at going ⊢
    obtain ⟨left, holds, so⟩ := ih (going_of_concat going)
    rw [after_append] at going ⊢
    obtain ⟨after, sends⟩ := (h.after (call :: later)).step_task holds going
    refine ⟨_, after, ?_⟩
    rw [firings_concat, List.filter_append, List.length_append, sends, List.length_replicate]
    have looked := next later request _ left so holds
    rw [after_append] at looked
    exact looked

end RobotDriver.Clockwork
