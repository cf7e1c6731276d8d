import Mathlib.Data.List.Nodup
import RobotDriver.Proofs.Scheduler.Ticking

/-!
# Delayed tasks send once, when they are due

A task that sends once does so on the first request that ends at its deadline or later, if it has not been cancelled by
then (`delayed_run`). While no task is asked for that repeats, the alarms stand in the order of their deadlines and, for
equal ones, of their tasks (`Brief`); and since a task that is due sends the same whenever it is looked at, it makes no
difference whether the clock jumps once or twice (`step_advance_add`).
-/

namespace RobotDriver.Clockwork

variable {c : Clockwork} {i : Nat} {item : Outbox.Item}

/-! ## One task -/

/-- A delayed task that is not cancelled waits until it is due, and has sent once if it was. -/
theorem Wound.delayed_run (h : Wound c []) (item : Outbox.Item) (delay : Nat) (later : List Request)
    (going : (c.after (.after item delay :: later)).scheduler.isCancelled c.scheduler.tasks.length = false) :
    let due := Timer.deadlineAfter c.now delay
    let d := c.after (.after item delay :: later)
    d.scheduler.Holds c.scheduler.tasks.length item (Timer.leftAt due d.now) ∧
    ((c.firings (.after item delay :: later)).filter (·.task == c.scheduler.tasks.length)).length =
      Timer.timesFired due d.now := by
  intro due d
  let P (later : List Request) (count : Nat) (left : Option Timer) : Prop :=
    let now := (c.after (.after item delay :: later)).now
    left = Timer.leftAt due now ∧ count = Timer.timesFired due now
  have first : P [] (Timer.fireLeft (some (.once c.now delay)) c.now).1
      (Timer.fireLeft (some (.once c.now delay)) c.now).2 := by
    have fires := Timer.fireLeft_once due c.now
    exact ⟨congrArg Prod.snd fires, congrArg Prod.fst fires⟩
  have next : ∀ later request count left, P later count left →
      (c.after (.after item delay :: later)).scheduler.Holds c.scheduler.tasks.length item left →
      let looked := Timer.fireLeft left (c.after (.after item delay :: later ++ [request])).now
      P (later ++ [request]) (count + looked.1) looked.2 := by
    rintro later request count left ⟨rfl, rfl⟩ - looked
    have goes : (c.after (.after item delay :: later)).now ≤ (c.after (.after item delay :: later ++ [request])).now := by
      rw [now_concat]
      exact Nat.le_add_right _ _
    have fires : looked = _ := Timer.fireLeft_leftAt goes
    rw [fires]
    exact ⟨rfl, (Timer.timesFired_of_goes goes).symm⟩
  obtain ⟨left, holds, rfl, count⟩ := h.run_induction (P := P) rfl first next later going
  exact ⟨holds, count⟩

/-- A delayed task that is not cancelled sends on the request that ends at its deadline or is the first to end later. -/
theorem Wound.delayed_step (h : Wound c []) (item : Outbox.Item) (delay : Nat) (later : List Request) (request : Request)
    (going : (c.after (.after item delay :: later ++ [request])).scheduler.isCancelled c.scheduler.tasks.length = false) :
    let due := Timer.deadlineAfter c.now delay
    let d := c.after (.after item delay :: later)
    let now := (c.after (.after item delay :: later ++ [request])).now
    (d.fired request).filter (·.task == c.scheduler.tasks.length) =
      if d.now < due ∧ due ≤ now then [⟨now, c.scheduler.tasks.length, item⟩] else [] := by
  intro due d now
  have holds := (h.delayed_run item delay later (going_of_concat going)).1
  have goes : d.now ≤ now := by
    rw [show now = _ from now_concat c _ request]
    exact Nat.le_add_right _ _
  have same : (d.step request).2.2.now = now := congrArg (·.now) (after_append c _ [request]).symm
  rw [after_append] at going
  have sends := ((h.after _).step_task holds going).2
  rw [same, Timer.fireLeft_leftAt goes] at sends
  rw [sends]
  split <;> rfl

/-! ## Tasks that send once -/

/-- No task that goes on repeats. -/
def Brief (c : Clockwork) : Prop :=
  ∀ i item timer, c.scheduler.Holds i item (some timer) → timer.period = none

/-- The request is for a task that repeats. -/
def Request.repeats : Request → Bool
  | periodic _ _ _ => true
  | sendNow _ | after _ _ | cancelTask _ | stop | stopConnection | closeGate | abandonQueue | advance _ => false

theorem brief_initial : Brief {} := by
  intro i item timer holds
  have := holds.lt
  simp at this

theorem Brief.prepared (h : Brief c) {request : Request} (once : request.repeats = false) :
    Brief (c.prepared request) := by
  intro i item timer holds
  rcases Nat.lt_or_ge i c.scheduler.tasks.length with there | beyond
  · exact h i item timer ((holds_prepared there request).1 holds).1
  · -- A task that was not there before is the one that is asked for.
    have lt := holds.lt
    rw [length_prepared] at lt
    cases request with
    | after new delay =>
      have here : i = c.scheduler.tasks.length := Nat.le_antisymm (Nat.le_of_lt_succ lt) beyond
      subst here
      have fresh := Scheduler.holds_add (s := c.scheduler) holds.going new (.once c.now delay)
      obtain ⟨-, same⟩ := holds.unique fresh
      cases same
      rfl
    | periodic _ _ _ => cases once
    | sendNow _ | cancelTask _ | stop | stopConnection | closeGate | abandonQueue | advance _ =>
      exact absurd beyond (Nat.not_le.2 lt)

theorem Brief.look (h : Brief c) (task : Nat) : Brief (c.look task) := by
  intro i item timer holds
  by_cases own : task = i
  · subst own
    obtain ⟨old, before, rest⟩ := holds_of_look holds
    cases old with
    | none => cases rest
    | some waiting =>
      obtain ⟨deadline, period⟩ := waiting
      have once : period = none := h _ _ _ before
      subst once
      rw [Timer.fireLeft_once] at rest
      exact Timer.period_of_leftAt rest.symm
  · exact h i item timer ((holds_look_other own).1 holds)

theorem Brief.step (h : Brief c) {request : Request} (once : request.repeats = false) :
    Brief (c.step request).2.2 := by
  rw [(step_eq c request).2]
  exact foldl_look_induction (P := Brief) (h.prepared once) (fun _ task h => h.look task) _

/-- A task that sends once and is due sends the same whenever it is looked at, and is not looked at again. -/
theorem Wound.look_of_due (h : Wound c []) (brief : Brief c) {now later : Nat} (due : i ∈ c.agenda.due now)
    (goes : now ≤ later) :
    c.scheduler.look later later i = c.scheduler.look now now i ∧ (c.scheduler.look now now i).2.1 = none := by
  cases cancelled : c.scheduler.isCancelled i with
  | true =>
    rw [Scheduler.look_of_cancelled cancelled, Scheduler.look_of_cancelled cancelled]
    exact ⟨rfl, rfl⟩
  | false =>
    obtain ⟨deadline, armed, passed⟩ := Agenda.armed_of_mem_due due
    have there : i < c.scheduler.tasks.length := h.known i (List.mem_map_of_mem armed)
    obtain ⟨item, left, holds⟩ := Scheduler.exists_holds there cancelled
    have fires : Timer.fireLeft left later = Timer.fireLeft left now ∧ (Timer.fireLeft left now).2 = none := by
      cases left with
      | none => exact ⟨rfl, rfl⟩
      | some timer =>
        have once := brief i item timer holds
        obtain ⟨own, period⟩ := timer
        replace once : period = none := once
        subst once
        -- The task has one alarm only, and that is for its deadline.
        have same : (deadline, i) = (own, i) :=
          List.inj_on_of_nodup_map h.single armed (h.armed i item _ holds List.not_mem_nil) rfl
        obtain ⟨rfl, -⟩ := Prod.mk.inj same
        rw [Timer.fireLeft_of_le passed, Timer.fireLeft_of_le (Nat.le_trans passed goes)]
        exact ⟨rfl, rfl⟩
    obtain ⟨-, next, -⟩ := Scheduler.look_of_holds holds now
    refine ⟨Scheduler.look_eq_of_fires holds fires.1, ?_⟩
    rw [next, fires.2]
    rfl

/-! ## The order of deadlines and of asking -/

/-- When the tasks that are asked for, the first request being made at `now`, are due first, in the order in which they
are asked for. -/
def dues (now : Nat) : List Request → List Nat
  | [] => []
  | .after _ delay :: requests => Timer.deadlineAfter now delay :: dues now requests
  | .periodic _ initial _ :: requests => Timer.deadlineAfter now initial :: dues now requests
  | .advance ms :: requests => dues (now + ms) requests
  | .sendNow _ :: requests | .cancelTask _ :: requests | .stop :: requests | .stopConnection :: requests
  | .closeGate :: requests | .abandonQueue :: requests => dues now requests

theorem dues_append (now : Nat) (requests more : List Request) :
    dues now (requests ++ more) = dues now requests ++ dues (now + elapsed requests) more := by
  induction requests generalizing now with
  | nil => rfl
  | cons request requests ih =>
    cases request <;> simp [dues, elapsed, Request.ms, ih, Nat.add_assoc]

/-- One task is due before the other, or at the same time and was asked for before it. -/
def Precedes (dues : List Nat) (i j : Nat) : Prop :=
  ∃ d e, dues[i]? = some d ∧ dues[j]? = some e ∧ (d < e ∨ d = e ∧ i < j)

/-- Every alarm is for when its task is due first, and they stand in that order. -/
structure OnPlan (dues : List Nat) (g : Agenda Nat) : Prop where
  planned : ∀ a ∈ g.alarms, dues[a.2]? = some a.1
  sorted : g.alarms.Pairwise fun a b => a.1 < b.1 ∨ a.1 = b.1 ∧ a.2 < b.2

namespace OnPlan

variable {plan : List Nat} {g : Agenda Nat}

theorem append (h : OnPlan plan g) (more : List Nat) : OnPlan (plan ++ more) g where
  planned := by
    intro a member
    have due := h.planned a member
    rw [List.getElem?_append_left (List.getElem?_eq_some_iff.1 due).1, due]
  sorted := h.sorted

theorem later (h : OnPlan plan g) (now : Nat) : OnPlan plan (g.later now) where
  planned := fun a member => h.planned a ((List.dropWhile_sublist _).subset member)
  sorted := h.sorted.sublist (List.dropWhile_sublist _)

/-- A task that is planned last goes off behind all that are due no later. -/
theorem arm (h : OnPlan plan g) (ordered : g.Ordered) (due : Nat) :
    OnPlan (plan ++ [due]) (g.arm due plan.length) where
  planned := by
    intro a member
    rcases Agenda.mem_arm.1 member with rfl | old
    · simp
    · exact (h.append [due]).planned a old
  sorted := by
    refine Agenda.pairwise_insert ordered h.sorted ?_ (fun _ _ late => .inl late)
    intro a member early
    have lt : a.2 < plan.length := (List.getElem?_eq_some_iff.1 (h.planned a member)).1
    rcases Nat.lt_or_eq_of_le early with sooner | same
    · exact .inl sooner
    · exact .inr ⟨same, lt⟩

/-- Alarms go off in the order of the plan. -/
theorem due_sorted (h : OnPlan plan g) (now : Nat) : (g.due now).Pairwise (Precedes plan) := by
  have taken : (g.alarms.takeWhile fun a => decide (a.1 ≤ now)).Sublist g.alarms := List.takeWhile_sublist _
  refine List.pairwise_map.2 ((h.sorted.sublist taken).imp_of_mem ?_)
  intro a b first second earlier
  exact ⟨a.1, b.1, h.planned a (taken.subset first), h.planned b (taken.subset second), earlier⟩

end OnPlan

/-- No task that goes on repeats, and the alarms are on plan. -/
structure Planned (c : Clockwork) (plan : List Nat) : Prop where
  wound : Wound c []
  brief : Brief c
  length : plan.length = c.scheduler.tasks.length
  agenda : OnPlan plan c.agenda

theorem planned_initial : Planned {} [] where
  wound := wound_initial
  brief := brief_initial
  length := rfl
  agenda := ⟨by simp, List.Pairwise.nil⟩

/-- A jump of the clock takes off the alarms that are due and arms none. -/
theorem Wound.agenda_advance (h : Wound c []) (brief : Brief c) (ms : Nat) :
    (c.step (.advance ms)).2.2.agenda = c.agenda.later (c.now + ms) := by
  rw [(step_eq c _).2]
  refine agenda_foldl_look (List.nodup_append.1 (h.advance ms).single).1 ?_
  intro i due
  exact (h.look_of_due brief due (Nat.le_refl _)).2

/-- A task that sends once is armed when it is asked for, if at all, for when it is due. -/
theorem agenda_after (c : Clockwork) (item : Outbox.Item) (delay : Nat) :
    (c.step (.after item delay)).2.2.agenda = c.agenda ∨
      (c.step (.after item delay)).2.2.agenda =
        c.agenda.arm (Timer.deadlineAfter c.now delay) c.scheduler.tasks.length := by
  let d := c.prepared (.after item delay)
  have result : (c.step (.after item delay)).2.2.agenda = (d.look c.scheduler.tasks.length).agenda := by
    rw [(step_eq c _).2]
    rfl
  rw [result, agenda_look]
  cases stopped : c.scheduler.stopped with
  | true =>
    have cancelled : d.scheduler.isCancelled c.scheduler.tasks.length = true := Scheduler.isCancelled_iff.2 (.inl stopped)
    rw [Scheduler.look_of_cancelled cancelled]
    exact .inl rfl
  | false =>
    have holds : d.scheduler.Holds c.scheduler.tasks.length item (some (.once c.now delay)) :=
      Scheduler.holds_add stopped item (.once c.now delay)
    obtain ⟨-, next, -⟩ := Scheduler.look_of_holds holds d.now
    rw [next, Timer.once, Timer.fireLeft_once, Timer.leftAt]
    by_cases waits : d.now < Timer.deadlineAfter c.now delay
    · rw [if_pos waits]
      exact .inr rfl
    · rw [if_neg waits]
      exact .inl rfl

/-- Requests that call no task leave the agenda as it is. -/
theorem agenda_of_called {request : Request} (none : c.called request = []) (same : (c.prepared request).agenda = c.agenda) :
    (c.step request).2.2.agenda = c.agenda := by
  rw [(step_eq c request).2, none]
  exact same

theorem Planned.step {plan : List Nat} (h : Planned c plan) {request : Request} (once : request.repeats = false) :
    Planned (c.step request).2.2 (plan ++ dues c.now [request]) where
  wound := h.wound.step request
  brief := h.brief.step once
  length := by
    have grown : (c.after [request]).scheduler.tasks.length = _ := length_after c [request]
    refine Eq.trans ?_ grown.symm
    rw [List.length_append, h.length]
    cases request <;> rfl
  agenda := by
    have same (none : c.called request = []) (kept : (c.prepared request).agenda = c.agenda) :
        OnPlan (plan ++ dues c.now [request]) (c.step request).2.2.agenda := by
      rw [agenda_of_called none kept]
      exact h.agenda.append _
    cases request with
    | after item delay =>
      rcases agenda_after c item delay with kept | armed
      · rw [kept]
        exact h.agenda.append _
      · rw [armed, ← h.length]
        exact h.agenda.arm h.wound.ordered _
    | periodic _ _ _ => cases once
    | advance ms =>
      rw [h.wound.agenda_advance h.brief ms]
      exact (h.agenda.later _).append _
    | sendNow item =>
      obtain ⟨outbox, result⟩ := sendNow_eq c item
      exact same rfl (by rw [prepared, result])
    | cancelTask _ | stop | stopConnection | closeGate | abandonQueue => exact same rfl rfl

theorem planned_after {requests : List Request} (once : ∀ request ∈ requests, request.repeats = false) :
    Planned (({} : Clockwork).after requests) (dues 0 requests) := by
  induction requests using List.reverseRecOn with
  | nil => exact planned_initial
  | append_singleton requests request ih =>
    have last := once request (by simp)
    have before := ih fun request member => once request (List.mem_append_left _ member)
    have stepped := before.step last
    rw [after_append, dues_append, Nat.zero_add, ← now_after_initial]
    exact stepped

/-- A task that sends once sends one item at most when it is looked at. -/
theorem Brief.length_fires (h : Brief c) (i : Nat) : (c.fires i).length ≤ 1 := by
  rw [fires, List.length_map]
  cases cancelled : c.scheduler.isCancelled i with
  | true =>
    rw [Scheduler.look_of_cancelled cancelled]
    exact Nat.zero_le _
  | false =>
    rcases Nat.lt_or_ge i c.scheduler.tasks.length with there | beyond
    · obtain ⟨item, left, holds⟩ := Scheduler.exists_holds there cancelled
      rw [(Scheduler.look_of_holds holds c.now).1, List.length_replicate]
      cases left with
      | none => exact Nat.zero_le _
      | some timer =>
        obtain ⟨deadline, period⟩ := timer
        have once : period = none := h i item _ holds
        subst once
        rw [Timer.fireLeft_once, Timer.timesFired]
        split <;> simp
    · have nothing : c.scheduler.tasks[i]? = none := List.getElem?_eq_none beyond
      simp [Scheduler.look, cancelled, nothing]

/-- What a jump of the clock makes tasks send is sent in the order of the plan. -/
theorem Planned.fired_sorted {plan : List Nat} (h : Planned c plan) (ms : Nat) :
    (c.fired (.advance ms)).Pairwise fun f g => Precedes plan f.task g.task := by
  have brief : Brief (c.prepared (.advance ms)) := h.brief.prepared rfl
  rw [fired, firesAll_eq (List.nodup_append.1 (h.wound.advance ms).single).1, List.pairwise_flatMap]
  constructor
  · intro i due
    have short := brief.length_fires i
    rcases sends : (c.prepared (.advance ms)).fires i with - | ⟨f, - | ⟨g, more⟩⟩
    · exact List.Pairwise.nil
    · exact List.pairwise_singleton _ _
    · rw [sends] at short
      simp at short
  · refine (h.agenda.due_sorted (c.now + ms)).imp ?_
    intro i j earlier f first g second
    rw [(mem_fires first).1, (mem_fires second).1]
    exact earlier

/-! ## One jump or two -/

/-- Tasks that are looked at alike at two times, once each, send the same and leave the same. -/
theorem looks_alike {d : Clockwork} {tasks : List Nat} (same : c.scheduler = d.scheduler) (once : tasks.Nodup)
    (alike : ∀ i ∈ tasks, c.scheduler.look c.now c.now i = c.scheduler.look d.now d.now i) :
    (c.firesAll tasks).map (·.item) = (d.firesAll tasks).map (·.item) ∧
    (tasks.foldl look c).scheduler = (tasks.foldl look d).scheduler := by
  constructor
  · rw [firesAll_eq once, firesAll_eq once, List.map_flatMap, List.map_flatMap]
    apply List.flatMap_congr
    intro i member
    simp only [fires, List.map_map, Function.comp_def, List.map_id_fun', id]
    rw [alike i member, same]
  · have stopped : (tasks.foldl look c).scheduler.stopped = (tasks.foldl look d).scheduler.stopped := by
      rw [stopped_foldl_look, stopped_foldl_look, same]
    have entries : (tasks.foldl look c).scheduler.tasks = (tasks.foldl look d).scheduler.tasks := by
      apply List.ext_getElem?
      intro i
      rw [tasks_foldl_look once, tasks_foldl_look once]
      split
      · next member => rw [scheduler_look, scheduler_look, alike i member, same]
      · rw [same]
    calc
      (tasks.foldl look c).scheduler
        = ⟨(tasks.foldl look c).scheduler.tasks, (tasks.foldl look c).scheduler.stopped⟩ := rfl
      _ = (tasks.foldl look d).scheduler := by rw [stopped, entries]

/-- A jump that is made in two parts has the same outcome, and what is queued on the way is the same. -/
theorem Planned.step_advance_add {plan : List Nat} (h : Planned c plan) (empty : c.outbox.queue = []) (a b : Nat) :
    let d := (c.step (.advance a)).2.2
    (c.step (.advance (a + b))).2.1 = (c.step (.advance a)).2.1 ++ (d.step (.advance b)).2.1 ∧
    (c.step (.advance (a + b))).2.2 = (d.step (.advance b)).2.2 := by
  intro d
  let once := c.prepared (.advance (a + b))
  let first := c.agenda.due (c.now + a)
  let rest := (c.agenda.later (c.now + a)).due (c.now + (a + b))
  let mid := first.foldl look once
  have goes : c.now + a ≤ c.now + (a + b) := by omega
  have moment : c.now + a + b = c.now + (a + b) := Nat.add_assoc _ _ _
  have apart : first.Nodup := (List.nodup_append.1 (h.wound.advance a).single).1
  have all : c.called (.advance (a + b)) = first ++ rest := Agenda.due_eq_append _ goes
  -- Those that the first part finds due do the same whether they are looked at behind it or behind the whole jump.
  have due : ∀ i ∈ first, c.scheduler.look once.now once.now i = c.scheduler.look (c.now + a) (c.now + a) i ∧
      (c.scheduler.look (c.now + a) (c.now + a) i).2.1 = none := fun i member => h.wound.look_of_due h.brief member goes
  obtain ⟨sends, schedulers⟩ := looks_alike (c := once) (d := c.prepared (.advance a)) rfl apart
    (fun i member => (due i member).1)
  have agenda : mid.agenda = c.agenda.later (c.now + (a + b)) := by
    refine agenda_foldl_look apart ?_
    intro i member
    obtain ⟨same, last⟩ := due i member
    exact (congrArg (·.2.1) same).trans last
  have now : mid.now = c.now + (a + b) := now_foldl_look _ _
  have between : d.agenda = c.agenda.later (c.now + a) := h.wound.agenda_advance h.brief a
  have clock : d.now = c.now + a := now_step c (.advance a)
  have queue : d.outbox = { c.outbox with queue := [] } := congrArg (·.outbox) (state_step c (.advance a))
  -- So behind the first part the second one begins where the whole jump goes on, but for what has been queued.
  have scheduler : d.scheduler = mid.scheduler := (congrArg (·.scheduler) (state_step c (.advance a))).trans schedulers.symm
  have ready : d.prepared (.advance b) = { mid with outbox := d.outbox } := by
    show Clockwork.mk (d.now + b) d.scheduler (d.agenda.later (d.now + b)) d.outbox =
      Clockwork.mk mid.now mid.scheduler mid.agenda d.outbox
    rw [scheduler, between, clock, moment, now, agenda, Agenda.later_later _ goes]
  have called : d.called (.advance b) = rest := by
    show d.agenda.due (d.now + b) = rest
    rw [between, clock, moment]
  obtain ⟨others, outbox, state⟩ := looks_withOutbox rest mid d.outbox
  constructor
  · have whole : (c.fired (.advance (a + b))).map (·.item) =
        (c.fired (.advance a)).map (·.item) ++ (d.fired (.advance b)).map (·.item) := by
      have second : d.fired (.advance b) = mid.firesAll rest := by
        rw [fired, called, ready, others]
      rw [second, fired, all, firesAll_append, List.map_append, sends]
      rfl
    have emptied : d.outbox.queue = [] := by rw [queue]
    rw [queued_step empty, queued_step empty, queued_step emptied, queue, offered, whole]
    split <;> rfl
  · rw [state_step c, state_step d, called, ready, state, queue, all, List.foldl_append]
    rfl

/-- What the queue gets in the course of requests. -/
def queued (c : Clockwork) : List Request → List Outbox.Item
  | [] => []
  | request :: requests => (c.step request).2.1 ++ (c.step request).2.2.queued requests

theorem queued_append (c : Clockwork) (requests more : List Request) :
    c.queued (requests ++ more) = c.queued requests ++ (c.after requests).queued more := by
  induction requests generalizing c with
  | nil => rfl
  | cons request requests ih =>
    rw [List.cons_append, queued, ih, queued, List.append_assoc]
    rfl

theorem queued_advance_add {before : List Request} (once : ∀ request ∈ before, request.repeats = false) (a b : Nat)
    (later : List Request) :
    ({} : Clockwork).queued (before ++ .advance (a + b) :: later) =
      ({} : Clockwork).queued (before ++ .advance a :: .advance b :: later) := by
  obtain ⟨items, state⟩ := (planned_after once).step_advance_add (drained_after before).empty a b
  rw [queued_append, queued_append]
  apply congrArg
  show _ ++ Clockwork.queued _ later = _ ++ (_ ++ Clockwork.queued _ later)
  rw [items, state, List.append_assoc]

/-! ## All delayed tasks -/

/-- **Delayed commands are sent once, as soon as they are due, and in order.** Whatever was asked before, a task that is
to send after some delay sends on the call if it is due at once, and else on the first request that ends at the time of
the call plus the delay, which counts for thirty years at most, or later. So as long as it is not cancelled it has sent
once if that time has come, and else not at all. When no task was asked for that repeats, those that one jump finds due
send in the order of their deadlines and then of asking, and a jump made in two parts gives the queue the same items in
the same order, whatever follows. The queue gets what is sent while its gate is open and its reader there. -/
theorem delayed_when_due (before : List Request) :
    let c := ({} : Clockwork).after before
    (∀ item delay,
      let i := before.countP Request.adds
      let due := elapsed before + min delay Timer.maxDelay
      let call : Request := .after item delay
      (c.step call).1 = .task i ∧
      ((c.after [call]).scheduler.flags[i]? = some false →
        (c.fired call).filter (·.task == i) =
          if due ≤ elapsed before then [⟨elapsed before, i, item⟩] else []) ∧
      ∀ later,
        let run := call :: later
        ((c.after run).scheduler.flags[i]? = some false →
          ((c.firings run).filter (·.task == i)).length = if due ≤ elapsed (before ++ run) then 1 else 0) ∧
        ∀ request, (c.after (run ++ [request])).scheduler.flags[i]? = some false →
          ((c.after run).fired request).filter (·.task == i) =
            if elapsed (before ++ run) < due ∧ due ≤ elapsed (before ++ run ++ [request])
            then [⟨elapsed (before ++ run ++ [request]), i, item⟩] else []) ∧
    ((∀ request ∈ before, request.repeats = false) →
      (∀ ms, (c.fired (.advance ms)).Pairwise fun f g => Precedes (dues 0 before) f.task g.task) ∧
      ∀ a b later, ({} : Clockwork).queued (before ++ .advance (a + b) :: later) =
        ({} : Clockwork).queued (before ++ .advance a :: .advance b :: later)) ∧
    (.closeGate ∉ before → .abandonQueue ∉ before → ∀ request,
      (c.step request).2.1 = c.sent request ++ (c.fired request).map (·.item)) := by
  intro c
  have wound : Wound c [] := wound_initial.after before
  have tasks : c.scheduler.tasks.length = before.countP Request.adds := length_after_initial before
  have clock : c.now = elapsed before := now_after_initial before
  have times : ∀ run, (c.after run).now = elapsed (before ++ run) := by
    intro run
    rw [← after_append, now_after_initial]
  refine ⟨?_, ?_, ?_⟩
  · intro item delay i due call
    have number : c.scheduler.tasks.length = i := tasks
    have deadline : Timer.deadlineAfter c.now delay = due := by rw [Timer.deadlineAfter, clock]
    refine ⟨congrArg Reply.task number, ?_, ?_⟩
    · intro set
      have going := isCancelled_of_flags set
      have starts : call.starts c.now = some (item, Timer.once c.now delay) := rfl
      obtain ⟨-, sends⟩ := wound.step_new (runs_of_going going) starts
      rw [Timer.once, Timer.fireLeft_once, deadline, number, clock, Timer.timesFired] at sends
      rw [sends]
      split <;> rfl
    · intro later run
      constructor
      · intro set
        have going := isCancelled_of_flags set
        rw [← number] at going ⊢
        have count := (wound.delayed_run item delay later going).2
        rw [deadline, times] at count
        exact count
      · intro request set
        have going := isCancelled_of_flags set
        rw [← number] at going ⊢
        have ends := times (run ++ [request])
        rw [← List.append_assoc] at ends
        rw [← times run, ← ends, ← deadline]
        exact wound.delayed_step item delay later request going
  · intro once
    exact ⟨(planned_after once).fired_sorted, queued_advance_add once⟩
  · intro opened read request
    have shut : ¬(.closeGate ∈ before ∨ .abandonQueue ∈ before) := by simp [opened, read]
    exact (queued_after before request).trans (if_neg shut)

/-- One task is cancelled, one is asked for with the longest delay, and of three that one jump finds due, two are due at
the same time. -/
theorem delayed_when_due_ties :
    let before : List Request :=
      [.after ⟨.ping, true⟩ 10, .after ⟨.abortMacro, false⟩ 4, .after ⟨.getBluetoothInfo, false⟩ 10, .cancelTask 0,
        .advance 3]
    let c := ({} : Clockwork).after before
    let run : List Request := [.after ⟨.frontLed .one, false⟩ 7, .after ⟨.jumpToBootloader, false⟩ (2 * Timer.maxDelay)]
    (∀ request ∈ before ++ run, request.repeats = false) ∧
    (c.after (run ++ [.advance 9])).scheduler.flags = [true, false, false, false, false] ∧
    ((c.after run).fired (.advance 9)).filter (·.task == 3) = [⟨12, 3, ⟨.frontLed .one, false⟩⟩] ∧
    ((c.firings run).filter (·.task == 3)).length = 0 ∧
    ((c.after run).fired (.advance 9)).map (·.task) = [1, 2, 3] ∧
    dues 0 (before ++ run) = [10, 4, 10, 10, 3 + Timer.maxDelay] ∧
    ({} : Clockwork).queued (before ++ run ++ [.advance 6, .advance 3, .advance Timer.maxDelay]) =
      [⟨.abortMacro, false⟩, ⟨.getBluetoothInfo, false⟩, ⟨.frontLed .one, false⟩, ⟨.jumpToBootloader, false⟩] := by
  intro before c run
  have once : ∀ request ∈ before ++ run, request.repeats = false := by decide
  have flags : (c.after (run ++ [.advance 9])).scheduler.flags = [true, false, false, false, false] := by decide +kernel
  obtain ⟨each, -, -⟩ := delayed_when_due before
  obtain ⟨-, together, -⟩ := delayed_when_due (before ++ run)
  have number : before.countP Request.adds = 3 := by decide
  have third := each ⟨.frontLed .one, false⟩ 7
  rw [number] at third
  obtain ⟨-, -, later⟩ := third
  obtain ⟨count, sends⟩ := later [.after ⟨.jumpToBootloader, false⟩ (2 * Timer.maxDelay)]
  have waits : (c.after run).scheduler.flags[3]? = some false := by decide +kernel
  have goes : (c.after (run ++ [.advance 9])).scheduler.flags[3]? = some false := by rw [flags]; rfl
  refine ⟨once, flags, ?_, ?_, ?_, ?_, ?_⟩
  · rw [sends (.advance 9) goes]
    decide +kernel
  · rw [count waits]
    decide +kernel
  · decide +kernel
  · decide +kernel
  · rw [List.append_assoc]
    refine ((together once).2 6 3 [.advance Timer.maxDelay]).symm.trans ?_
    decide +kernel

end RobotDriver.Clockwork
