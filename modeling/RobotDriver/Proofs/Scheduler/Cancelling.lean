import RobotDriver.Proofs.Scheduler.Firings

/-!
# Cancelling is final and local

A task is cancelled by itself or with the scheduler, and stays so. From then on it sends nothing, whatever alarm is
still armed for it. That this touches no other task is shown by comparing two clockworks that differ in one task at
most, and in the alarms for it (`SameBut`): whatever is asked of both, they go on to differ in that task alone, and all
others send the same at the same times.
-/

namespace RobotDriver.Clockwork

variable {c d : Clockwork} {i : Nat}

/-! ## What has been cancelled -/

/-- The scheduler was stopped, or the connection that it works for. -/
def Stops (requests : List Request) : Prop :=
  .stop ∈ requests ∨ .stopConnection ∈ requests

/-- The task was cancelled once it was there. -/
def Cancels (task : Nat) (requests : List Request) : Prop :=
  ∃ before later, requests = before ++ .cancelTask task :: later ∧ task < before.countP Request.adds

theorem cancels_concat {requests : List Request} {request : Request} :
    Cancels i (requests ++ [request]) ↔
      Cancels i requests ∨ (request = .cancelTask i ∧ i < requests.countP Request.adds) := by
  constructor
  · rintro ⟨before, later, whole, there⟩
    rcases List.eq_nil_or_concat later with rfl | ⟨later, last, rfl⟩
    · obtain ⟨rfl, same⟩ := List.append_inj' whole rfl
      cases same
      exact .inr ⟨rfl, there⟩
    · rw [List.concat_eq_append, ← List.cons_append, ← List.append_assoc] at whole
      obtain ⟨rfl, -⟩ := List.append_inj' whole rfl
      exact .inl ⟨before, later, rfl, there⟩
  · rintro (⟨before, later, rfl, there⟩ | ⟨rfl, there⟩)
    · refine ⟨before, later ++ [request], ?_, there⟩
      rw [List.append_assoc, List.cons_append]
    · exact ⟨requests, [], rfl, there⟩

/-- To look at tasks neither stops the scheduler nor cancels a task. -/
theorem scheduler_step (c : Clockwork) (request : Request) :
    (c.step request).2.2.scheduler.stopped = (c.prepared request).scheduler.stopped ∧
    (c.step request).2.2.scheduler.cancelled = (c.prepared request).scheduler.cancelled := by
  rw [(step_eq c request).2]
  refine foldl_look_induction
    (P := fun d => d.scheduler.stopped = (c.prepared request).scheduler.stopped ∧
      d.scheduler.cancelled = (c.prepared request).scheduler.cancelled) ⟨rfl, rfl⟩ ?_ _
  rintro d task ⟨stopped, cancelled⟩
  rw [scheduler_look, Scheduler.cancelled_look, (d.scheduler.look_same d.now d.now task).1]
  exact ⟨stopped, cancelled⟩

theorem stopped_step (c : Clockwork) (request : Request) :
    (c.step request).2.2.scheduler.stopped = true ↔
      c.scheduler.stopped = true ∨ request = .stop ∨ request = .stopConnection := by
  rw [(scheduler_step c request).1]
  cases request with
  | sendNow item =>
    obtain ⟨outbox, result⟩ := sendNow_eq c item
    simp [prepared, result]
  | after _ _ | periodic _ _ _ | cancelTask _ | stop | stopConnection | closeGate | abandonQueue | advance _ =>
    simp [prepared, Scheduler.add, Scheduler.cancelTask, Scheduler.stop]

theorem cancelled_step (c : Clockwork) (request : Request) :
    (c.step request).2.2.scheduler.cancelled =
      match request with
      | .after _ _ | .periodic _ _ _ => c.scheduler.cancelled ++ [false]
      | .cancelTask task => c.scheduler.cancelled.modify task fun _ => true
      | .sendNow _ | .stop | .stopConnection | .closeGate | .abandonQueue | .advance _ => c.scheduler.cancelled := by
  rw [(scheduler_step c request).2]
  cases request with
  | sendNow item =>
    obtain ⟨outbox, result⟩ := sendNow_eq c item
    rw [prepared, result]
  | after _ _ | periodic _ _ _ => exact Scheduler.cancelled_add _ _ _
  | cancelTask task => exact Scheduler.cancelled_cancelTask _ _
  | stop | stopConnection | closeGate | abandonQueue | advance _ => rfl

/-- Tasks are numbered in the order in which they are asked for. -/
theorem length_after (c : Clockwork) (requests : List Request) :
    (c.after requests).scheduler.tasks.length = c.scheduler.tasks.length + requests.countP Request.adds := by
  induction requests generalizing c with
  | nil => rfl
  | cons request requests ih =>
    have first : (c.step request).2.2.scheduler.tasks.length =
        c.scheduler.tasks.length + [request].countP Request.adds := by
      rw [← Scheduler.length_cancelled, cancelled_step, ← Scheduler.length_cancelled]
      cases request <;> simp [Request.adds]
    have later : c.after (request :: requests) = (c.step request).2.2.after requests := rfl
    have split : (request :: requests).countP Request.adds =
        [request].countP Request.adds + requests.countP Request.adds := by
      rw [← List.countP_append, List.singleton_append]
    rw [later, ih, first, split, Nat.add_assoc]

theorem stopped_after (c : Clockwork) (requests : List Request) :
    (c.after requests).scheduler.stopped = true ↔ c.scheduler.stopped = true ∨ Stops requests := by
  induction requests generalizing c with
  | nil => simp [after, Stops]
  | cons request requests ih =>
    have later : c.after (request :: requests) = (c.step request).2.2.after requests := rfl
    rw [later, ih, stopped_step]
    simp only [Stops, List.mem_cons, eq_comm]
    tauto

theorem cancelled_after (requests : List Request) :
    (({} : Clockwork).after requests).scheduler.cancelled[i]? = some true ↔ Cancels i requests := by
  induction requests using List.reverseRecOn with
  | nil => simp [after, Cancels, Scheduler.cancelled]
  | append_singleton requests request ih =>
    have length : (({} : Clockwork).after requests).scheduler.cancelled.length = requests.countP Request.adds := by
      rw [Scheduler.length_cancelled, length_after]
      exact Nat.zero_add _
    rw [after_append, cancels_concat, ← ih, ← length]
    show ((({} : Clockwork).after requests).step request).2.2.scheduler.cancelled[i]? = some true ↔ _
    rw [cancelled_step]
    generalize (({} : Clockwork).after requests).scheduler.cancelled = flags
    cases request with
    | after _ _ | periodic _ _ _ =>
      rcases Nat.lt_or_ge i flags.length with there | beyond
      · simp [List.getElem?_append_left there]
      · simp [List.getElem?_append_right beyond, List.getElem?_singleton, List.getElem?_eq_none beyond]
    | cancelTask task =>
      simp only [List.getElem?_modify, Request.cancelTask.injEq]
      by_cases here : task = i
      · subst here
        rcases Nat.lt_or_ge task flags.length with there | beyond
        · simp [there]
        · simp [Nat.not_lt.2 beyond]
      · simp [here]
    | sendNow _ | stop | stopConnection | closeGate | abandonQueue | advance _ => simp

/-- The flag of a task says whether it was cancelled, by itself or with the scheduler. -/
theorem flags_after (requests : List Request) :
    (({} : Clockwork).after requests).scheduler.flags[i]? = some true ↔
      i < requests.countP Request.adds ∧ (Stops requests ∨ Cancels i requests) := by
  rw [Scheduler.flags_iff, Scheduler.isCancelled_iff, length_after, stopped_after, cancelled_after]
  simp

/-! ## Silence -/

/-- Nothing cancelled comes back. -/
theorem isCancelled_step (h : c.scheduler.isCancelled i = true) (request : Request) :
    (c.step request).2.2.scheduler.isCancelled i = true := by
  rw [Scheduler.isCancelled_iff] at h ⊢
  rw [stopped_step]
  rcases h with stopped | cancelled
  · exact .inl (.inl stopped)
  · right
    rw [cancelled_step]
    cases request with
    | after _ _ | periodic _ _ _ =>
      obtain ⟨there, -⟩ := List.getElem?_eq_some_iff.1 cancelled
      rw [List.getElem?_append_left there, cancelled]
    | cancelTask task =>
      rw [List.getElem?_modify, cancelled]
      split <;> rfl
    | sendNow _ | stop | stopConnection | closeGate | abandonQueue | advance _ => exact cancelled

theorem isCancelled_look (c : Clockwork) (task : Nat) :
    (c.look task).scheduler.isCancelled i = c.scheduler.isCancelled i := by
  rw [Bool.eq_iff_iff, Scheduler.isCancelled_iff, Scheduler.isCancelled_iff, scheduler_look, Scheduler.cancelled_look,
    (c.scheduler.look_same c.now c.now task).1]

/-- A task that is cancelled sends nothing, whoever calls it. -/
theorem firesAll_of_cancelled (h : c.scheduler.isCancelled i = true) (tasks : List Nat) :
    ∀ f ∈ c.firesAll tasks, f.task ≠ i := by
  induction tasks generalizing c with
  | nil => simp [firesAll]
  | cons task tasks ih =>
    intro f member
    rcases List.mem_append.1 member with now | later
    · obtain ⟨rfl, -⟩ := mem_fires now
      rintro rfl
      rw [fires, Scheduler.look_of_cancelled h] at now
      cases now
    · apply ih _ f later
      rw [isCancelled_look, h]

theorem fired_of_cancelled (h : c.scheduler.isCancelled i = true) (request : Request) :
    ∀ f ∈ c.fired request, f.task ≠ i := by
  apply firesAll_of_cancelled
  have ready := isCancelled_step h request
  rw [Scheduler.isCancelled_iff, (scheduler_step c request).1, (scheduler_step c request).2] at ready
  exact Scheduler.isCancelled_iff.2 ready

theorem isCancelled_after (h : c.scheduler.isCancelled i = true) (requests : List Request) :
    (c.after requests).scheduler.isCancelled i = true :=
  after_induction (P := fun c => c.scheduler.isCancelled i = true) h (fun _ request h => isCancelled_step h request)
    requests

/-- The flag of a task stays set, and the task is silent. -/
theorem silent_after (set : c.scheduler.flags[i]? = some true) (requests : List Request) :
    (c.after requests).scheduler.flags[i]? = some true ∧
      ∀ request, ∀ f ∈ (c.after requests).fired request, f.task ≠ i := by
  obtain ⟨there, cancelled⟩ := Scheduler.flags_iff.1 set
  have still := isCancelled_after cancelled requests
  have stays : i < (c.after requests).scheduler.tasks.length := by
    rw [length_after]
    omega
  constructor
  · exact Scheduler.flags_iff.2 ⟨stays, still⟩
  · intro request
    exact fired_of_cancelled still request

/-- A scheduler that has stopped sends nothing and has no task that is not cancelled. -/
theorem offered_of_stopped (stopped : c.scheduler.stopped = true) (request : Request) : c.offered request = [] := by
  have fired : c.fired request = [] := by
    rw [List.eq_nil_iff_forall_not_mem]
    intro f member
    have silent : c.scheduler.isCancelled f.task = true := Scheduler.isCancelled_iff.2 (.inl stopped)
    exact fired_of_cancelled silent request f member rfl
  have sent : c.sent request = [] := by
    cases request with
    | sendNow item => rw [Clockwork.sent, if_pos stopped]
    | after _ _ | periodic _ _ _ | cancelTask _ | stop | stopConnection | closeGate | abandonQueue | advance _ => rfl
  rw [offered, fired, sent]
  rfl

/-! ## The other tasks -/

/-- The clockworks differ in the one task at most and in what is armed for it; their queues are left out. The alarms of
both are in order, so that another alarm finds the same place whether those of the task are there or not. -/
structure SameBut (i : Nat) (c d : Clockwork) : Prop where
  now : c.now = d.now
  stopped : c.scheduler.stopped = d.scheduler.stopped
  length : c.scheduler.tasks.length = d.scheduler.tasks.length
  tasks : ∀ j, j ≠ i → c.scheduler.tasks[j]? = d.scheduler.tasks[j]?
  agenda : c.agenda.without (· == i) = d.agenda.without (· == i)
  left : c.agenda.Ordered
  right : d.agenda.Ordered

namespace SameBut

theorem refl (i : Nat) (h : c.agenda.Ordered) : SameBut i c c :=
  ⟨rfl, rfl, rfl, fun _ _ => rfl, rfl, h, h⟩

theorem symm (same : SameBut i c d) : SameBut i d c :=
  ⟨same.now.symm, same.stopped.symm, same.length.symm, fun j ne => (same.tasks j ne).symm, same.agenda.symm,
    same.right, same.left⟩

theorem trans {e : Clockwork} (first : SameBut i c d) (second : SameBut i d e) : SameBut i c e :=
  ⟨first.now.trans second.now, first.stopped.trans second.stopped, first.length.trans second.length,
    fun j ne => (first.tasks j ne).trans (second.tasks j ne), first.agenda.trans second.agenda, first.left,
    second.right⟩

/-- To look at the task itself makes no difference to the others. -/
theorem look_self (h : c.agenda.Ordered) (i : Nat) : SameBut i (c.look i) c := by
  obtain ⟨stopped, length⟩ := c.scheduler.look_same c.now c.now i
  refine ⟨rfl, stopped, length, ?_, ?_, ordered_look h i, h⟩
  · intro j ne
    exact c.scheduler.look_other _ _ ne.symm
  · rw [agenda_look]
    split
    · rfl
    · exact Agenda.without_arm_of_pos _ _ (beq_self_eq_true i)

/-- Another task sends the same in both. -/
theorem fires_eq (same : SameBut i c d) {j : Nat} (ne : j ≠ i) : c.fires j = d.fires j := by
  unfold fires
  rw [same.now, (Scheduler.look_congr same.stopped (same.tasks j ne) d.now d.now).1]

/-- To look at another task changes both alike. -/
theorem look (same : SameBut i c d) {j : Nat} (ne : j ≠ i) : SameBut i (c.look j) (d.look j) := by
  obtain ⟨-, next, here⟩ := Scheduler.look_congr same.stopped (same.tasks j ne) d.now d.now
  obtain ⟨stopped, length⟩ := c.scheduler.look_same d.now d.now j
  obtain ⟨stopped', length'⟩ := d.scheduler.look_same d.now d.now j
  refine ⟨same.now, ?_, ?_, ?_, ?_, ordered_look same.left j, ordered_look same.right j⟩
  · rw [scheduler_look, scheduler_look, same.now, stopped, stopped', same.stopped]
  · rw [scheduler_look, scheduler_look, same.now, length, length', same.length]
  · intro k other
    rw [scheduler_look, scheduler_look, same.now]
    by_cases at_j : j = k
    · subst at_j
      exact here
    · rw [Scheduler.look_other _ _ _ at_j, Scheduler.look_other _ _ _ at_j, same.tasks k other]
  · have kept : (j == i) = false := by simp [ne]
    rw [agenda_look, agenda_look, same.now, next]
    split
    · exact same.agenda
    · rw [same.left.without_arm_of_neg (p := (· == i)) _ kept, same.right.without_arm_of_neg (p := (· == i)) _ kept,
        same.agenda]

/-- It makes no difference to the others whether the task is looked at among them. -/
theorem foldl_look (same : SameBut i c d) (tasks : List Nat) :
    SameBut i (tasks.foldl Clockwork.look c) ((tasks.filter (· != i)).foldl Clockwork.look d) := by
  induction tasks generalizing c d with
  | nil => exact same
  | cons j tasks ih =>
    by_cases own : j = i
    · subst own
      rw [List.filter_cons_of_neg (by simp)]
      exact ih ((look_self same.left j).trans same)
    · rw [List.filter_cons_of_pos (by simp [own])]
      exact ih (same.look own)

theorem firesAll_eq (same : SameBut i c d) (tasks : List Nat) :
    (c.firesAll tasks).filter (·.task != i) = d.firesAll (tasks.filter (· != i)) := by
  induction tasks generalizing c d with
  | nil => rfl
  | cons j tasks ih =>
    rw [firesAll, List.filter_append]
    by_cases own : j = i
    · subst own
      have nothing : (c.fires j).filter (·.task != j) = [] := by
        rw [List.filter_eq_nil_iff]
        intro f member
        simp [(mem_fires member).1]
      rw [nothing, List.nil_append, List.filter_cons_of_neg (by simp)]
      exact ih ((look_self same.left j).trans same)
    · have all : (c.fires j).filter (·.task != i) = c.fires j := by
        rw [List.filter_eq_self]
        intro f member
        simp [(mem_fires member).1, own]
      rw [all, List.filter_cons_of_pos (by simp [own]), firesAll, same.fires_eq own, ih (same.look own)]

/-! ### Requests -/

theorem withOutbox (same : SameBut i c d) (outbox outbox' : Outbox) :
    SameBut i { c with outbox } { d with outbox := outbox' } :=
  ⟨same.now, same.stopped, same.length, same.tasks, same.agenda, same.left, same.right⟩

theorem add (same : SameBut i c d) (item : Outbox.Item) (timer : Timer) :
    SameBut i { c with scheduler := (c.scheduler.add item timer).2 }
      { d with scheduler := (d.scheduler.add item timer).2 } := by
  refine ⟨same.now, same.stopped, ?_, ?_, same.agenda, same.left, same.right⟩
  · simp [Scheduler.add, same.length]
  · intro j ne
    simp only [Scheduler.add, List.getElem?_append, same.length, same.tasks j ne]

theorem cancelTask (same : SameBut i c d) (task : Nat) :
    SameBut i { c with scheduler := c.scheduler.cancelTask task }
      { d with scheduler := d.scheduler.cancelTask task } := by
  refine ⟨same.now, same.stopped, ?_, ?_, same.agenda, same.left, same.right⟩
  · simp [Scheduler.cancelTask, same.length]
  · intro j ne
    simp only [Scheduler.cancelTask, List.getElem?_modify, same.tasks j ne]

theorem advance (same : SameBut i c d) (ms : Nat) :
    SameBut i (c.prepared (.advance ms)) (d.prepared (.advance ms)) := by
  simp only [Clockwork.prepared, same.now]
  refine ⟨rfl, same.stopped, same.length, same.tasks, ?_, same.left.later _, same.right.later _⟩
  rw [← same.left.later_without, ← same.right.later_without, same.agenda]

theorem prepared (same : SameBut i c d) (request : Request) : SameBut i (c.prepared request) (d.prepared request) := by
  cases request with
  | sendNow item =>
    obtain ⟨outbox, result⟩ := sendNow_eq c item
    obtain ⟨outbox', result'⟩ := sendNow_eq d item
    rw [Clockwork.prepared, Clockwork.prepared, result, result']
    exact same.withOutbox outbox outbox'
  | after item delay =>
    have added := same.add item (.once d.now delay)
    simpa only [Clockwork.prepared, same.now] using added
  | periodic item initial period =>
    have added := same.add item (.repeating d.now initial period)
    simpa only [Clockwork.prepared, same.now] using added
  | cancelTask task => exact same.cancelTask task
  | stop | stopConnection => exact { same.withOutbox c.outbox d.outbox with stopped := rfl }
  | closeGate | abandonQueue => exact same.withOutbox _ _
  | advance ms => exact same.advance ms

/-- The same others are called. -/
theorem called (same : SameBut i c d) (request : Request) :
    (c.called request).filter (· != i) = (d.called request).filter (· != i) := by
  cases request with
  | after _ _ | periodic _ _ _ => simp only [Clockwork.called, same.length]
  | advance ms =>
    have due : ∀ g : Agenda Nat, g.Ordered → ∀ now,
        (g.due now).filter (· != i) = (g.without (· == i)).due now := by
      intro g h now
      exact (h.due_without now).symm
    simp only [Clockwork.called, same.now]
    rw [due _ same.left, due _ same.right, same.agenda]
  | sendNow _ | cancelTask _ | stop | stopConnection | closeGate | abandonQueue => rfl

theorem fired (same : SameBut i c d) (request : Request) :
    (c.fired request).filter (·.task != i) = (d.fired request).filter (·.task != i) := by
  have ready := same.prepared request
  unfold Clockwork.fired
  rw [ready.firesAll_eq, (refl i ready.right).firesAll_eq, same.called]

theorem step (same : SameBut i c d) (request : Request) : SameBut i (c.step request).2.2 (d.step request).2.2 := by
  have ready := same.prepared request
  have looked := ready.foldl_look (c.called request)
  rw [same.called] at looked
  have both := looked.trans ((refl i ready.right).foldl_look (d.called request)).symm
  rw [(step_eq c request).2, (step_eq d request).2]
  exact both.withOutbox _ _

theorem after (same : SameBut i c d) (requests : List Request) : SameBut i (c.after requests) (d.after requests) := by
  induction requests generalizing c d with
  | nil => exact same
  | cons request requests ih => exact ih (same.step request)

theorem sent (same : SameBut i c d) (request : Request) : c.sent request = d.sent request := by
  unfold Clockwork.sent
  rw [same.stopped]

/-- To cancel the task is to differ from what was before in that task alone. -/
theorem of_cancelTask (h : c.agenda.Ordered) (i : Nat) : SameBut i (c.step (.cancelTask i)).2.2 c := by
  refine ⟨rfl, rfl, List.length_modify _ _ _, ?_, rfl, h, h⟩
  intro j ne
  show (c.scheduler.tasks.modify i fun t => { t with cancelled := true })[j]? = c.scheduler.tasks[j]?
  simp [ne.symm]

end SameBut

/-- After a task was cancelled, all that is sent on a request is what would have been sent, but for that task. -/
theorem fired_after_cancelTask (ordered : c.agenda.Ordered) (there : i < c.scheduler.tasks.length)
    (requests : List Request) (request : Request) :
    let d := (c.step (.cancelTask i)).2.2.after requests
    d.sent request = (c.after requests).sent request ∧
      d.fired request = ((c.after requests).fired request).filter (·.task != i) := by
  intro d
  have same : SameBut i d (c.after requests) := (SameBut.of_cancelTask ordered i).after requests
  have cancelled : d.scheduler.isCancelled i = true := by
    apply isCancelled_after
    rw [Scheduler.isCancelled_iff, cancelled_step]
    right
    simp [there]
  have silent := fired_of_cancelled cancelled request
  refine ⟨same.sent request, ?_⟩
  calc
    d.fired request = (d.fired request).filter (·.task != i) := by
      symm
      rw [List.filter_eq_self]
      intro f member
      simpa using silent f member
    _ = ((c.after requests).fired request).filter (·.task != i) := same.fired request

/-- **Cancelling is final, and it is local.** Whatever has been asked of a scheduler, what reaches its queue is what is
sent at once and what its tasks send, up to the end of the queue. A task has its flag set just if it was cancelled
itself, or the scheduler or its connection was stopped. The flag stays set, and whatever is asked from then on the task
sends nothing, not even at a deadline that comes next. Once the scheduler or its connection was stopped, nothing reaches
the queue any more, nothing can be sent at once, and every task is cancelled, those that are still to come from the
start. To cancel one task leaves to all others what they send and when, whatever is asked afterwards. -/
theorem cancelling_final_and_local (before : List Request) :
    let c := ({} : Clockwork).after before
    (∀ request, (c.step request).2.1 =
      if .closeGate ∈ before ∨ .abandonQueue ∈ before then []
      else c.sent request ++ (c.fired request).map (·.item)) ∧
    ((∀ request, request.adds = true → (c.step request).1 = .task c.scheduler.flags.length) ∧
      c.scheduler.flags.length = before.countP Request.adds ∧
      (∀ i, c.scheduler.flags[i]? = some true ↔
        i < before.countP Request.adds ∧ (Stops before ∨ Cancels i before)) ∧
      (c.scheduler.stopped = true ↔ Stops before)) ∧
    (∀ i, c.scheduler.flags[i]? = some true → ∀ later,
      (c.after later).scheduler.flags[i]? = some true ∧
      ∀ request, ∀ f ∈ (c.after later).fired request, f.task ≠ i) ∧
    (Stops before → ∀ later,
      let d := c.after later
      (∀ flag ∈ d.scheduler.flags, flag = true) ∧ (∀ request, (d.step request).2.1 = []) ∧
      ∀ item, (d.step (.sendNow item)).1 = .accepted false) ∧
    ∀ i < before.countP Request.adds, ∀ later request,
      let d := (c.step (.cancelTask i)).2.2.after later
      d.sent request = (c.after later).sent request ∧
      d.fired request = ((c.after later).fired request).filter (·.task != i) := by
  intro c
  have tasks : c.scheduler.tasks.length = before.countP Request.adds := (length_after {} before).trans (Nat.zero_add _)
  have length : c.scheduler.flags.length = before.countP Request.adds := by
    rw [Scheduler.flags, List.length_map, tasks]
  have stopped : c.scheduler.stopped = true ↔ Stops before := by
    have := stopped_after {} before
    simpa using this
  refine ⟨queued_after before, ⟨?_, length, fun i => flags_after before, stopped⟩, ?_, ?_, ?_⟩
  · intro request adds
    rw [length, ← tasks]
    cases request with
    | after _ _ | periodic _ _ _ => rfl
    | sendNow _ | cancelTask _ | stop | stopConnection | closeGate | abandonQueue | advance _ => cases adds
  · intro i set later
    exact silent_after set later
  · intro stops later d
    have still : d.scheduler.stopped = true := (stopped_after c later).2 (.inl (stopped.2 stops))
    refine ⟨?_, ?_, ?_⟩
    · intro flag member
      obtain ⟨task, -, rfl⟩ := List.mem_map.1 member
      rw [still, Bool.true_or]
    · intro request
      have whole : d = ({} : Clockwork).after (before ++ later) := (after_append _ _ _).symm
      rw [whole] at still ⊢
      rw [queued_after (before ++ later) request, offered_of_stopped still, ite_self]
    · intro item
      simp [step, handle, sendNow, still]
  · intro i there
    rw [← tasks] at there
    exact fired_after_cancelTask (ordered_after before) there

/-- Three tasks are due in one jump. The one that is cancelled just before sends nothing, and the others send what they
would have sent with it; when the connection is stopped instead, none of them sends anything, nor does one asked for
later. -/
theorem cancelling_final_and_local_sameJump :
    let before : List Request :=
      [.after ⟨.ping, true⟩ 10, .periodic ⟨.abortMacro, false⟩ 6 3, .after ⟨.getBluetoothInfo, false⟩ 10]
    let c := ({} : Clockwork).after before
    let d := (c.step (.cancelTask 0)).2.2
    let stopped := c.after [.stopConnection, .after ⟨.ping, true⟩ 0]
    c.fired (.advance 10) =
      [⟨10, 1, .abortMacro, false⟩, ⟨10, 1, .abortMacro, false⟩, ⟨10, 0, .ping, true⟩,
        ⟨10, 2, .getBluetoothInfo, false⟩] ∧
    0 < before.countP Request.adds ∧
    d.fired (.advance 10) =
      [⟨10, 1, .abortMacro, false⟩, ⟨10, 1, .abortMacro, false⟩, ⟨10, 2, .getBluetoothInfo, false⟩] ∧
    d.scheduler.flags = [true, false, false] ∧
    (∀ later request, ∀ f ∈ (d.after later).fired request, f.task ≠ 0) ∧
    Stops (before ++ [.stopConnection]) ∧ stopped.scheduler.flags = [true, true, true, true] ∧
    ∀ request, (stopped.step request).2.1 = [] := by
  intro before c d stopped
  have there : 0 < before.countP Request.adds := by decide
  have fired : c.fired (.advance 10) =
      [⟨10, 1, .abortMacro, false⟩, ⟨10, 1, .abortMacro, false⟩, ⟨10, 0, .ping, true⟩,
        ⟨10, 2, .getBluetoothInfo, false⟩] := by
    decide +kernel
  have flags : d.scheduler.flags = [true, false, false] := by decide +kernel
  obtain ⟨-, -, -, -, apart⟩ := cancelling_final_and_local before
  obtain ⟨-, -, silent, -, -⟩ := cancelling_final_and_local (before ++ [.cancelTask 0])
  obtain ⟨-, -, -, quiet, -⟩ := cancelling_final_and_local (before ++ [.stopConnection])
  have stops : Stops (before ++ [.stopConnection]) := by
    right
    decide
  refine ⟨fired, there, ?_, flags, ?_, stops, ?_, ?_⟩
  · obtain ⟨-, others⟩ := apart 0 there [] (.advance 10)
    refine others.trans ?_
    show (c.fired (.advance 10)).filter (·.task != 0) = _
    rw [fired]
    rfl
  · intro later
    have set : d.scheduler.flags[0]? = some true := by
      rw [flags]
      rfl
    exact (silent 0 set later).2
  · decide +kernel
  · exact (quiet stops [.after ⟨.ping, true⟩ 0]).2.1

end RobotDriver.Clockwork
