import Mathlib.Data.List.Induction
import RobotDriver.Proofs.Agenda
import RobotDriver.Proofs.Outbox.Writing
import RobotDriver.Proofs.Scheduler
import RobotDriver.Scheduler.Clockwork

/-!
# What tasks send and when

Whatever is asked of a clockwork, it is made ready first and looks at some tasks then (`handle_eq`). What each of them
sends at that moment is a `Firing`. The queue gets these and what is sent at once, and nothing else: all of it while its
gate is open and its reader there, and nothing afterwards (`queued_after`).
-/

namespace RobotDriver.Clockwork

variable {c : Clockwork}

/-! ## Requests -/

/-- The request makes a task. -/
def Request.adds : Request → Bool
  | after _ _ | periodic _ _ _ => true
  | sendNow _ | cancelTask _ | stop | stopConnection | closeGate | abandonQueue | advance _ => false

/-- A clockwork made ready for looking at the tasks that a request calls. -/
def prepared (c : Clockwork) : Request → Clockwork
  | .sendNow item => (c.sendNow item).2
  | .after item delay => { c with scheduler := (c.scheduler.add item (.once c.now delay)).2 }
  | .periodic item initial period => { c with scheduler := (c.scheduler.add item (.repeating c.now initial period)).2 }
  | .cancelTask task => { c with scheduler := c.scheduler.cancelTask task }
  | .stop | .stopConnection => { c with scheduler := c.scheduler.stop }
  | .closeGate => { c with outbox := c.outbox.close }
  | .abandonQueue => { c with outbox := c.outbox.abandon }
  | .advance ms => { c with now := c.now + ms, agenda := c.agenda.later (c.now + ms) }

/-- The tasks that a request calls: a new one, or those that have become due. -/
def called (c : Clockwork) : Request → List Nat
  | .after _ _ | .periodic _ _ _ => [c.scheduler.tasks.length]
  | .advance ms => c.agenda.due (c.now + ms)
  | .sendNow _ | .cancelTask _ | .stop | .stopConnection | .closeGate | .abandonQueue => []

/-- To handle a request is to make ready and to look at the tasks that it calls. -/
theorem handle_eq (c : Clockwork) (request : Request) :
    (c.handle request).2 = (c.called request).foldl look (c.prepared request) := by
  cases request <;> rfl

/-- The state after requests one after the other. -/
def after (c : Clockwork) (requests : List Request) : Clockwork :=
  requests.foldl (fun c request => (c.step request).2.2) c

theorem after_append (c : Clockwork) (requests more : List Request) :
    c.after (requests ++ more) = (c.after requests).after more :=
  List.foldl_append

/-- What every request keeps holds after all of them. -/
theorem after_induction {P : Clockwork → Prop} (start : P c)
    (step : ∀ c request, P c → P (c.step request).2.2) (requests : List Request) : P (c.after requests) := by
  induction requests generalizing c with
  | nil => exact start
  | cons request requests ih => exact ih (step c request start)

/-- A step does to all but the queue what looking at the tasks does. -/
theorem step_eq (c : Clockwork) (request : Request) :
    (c.step request).2.1 = ((c.called request).foldl look (c.prepared request)).outbox.queue ∧
    (c.step request).2.2 =
      let looked := (c.called request).foldl look (c.prepared request)
      { looked with outbox := { looked.outbox with queue := [] } } := by
  rw [← handle_eq]
  constructor <;> rfl

/-! ## Firings -/

/-- An item that a task sends at a time. -/
structure Firing where
  time : Nat
  task : Nat
  item : Outbox.Item
  deriving DecidableEq

/-- What a task sends when it is looked at. -/
def fires (c : Clockwork) (task : Nat) : List Firing :=
  (c.scheduler.look c.now c.now task).1.map fun item => ⟨c.now, task, item⟩

/-- What tasks send that are looked at one after the other. -/
def firesAll (c : Clockwork) : List Nat → List Firing
  | [] => []
  | task :: tasks => c.fires task ++ (c.look task).firesAll tasks

/-- What tasks send on a request. -/
def fired (c : Clockwork) (request : Request) : List Firing :=
  (c.prepared request).firesAll (c.called request)

/-- What a request sends at once. -/
def sent (c : Clockwork) : Request → List Outbox.Item
  | .sendNow item => if c.scheduler.stopped then [] else [item]
  | .after _ _ | .periodic _ _ _ | .cancelTask _ | .advance _ => []
  | .stop | .stopConnection | .closeGate | .abandonQueue => []

theorem mem_fires {task : Nat} {f : Firing} (member : f ∈ c.fires task) : f.task = task ∧ f.time = c.now := by
  obtain ⟨item, -, rfl⟩ := List.mem_map.1 member
  exact ⟨rfl, rfl⟩

/-! ## To look at a task -/

@[simp] theorem now_look (c : Clockwork) (task : Nat) : (c.look task).now = c.now := rfl

@[simp] theorem scheduler_look (c : Clockwork) (task : Nat) :
    (c.look task).scheduler = (c.scheduler.look c.now c.now task).2.2 := rfl

theorem agenda_look (c : Clockwork) (task : Nat) :
    (c.look task).agenda =
      match (c.scheduler.look c.now c.now task).2.1 with
      | none => c.agenda
      | some deadline => c.agenda.arm deadline task := rfl

/-- What a task sends is offered to the queue. -/
theorem outbox_look (c : Clockwork) (task : Nat) :
    (c.look task).outbox = ((c.fires task).map (·.item)).foldl Outbox.offer c.outbox := by
  have items : (c.fires task).map (·.item) = (c.scheduler.look c.now c.now task).1 := by
    simp [fires, Function.comp_def]
  rw [items]
  rfl

theorem ordered_look (h : c.agenda.Ordered) (task : Nat) : (c.look task).agenda.Ordered := by
  rw [agenda_look]
  split
  · exact h
  · exact h.arm _ _

theorem outbox_foldl_look (tasks : List Nat) (c : Clockwork) :
    (tasks.foldl look c).outbox = ((c.firesAll tasks).map (·.item)).foldl Outbox.offer c.outbox := by
  induction tasks generalizing c with
  | nil => rfl
  | cons task tasks ih => rw [List.foldl_cons, ih, outbox_look, firesAll, List.map_append, List.foldl_append]

/-- What looking at a task keeps holds when any have been looked at. -/
theorem foldl_look_induction {P : Clockwork → Prop} (start : P c) (look : ∀ c task, P c → P (c.look task))
    (tasks : List Nat) : P (tasks.foldl Clockwork.look c) := by
  induction tasks generalizing c with
  | nil => exact start
  | cons task tasks ih => exact ih (look c task start)

/-- To send an item at once is a matter of the queue. -/
theorem sendNow_eq (c : Clockwork) (item : Outbox.Item) : ∃ outbox, (c.sendNow item).2 = { c with outbox } := by
  unfold sendNow
  split
  · exact ⟨c.outbox, rfl⟩
  · split
    · exact ⟨_, rfl⟩
    · exact ⟨c.outbox, rfl⟩

theorem ordered_prepared (h : c.agenda.Ordered) (request : Request) : (c.prepared request).agenda.Ordered := by
  cases request with
  | sendNow item =>
    obtain ⟨outbox, result⟩ := sendNow_eq c item
    rw [prepared, result]
    exact h
  | advance ms => exact h.later _
  | after _ _ | periodic _ _ _ | cancelTask _ | stop | stopConnection | closeGate | abandonQueue => exact h

/-- The alarms of a clockwork stay in order. -/
theorem ordered_step (h : c.agenda.Ordered) (request : Request) : (c.step request).2.2.agenda.Ordered := by
  rw [(step_eq c request).2]
  exact foldl_look_induction (P := fun c => c.agenda.Ordered) (ordered_prepared h request)
    (fun _ task h => ordered_look h task) _

theorem ordered_after (requests : List Request) : (({} : Clockwork).after requests).agenda.Ordered := by
  apply after_induction (P := fun c => c.agenda.Ordered)
  · exact List.Pairwise.nil
  · intro c request h
    exact ordered_step h request

/-! ## What the queue gets -/

/-- The queue with its gate closed or its reader gone, if that is asked. -/
def Request.shuts (o : Outbox) : Request → Outbox
  | closeGate => o.close
  | abandonQueue => o.abandon
  | sendNow _ | after _ _ | periodic _ _ _ | cancelTask _ | stop | stopConnection | advance _ => o

/-- All that is offered on a request. -/
def offered (c : Clockwork) (request : Request) : List Outbox.Item :=
  c.sent request ++ (c.fired request).map (·.item)

theorem outbox_prepared (c : Clockwork) (request : Request) :
    (c.prepared request).outbox = (c.sent request).foldl Outbox.offer (request.shuts c.outbox) := by
  cases request with
  | sendNow item =>
    simp only [prepared, sendNow, sent]
    split
    · rfl
    · show _ = c.outbox.offer item
      unfold Outbox.offer
      cases c.outbox.enqueue item <;> rfl
  | after _ _ | periodic _ _ _ | cancelTask _ | stop | stopConnection | closeGate | abandonQueue | advance _ => rfl

/-- A request that shuts the queue offers nothing. -/
theorem shuts_eq (empty : c.outbox.queue = []) (request : Request) :
    request.shuts c.outbox = c.outbox ∨ (c.offered request = [] ∧ (request.shuts c.outbox).queue = []) := by
  cases request with
  | closeGate => exact .inr ⟨rfl, empty⟩
  | abandonQueue => exact .inr ⟨rfl, rfl⟩
  | sendNow _ | after _ _ | periodic _ _ _ | cancelTask _ | stop | stopConnection | advance _ => exact .inl rfl

theorem outbox_handled (c : Clockwork) (request : Request) :
    ((c.called request).foldl look (c.prepared request)).outbox =
      (c.offered request).foldl Outbox.offer (request.shuts c.outbox) := by
  rw [outbox_foldl_look, outbox_prepared, ← List.foldl_append]
  rfl

/-- But for its queue, a step leaves what looking at the tasks leaves; the queue is drained, and shut if that is asked. -/
theorem state_step (c : Clockwork) (request : Request) :
    (c.step request).2.2 =
      { (c.called request).foldl look (c.prepared request) with
        outbox := { request.shuts c.outbox with queue := [] } } := by
  rw [(step_eq c request).2]
  simp only [outbox_handled, Outbox.foldl_offer_eq]
  split <;> rfl

/-- Everything that is offered on a request is queued while the queue is open, and nothing when it is not. -/
theorem queued_step (empty : c.outbox.queue = []) (request : Request) :
    (c.step request).2.1 =
      if c.outbox.accepting = true ∧ c.outbox.attended = true then c.offered request else [] := by
  rw [(step_eq c request).1, outbox_handled]
  rcases shuts_eq empty request with same | ⟨nothing, none⟩
  · rw [same, Outbox.foldl_offer_eq]
    split
    · show c.outbox.queue ++ c.offered request = _
      rw [empty, List.nil_append]
    · exact empty
  · rw [nothing, List.foldl_nil, ite_self, none]

/-- A queue after requests: drained, its gate open unless it was closed, and read unless the reader went away. -/
structure Drained (requests : List Request) (o : Outbox) : Prop where
  empty : o.queue = []
  gate : o.accepting = true ↔ .closeGate ∉ requests
  reader : o.attended = true ↔ .abandonQueue ∉ requests

theorem Drained.step {requests : List Request} (h : Drained requests c.outbox) (request : Request) :
    Drained (requests ++ [request]) (c.step request).2.2.outbox := by
  rw [state_step]
  constructor
  · rfl
  · rw [List.mem_append, List.mem_singleton, not_or, ← h.gate]
    cases request <;> simp [Request.shuts, Outbox.close, Outbox.abandon]
  · rw [List.mem_append, List.mem_singleton, not_or, ← h.reader]
    cases request <;> simp [Request.shuts, Outbox.close, Outbox.abandon]

theorem drained_after (requests : List Request) : Drained requests (({} : Clockwork).after requests).outbox := by
  induction requests using List.reverseRecOn with
  | nil =>
    constructor
    · rfl
    · simp [after]
    · simp [after]
  | append_singleton requests request ih =>
    rw [after_append]
    exact ih.step request

/-- Of a new clockwork, the queue gets what is sent at once and what tasks send, until its gate is closed or its reader
goes away. -/
theorem queued_after (requests : List Request) (request : Request) :
    let c := ({} : Clockwork).after requests
    (c.step request).2.1 = if .closeGate ∈ requests ∨ .abandonQueue ∈ requests then [] else c.offered request := by
  intro c
  have drained := drained_after requests
  rw [queued_step drained.empty]
  simp only [drained.gate, drained.reader, ← not_or, ite_not]
  rfl

end RobotDriver.Clockwork
