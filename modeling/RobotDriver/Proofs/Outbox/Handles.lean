import RobotDriver.Outbox.Shared

/-!
# What goes through the handles of a queue

A `Shared.Exchange` is a request with the reply to it. What was accepted and what was taken is read off the exchanges
alone, whoever they were made with. One request takes from the front of the queue what it gives back and adds at its end
what it accepts (`balance_step`), so a course of requests does (`balance`): nothing is lost but what the reader leaves
behind, and no handle's items overtake those of another. The gate and the reader go once and for all (`ledger_after`),
and every handle, old or new, tells the same of them.
-/

namespace RobotDriver.Outbox.Shared

/-- The request shuts the gate. -/
def Request.isClose : Request → Bool
  | .close _ => true
  | _ => false

/-- The request makes a new handle. -/
def Request.isCopy : Request → Bool
  | .copy _ => true
  | _ => false

/-- What a handle tells of the gate, if there is such a handle. -/
def isAccepting? (s : Shared) (handle : Nat) : Option Bool :=
  if handle < s.handles then some s.outbox.accepting else none

/-- A request and what it gave back. -/
structure Exchange where
  request : Request
  reply : Reply
  deriving DecidableEq

/-- The item that was put in; one that was forced is the driver's own. -/
def Exchange.accepted : Exchange → List Item
  | ⟨.enqueue _ item, .accepted true⟩ => [item]
  | ⟨.force _ command, .accepted true⟩ => [⟨command, true⟩]
  | _ => []

/-- The items that were taken out. -/
def Exchange.taken : Exchange → List Item
  | ⟨_, .item item⟩ => item.toList
  | ⟨_, .items items⟩ => items
  | _ => []

/-- A request is made. -/
def exchange (s : Shared) (request : Request) : Exchange :=
  ⟨request, (s.step request).1⟩

/-- What the reader leaves behind if it goes away. -/
def leaves (s : Shared) : Request → List Item
  | .abandon => s.outbox.queue
  | _ => []

/-! ## Courses of requests -/

/-- The queue after some requests. -/
def after (s : Shared) (requests : List Request) : Shared :=
  requests.foldl (fun s request => (s.step request).2) s

/-- The exchanges in the course of requests. -/
def exchanges (s : Shared) : List Request → List Exchange
  | [] => []
  | request :: requests => s.exchange request :: (s.step request).2.exchanges requests

/-- The items that were put in by requests, in their order. -/
def accepted (s : Shared) (requests : List Request) : List Item :=
  (s.exchanges requests).flatMap Exchange.accepted

/-- The items that were taken out by requests, in their order. -/
def taken (s : Shared) (requests : List Request) : List Item :=
  (s.exchanges requests).flatMap Exchange.taken

/-- The items that the reader left behind in the course of requests. -/
def discarded (s : Shared) : List Request → List Item
  | [] => []
  | request :: requests => s.leaves request ++ (s.step request).2.discarded requests

variable (s : Shared) (request : Request) (requests : List Request)

theorem after_cons : s.after (request :: requests) = (s.step request).2.after requests := rfl

theorem accepted_cons :
    s.accepted (request :: requests) = (s.exchange request).accepted ++ (s.step request).2.accepted requests := rfl

theorem taken_cons :
    s.taken (request :: requests) = (s.exchange request).taken ++ (s.step request).2.taken requests := rfl

/-! ## One request -/

theorem step_force (handle : Nat) (command : Command) :
    s.step (.force handle command) =
      if s.outbox.attended then
        (.accepted true, { s with outbox.queue := s.outbox.queue ++ [⟨command, true⟩] })
      else (.accepted false, s) := by
  obtain ⟨⟨queue, accepting, attended⟩, handles⟩ := s
  cases attended <;> rfl

theorem step_enqueue (handle : Nat) (item : Item) :
    s.step (.enqueue handle item) =
      if s.outbox.accepting && s.outbox.attended then
        (.accepted true, { s with outbox.queue := s.outbox.queue ++ [item] })
      else (.accepted false, s) := by
  obtain ⟨⟨queue, accepting, attended⟩, handles⟩ := s
  cases accepting <;> cases attended <;> rfl

/-- What has become of the gate, of the reader and of the handles. -/
structure Ledger (s t : Shared) (requests : List Request) : Prop where
  gate : t.outbox.accepting = (s.outbox.accepting && !requests.any Request.isClose)
  reader : t.outbox.attended = (s.outbox.attended && !requests.contains .abandon)
  handles : t.handles = s.handles + requests.countP Request.isCopy

theorem ledger_step : s.Ledger (s.step request).2 [request] := by
  cases request with
  | enqueue handle item =>
    rw [step_enqueue]
    split <;> exact ⟨(Bool.and_true _).symm, (Bool.and_true _).symm, rfl⟩
  | force handle command =>
    rw [step_force]
    split <;> exact ⟨(Bool.and_true _).symm, (Bool.and_true _).symm, rfl⟩
  | close _ => exact ⟨(Bool.and_false _).symm, (Bool.and_true _).symm, rfl⟩
  | copy _ | take | drain => exact ⟨(Bool.and_true _).symm, (Bool.and_true _).symm, rfl⟩
  | abandon => exact ⟨(Bool.and_true _).symm, (Bool.and_false _).symm, rfl⟩

variable {s} in
theorem Ledger.trans {t u : Shared} {requests more : List Request} (h : s.Ledger t requests) (g : t.Ledger u more) :
    s.Ledger u (requests ++ more) where
  gate := by rw [g.gate, h.gate, List.any_append, Bool.not_or, Bool.and_assoc]
  reader := by rw [g.reader, h.reader, List.contains_append, Bool.not_or, Bool.and_assoc]
  handles := by rw [g.handles, h.handles, List.countP_append, Nat.add_assoc]

theorem ledger_after : s.Ledger (s.after requests) requests := by
  induction requests generalizing s with
  | nil => exact ⟨(Bool.and_true _).symm, (Bool.and_true _).symm, rfl⟩
  | cons request requests ih => exact (ledger_step s request).trans (ih _)

/-! ## Nothing is lost -/

/-- A request takes from the front of the queue and adds at its end. -/
theorem balance_step :
    (s.exchange request).taken ++ s.leaves request ++ (s.step request).2.outbox.queue =
      s.outbox.queue ++ (s.exchange request).accepted := by
  cases request with
  | enqueue handle item =>
    rw [exchange, step_enqueue]
    split
    · rfl
    · exact (List.append_nil _).symm
  | force handle command =>
    rw [exchange, step_force]
    split
    · rfl
    · exact (List.append_nil _).symm
  | close _ | copy _ => exact (List.append_nil _).symm
  | take =>
    show (s.outbox.queue.head?.toList ++ [] ++ s.outbox.queue.tail : List Item) = s.outbox.queue ++ []
    cases s.outbox.queue <;> simp
  | drain => simp [exchange, step, Exchange.taken, Exchange.accepted, leaves, Outbox.drain]
  | abandon => simp [exchange, step, Exchange.taken, Exchange.accepted, leaves, Outbox.abandon]

/-- The reader has gone and taken the queue with it. -/
structure Deserted (s : Shared) : Prop where
  unattended : s.outbox.attended = false
  empty : s.outbox.queue = []

variable {s} in
/-- Nothing comes in once the reader has gone, so nothing goes out. -/
theorem Deserted.step (h : s.Deserted) :
    (s.exchange request).accepted = [] ∧ (s.exchange request).taken = [] ∧ s.leaves request = [] ∧
      (s.step request).2.Deserted := by
  have added : (s.exchange request).accepted = [] := by
    cases request with
    | enqueue handle item =>
      rw [exchange, step_enqueue, h.unattended, Bool.and_false]
      rfl
    | force handle command =>
      rw [exchange, step_force, h.unattended]
      rfl
    | _ => rfl
  have balanced := balance_step s request
  rw [added, h.empty] at balanced
  obtain ⟨out, queued⟩ := List.append_eq_nil_iff.1 balanced
  obtain ⟨untaken, unlost⟩ := List.append_eq_nil_iff.1 out
  have unattended := (ledger_step s request).reader
  rw [h.unattended, Bool.false_and] at unattended
  exact ⟨added, untaken, unlost, unattended, queued⟩

variable {s} in
theorem Deserted.after (h : s.Deserted) :
    s.accepted requests = [] ∧ s.taken requests = [] ∧ s.discarded requests = [] ∧ (s.after requests).Deserted := by
  induction requests generalizing s with
  | nil => exact ⟨rfl, rfl, rfl, h⟩
  | cons request requests ih =>
    obtain ⟨added, untaken, unlost, next⟩ := h.step request
    obtain ⟨addeds, untakens, unlosts, last⟩ := ih next
    rw [accepted_cons, taken_cons, discarded, added, untaken, unlost, addeds, untakens, unlosts]
    exact ⟨rfl, rfl, rfl, last⟩

theorem deserted_of_abandon : (s.step .abandon).2.Deserted := ⟨rfl, rfl⟩

theorem leaves_of_ne {request : Request} (stays : request ≠ .abandon) : s.leaves request = [] := by
  cases request with
  | abandon => exact absurd rfl stays
  | _ => rfl

/-- What was taken, then what the reader left behind, then what is queued still: it is what was queued at first and what
has been accepted since. -/
theorem balance :
    s.taken requests ++ s.discarded requests ++ (s.after requests).outbox.queue =
      s.outbox.queue ++ s.accepted requests := by
  induction requests generalizing s with
  | nil => exact (List.append_nil _).symm
  | cons request requests ih =>
    have first := balance_step s request
    rw [taken_cons, discarded, after_cons, accepted_cons]
    by_cases leaving : request = .abandon
    · subst leaving
      -- what the reader leaves behind is the last there is
      obtain ⟨added, untaken, unlost, last⟩ := s.deserted_of_abandon.after requests
      rw [added, untaken, unlost, last.empty, List.append_nil, List.append_nil, List.append_nil, List.append_nil]
      rwa [s.deserted_of_abandon.empty, List.append_nil] at first
    · have stays := s.leaves_of_ne leaving
      rw [stays, List.append_nil] at first
      calc
        _ = (s.exchange request).taken ++ ((s.step request).2.taken requests ++
              (s.step request).2.discarded requests ++ ((s.step request).2.after requests).outbox.queue) := by
          rw [stays, List.nil_append, List.append_assoc, List.append_assoc, List.append_assoc]
        _ = s.outbox.queue ++ ((s.exchange request).accepted ++ (s.step request).2.accepted requests) := by
          rw [ih, ← List.append_assoc, first, List.append_assoc]

/-- Nothing is left behind while the reader is there, and nothing is queued afterwards. -/
theorem discarded_or_queued :
    if requests.contains .abandon then (s.after requests).outbox.queue = [] else s.discarded requests = [] := by
  induction requests generalizing s with
  | nil => rfl
  | cons request requests ih =>
    rw [List.contains_cons, after_cons, discarded]
    by_cases leaving : request = .abandon
    · subst leaving
      exact (s.deserted_of_abandon.after requests).2.2.2.empty
    · have other : (Request.abandon == request) = false := beq_false_of_ne (Ne.symm leaving)
      rw [other, Bool.false_or, s.leaves_of_ne leaving]
      exact ih _

/-! ## Every handle tells the same -/

/-- A shut gate is never opened again, whichever handle is asked. -/
theorem isAccepting?_after {handle : Nat} (told : s.isAccepting? handle = some false) (other : Nat) :
    (s.after requests).isAccepting? other ≠ some true := by
  have shut : s.outbox.accepting = false := by
    unfold isAccepting? at told
    split at told
    · exact Option.some.inj told
    · cases told
  rw [isAccepting?, (ledger_after s requests).gate, shut, Bool.false_and]
  split <;> exact nofun

/-- **The handles of a queue share its order and its gate.** After any requests through any handles, the items that were
taken, followed by those the reader left behind or, while it is there, those still queued, are the items that were
accepted, in the order of the requests and the forced ones marked as the driver's own. An item is accepted unless a
handle was closed or the reader went away before, a forced one unless the reader went away; one that is not accepted
changes nothing. There is a handle for every copy made besides the first, all of them tell that the gate is open unless
any of them was closed, and once one has told that it is shut, none tells otherwise again. -/
theorem one_queue_for_all_handles (requests : List Request) :
    let first : Shared := {}
    let s := first.after requests
    let shut := requests.any Request.isClose
    let gone := requests.contains .abandon
    first.taken requests ++ (if gone then first.discarded requests else s.outbox.queue) = first.accepted requests ∧
    (gone → s.outbox.queue = []) ∧
    (∀ handle item, s.step (.enqueue handle item) =
      if shut || gone then (.accepted false, s)
      else (.accepted true, { s with outbox.queue := s.outbox.queue ++ [item] })) ∧
    (∀ handle command, s.step (.force handle command) =
      if gone then (.accepted false, s)
      else (.accepted true, { s with outbox.queue := s.outbox.queue ++ [⟨command, true⟩] })) ∧
    (∀ handle, s.isAccepting? handle =
      if handle ≤ requests.countP Request.isCopy then some !shut else none) ∧
    ∀ handle other later, s.isAccepting? handle = some false → (s.after later).isAccepting? other ≠ some true := by
  intro first s shut gone
  have ledger := ledger_after first requests
  have gate : s.outbox.accepting = !shut := ledger.gate
  have reader : s.outbox.attended = !gone := ledger.reader
  have balanced : first.taken requests ++ first.discarded requests ++ s.outbox.queue = first.accepted requests :=
    balance first requests
  have rest : if gone then s.outbox.queue = [] else first.discarded requests = [] := discarded_or_queued first requests
  refine ⟨?_, ?_, ?_, ?_, ?_, ?_⟩
  · by_cases left : gone
    · rw [if_pos left] at rest ⊢
      rwa [rest, List.append_nil] at balanced
    · rw [if_neg left] at rest ⊢
      rwa [rest, List.append_nil] at balanced
  · intro left
    rwa [if_pos left] at rest
  · intro handle item
    rw [step_enqueue, gate, reader]
    cases shut <;> cases gone <;> rfl
  · intro handle command
    rw [step_force, reader]
    cases gone <;> rfl
  · intro handle
    rw [isAccepting?, gate, ledger.handles]
    simp [first, Nat.lt_one_add_iff]
  · intro handle other later told
    exact s.isAccepting?_after later told other

/-- The first handle is closed: the copy made before and the one made afterwards both tell so, now and after more. -/
theorem one_queue_for_all_handles_closed :
    let requests : List Shared.Request :=
      [.copy 0, .enqueue 1 ⟨.ping, false⟩, .force 0 .abortMacro, .take, .close 0, .copy 1, .enqueue 1 ⟨.ping, true⟩,
        .force 2 .jumpToBootloader, .abandon]
    let s := ({} : Shared).after requests
    ({} : Shared).taken requests = [⟨.ping, false⟩] ∧
    ({} : Shared).discarded requests = [⟨.abortMacro, true⟩, ⟨.jumpToBootloader, true⟩] ∧
    s.outbox.queue = [] ∧ s.isAccepting? 2 = some false ∧
    (s.after [.copy 2]).isAccepting? 3 ≠ some true := by
  intro requests s
  obtain ⟨-, empty, -, -, tells, never⟩ := one_queue_for_all_handles requests
  have told : s.isAccepting? 2 = some false := tells 2
  exact ⟨by decide, by decide, empty (by decide), told, never 2 3 [.copy 2] told⟩

end RobotDriver.Outbox.Shared
