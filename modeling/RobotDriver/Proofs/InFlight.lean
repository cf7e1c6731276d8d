import RobotDriver.InFlight.Clocked
import RobotDriver.Proofs.Ordered
import RobotDriver.Total

/-!
# Every command in flight leaves once

Entries are stamped by a clock that never goes back and stand in the order in which they were registered, so those that
are overdue stand in front of all that are not, whenever that is asked: to expire from the front is to expire exactly
what is overdue (`Ordered.expire`). `registered` reads off the requests alone what was registered and when, `taken` what
left the queue; together with what waits they balance after every run.
-/

namespace RobotDriver.InFlight

/-- The entries stand in the order in which they were sent. -/
def Ordered (q : InFlight) : Prop :=
  q.entries.Pairwise fun a b => a.sentAt ≤ b.sentAt

/-- What was sent before something overdue is overdue too. -/
theorem isOverdue_of_sentAt_le {now timeout : Nat} {a b : Entry} (earlier : a.sentAt ≤ b.sentAt)
    (overdue : b.isOverdue now timeout = true) : a.isOverdue now timeout = true := by
  unfold Entry.isOverdue at *
  rw [decide_eq_true_eq] at *
  omega

/-- Of entries in order, all that are overdue expire and no other, whatever the moment that they are judged by. -/
theorem Ordered.expire {q : InFlight} (h : q.Ordered) (now timeout : Nat) :
    q.expire now timeout =
      (q.entries.filter (Entry.isOverdue now timeout),
        { entries := q.entries.filter fun e => !e.isOverdue now timeout }) := by
  have before : ∀ a b : Entry, a.sentAt ≤ b.sentAt → b.isOverdue now timeout = true →
      a.isOverdue now timeout = true := by
    intro a b
    exact isOverdue_of_sentAt_le
  rw [InFlight.expire, takeWhile_eq_filter h before, dropWhile_eq_filter h before]

namespace Clocked

variable {c : Clocked}

/-! ## Runs -/

/-- The state after requests one after the other. -/
def after (c : Clocked) (requests : List Request) : Clocked :=
  requests.foldl (fun c request => (c.step request).2) c

/-- The time that passes with a request. -/
def Request.ms : Request → Nat
  | .advance ms => ms
  | .register _ _ | .resolve _ | .expire _ _ | .clear => 0

/-- The time that passes in the course of requests. -/
def elapsed (requests : List Request) : Nat :=
  total (requests.map Request.ms)

/-- What requests register if the first is made at `now`. -/
def registered (now : Nat) : List Request → List Entry
  | [] => []
  | .register command system :: requests => ⟨command, system, now⟩ :: registered now requests
  | .advance ms :: requests => registered (now + ms) requests
  | .resolve _ :: requests | .expire _ _ :: requests | .clear :: requests => registered now requests

/-- The entries that a reply gives back. -/
def Reply.given : Reply → List Entry
  | done => []
  | entry e => e.toList
  | entries es => es

/-- The entries that leave the queue with a request: all of them if it is cleared, and else those in the reply. -/
def takes (c : Clocked) : Request → List Entry
  | .clear => c.waiting.entries
  | request => (c.step request).1.given

/-- The entries that leave the queue in the course of requests. -/
def taken (c : Clocked) : List Request → List Entry
  | [] => []
  | request :: requests => c.takes request ++ (c.step request).2.taken requests

/-! ## One request -/

/-- The entries are in order, and none is from the future. -/
structure Stamped (c : Clocked) : Prop where
  ordered : c.waiting.Ordered
  past : ∀ e ∈ c.waiting.entries, e.sentAt ≤ c.now

theorem Stamped.of_sublist (h : c.Stamped) {q : InFlight} (fewer : q.entries.Sublist c.waiting.entries) :
    Stamped { c with waiting := q } where
  ordered := h.ordered.sublist fewer
  past e member := h.past e (fewer.subset member)

theorem Stamped.step (h : c.Stamped) (request : Request) : (c.step request).2.Stamped := by
  cases request with
  | register command system =>
    constructor
    · -- The new entry comes last and has the latest stamp.
      refine List.pairwise_append.2 ⟨h.ordered, List.pairwise_singleton _ _, ?_⟩
      intro a member b new
      rw [List.mem_singleton.1 new]
      exact h.past a member
    · intro e member
      rcases List.mem_append.1 member with old | new
      · exact h.past e old
      · rw [List.mem_singleton.1 new]
        exact Nat.le_refl c.now
  | resolve response => exact h.of_sublist (List.tail_sublist _)
  | expire timeout back => exact h.of_sublist (List.dropWhile_sublist _)
  | clear => exact h.of_sublist (List.nil_sublist _)
  | advance ms => exact ⟨h.ordered, fun e member => Nat.le_trans (h.past e member) (Nat.le_add_right _ _)⟩

theorem Stamped.after (h : c.Stamped) (requests : List Request) : (c.after requests).Stamped := by
  induction requests generalizing c with
  | nil => exact h
  | cons request requests ih => exact ih (h.step request)

theorem now_step (c : Clocked) (request : Request) : (c.step request).2.now = c.now + request.ms := by
  cases request <;> rfl

/-- What waited and what is registered leaves with the request or waits afterwards. -/
theorem takes_append (c : Clocked) (request : Request) :
    c.takes request ++ (c.step request).2.waiting.entries = c.waiting.entries ++ registered c.now [request] := by
  cases request with
  | register command system => rfl
  | resolve response =>
    show c.waiting.entries.head?.toList ++ c.waiting.entries.tail = c.waiting.entries ++ []
    cases c.waiting.entries <;> simp
  | expire timeout back =>
    show c.waiting.entries.takeWhile _ ++ c.waiting.entries.dropWhile _ = c.waiting.entries ++ []
    rw [List.takeWhile_append_dropWhile, List.append_nil]
  | clear => rfl
  | advance ms =>
    show [] ++ c.waiting.entries = c.waiting.entries ++ []
    rw [List.nil_append, List.append_nil]

/-! ## The balance -/

theorem registered_cons (now : Nat) (request : Request) (requests : List Request) :
    registered now (request :: requests) =
      registered now [request] ++ registered (now + request.ms) requests := by
  cases request <;> simp [registered, Request.ms]

theorem now_after (c : Clocked) (requests : List Request) : (c.after requests).now = c.now + elapsed requests := by
  induction requests generalizing c with
  | nil => rfl
  | cons request requests ih =>
    have later : (c.after (request :: requests)).now = ((c.step request).2.after requests).now := rfl
    rw [later, ih, now_step, Nat.add_assoc]
    rfl

/-- Every entry that waited or was registered has left the queue or still waits, in order. -/
theorem conserved (c : Clocked) (requests : List Request) :
    c.taken requests ++ (c.after requests).waiting.entries =
      c.waiting.entries ++ registered c.now requests := by
  induction requests generalizing c with
  | nil => simp [taken, after, registered]
  | cons request requests ih =>
    have later : c.after (request :: requests) = (c.step request).2.after requests := rfl
    rw [later, taken, List.append_assoc, ih, now_step, ← List.append_assoc, takes_append, List.append_assoc,
      ← registered_cons]

/-- **Commands in flight are conserved, and exactly the overdue ones expire.** Whatever is asked of an empty queue from
whatever moment on, the entries registered, each with the time at which it was, are in order those that were resolved,
expired or cleared, and then those that wait. The next response takes the oldest of these. What expires next, judged by
the present or any earlier moment and with any timeout, are the entries whose age is at least the timeout, where one
sent after that moment has age zero; they are given back in order, and all younger ones stay in theirs. -/
theorem balanced_after (start : Nat) (requests : List Request) :
    let fresh : Clocked := { now := start }
    let c := fresh.after requests
    registered start requests = fresh.taken requests ++ c.waiting.entries ∧
    c.now = start + elapsed requests ∧
    (∀ response, c.step (.resolve response) =
      (.entry c.waiting.entries.head?, { c with waiting := { entries := c.waiting.entries.tail } })) ∧
    ∀ timeout back,
      let overdue (e : Entry) : Bool := timeout ≤ c.now - back - e.sentAt
      c.step (.expire timeout back) =
        (.entries (c.waiting.entries.filter overdue),
          { c with waiting := { entries := c.waiting.entries.filter fun e => !overdue e } }) := by
  intro fresh c
  have stamped : c.Stamped := by
    apply Stamped.after
    constructor
    · exact List.Pairwise.nil
    · intro e member
      cases member
  refine ⟨(conserved fresh requests).symm, now_after fresh requests, ?_, ?_⟩
  · intro response
    rfl
  · intro timeout back overdue
    have expired := stamped.ordered.expire (c.now - back) timeout
    simp only [step, expired]
    rfl

end Clocked

end RobotDriver.InFlight
