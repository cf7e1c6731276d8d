import RobotDriver.Proofs.Robot.Strides
import RobotDriver.Proofs.Robot.Transcript

/-!
# The gate is open while a connection is in use

`Gated` says that the queue of a connection lets everything in until the connection is closed, and nothing after that.
Every passage of a run keeps it, so that it is known at each moment what becomes of commands that are offered to the
queue: `Gated.enqueueAll`.
-/

namespace RobotDriver

/-- The gate of the connection that is there is open until it is closed. -/
def Session.Gated : Session → Prop
  | down => True
  | up link => link.outbox.accepting = true
  | closing link _ => link.outbox.accepting = false

theorem Link.Spared.accepting {before after : Link} (h : before.Spared after) :
    after.outbox.accepting = before.outbox.accepting := by
  obtain ⟨offers, writer⟩ := h.writer
  rw [Link.outbox, writer]
  exact Outbox.foldl_offer_accepting offers _

namespace Session.Gated

variable {s t : Session}

theorem tended (h : s.Gated) (tended : s.Tended t) : t.Gated := by
  cases tended with
  | down => trivial
  | up tended => exact tended.toSpared.accepting.trans h
  | closing _ tended => exact tended.toSpared.accepting.trans h

/-- The connection changes in what does not concern the gate. -/
theorem mapLink (h : s.Gated) {f : Link → Link}
    (same : ∀ link, s.link? = some link → (f link).outbox.accepting = link.outbox.accepting) : (s.mapLink f).Gated := by
  cases s with
  | down => trivial
  | up link => exact (same link rfl).trans h
  | closing link closure => exact (same link rfl).trans h

end Session.Gated

namespace Robot

/-- The connection that is there is watched and gated. -/
structure Gated (r : Robot) : Prop where
  watched : Watched r
  session : r.session.Gated

variable {may : Privilege → Prop} {r s : Robot} {link : Link}

theorem gated_part (q : Robot) (n : Note) (e : Event) : (q.part n e).session.Gated := by
  obtain ⟨hearers, told, -, -, same⟩ := q.part_eq n e
  rw [same]
  trivial

theorem Gated.act (h : Gated r) (act : Act may r s) : s.session.Gated := by
  have session := h.session
  cases act with
  | tends tends =>
    obtain ⟨ds, -, tends⟩ := tends
    exact session.tended tends.session
  | marked hl marker running progresses | submitted allowed accepted progresses =>
    exact session.tended progresses.tends.session
  | sink hl sink => exact session.mapLink (forall_link? hl rfl)
  | worked allowed hl tells going => exact session.mapLink (forall_link? hl (Outbox.gate_work _).1)
  | @echoed link closure hs =>
    rw [hs] at session
    exact session
  | confirmed | lost | broken | lapsed => exact gated_part _ _ _
  | begun hs launched =>
    obtain ⟨calm, hearers, told, -, -, -, tends⟩ := begun_tends launched
    refine Session.Gated.tended ?_ tends.session
    rw [fresh_eq]
    rfl
  | @closing link hs waiter =>
    have watched := h.watched.session
    rw [hs] at watched
    obtain ⟨tasks, -, begins⟩ := r.beginDisconnect_eq watched.2.2.1 waiter
    rw [begins]
    rfl
  | @watched link closure allowed hs =>
    rw [hs] at session
    exact session
  | dialled | took | received | answered | expired | surplus | taken | returned | called | finished | aborted
  | followed => exact session

theorem Gated.passage (h : Gated r) {kept : Prop} (passage : Passage kept r s) : Gated s := by
  refine ⟨h.watched.passage passage, ?_⟩
  have session := h.session
  cases passage with
  | act act => exact h.act act
  | tick ms => exact session
  | ring =>
    unfold Robot.ring onLink
    dsimp only
    split
    · exact session
    · next link hl => exact session.mapLink (forall_link? hl rfl)
  | abandon =>
    show (forgetWaiter r.session).Gated
    cases hs : r.session with
    | down => trivial
    | up link | closing link closure =>
      rw [hs] at session
      exact session
  | quit => trivial

theorem gated_make {address : String} {settings : Settings} (made : make address settings = .ok r) : Gated r := by
  refine ⟨watched_make made, ?_⟩
  obtain ⟨address, rfl⟩ := eq_of_make made
  trivial

theorem Strides.gated (strides : Strides r s) (h : Gated r) : Gated s :=
  strides.keeps (fun held passage => held.passage passage) h

/-! ## Offers -/

theorem link?_enqueue (hl : r.link? = some link) (item : Outbox.Item) :
    (r.enqueue item).2.link? = some (link.withOutbox (link.outbox.offer item)) := by
  unfold enqueue Outbox.offer
  simp only [hl]
  cases link.outbox.enqueue item with
  | ok outbox => exact link?_requeue hl outbox
  | error refusal => exact hl

theorem link?_enqueueAll (items : List Outbox.Item) (hl : r.link? = some link) :
    (r.enqueueAll items).link? = some (link.withOutbox (items.foldl Outbox.offer link.outbox)) := by
  induction items generalizing r link with
  | nil => exact hl
  | cons item items ih => exact ih (link?_enqueue hl item)

theorem Sends.isConnected {ds : List Deed} (h : Sends r ds s) : s.isConnected = r.isConnected := by
  obtain ⟨send, ready, rfl⟩ := h
  show (r.session.mapLink _).isUp = r.session.isUp
  cases r.session <;> rfl

/-- What becomes of items that are offered to the queue: they enter it behind all the others if the connection is in
use, and none of them does if it is being closed. -/
theorem Gated.queue_enqueueAll (h : Gated r) (hl : r.link? = some link) (items : List Outbox.Item) :
    queueOf link.generation (r.enqueueAll items) =
      queueOf link.generation r ++ if r.isConnected then items else [] := by
  have session := h.session
  have watched := h.watched.session
  have after := link?_enqueueAll items hl
  have there : (r.enqueueAll items).current? link.generation =
      some (link.withOutbox (items.foldl Outbox.offer link.outbox)) := current?_of_link after
  rw [queueOf_current there, queueOf_current (current?_of_link hl)]
  unfold Robot.isConnected
  obtain hs | ⟨closure, hs⟩ := session_of_link? hl
  · rw [hs] at session watched ⊢
    exact congrArg Outbox.queue (Outbox.foldl_offer_of_open items session watched.2.2.1)
  · rw [hs] at session ⊢
    exact (congrArg Outbox.queue (Outbox.foldl_offer_of_closed items session)).trans (List.append_nil _).symm

end Robot

end RobotDriver
