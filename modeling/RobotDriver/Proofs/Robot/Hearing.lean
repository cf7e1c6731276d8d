import RobotDriver.Proofs.Robot.Gating

/-!
# What a report sets off

Listeners may answer what they hear with commands of their own, and `session_tell` says that this is all that a report
does to the connection: the commands are offered to its queue, in the order in which the listeners are registered. A
connection that is being closed takes none of them, so that nothing changes then (`session_tell_of_disconnected`).
-/

namespace RobotDriver

/-- What a listener sends when it hears a report. -/
def Listener.reply? (l : Listener) (report : Report) : Option Outbox.Item :=
  match l.reply with
  | none => none
  | some (trigger, command) => if trigger.fires report then some ⟨command, false⟩ else none

/-- What all listeners send when they hear a report, in order. -/
def Audience.replies (a : Audience) (report : Report) : List Outbox.Item :=
  a.hearers.filterMap fun hearer => hearer.2.reply? report

/-- Items are sent on the connection, unless it is being closed. -/
def Link.sent (l : Link) (items : List Outbox.Item) : Link :=
  if l.scheduler.stopped then l else l.withOutbox (items.foldl Outbox.offer l.outbox)

namespace Link

theorem sent_nil (l : Link) : l.sent [] = l := by
  unfold sent
  split <;> rfl

@[simp] theorem generation_sent (l : Link) (items : List Outbox.Item) : (l.sent items).generation = l.generation := by
  unfold sent
  split <;> rfl

@[simp] theorem scheduler_sent (l : Link) (items : List Outbox.Item) : (l.sent items).scheduler = l.scheduler := by
  unfold sent
  split <;> rfl

theorem sent_sent (l : Link) (xs ys : List Outbox.Item) : (l.sent xs).sent ys = l.sent (xs ++ ys) := by
  unfold sent
  by_cases stopped : l.scheduler.stopped = true
  · simp only [if_pos stopped]
  · simp only [if_neg stopped, List.foldl_append]
    exact if_neg stopped

end Link

namespace Robot

variable {r : Robot} {link : Link}

/-! ## Commands -/

theorem session_withLink (hl : r.link? = some link) (f : Link → Link) :
    (r.withLink (f link)).session = r.session.mapLink f :=
  Session.mapLink_congr (f := fun _ => f link) hl rfl

theorem mapLink_of_none (gone : r.link? = none) (f : Link → Link) : r.session.mapLink f = r.session := by
  rw [session_of_link?_eq_none gone]
  rfl

/-- An item is offered to the queue, and that is all. -/
theorem session_enqueue (r : Robot) (item : Outbox.Item) :
    (r.enqueue item).2.session = r.session.mapLink fun link => link.withOutbox (link.outbox.offer item) := by
  unfold enqueue
  split
  · next gone => exact (mapLink_of_none gone _).symm
  · next link hl =>
    rw [← session_withLink hl fun link => link.withOutbox (link.outbox.offer item)]
    unfold Outbox.offer
    cases link.outbox.enqueue item with
    | ok => exact r.session_requeue link _
    | error => exact ((Session.mapLink_congr (g := fun link => link) hl rfl).trans r.session.mapLink_id).symm

theorem session_enqueueAll (items : List Outbox.Item) (r : Robot) :
    (r.enqueueAll items).session = r.session.mapLink fun link =>
      link.withOutbox (items.foldl Outbox.offer link.outbox) := by
  induction items generalizing r with
  | nil => exact r.session.mapLink_id.symm
  | cons item items ih =>
    refine (ih (r.enqueue item).2).trans ?_
    rw [session_enqueue, Session.mapLink_mapLink]
    rfl

theorem session_submit (r : Robot) (item : Outbox.Item) :
    (r.submit item).2.session = r.session.mapLink (·.sent [item]) := by
  unfold submit
  split
  · next gone => exact (mapLink_of_none gone _).symm
  · next link hl =>
    split
    · next stopped =>
      have same : link.sent [item] = link := if_pos stopped
      exact ((Session.mapLink_congr (g := fun link => link) hl same).trans r.session.mapLink_id).symm
    · next going =>
      have same : link.sent [item] = link.withOutbox (link.outbox.offer item) := if_neg going
      exact (session_enqueue r item).trans (Session.mapLink_congr hl same.symm)

/-! ## Reports -/

theorem session_tellOne (report : Report) (r : Robot) (hearer : Nat × Listener) :
    (tellOne report r hearer).session = r.session.mapLink (·.sent (hearer.2.reply? report).toList) := by
  have nothing : r.session = r.session.mapLink (·.sent []) := by simp only [Link.sent_nil, Session.mapLink_id]
  unfold tellOne Listener.reply?
  cases reply : hearer.2.reply with
  | none => exact nothing
  | some answer =>
    cases fires : answer.1.fires report with
    | false =>
      simp only [fires]
      exact nothing
    | true =>
      simp only [fires]
      exact session_submit (r.record (.told hearer.1 report)) ⟨answer.2, false⟩

theorem session_foldl_tellOne (report : Report) (hearers : List (Nat × Listener)) (r : Robot) :
    (hearers.foldl (tellOne report) r).session =
      r.session.mapLink (·.sent (hearers.filterMap fun hearer => hearer.2.reply? report)) := by
  induction hearers generalizing r with
  | nil => simp only [List.foldl_nil, List.filterMap_nil, Link.sent_nil, Session.mapLink_id]
  | cons hearer hearers ih =>
    rw [List.foldl_cons, ih, session_tellOne, Session.mapLink_mapLink]
    simp only [Link.sent_sent, List.filterMap_cons]
    cases hearer.2.reply? report <;> rfl

/-- Whoever hears a report may send, and that is all that the connection comes to know of it. -/
theorem session_tell (r : Robot) (report : Report) :
    (r.tell report).session = r.session.mapLink (·.sent (r.audience.replies report)) :=
  session_foldl_tellOne report r.audience.hearers _

/-- A report that no one answers leaves the connection as it is. -/
theorem session_tell_of_unanswered {report : Report} (unanswered : r.audience.replies report = []) :
    (r.tell report).session = r.session := by
  rw [session_tell, unanswered]
  simp only [Link.sent_nil, Session.mapLink_id]

/-- A connection that is being closed takes no answers. -/
theorem session_tell_of_disconnected (gated : r.session.Gated) (disconnected : r.isConnected = false)
    (report : Report) : (r.tell report).session = r.session := by
  rw [session_tell]
  unfold isConnected at disconnected
  cases hs : r.session with
  | down => rfl
  | up link => rw [hs] at disconnected; cases disconnected
  | closing link closure =>
    rw [hs] at gated
    have same : link.sent (r.audience.replies report) = link := by
      unfold Link.sent
      split
      · rfl
      · rw [Outbox.foldl_offer_of_closed _ gated]
        rfl
    exact congrArg (Session.closing · closure) same

end Robot

end RobotDriver
