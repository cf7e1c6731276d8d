import RobotDriver.Proofs.Robot.Listing
import RobotDriver.Proofs.Robot.Submitting

/-!
# What listeners learn of their commands

A listener that answers a report with a command learns whether the command was accepted, while the driver is in the
middle of something. `Candid` says that what listeners learn agrees with what is noted of the life of the connection: a
command was accepted exactly if a connection was in use at that moment. What makes it so is that a connection in use is
ready for commands in every respect, and one that is being closed in none (`Session.Apt`).
-/

namespace RobotDriver

/-- Whether a connection is in use after a deed, by what is noted of its life. -/
def Deed.turn (used : Bool) : Deed → Bool
  | noted (.connected _ _) => true
  | noted n => used && !n.isMilestone
  | _ => used

/-- Whether a connection is in use after some deeds. Whatever changes this is noted before anyone is told of it, so what
is noted is also right in the middle of something. -/
def usedAfter (used : Bool) (ds : List Deed) : Bool :=
  ds.foldl Deed.turn used

/-- Every listener that has sent a command has learnt that it was accepted if a connection was in use, and that it was
not if there was none. -/
def Frank (used : Bool) : List Deed → Prop
  | [] => True
  | d :: ds => (∀ listener sent, d = .replied listener sent → sent = used) ∧ Frank (d.turn used) ds

section

variable {used : Bool} {ds es : List Deed}

theorem usedAfter_append (used : Bool) (ds es : List Deed) :
    usedAfter used (ds ++ es) = usedAfter (usedAfter used ds) es :=
  List.foldl_append

theorem frank_append : Frank used (ds ++ es) ↔ Frank used ds ∧ Frank (usedAfter used ds) es := by
  induction ds generalizing used with
  | nil => exact (and_iff_right trivial).symm
  | cons d ds ih => exact (and_congr_right fun _ => ih).trans (and_assoc.symm)

/-- Nothing is said that matters. -/
theorem frank_of_isPassing (passing : ∀ d ∈ ds, d.isPassing = true) : Frank used ds ∧ usedAfter used ds = used := by
  induction ds with
  | nil => exact ⟨trivial, rfl⟩
  | cons d ds ih =>
    obtain ⟨first, rest⟩ := List.forall_mem_cons.1 passing
    have same : d.turn used = used := by
      cases d with
      | noted n =>
        have calm : n.isMilestone = false := by simpa [Deed.isPassing] using first
        cases n <;> first | exact Bool.and_true used | cases calm
      | _ => rfl
    have unsaid (listener : Nat) (sent : Bool) : d ≠ .replied listener sent := by
      rintro rfl
      cases first
    rw [Frank, usedAfter, List.foldl_cons, same]
    exact ⟨⟨fun listener sent said => absurd said (unsaid listener sent), (ih rest).1⟩, (ih rest).2⟩

/-- What a listener has learnt is what was the case when it did. -/
theorem Frank.replied {past rest : List Deed} {listener : Nat} {sent : Bool}
    (h : Frank used (past ++ .replied listener sent :: rest)) : sent = usedAfter used past :=
  (frank_append.1 h).2.1 listener sent rfl

end

/-- A connection in use takes commands, and so does its scheduler; one that is being closed takes none, and all that was
scheduled on it is cancelled. -/
def Session.Apt : Session → Prop
  | down => True
  | up link => link.scheduler.stopped = false ∧ link.outbox.accepting = true ∧ link.outbox.attended = true
  | closing link _ => link.scheduler.stopped = true ∧ link.outbox.accepting = false

namespace Session.Apt

variable {s : Session}

theorem gated (h : s.Apt) : s.Gated := by
  cases s with
  | down => trivial
  | up link => exact h.2.1
  | closing link closure => exact h.2

theorem attended (h : s.Apt) {link : Link} (hs : s = .up link) : link.outbox.attended = true := by
  rw [hs] at h
  exact h.2.2

/-- The connection changes in neither. -/
theorem mapLink (h : s.Apt) {f : Link → Link} (same : ∀ link, s.link? = some link →
    (f link).scheduler.stopped = link.scheduler.stopped ∧ (f link).outbox.accepting = link.outbox.accepting ∧
      (f link).outbox.attended = link.outbox.attended) : (s.mapLink f).Apt := by
  cases s with
  | down => trivial
  | up link =>
    obtain ⟨stopped, accepting, attended⟩ := same link rfl
    exact ⟨stopped.trans h.1, accepting.trans h.2.1, attended.trans h.2.2⟩
  | closing link closure =>
    obtain ⟨stopped, accepting, -⟩ := same link rfl
    exact ⟨stopped.trans h.1, accepting.trans h.2⟩

end Session.Apt

namespace Robot

variable {r s t : Robot} {link : Link} {ds : List Deed}

/-! ## Offers -/

theorem enqueue_of_apt (apt : r.session.Apt) (item : Outbox.Item) : (r.enqueue item).1 = r.isConnected := by
  cases hs : r.session with
  | up link =>
    rw [hs] at apt
    rw [enqueue_of_open hs apt.2.1 apt.2.2, isConnected, hs]
    rfl
  | down | closing =>
    have disconnected : r.isConnected = false := by rw [isConnected, hs]; rfl
    obtain ⟨notes, refused⟩ := enqueue_of_disconnected apt.gated disconnected item
    rw [refused, disconnected]

/-- Commands are accepted exactly if a connection is in use. -/
theorem submit_of_apt (apt : r.session.Apt) (item : Outbox.Item) : (r.submit item).1 = r.isConnected := by
  have offered := enqueue_of_apt apt item
  unfold submit link?
  cases hs : r.session with
  | down => simp [isConnected, hs, Session.link?, Session.isUp]
  | up link =>
    rw [hs] at apt
    simpa [Session.link?, apt.1] using offered
  | closing link closure =>
    rw [hs] at apt
    simp [Session.link?, apt.1, isConnected, hs, Session.isUp]

/-! ## Candid relations -/

/-- From `r` to `s` every listener has learnt the truth, and it is noted whether a connection is in use. -/
def Candid (r s : Robot) : Prop :=
  r.session.Apt → s.session.Apt ∧ ∃ ds, s.journal = r.journal ++ ds ∧ Frank r.isConnected ds ∧
    s.isConnected = usedAfter r.isConnected ds

namespace Candid

theorem trans (h : Candid r s) (k : Candid s t) : Candid r t := by
  intro apt
  obtain ⟨apt, ds, journal, frank, used⟩ := h apt
  obtain ⟨apt, es, journal', frank', used'⟩ := k apt
  refine ⟨apt, ds ++ es, by rw [journal', journal, List.append_assoc], ?_, ?_⟩
  · rw [used] at frank'
    exact frank_append.2 ⟨frank, frank'⟩
  · rw [used', used, usedAfter_append]

/-- The connection goes on, and nothing is said that matters. -/
theorem of_mapLink {f : Link → Link} (session : s.session = r.session.mapLink f)
    (same : ∀ link, r.link? = some link → (f link).scheduler.stopped = link.scheduler.stopped ∧
      (f link).outbox.accepting = link.outbox.accepting ∧ (f link).outbox.attended = link.outbox.attended)
    (passing : ∀ d ∈ ds, d.isPassing = true) (journal : s.journal = r.journal ++ ds) : Candid r s := by
  intro apt
  obtain ⟨frank, used⟩ := @frank_of_isPassing r.isConnected ds passing
  refine ⟨session ▸ apt.mapLink same, ds, journal, frank, ?_⟩
  rw [used, isConnected, isConnected, session]
  cases r.session <;> rfl

theorem of_eq (session : s.session = r.session) (journal : s.journal = r.journal) : Candid r s :=
  of_mapLink (session.trans r.session.mapLink_id.symm) (fun _ _ => ⟨rfl, rfl, rfl⟩) (List.forall_mem_nil _)
    (journal.trans (List.append_nil _).symm)

theorem refl (r : Robot) : Candid r r :=
  of_eq rfl rfl

/-- The life of the connection turns, and nothing else is said that matters. -/
theorem of_milestone {n : Note} (apt : r.session.Apt → s.session.Apt) (passing : ∀ d ∈ ds, d.isPassing = true)
    (journal : s.journal = r.journal ++ (ds ++ [.noted n]))
    (turned : ∀ used, Deed.turn used (.noted n) = s.isConnected) : Candid r s := by
  intro before
  obtain ⟨frank, used⟩ := @frank_of_isPassing r.isConnected ds passing
  refine ⟨apt before, _, journal, frank_append.2 ⟨frank, ?_⟩, ?_⟩
  · exact ⟨fun _ _ said => (Deed.noConfusion said), trivial⟩
  · rw [usedAfter_append]
    exact (turned _).symm

end Candid

/-- A listener that sends a command learns whether a connection is in use. -/
theorem candid_reply (command : Command) (listener : Nat) (sent : Candid r (r.send command).2) :
    Candid r ((r.send command).2.record (.replied listener (r.send command).1)) := by
  intro apt
  obtain ⟨apt', ds, journal, frank, used⟩ := sent apt
  have answer : (r.send command).1 = usedAfter r.isConnected ds := by
    obtain ⟨_, _, sends⟩ := sends_send r command
    rw [← used, sends.isConnected]
    exact submit_of_apt apt _
  refine ⟨apt', ds ++ [.replied listener (r.send command).1], ?_, frank_append.2 ⟨frank, ?_⟩, ?_⟩
  · rw [← List.append_assoc, ← journal]
    rfl
  · refine ⟨fun _ _ said => ?_, trivial⟩
    obtain ⟨-, rfl⟩ := Deed.replied.inj said
    exact answer
  · rw [usedAfter_append]
    exact used

/-- A new connection is in use from the moment at which it is noted. -/
theorem candid_launched (r : Robot) :
    Candid r (r.launched.note (.connected r.address.digits (r.generations + 1))) := by
  obtain ⟨link, tasks, launched, -, going, accepting, attended⟩ := r.launched_eq
  let n := Note.connected r.address.digits (r.generations + 1)
  have up : (r.launched.note n).session = .up link := by rw [launched]; rfl
  have journal : (r.launched.note n).journal = r.journal ++ ([] ++ [.noted n]) := by rw [launched, fresh_eq]; rfl
  refine .of_milestone (fun _ => up ▸ ⟨going, accepting, attended⟩) (List.forall_mem_nil _) journal fun _ => ?_
  rw [isConnected, up]
  rfl

/-- A connection is shut in every respect at once. -/
theorem candid_beginDisconnect (hs : r.session = .up link) (waiter : Option Nat) :
    Candid r (r.beginDisconnect link waiter) := by
  intro apt
  obtain ⟨tasks, -, begins⟩ := r.beginDisconnect_eq (apt.attended hs) waiter
  have closed : Candid r (r.beginDisconnect link waiter) := by
    rw [begins]
    exact .of_milestone (fun _ => ⟨rfl, rfl⟩) (List.forall_mem_nil _) rfl fun _ => Bool.and_false _
  exact closed apt

/-- Whatever a driver does of itself is candid. -/
theorem ample_candid : Ample Candid where
  refl := .refl
  trans := .trans
  aside session _ _ _ journal _ := .of_eq session journal
  recordAll r _ passing := .of_mapLink r.session.mapLink_id.symm (fun _ _ => ⟨rfl, rfl, rfl⟩) passing rfl
  mapLink _ _ lasts := .of_mapLink rfl
    (fun link hl => ⟨(lasts link hl).stopped, (lasts link hl).accepting, (lasts link hl).attended⟩)
    (List.forall_mem_nil _) (List.append_nil _).symm
  reply _ := candid_reply
  begin _ := candid_launched _
  close := candid_beginDisconnect
  linger {r link closure} hs next apt := by
    have closing : r.isConnected = false := by rw [isConnected, hs]; rfl
    rw [hs] at apt
    exact ⟨apt, [], (List.append_nil _).symm, trivial, closing.symm⟩
  leave {r s n} farewell session _ _ journal := by
    obtain ⟨ds, passing, journal⟩ := journal
    refine .of_milestone (fun _ => session ▸ trivial) passing journal fun used => ?_
    rw [isConnected, session]
    cases n <;> first | exact Bool.and_false used | cases farewell

/-! ## Scheduled commands -/

/-- The scheduled commands of the connection change, but the scheduler neither stops nor goes on again. -/
theorem candid_scheduler (hl : r.link? = some link) {scheduler : Scheduler}
    (same : scheduler.stopped = link.scheduler.stopped) : Candid r (r.withLink { link with scheduler }) :=
  .of_mapLink rfl (forall_link? hl ⟨same, rfl, rfl⟩) (List.forall_mem_nil _) (List.append_nil _).symm

theorem candid_schedulePlan (r : Robot) (command : Command) (timer : Timer) :
    Candid r (r.schedulePlan command timer).2 := by
  unfold schedulePlan
  split
  · exact .refl r
  · next hl => exact (ample_candid.plan hl _ _).trans (.of_eq rfl rfl)

theorem candid_cancelPlan (r : Robot) (number : Nat) : Candid r (r.cancelPlan number) := by
  unfold cancelPlan
  split
  · exact .refl r
  · exact ample_candid.onCurrent _ fun _ hl => candid_scheduler hl rfl

theorem candid_runTimer (hl : r.link? = some link) (task : Nat) : Candid r (r.runTimer link task) := by
  have looked := candid_scheduler hl (link.scheduler.look_same r.rung r.clock task).1
  exact (looked.trans (ample_candid.enqueueAll _ _)).trans (ample_candid.rearm _ _ _)

/-! ## Runs -/

theorem candid_run (r : Robot) (task : Task) : Candid r (r.run task) := by
  by_cases wakes : ∃ g n, task = .wake g (.timer n)
  · obtain ⟨g, n, rfl⟩ := wakes
    exact ample_candid.onCurrent g (f := fun r link => r.runTimer link n) fun _ hl => candid_runTimer hl n
  · exact ample_candid.run r fun g n same => wakes ⟨g, n, same⟩

theorem candid_move (r : Robot) {m : Move} (single : m.isSingle = true) : Candid r (r.move m) := by
  cases m with
  | perform step => exact ample_candid.perform id (candid_schedulePlan r) (candid_cancelPlan r) single
  | run index =>
    simp only [move]
    split
    · exact .refl r
    · have taken : Candid r { r with ready := r.ready.eraseIdx index } := .of_eq rfl rfl
      exact taken.trans (candid_run _ _)
  | tick ms => exact .of_eq rfl rfl
  | ring =>
    obtain ⟨tasks, rings⟩ := r.ring_eq
    show Candid r r.ring
    rw [rings]
    exact .of_mapLink rfl (fun _ _ => ⟨rfl, rfl, rfl⟩) (List.forall_mem_nil _) (List.append_nil _).symm
  | abandon => exact ample_candid.abandonCalls r
  | quit => exact ample_candid.quit r

theorem candid_after (moves : List Move) (r : Robot) : Candid r (r.after moves) :=
  singly_after False (fun before single _ => before.trans (candid_move _ single)) (Candid.refl r) moves False.elim

/-! ## The whole of a run -/

variable {address : String} {settings : Settings} {start : Robot}

theorem apt_make (made : make address settings = .ok r) : r.session.Apt := by
  obtain ⟨address, rfl⟩ := eq_of_make made
  trivial

theorem apt_after (made : make address settings = .ok start) (moves : List Move) : (start.after moves).session.Apt :=
  (candid_after moves start (apt_make made)).1

/-- What is noted tells at every moment whether a connection is in use, and so has everyone learnt who sent commands. -/
theorem frank_after (made : make address settings = .ok start) (moves : List Move) :
    Frank false (start.after moves).journal ∧
      (start.after moves).isConnected = usedAfter false (start.after moves).journal := by
  obtain ⟨-, ds, journal, frank, used⟩ := candid_after moves start (apt_make made)
  obtain ⟨empty, unused⟩ : start.journal = [] ∧ start.isConnected = false := by
    obtain ⟨address, rfl⟩ := eq_of_make made
    exact ⟨rfl, rfl⟩
  rw [empty, List.nil_append] at journal
  rw [unused] at frank used
  subst journal
  exact ⟨frank, used⟩

end Robot

end RobotDriver
