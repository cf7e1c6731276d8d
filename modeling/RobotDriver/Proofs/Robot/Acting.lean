import RobotDriver.Proofs.Robot.Acts

/-!
# What acts lead to

The acts that begin or end a connection are functions of some size. Here are the states that they lead to, field by
field, and what all acts have in common: time stands still, and what is told of a connection is told while it is there.
-/

namespace RobotDriver

namespace Robot

variable {may : Privilege → Prop} {r s : Robot} {link : Link}

/-! ## Ends and beginnings -/

/-- A report to listeners when there is no connection changes nothing but the journal: they cannot send. -/
theorem tell_of_down (hs : r.session = .down) (report : Report) : ∃ ds,
    Telling report (r.audience.hearers.map fun hearer => hearer.1) ds ∧
    (∀ d ∈ ds, d = .reported report (r.audience.hearers.map fun hearer => hearer.1) ∨ d.isSlight = true) ∧
    r.tell report = r.recordAll ds := by
  have one (r : Robot) (hs : r.session = .down) (hearer : Nat × Listener) :
      ∃ ds, tellOne report r hearer = r.recordAll ds := by
    have unsent (command : Command) : (r.record (.told hearer.1 report)).send command =
        (false, r.record (.told hearer.1 report)) := by
      simp [send, submit, link?, Robot.record, recordAll, hs, Session.link?]
    unfold tellOne
    dsimp only
    split
    · exact ⟨_, rfl⟩
    · split
      · rw [unsent]
        exact ⟨[.told hearer.1 report, .replied hearer.1 false], by simp [Robot.record, recordAll]⟩
      · exact ⟨_, rfl⟩
  have all (hearers : List (Nat × Listener)) (r : Robot) (hs : r.session = .down) :
      ∃ ds, hearers.foldl (tellOne report) r = r.recordAll ds := by
    induction hearers generalizing r with
    | nil => exact ⟨[], r.recordAll_nil.symm⟩
    | cons hearer hearers ih =>
      obtain ⟨ds, first⟩ := one r hs hearer
      obtain ⟨es, rest⟩ := ih (r.recordAll ds) hs
      refine ⟨ds ++ es, ?_⟩
      rw [List.foldl_cons, first, rest]
      simp [recordAll]
  obtain ⟨told, telling, light, sent⟩ := tends_tell r report
  obtain ⟨ds, heard⟩ := all r.audience.hearers (r.record (.reported report (r.audience.hearers.map (·.1)))) hs
  have whole : r.tell report = r.recordAll (.reported report (r.audience.hearers.map (·.1)) :: ds) := by
    refine heard.trans ?_
    simp [Robot.record, recordAll]
  have same : told = .reported report (r.audience.hearers.map (·.1)) :: ds := by
    refine (List.append_right_inj r.journal).1 ?_
    rw [← sent.journal, whole]
    rfl
  exact ⟨told, telling, light, same ▸ whole⟩

/-- What is left when a connection has ended. -/
theorem part_eq (r : Robot) (n : Note) (e : Event) : ∃ hearers told, Telling (.event e) hearers told ∧
    (∀ d ∈ told, d = .reported (.event e) hearers ∨ d.isSlight = true) ∧
    r.part n e = { r with
      session := .down
      inFlight := {}
      ready := r.ready ++ r.session.waiter?.toList.map .disconnected
      journal := r.journal ++ (.noted n :: told) } := by
  obtain ⟨told, telling, light, heard⟩ := (r.release.note n).tell_of_down r.session_release (.event e)
  refine ⟨_, told, telling, light, ?_⟩
  show (r.release.note n).tell (.event e) = _
  rw [heard, release_eq]
  simp [Robot.note, Robot.record, recordAll]

/-- Items enter an open queue in front of a writer that is about to run. -/
theorem enqueueAll_eq (items : List Outbox.Item) (hl : r.link? = some link) (accepting : link.outbox.accepting = true)
    (attended : link.outbox.attended = true) (awake : .write link.generation ∈ r.ready) :
    r.enqueueAll items =
      r.withLink (link.withOutbox { link.outbox with queue := link.outbox.queue ++ items }) := by
  induction items generalizing r link with
  | nil =>
    have same : (r.withLink link) = r := by
      rw [withLink, mapLink, Session.mapLink_congr (g := fun link => link) hl rfl, Session.mapLink_id]
    rw [List.append_nil]
    exact same.symm
  | cons item items ih =>
    let next : Link := link.withOutbox { link.outbox with queue := link.outbox.queue ++ [item] }
    have entered : link.outbox.enqueue item = .ok { link.outbox with queue := link.outbox.queue ++ [item] } := by
      simp [Outbox.enqueue, Outbox.push, accepting, attended]
    have queued : (r.enqueue item).2 = r.withLink next := by
      have roused : (r.withLink next).rouse (.write link.generation) = r.withLink next :=
        if_pos (List.contains_iff_mem.2 awake)
      unfold enqueue
      simp only [hl, entered, requeue]
      split
      · exact roused
      · rfl
    have there : (r.withLink next).link? = some next := link?_withLink hl next
    have rest := ih (r := r.withLink next) there accepting attended awake
    have both : (r.withLink next).withLink
        (next.withOutbox { next.outbox with queue := next.outbox.queue ++ items }) =
        r.withLink (link.withOutbox { link.outbox with queue := link.outbox.queue ++ item :: items }) := by
      have queue : link.outbox.queue ++ [item] ++ items = link.outbox.queue ++ item :: items :=
        List.append_assoc _ _ _
      rw [← queue]
      simp only [withLink, mapLink, Session.mapLink_mapLink]
      rfl
    show (r.enqueue item).2.enqueueAll items = _
    rw [queued, rest, both]

/-- A new connection as it is installed, with nothing in its queue. -/
def freshLink (r : Robot) : Link :=
  r.newLink (r.generations + 1) r.dialler.opened r.dialler.nextSink

theorem fresh_eq (r : Robot) : r.fresh = { r with
    session := .up (r.freshLink.withOutbox { queue := resets })
    inFlight := {}
    upload := r.upload.clear
    shadow := {}
    generations := r.generations + 1
    dialler := { r.dialler with opened := r.dialler.opened + 1, nextSink := {} }
    ready := r.ready ++ [.write (r.generations + 1), .read (r.generations + 1)] } := by
  let counted := r.skipChannel
  let awake := counted.install r.freshLink |>.spawn (.write (r.generations + 1)) |>.spawn (.read (r.generations + 1))
  have there : awake.link? = some r.freshLink := rfl
  have queued := enqueueAll_eq resets there rfl rfl (by simp [awake, spawn, freshLink, newLink])
  refine queued.trans ?_
  simp [awake, counted, skipChannel, takeChannel, install, spawn, withLink, mapLink, Session.mapLink, InFlight.clear,
    freshLink, newLink, Link.withOutbox, Link.outbox]

/-- All that happens until a new connection is told of. -/
theorem begun_tends {s : Robot} (launched : TendsLightly r.fresh s) : ∃ calm hearers told,
    (∀ d ∈ calm, d.isSlight = true) ∧ Telling (.event .connected) hearers told ∧
    (∀ d ∈ told, d = .reported (.event .connected) hearers ∨ d.isSlight = true) ∧
    Tends r.fresh (calm ++ .noted (.connected r.address.digits (r.generations + 1)) :: told)
      ((s.note (.connected r.address.digits (r.generations + 1))).tellEvent .connected) := by
  obtain ⟨calm, light, launched⟩ := launched
  obtain ⟨told, telling, light', heard⟩ :=
    tends_tell (s.note (.connected r.address.digits (r.generations + 1))) (.event .connected)
  exact ⟨calm, _, told, light, telling, light', launched.trans ((tends_recordAll s [_]).trans heard)⟩

/-! ## All acts -/

/-- The closing of a connection does not concern the time, the settings, the address, the macro that runs and the
connections so far. -/
theorem beginDisconnect_still (r : Robot) (link : Link) (waiter : Option Nat) :
    let s := r.beginDisconnect link waiter
    s.clock = r.clock ∧ s.rung = r.rung ∧ s.settings = r.settings ∧ s.address = r.address ∧ s.upload = r.upload ∧
      s.generations = r.generations := by
  obtain ⟨ds, -, send, ready, forced⟩ :=
    (sends_force { r with session := .closing link.shut { waiter } } finalStop).trans (sends_force _ finalDark)
  have same : r.beginDisconnect link waiter =
      ((({ r with session := .closing link.shut { waiter } }.force finalStop).force finalDark).note
        (.disconnecting link.generation)).spawn (.wake link.generation .grace) := rfl
  dsimp only
  rw [same, forced]
  exact ⟨rfl, rfl, rfl, rfl, rfl, rfl⟩

/-- Time stands still during an act, and a driver stays the driver of its robot. -/
theorem Act.still (h : Act may r s) :
    s.clock = r.clock ∧ s.rung = r.rung ∧ s.settings = r.settings ∧ s.address = r.address := by
  have parts (q : Robot) (n : Note) (e : Event) : (q.part n e).clock = q.clock ∧ (q.part n e).rung = q.rung ∧
      (q.part n e).settings = q.settings ∧ (q.part n e).address = q.address := by
    obtain ⟨hearers, told, -, -, same⟩ := q.part_eq n e
    rw [same]
    exact ⟨rfl, rfl, rfl, rfl⟩
  have tended {q t : Robot} {ds : List Deed} (h : Tends q ds t) :
      t.clock = q.clock ∧ t.rung = q.rung ∧ t.settings = q.settings ∧ t.address = q.address := by
    rw [h.rest]
    exact ⟨rfl, rfl, rfl, rfl⟩
  cases h with
  | tends h =>
    obtain ⟨ds, -, tends⟩ := h
    exact tended tends
  | marked hl marker running progresses | submitted allowed accepted progresses =>
    have same := tended progresses.tends
    exact same
  | confirmed | lost | broken | lapsed => exact parts _ _ _
  | begun hs launched =>
    obtain ⟨calm, hearers, told, -, -, -, tends⟩ := begun_tends launched
    have same := tended tends
    rw [fresh_eq] at same
    exact same
  | @closing link hs waiter =>
    obtain ⟨clock, rung, settings, address, -⟩ := r.beginDisconnect_still link waiter
    exact ⟨clock, rung, settings, address⟩
  | _ => exact ⟨rfl, rfl, rfl, rfl⟩

end Robot

end RobotDriver
