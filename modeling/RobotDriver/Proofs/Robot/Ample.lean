import RobotDriver.Proofs.Robot.Moments

/-!
# What a driver does of itself

Apart from the turns of scheduled commands, and from the numbers of those that users schedule and cancel, all that a
driver does is made of a few things: a connection begins, goes on, is closed and is left, something is remarked, a
listener learns what has become of its command. A relation between states of a driver that admits these is `Ample`, and
then it admits whatever the driver does, with one lemma for each function. Other than a `Lenient` relation it may care
for the points at which the life of a connection turns, for the scheduler and for the gate.
-/

namespace RobotDriver

/-- The deed neither marks a point in the life of a connection nor tells what has become of a listener's command. -/
def Deed.isPassing : Deed → Bool
  | replied _ _ => false
  | noted n => !n.isMilestone
  | _ => true

theorem Deed.isPassing_of_isWriters {d : Deed} {g : Nat} (h : d.isWriters g = true) : d.isPassing = true := by
  cases d with
  | noted n => cases n <;> first | rfl | cases h
  | replied => cases h
  | _ => rfl

/-- The note says that a connection has ended. -/
def Note.isFarewell : Note → Bool
  | disconnected _ | closedUnexpectedly _ _ | closedWhileDisconnecting _ _ | handleDropped _ => true
  | _ => false

/-- The connection goes on: commands may have been scheduled behind the others, no alarm is lost, and its queue is as
open as before. -/
structure Link.Lasts (before after : Link) : Prop where
  generation : after.generation = before.generation
  tasks : before.scheduler.tasks <+: after.scheduler.tasks
  stopped : after.scheduler.stopped = before.scheduler.stopped
  alarms : ∀ a ∈ before.agenda.alarms, a ∈ after.agenda.alarms
  accepting : after.outbox.accepting = before.outbox.accepting
  attended : after.outbox.attended = before.outbox.attended

/-- Neither what is scheduled nor the gate is concerned. -/
theorem Link.Lasts.of_eq {before after : Link} (generation : after.generation = before.generation)
    (scheduler : after.scheduler = before.scheduler) (agenda : after.agenda = before.agenda)
    (accepting : after.outbox.accepting = before.outbox.accepting)
    (attended : after.outbox.attended = before.outbox.attended) : before.Lasts after :=
  ⟨generation, scheduler ▸ List.prefix_rfl, scheduler ▸ rfl, agenda ▸ fun _ there => there, accepting, attended⟩

/-- Whoever offers an item changes neither the gate nor who takes the items. -/
theorem Link.lasts_withOutbox {link : Link} {item : Outbox.Item} {outbox : Outbox}
    (entered : link.outbox.enqueue item = .ok outbox) : link.Lasts (link.withOutbox outbox) := by
  have offered : link.outbox.offer item = outbox := by rw [Outbox.offer, entered]
  refine .of_eq rfl rfl rfl ?_ ?_
  · exact (congrArg Outbox.accepting offered.symm).trans (Outbox.offer_accepting _ _)
  · exact (congrArg Outbox.attended offered.symm).trans (Outbox.offer_attended _ _)

/-- A writer that goes on leaves the gate alone and still takes items. -/
theorem Outbox.Writer.open_work (w : Writer) (going : ∀ fault, (w.work false false).1.activity ≠ .ended (some fault)) :
    (w.work false false).1.outbox.accepting = w.outbox.accepting ∧
      (w.work false false).1.outbox.attended = w.outbox.attended := by
  refine ⟨(gate_work w).1, ?_⟩
  by_cases live : w.activity.pending = none
  · -- A writer that has ended does nothing.
    unfold Writer.work
    cases activity : w.activity with
    | ended => rfl
    | waiting | writing => rw [activity] at live; cases live
  · exact (gate_work w).2 (live_work live going)

namespace Robot

/-- The request schedules a command of the user. -/
def schedules : Request → Bool
  | .after _ _ | .periodic _ _ _ => true
  | _ => false

/-- A new connection whose tasks are planned, before anyone is told of it. -/
def launched (r : Robot) : Robot :=
  (r.fresh.onLink planKeepAlive).onLink planSweep

theorem launched_eq (r : Robot) : ∃ link tasks, r.launched = { r.fresh with
      session := .up link
      ready := r.fresh.ready ++ tasks } ∧
    link.generation = r.generations + 1 ∧ link.scheduler.stopped = false ∧ link.outbox.accepting = true ∧
    link.outbox.attended = true := by
  let interval := r.fresh.settings.pingInterval
  let link := r.freshLink.withOutbox { queue := resets }
  let kept : Link := { link with
    scheduler := (link.scheduler.add ⟨.ping, true⟩ (.repeating r.fresh.clock interval interval)).2 }
  have hs : r.fresh.session = .up link := by rw [fresh_eq]
  have keeps : r.fresh.onLink planKeepAlive = { r.fresh with
      session := .up kept
      ready := r.fresh.ready ++ [.wake link.generation (.timer link.scheduler.tasks.length)] } := by
    simp [onLink, link?, hs, Session.link?, planKeepAlive, plan, withLink, mapLink, Session.mapLink, spawn, kept,
      interval, Scheduler.add]
  have sweeps : r.launched = (r.fresh.onLink planKeepAlive).planSweep kept := by
    unfold launched
    rw [keeps]
    rfl
  rw [sweeps, keeps]
  unfold planSweep
  split
  · refine ⟨kept, [.wake link.generation (.timer link.scheduler.tasks.length), .wake kept.generation .sweep], ?_, rfl,
      rfl, rfl, rfl⟩
    simp [spawn]
  · exact ⟨kept, _, rfl, rfl, rfl, rfl, rfl⟩

/-- The relation admits what a driver does of itself. -/
structure Ample (R : Robot → Robot → Prop) : Prop where
  refl : ∀ r, R r r
  trans : ∀ {r s t}, R r s → R s t → R r t
  /-- No connection is concerned, and no task of one is lost. -/
  aside : ∀ {r s}, s.session = r.session → r.generations ≤ s.generations → s.rung = r.rung → s.schedule = r.schedule →
    s.journal = r.journal → (∀ task ∈ r.ready, isCall task = false → task ∈ s.ready) → R r s
  recordAll : ∀ r {ds : List Deed}, (∀ d ∈ ds, d.isPassing = true) → R r (r.recordAll ds)
  mapLink : ∀ r {f : Link → Link}, (∀ link, r.link? = some link → link.Lasts (f link)) → R r (r.mapLink f)
  /-- A listener sends a command and learns what has become of it. -/
  reply : ∀ r command listener, R r (r.send command).2 →
    R r ((r.send command).2.record (.replied listener (r.send command).1))
  begin : ∀ {r}, r.session = .down →
    R r (r.launched.note (.connected r.address.digits (r.generations + 1)))
  close : ∀ {r link}, r.session = .up link → ∀ waiter, R r (r.beginDisconnect link waiter)
  /-- More becomes known of a connection that is being closed. -/
  linger : ∀ {r link closure}, r.session = .closing link closure → ∀ next,
    R r { r with session := .closing link next }
  /-- A connection is left, whatever has become of it. -/
  leave : ∀ {r s} {n : Note}, n.isFarewell = true → s.session = .down → r.generations ≤ s.generations →
    s.schedule = r.schedule →
    (∃ ds : List Deed, (∀ d ∈ ds, d.isPassing = true) ∧ s.journal = r.journal ++ (ds ++ [.noted n])) → R r s

namespace Ample

variable {R : Robot → Robot → Prop} (h : Ample R) {r : Robot} {link : Link}
include h

/-! ## Little things -/

/-- Something changes that the driver remembers, but neither a connection nor a task. -/
theorem remember {s : Robot} (session : s.session = r.session) (generations : s.generations = r.generations)
    (rung : s.rung = r.rung) (schedule : s.schedule = r.schedule) (journal : s.journal = r.journal)
    (ready : s.ready = r.ready) : R r s :=
  h.aside session (Nat.le_of_eq generations.symm) rung schedule journal fun _ there _ => ready ▸ there

theorem record (r : Robot) {d : Deed} (passing : d.isPassing = true) : R r (r.record d) :=
  h.recordAll r (List.forall_mem_singleton.2 passing)

theorem note (r : Robot) {n : Note} (calm : n.isMilestone = false) : R r (r.note n) :=
  h.record r (by simp [Deed.isPassing, calm])

theorem withLink (next : Link) (hl : r.link? = some link) (lasts : link.Lasts next) : R r (r.withLink next) :=
  h.mapLink r (forall_link? hl lasts)

theorem spawn (r : Robot) (task : Task) : R r (r.spawn task) :=
  h.aside rfl (Nat.le_refl _) rfl rfl rfl fun _ there _ => List.mem_append_left _ there

theorem rouse (r : Robot) (task : Task) : R r (r.rouse task) := by
  unfold Robot.rouse
  split
  · exact h.refl r
  · exact h.spawn r task

theorem foldl {α : Type} {f : Robot → α → Robot} (hf : ∀ r a, R r (f r a)) (as : List α) (r : Robot) :
    R r (as.foldl f r) :=
  List.foldlRecOn as f (h.refl r) fun s hs a _ => h.trans hs (hf s a)

theorem onLink {f : Robot → Link → Robot} (hf : ∀ link, r.link? = some link → R r (f r link)) : R r (r.onLink f) :=
  onLink_cases (h.refl r) hf

theorem onCurrent (n : Nat) {f : Robot → Link → Robot} (hf : ∀ link, r.link? = some link → R r (f r link)) :
    R r (r.onCurrent n f) :=
  onCurrent_cases (h.refl r) fun link hl _ => hf link hl

theorem onChannel (channel : Option Nat) {f : Robot → Link → Robot}
    (hf : ∀ link, r.link? = some link → R r (f r link)) : R r (r.onChannel channel f) :=
  onChannel_cases (h.refl r) hf

/-! ## Commands -/

theorem enqueue (r : Robot) (item : Outbox.Item) : R r (r.enqueue item).2 := by
  unfold Robot.enqueue
  split
  · exact h.refl r
  · next link hl =>
    split
    · next outbox entered =>
      have queued : R r (r.withLink (link.withOutbox outbox)) := h.withLink _ hl (Link.lasts_withOutbox entered)
      dsimp only [requeue]
      split
      · exact h.trans queued (h.rouse _ _)
      · exact queued
    · exact h.note r (isMilestone_refusalNote _ _)

theorem enqueueAll (r : Robot) (items : List Outbox.Item) : R r (r.enqueueAll items) :=
  h.foldl h.enqueue items r

theorem submit (r : Robot) (item : Outbox.Item) : R r (r.submit item).2 := by
  unfold Robot.submit
  split
  · exact h.refl r
  · split
    · exact h.refl r
    · exact h.enqueue r item

theorem sendEach (commands : List Command) (r : Robot) : R r (r.sendEach commands).2 := by
  induction commands generalizing r with
  | nil => exact h.refl r
  | cons command commands ih =>
    have first : R r (r.send command).2 := h.submit r _
    unfold Robot.sendEach
    split
    · next next sent =>
      rw [sent] at first
      exact h.trans first (ih next)
    · next next sent =>
      rw [sent] at first
      exact first

/-- A command is scheduled behind all others. -/
theorem plan (hl : r.link? = some link) (item : Outbox.Item) (timer : Timer) : R r (r.plan link item timer).2 := by
  have added : link.Lasts { link with scheduler := (link.scheduler.add item timer).2 } :=
    ⟨rfl, List.prefix_append _ _, rfl, fun _ there => there, rfl, rfl⟩
  exact h.trans (h.withLink _ hl added) (h.spawn _ _)

theorem boost (r : Robot) (duration : Nat) : R r (r.boost duration).2 := by
  have first := h.submit r ⟨.roll r.shadow.heading .one false, true⟩
  unfold Robot.boost
  dsimp only
  split
  · next sent =>
    rw [sent] at first
    exact first
  · next sent =>
    rw [sent] at first
    dsimp only at first ⊢
    exact h.trans first (h.onLink fun link hl => h.plan hl _ _)

theorem rearm (r : Robot) (deadline : Option Nat) (alarm : Alarm) : R r (r.rearm deadline alarm) := by
  unfold Robot.rearm
  split
  · exact h.refl r
  · exact h.mapLink r fun _ _ => ⟨rfl, List.prefix_rfl, rfl, fun _ there => Agenda.mem_arm.2 (.inr there), rfl, rfl⟩

/-! ## Reports -/

theorem tellOne (report : Report) (r : Robot) (hearer : Nat × Listener) : R r (r.tellOne report hearer) := by
  have heard := h.record r (d := .told hearer.1 report) rfl
  unfold Robot.tellOne
  dsimp only
  split
  · exact heard
  · split
    · exact h.trans heard (h.reply _ _ _ (h.submit _ _))
    · exact heard

theorem tell (r : Robot) (report : Report) : R r (r.tell report) :=
  h.trans (h.record r rfl) (h.foldl (h.tellOne report) _ _)

/-! ## The end of a connection -/

/-- What has happened on the way is told, and then that the connection has ended. -/
theorem part {q : Robot} {n : Note} (farewell : n.isFarewell = true) (generations : q.generations = r.generations)
    (schedule : q.schedule = r.schedule)
    (journal : ∃ ds : List Deed, (∀ d ∈ ds, d.isPassing = true) ∧ q.journal = r.journal ++ ds) (e : Event) :
    R r (q.part n e) := by
  obtain ⟨ds, passing, journal⟩ := journal
  have left : R r (q.release.note n) := by
    rw [release_eq]
    refine h.leave farewell rfl (Nat.le_of_eq generations.symm) schedule ⟨ds, passing, ?_⟩
    show q.journal ++ [.noted n] = _
    rw [journal, List.append_assoc]
  exact h.trans left (h.tell _ _)

theorem finishDisconnect (r : Robot) : R r r.finishDisconnect := by
  unfold Robot.finishDisconnect
  split
  · exact h.part rfl rfl rfl ⟨[], List.forall_mem_nil _, (List.append_nil _).symm⟩ _
  · exact h.refl r

/-- A connection is lost with all that has happened on the way. -/
theorem lost (hl : r.link? = some link) {ds : List Deed} (passing : ∀ d ∈ ds, d.isPassing = true)
    (cause : TransportError) : R r ((r.recordAll ds).connectionLost cause) := by
  unfold Robot.connectionLost
  split
  · next down => cases (link?_of_down down).symm.trans hl
  · exact h.part (r := r) (q := r.recordAll ds) rfl rfl rfl ⟨ds, passing, rfl⟩ _
  · exact h.part (r := r) (q := r.recordAll ds) rfl rfl rfl ⟨ds, passing, rfl⟩ _

theorem shutdownEcho (r : Robot) : R r r.shutdownEcho := by
  unfold Robot.shutdownEcho
  split
  · next hs =>
    split
    · exact h.finishDisconnect r
    · exact h.linger hs _
  · exact h.refl r

theorem graceOver (r : Robot) : R r r.graceOver := by
  refine graceOver_cases (h.refl r) (fun _ _ _ _ => h.trans (h.note r rfl) (h.finishDisconnect _))
    fun link closure hs _ => ?_
  have armed : R r (r.mapLink fun link => link.arm (r.graceDeadline closure) .grace) :=
    h.mapLink r fun _ _ => ⟨rfl, List.prefix_rfl, rfl, fun _ there => Agenda.mem_arm.2 (.inr there), rfl, rfl⟩
  have same : (r.mapLink fun link => link.arm (r.graceDeadline closure) .grace).session =
      .closing (link.arm (r.graceDeadline closure) .grace) closure := by
    rw [Robot.mapLink, hs]
    rfl
  exact h.trans armed (h.linger same _)

/-! ## Reading -/

theorem progressMacro (r : Robot) (upload : Macro.Upload) (progress : Macro.Progress) :
    R r (r.progressMacro upload progress) := by
  have taken : R r { r with upload } := h.remember rfl rfl rfl rfl rfl rfl
  have noted : R { r with upload } ({ r with upload }.noteFinish progress) := by
    unfold noteFinish
    split
    · exact h.refl _
    · exact h.note _ rfl
  have offered : R r (({ r with upload }.noteFinish progress).enqueueProgress progress) :=
    h.trans (h.trans taken noted) (h.enqueueAll _ _)
  unfold Robot.progressMacro
  dsimp only
  split
  · exact h.trans offered (h.tell _ _)
  · exact offered

theorem closeBeforeSleep (r : Robot) (command : Command) : R r (r.closeBeforeSleep command) := by
  unfold Robot.closeBeforeSleep
  split
  · next hs => exact h.close hs none
  · next hs => exact h.close hs none
  · exact h.refl r

theorem updateName (r : Robot) (entry : InFlight.Entry) (body : Response.Body) : R r (r.updateName entry body) := by
  unfold Robot.updateName
  split
  · exact h.trans (h.note r rfl) (h.remember rfl rfl rfl rfl rfl rfl)
  · exact h.refl r

theorem confirm (r : Robot) (entry : InFlight.Entry) (body : Response.Body) : R r (r.confirm entry body) := by
  have echoed : R r (if isEcho entry.command then r.shutdownEcho else r) := by
    split
    · exact h.shutdownEcho r
    · exact h.refl r
  have shadowed (q : Robot) : R q (q.updateShadow entry.command) :=
    h.remember rfl rfl rfl rfl rfl rfl
  exact h.trans (h.trans (h.trans echoed (shadowed _)) (h.updateName _ entry body)) (h.closeBeforeSleep _ _)

theorem handleAnswer (r : Robot) (entry : InFlight.Entry) (packet : Packet) : R r (r.handleAnswer entry packet) := by
  let response := Response.decode entry.command.kind packet
  have damaged (q : Robot) : R q (q.noteDamage entry response.body) := by
    unfold noteDamage
    split
    · exact h.note q rfl
    · exact h.refl q
  have noted : R r ((r.note (.responseMatched response entry.system)).noteDamage entry response.body) :=
    h.trans (h.note r rfl) (damaged _)
  have taken (q : Robot) : R q (if response.status.isOk then q.confirm entry response.body
      else q.note (.commandRejected response.status entry.command)) := by
    split
    · exact h.confirm q entry _
    · exact h.note q rfl
  unfold Robot.handleAnswer
  dsimp only
  split
  · exact h.trans noted (taken _)
  · exact h.trans (h.trans noted (taken _)) (h.tell _ _)

theorem handleResponse (r : Robot) (g : Nat) (packet : Packet) : R r (r.handleResponse g packet) := by
  unfold Robot.handleResponse
  split
  · exact h.trans (h.note r rfl) (h.tell _ _)
  · next entry inFlight _ =>
    have resolved : R r { r with inFlight } := h.remember rfl rfl rfl rfl rfl rfl
    exact h.trans (h.trans resolved (h.record _ rfl)) (h.handleAnswer _ entry packet)

theorem handleInformation (r : Robot) (packet : Packet) : R r (r.handleInformation packet) := by
  unfold Robot.handleInformation
  split
  · exact h.note r rfl
  · dsimp only
    split
    · exact h.trans (h.note r rfl) (h.progressMacro _ _ _)
    · exact h.trans (h.note r rfl) (h.tell _ _)

theorem handleFrame (r : Robot) (g : Nat) (frame : Frame) : R r (r.handleFrame g frame) := by
  cases frame with
  | skipped header => exact h.note r rfl
  | packet packet =>
    have received : R r (r.record (.received g packet)) := h.record r rfl
    show R r (r.handlePacket g packet)
    unfold handlePacket
    dsimp only
    split
    · exact h.trans received (h.note _ rfl)
    · exact h.trans received (h.handleResponse _ g packet)
    · exact h.trans received (h.handleInformation _ packet)

theorem handleArrival (hl : r.link? = some link) (arrival : Arrival) : R r (r.handleArrival link arrival) := by
  have took : ∀ d ∈ [Deed.took link.generation arrival], d.isPassing = true := List.forall_mem_singleton.2 rfl
  cases arrival with
  | bytes chunk =>
    have buffered (q : Robot) (buffer : Bytes) : R q (q.mapLink fun link => { link with buffer }) :=
      h.mapLink q fun _ _ => .of_eq rfl rfl rfl rfl rfl
    exact handleFrames_induction (h.trans (h.recordAll r took) (buffered _ _))
      (fun s _ frame first _ => h.trans first (h.handleFrame s _ frame)) _
  | ended => exact h.lost hl took _
  | failed fault => exact h.lost hl took _

theorem runReader (r : Robot) (link : Link) : R r (r.runReader link) := by
  have emptied : R r (r.mapLink fun link => { link with inbox := [] }) :=
    h.mapLink r fun _ _ => .of_eq rfl rfl rfl rfl rfl
  exact runReader_induction emptied fun _ _ arrival first hl => h.trans first (h.handleArrival hl arrival)

/-! ## Tasks -/

/-- A writer that fails takes its connection along; otherwise the connection lasts. -/
theorem runWriter (hl : r.link? = some link) : R r (r.runWriter link) := by
  unfold Robot.runWriter checkWriter
  dsimp only
  obtain ⟨ds, tells, taken⟩ := takeEmissions_tells link (link.writer.work false false).2
    (r.withLink { link with writer := (link.writer.work false false).1 })
  have passing : ∀ d ∈ ds, d.isPassing = true := fun d hd => Deed.isPassing_of_isWriters (tells.own d hd)
  rw [taken]
  split
  · next fault _ =>
    have halted : ∀ d ∈ [Deed.halted link.generation fault], d.isPassing = true := List.forall_mem_singleton.2 rfl
    have lost := h.lost hl (List.forall_mem_append.2 ⟨passing, halted⟩) (.write fault)
    -- What has become of the writer is gone with the connection.
    rw [← connectionLost_eq hl { link with writer := (link.writer.work false false).1 } rfl
      ⟨r.inFlight.entries ++ registrations link.generation ds⟩] at lost
    exact lost
  · next going =>
    obtain ⟨accepting, attended⟩ := link.writer.open_work going
    have worked : R r (r.withLink { link with writer := (link.writer.work false false).1 }) :=
      h.withLink _ hl (.of_eq rfl rfl rfl accepting attended)
    exact h.trans (h.trans worked (h.recordAll _ passing))
      (h.remember rfl rfl rfl rfl rfl rfl)

theorem giveUpOverdue (r : Robot) (g timeout : Nat) : R r (r.giveUpOverdue g timeout) := by
  have expired : R r { r with inFlight := (r.inFlight.expire r.clock timeout).2 } :=
    h.remember rfl rfl rfl rfl rfl rfl
  refine h.trans (h.trans expired (h.recordAll _ ?_)) (h.foldl (fun r entry => ?_) _ _)
  · exact List.forall_mem_map.2 fun _ _ => rfl
  · exact h.trans (h.note r rfl) (h.tell _ _)

theorem runSweep (hl : r.link? = some link) : R r (r.runSweep link) := by
  have looked (sweep : Option Timer) : R r (r.withLink { link with sweep }) :=
    h.withLink _ hl (.of_eq rfl rfl rfl rfl rfl)
  exact runSweep_cases (h.refl r) (fun sweep _ => h.trans (looked sweep) (h.rearm _ _ _)) fun _ _ sweep _ =>
    h.trans (h.trans (looked sweep) (h.giveUpOverdue _ _ _)) (h.rearm _ _ _)

/-! ## Calls -/

theorem start (r : Robot) : R r (r.takeChannel.2.2.start r.takeChannel.1 r.takeChannel.2.1).2 := by
  unfold Robot.start
  dsimp only
  split
  · have counted : R r r.skipChannel := h.aside rfl (Nat.le_succ _) rfl rfl rfl fun _ there _ => there
    exact h.trans counted (h.note _ rfl)
  · next absent =>
    have down : r.session = .down := session_of_link?_eq_none (Option.not_isSome_iff_eq_none.1 absent)
    exact h.trans (h.begin down) (h.tell _ _)

theorem finish (r : Robot) (call : Nat) (outcome : Outcome) : R r (r.finish call outcome) :=
  h.record r rfl

theorem dial (r : Robot) (call : Nat) : R r (r.dial call) := by
  unfold Robot.dial
  split
  · exact h.trans (h.trans (h.note r rfl) (h.tell _ _)) (h.finish _ _ _)
  · exact h.trans (h.start r) (h.finish _ _ _)

theorem connectCall (r : Robot) (call : Nat) : R r (r.connectCall call) := by
  unfold Robot.connectCall
  split
  · exact h.trans (h.note r rfl) (h.finish _ _ _)
  · dsimp only
    have dialled : R r (r.note (.connecting r.address.digits)).noteDialled :=
      h.trans (h.note r rfl) (h.remember rfl rfl rfl rfl rfl rfl)
    split
    · exact h.trans dialled (h.remember rfl rfl rfl rfl rfl rfl)
    · exact h.trans dialled (h.dial _ call)

theorem disconnectCall (r : Robot) (call : Nat) : R r (r.disconnectCall call) := by
  unfold Robot.disconnectCall
  split
  · next hs => exact h.close hs _
  · exact h.trans (h.trans (h.note r rfl) (h.tell _ _)) (h.finish _ _ _)

/-- Whatever task runs, but for the turn of a scheduled command. -/
theorem run (r : Robot) {task : Task} (other : ∀ g n, task ≠ .wake g (.timer n)) : R r (r.run task) := by
  cases task with
  | connect call => exact h.connectCall r call
  | dial call => exact h.dial r call
  | disconnect call => exact h.disconnectCall r call
  | disconnected call => exact h.finish r call _
  | write g => exact h.onCurrent g fun _ hl => h.runWriter hl
  | read g => exact h.onCurrent g fun _ _ => h.runReader r _
  | wake g alarm =>
    cases alarm with
    | timer n => exact absurd rfl (other g n)
    | sweep => exact h.onCurrent g (f := fun r link => r.runSweep link) fun _ hl => h.runSweep hl
    | grace => exact h.onCurrent g (f := fun r _ => r.graceOver) fun _ _ => h.graceOver r

/-! ## Requests and steps -/

theorem streamMacro (r : Robot) (steps : List Macro.Step) : R r (r.streamMacro steps).2 := by
  unfold Robot.streamMacro
  split
  · exact h.refl r
  · have submitted (q : Robot) (upload : Macro.Upload) (progress : Macro.Progress) :
        R q ((q.note (.macroSubmitted steps.length)).progressMacro upload progress) :=
      h.trans (h.note q rfl) (h.progressMacro _ _ _)
    dsimp only
    split
    · exact h.trans (h.note r rfl) (submitted _ _ _)
    · exact submitted _ _ _

theorem playMacro (r : Robot) (m : Macro) : R r (r.playMacro m).2 := by
  unfold Robot.playMacro
  split
  · exact h.note r rfl
  · split
    · unfold storeMacro
      split
      · exact h.refl r
      · exact h.trans (h.enqueue r _) (h.enqueue _ _)
    · split
      · exact h.streamMacro r _
      · exact h.note r rfl

theorem stopMacro (r : Robot) : R r r.stopMacro := by
  have aborted : R r { r.noteAbort with upload := r.upload.abort.1 } :=
    h.trans (h.note r rfl) (h.remember rfl rfl rfl rfl rfl rfl)
  exact h.trans aborted (h.enqueueAll _ _)

theorem ask (r : Robot) {request : Request} (other : schedules request = false) : R r (r.ask request).2 := by
  cases request with
  | connect | disconnect =>
    exact h.aside rfl (Nat.le_refl _) rfl rfl rfl fun _ there _ => List.mem_append_left _ there
  | afterMacro | cancelAfterMacro | addListener | registerAgain | removeListener =>
    exact h.remember rfl rfl rfl rfl rfl rfl
  | shadow | name | address | state | settings | describe => exact h.refl r
  | send | roll | rotate | stopMotors | setRgbLed | setFrontLed | setRotationRate | stabilization | setName
  | sleep | jumpToBootloader | refreshName => exact h.submit r _
  | calibrate | resetHeading => exact h.sendEach _ r
  | boost duration => exact h.boost r duration
  | after | periodic => cases other
  | playMacro m =>
    rw [ask_playMacro]
    exact h.playMacro r m
  | stopMacro => exact h.stopMacro r

theorem askDropped (r : Robot) (request : Request) : R r (r.askDropped request).2 := by
  unfold Robot.askDropped
  split
  · exact h.remember rfl rfl rfl rfl rfl rfl
  · exact h.refl r

theorem arrive (hl : r.link? = some link) (arrivals : List Arrival) : R r (r.arrive arrivals link) :=
  h.trans (h.withLink (link.arrive arrivals) hl (.of_eq rfl rfl rfl rfl rfl)) (h.rouse _ _)

theorem changeSink (hl : r.link? = some link) (sink : Sink) : R r (r.changeSink sink link) := by
  have changed : R r (r.withLink { link with writer := { link.writer with sink } }) :=
    h.withLink _ hl (.of_eq rfl rfl rfl rfl rfl)
  unfold Robot.changeSink
  dsimp only
  split
  · exact h.trans changed (h.rouse _ _)
  · exact changed

theorem abandonCalls (r : Robot) : R r r.abandonCalls := by
  let quiet : Robot := { r with
    ready := r.ready.filter fun task => !isCall task
    dialler := { r.dialler with held := [] } }
  have filtered : R r quiet :=
    h.aside rfl (Nat.le_refl _) rfl rfl rfl fun _ there free => List.mem_filter.2 ⟨there, by simp [free]⟩
  cases hs : r.session with
  | down | up =>
    have same : quiet = r.abandonCalls := by simp [quiet, Robot.abandonCalls, hs, forgetWaiter]
    exact same ▸ filtered
  | closing link closure =>
    have forgets : { quiet with session := .closing link { closure with waiter := none } } = r.abandonCalls := by
      simp [quiet, Robot.abandonCalls, hs, forgetWaiter]
    exact forgets ▸ h.trans filtered (h.linger (r := quiet) hs _)

theorem quit (r : Robot) : R r r.quit := by
  have abandoned := h.abandonCalls r
  refine h.trans abandoned ?_
  unfold Robot.quit noteDrop Robot.onLink
  split
  · next gone =>
    have down : r.abandonCalls.session = .down := session_of_link?_eq_none gone
    exact h.remember down.symm rfl rfl rfl rfl rfl
  · exact h.leave (n := .handleDropped _) rfl rfl (Nat.le_refl _) rfl ⟨[], List.forall_mem_nil _, rfl⟩

/-- What follows from the relation holds of every single step, if it holds when the user schedules and cancels. -/
theorem perform {P : Robot → Prop} (follows : ∀ {s}, R r s → P s)
    (scheduled : ∀ command timer, P (r.schedulePlan command timer).2) (cancelled : ∀ number, P (r.cancelPlan number))
    {step : Step} (single : step.isSingle = true) : P (r.perform step).2 := by
  cases step with
  | ask request =>
    simp only [Robot.perform]
    split
    · exact follows (h.askDropped r request)
    · cases other : schedules request with
      | false => exact follows (h.ask r other)
      | true =>
        cases request with
        | after | periodic => exact scheduled _ _
        | _ => cases other
  | cancelTask number => exact cancelled number
  | arrive channel arrivals =>
    exact follows (h.onChannel channel (f := fun r link => r.arrive arrivals link) fun _ hl => h.arrive hl arrivals)
  | changeSink sink =>
    exact follows (h.onChannel none (f := fun r link => r.changeSink sink link) fun _ hl => h.changeSink hl sink)
  | changeNextSink | refuse | hold => exact follows (h.remember rfl rfl rfl rfl rfl rfl)
  | release =>
    exact follows (h.aside rfl (Nat.le_refl _) rfl rfl rfl fun _ there _ => List.mem_append_left _ there)
  | tasks | dialled | settle => exact follows (h.refl r)
  | advance | group | drop => cases single

end Ample

end Robot

end RobotDriver
