import RobotDriver.Proofs.Robot.Past

/-!
# A past changes nothing

Whatever a driver does while it has or has had a connection since, it does the same with a past and without: each of its
functions takes drivers that are the same but for the past to such drivers, and gives the same answers.
-/

namespace RobotDriver

namespace Robot

variable {r : Robot} {task : Task}

/-- A report to listeners makes no connection. -/
theorem link?_tell_of_none (gone : r.link? = none) (report : Report) : (r.tell report).link? = none := by
  obtain ⟨ds, -, -, same⟩ := r.tell_of_down (session_of_link?_eq_none gone) report
  rw [same]
  exact gone

/-- A connection comes about by a call to connect. -/
theorem calls_of_connects (gone : r.link? = none) (connects : (r.run task).link?.isSome = true) :
    ∃ call, task = .connect call ∨ task = .dial call := by
  have absent {s : Robot} (none : s.link? = none) (there : s.link?.isSome = true) {p : Prop} : p := by
    rw [none] at there
    cases there
  cases task with
  | connect call => exact ⟨call, .inl rfl⟩
  | dial call => exact ⟨call, .inr rfl⟩
  | disconnect call =>
    refine absent (s := r.disconnectCall call) ?_ connects
    unfold disconnectCall
    rw [session_of_link?_eq_none gone]
    exact link?_tell_of_none (r := r.note _) gone _
  | disconnected call => exact absent (s := r.finish call _) gone connects
  | write g | read g | wake g alarm =>
    rw [run_stale (g := g) rfl (current?_of_none gone g)] at connects
    exact absent gone connects

end Robot

end RobotDriver

namespace RobotDriver.History

/-- The answers are the same, and the drivers are but for the past. -/
def Agrees (past : History) {α : Type} (x y : α × Robot) : Prop :=
  x.1 = y.1 ∧ past.Renews x.2 y.2

namespace Renews

variable {past : History} {s t : Robot} {link : Link}

/-! ## The queue -/

/-- A task of the connection that is there. -/
theorem known (h : past.Renews s t) (hl : t.link? = some link) {task : Task}
    (own : task.generation? = some link.generation) (g : Nat) (same : task.generation? = some g) :
    0 < g ∧ g ≤ t.generations := by
  rw [own] at same
  cases same
  exact h.numbered.link link hl

theorem requeue (h : past.Renews s t) (hl : t.link? = some link) (outbox : Outbox) :
    past.Renews (s.requeue (past.link link) outbox) (t.requeue link outbox) := by
  have next := h.withLink hl (rfl : (link.withOutbox outbox).generation = link.generation)
  unfold Robot.requeue
  show past.Renews (if link.isWriterIdle then _ else _) (if link.isWriterIdle then _ else _)
  split
  · exact next.rouse (.write link.generation) (h.known hl rfl)
  · exact next

theorem refusalNote (item : Outbox.Item) (e : Outbox.Refusal) :
    past.note (Robot.refusalNote item e) = Robot.refusalNote item e := by
  cases e <;> rfl

theorem enqueue (h : past.Renews s t) (item : Outbox.Item) : past.Agrees (s.enqueue item) (t.enqueue item) := by
  unfold Robot.enqueue
  rw [h.link?]
  cases hl : t.link? with
  | none => exact ⟨rfl, h⟩
  | some link =>
    have outbox : (past.link link).outbox = link.outbox := rfl
    simp only [Option.map_some, outbox]
    cases link.outbox.enqueue item with
    | ok next => exact ⟨rfl, h.requeue hl next⟩
    | error e =>
      have noted := h.note (Robot.refusalNote item e)
      rw [refusalNote] at noted
      exact ⟨rfl, noted⟩

theorem enqueueAll (h : past.Renews s t) (items : List Outbox.Item) :
    past.Renews (s.enqueueAll items) (t.enqueueAll items) :=
  foldl (fun h item => (h.enqueue item).2) h items

theorem force (h : past.Renews s t) (command : Command) : past.Renews (s.force command) (t.force command) := by
  unfold Robot.force
  rw [h.link?]
  cases hl : t.link? with
  | none => exact h
  | some link =>
    have outbox : (past.link link).outbox = link.outbox := rfl
    simp only [Option.map_some, outbox]
    cases link.outbox.force command with
    | ok next => exact h.requeue hl next
    | error e =>
      have noted := h.note (Robot.refusalNote ⟨command, true⟩ e)
      rwa [refusalNote] at noted

theorem submit (h : past.Renews s t) (item : Outbox.Item) : past.Agrees (s.submit item) (t.submit item) := by
  unfold Robot.submit
  rw [h.link?]
  cases hl : t.link? with
  | none => exact ⟨rfl, h⟩
  | some link =>
    show past.Agrees (if link.scheduler.stopped then _ else _) (if link.scheduler.stopped then _ else _)
    split
    · exact ⟨rfl, h⟩
    · exact h.enqueue item

theorem send (h : past.Renews s t) (command : Command) : past.Agrees (s.send command) (t.send command) :=
  h.submit ⟨command, false⟩

theorem plan (h : past.Renews s t) (hl : t.link? = some link) (item : Outbox.Item) (timer : Timer) :
    past.Agrees (s.plan (past.link link) item (past.timer timer)) (t.plan link item timer) := by
  have added := past.add link.scheduler item timer
  have added' : past.Renews (s.withLink (past.link { link with scheduler := (link.scheduler.add item timer).2 }))
      (t.withLink { link with scheduler := (link.scheduler.add item timer).2 }) := h.withLink hl rfl
  have next := added'.spawn (.wake link.generation (.timer (link.scheduler.add item timer).1)) (h.known hl rfl)
  unfold Robot.plan
  dsimp only
  rw [show (past.link link).scheduler.add item (past.timer timer) = _ from added]
  exact ⟨rfl, next⟩

/-! ## Listeners -/

theorem tellOne (report : Report) (h : past.Renews s t) (hearer : Nat × Listener) :
    past.Renews (s.tellOne report hearer) (t.tellOne report hearer) := by
  have heard := h.record (.told hearer.1 report)
  unfold Robot.tellOne
  dsimp only
  split
  · exact heard
  · next trigger command _ =>
    split
    · obtain ⟨same, sent⟩ := heard.send command
      have replied := sent.record (.replied hearer.1 ((t.record (.told hearer.1 report)).send command).1)
      rw [← same] at replied ⊢
      exact replied
    · exact heard

theorem tell (h : past.Renews s t) (report : Report) : past.Renews (s.tell report) (t.tell report) := by
  obtain ⟨-, -, -, -, audience, -⟩ := h.kept
  unfold Robot.tell
  rw [audience]
  exact foldl (fun h hearer => h.tellOne report hearer) (h.record (.reported report _)) _

theorem tellEvent (h : past.Renews s t) (event : Event) : past.Renews (s.tellEvent event) (t.tellEvent event) :=
  h.tell (.event event)

/-! ## How a connection ends -/

/-- The connection is in another state. -/
theorem replace (h : past.Renews s t) (session : Session)
    (known : ∀ link, session.link? = some link → 0 < link.generation ∧ link.generation ≤ t.generations) :
    past.Renews { s with session := past.session session } { t with session } := by
  cases h with | intro fresh plans numbered =>
  exact @intro past { t with session } _ _ fresh plans ⟨known, numbered.ready, numbered.schedule⟩

theorem beginDisconnect (h : past.Renews s t) (hl : t.link? = some link) (waiter : Option Nat) :
    past.Renews (s.beginDisconnect (past.link link) waiter) (t.beginDisconnect link waiter) := by
  have numbered := h.numbered.link link hl
  have shut := h.replace (.closing link.shut { waiter }) fun next hn => by
    cases hn
    exact numbered
  have forced := ((shut.force Robot.finalStop).force Robot.finalDark).note (.disconnecting link.generation)
  have still := (t.beginDisconnect_still link waiter).2.2.2.2.2
  exact forced.spawn (.wake link.generation .grace) fun g own => by
    cases own
    exact ⟨numbered.1, Nat.le_trans numbered.2 (Nat.le_of_eq still.symm)⟩

theorem release (h : past.Renews s t) : past.Renews s.release t.release := by
  have down : past.Renews { s with session := .down, inFlight := s.inFlight.clear }
      { t with session := .down, inFlight := t.inFlight.clear } := by
    cases h with | intro fresh plans numbered =>
    exact @intro past { t with session := .down, inFlight := t.inFlight.clear } _ _ fresh plans
      ⟨fun _ => nofun, numbered.ready, numbered.schedule⟩
  have waiter : s.session.waiter? = t.session.waiter? := by
    rw [h.session]
    cases t.session <;> rfl
  unfold Robot.release
  dsimp only
  rw [waiter]
  split
  · exact down
  · next call _ => exact down.spawn (.disconnected call) fun _ => nofun

theorem finishDisconnect (h : past.Renews s t) : past.Renews s.finishDisconnect t.finishDisconnect := by
  unfold Robot.finishDisconnect
  rw [h.session]
  cases t.session with
  | down | up => exact h
  | closing link closure => exact (h.release.note (.disconnected link.generation)).tellEvent _

theorem connectionLost (h : past.Renews s t) (cause : TransportError) :
    past.Renews (s.connectionLost cause) (t.connectionLost cause) := by
  unfold Robot.connectionLost
  rw [h.session]
  cases t.session with
  | down => exact h
  | up link => exact (h.release.note (.closedUnexpectedly link.generation cause)).tellEvent _
  | closing link closure => exact (h.release.note (.closedWhileDisconnecting link.generation cause)).tellEvent _

theorem shutdownEcho (h : past.Renews s t) : past.Renews s.shutdownEcho t.shutdownEcho := by
  unfold Robot.shutdownEcho
  rw [h.session]
  cases hs : t.session with
  | down | up => exact h
  | closing link closure =>
    show past.Renews (if closure.echoed then _ else _) (if closure.echoed then _ else _)
    split
    · exact h.finishDisconnect
    · exact h.replace (.closing link { closure with echoed := true }) fun next hn =>
        h.numbered.link next ((Robot.link?_of_closing hs).trans hn)

theorem graceDeadline (h : past.Renews s t) (closure : Closure) :
    s.graceDeadline { closure with deadline := closure.deadline.map (· + past.clock) } =
      t.graceDeadline closure + past.clock := by
  unfold Robot.graceDeadline
  cases closure.deadline with
  | none =>
    rw [h.kept.2.1, h.clock.1]
    exact past.deadlineAfter _ _
  | some deadline => rfl

theorem graceOver (h : past.Renews s t) : past.Renews s.graceOver t.graceOver := by
  cases hs : t.session with
  | down | up =>
    unfold Robot.graceOver
    rw [h.session, hs]
    exact h
  | closing link closure =>
    have same : s.session = .closing (past.link link)
        { closure with deadline := closure.deadline.map (· + past.clock) } := by
      rw [h.session, hs]
      rfl
    have passed : t.graceDeadline closure + past.clock ≤ s.rung ↔ t.graceDeadline closure ≤ t.rung := by
      rw [h.clock.2, Nat.add_le_add_iff_right]
    rw [Robot.graceOver_of_closing same, Robot.graceOver_of_closing hs, h.graceDeadline]
    simp only [passed]
    split
    · rw [h.kept.2.1]
      exact (h.note (.shutdownUnconfirmed link.generation t.settings.disconnectGrace)).finishDisconnect
    · have numbered := h.numbered.link link (Robot.link?_of_closing hs)
      generalize t.graceDeadline closure = deadline
      have armed : (past.link link).arm (deadline + past.clock) .grace = past.link (link.arm deadline .grace) :=
        congrArg (fun agenda => { past.link link with agenda }) (past.arm link.agenda deadline .grace)
      rw [armed]
      exact h.replace (.closing (link.arm deadline .grace) { closure with deadline := some deadline }) fun next hn => by
        cases hn
        exact numbered

/-! ## What the robot says -/

theorem enqueueProgress (h : past.Renews s t) (progress : Macro.Progress) :
    past.Renews (s.enqueueProgress progress) (t.enqueueProgress progress) :=
  h.enqueueAll _

theorem takeOver (h : past.Renews s t) (upload : Macro.Upload) : past.Renews { s with upload } { t with upload } :=
  h.of_kept (fun _ _ same => by rw [same]; rfl) rfl rfl rfl rfl

theorem progressMacro (h : past.Renews s t) (upload : Macro.Upload) (progress : Macro.Progress) :
    past.Renews (s.progressMacro upload progress) (t.progressMacro upload progress) := by
  have noted : past.Renews ({ s with upload }.noteFinish progress) ({ t with upload }.noteFinish progress) := by
    unfold Robot.noteFinish
    split
    · exact h.takeOver upload
    · next followUps _ => exact (h.takeOver upload).note (.macroFinished followUps.length)
  have next := noted.enqueueProgress progress
  unfold Robot.progressMacro
  dsimp only
  split
  · exact next.tellEvent _
  · exact next

theorem updateShadow (h : past.Renews s t) (command : Command) :
    past.Renews (s.updateShadow command) (t.updateShadow command) := by
  obtain ⟨-, -, -, shadow, -⟩ := h.kept
  unfold Robot.updateShadow
  rw [shadow]
  exact h.of_kept (fun _ _ same => by rw [same]; rfl) rfl rfl rfl rfl

/-- What the robot tells of its name replaces what it has told in the past. -/
theorem learn (h : past.Renews s t) (name : String) :
    past.Renews { s with name := some name } { t with name := some name } :=
  h.of_kept (fun _ _ same => by rw [same]; rfl) rfl rfl rfl rfl

theorem updateName (h : past.Renews s t) (entry : InFlight.Entry) (body : Response.Body) :
    past.Renews (s.updateName (past.entry entry) body) (t.updateName entry body) := by
  obtain ⟨command, system, sentAt⟩ := entry
  unfold Robot.updateName
  dsimp only [History.entry]
  split
  · next name _ => exact (h.note (.nameUpdated name)).learn name
  · exact h

theorem closeBeforeSleep (h : past.Renews s t) (command : Command) :
    past.Renews (s.closeBeforeSleep command) (t.closeBeforeSleep command) := by
  have closes {link : Link} (hs : t.session = .up link) :
      past.Renews (s.beginDisconnect (past.link link) none) (t.beginDisconnect link none) :=
    h.beginDisconnect (Robot.link?_of_up hs) none
  unfold Robot.closeBeforeSleep
  rw [h.session]
  cases hs : t.session with
  | down | closing => cases command <;> exact h
  | up link =>
    cases command with
    | sleep | jumpToBootloader => exact closes hs
    | _ => exact h

theorem confirm (h : past.Renews s t) (entry : InFlight.Entry) (body : Response.Body) :
    past.Renews (s.confirm (past.entry entry) body) (t.confirm entry body) := by
  have counted : past.Renews (if Robot.isEcho entry.command then s.shutdownEcho else s)
      (if Robot.isEcho entry.command then t.shutdownEcho else t) := by
    split
    · exact h.shutdownEcho
    · exact h
  exact ((counted.updateShadow entry.command).updateName entry body).closeBeforeSleep entry.command

theorem noteDamage (h : past.Renews s t) (entry : InFlight.Entry) (body : Response.Body) :
    past.Renews (s.noteDamage (past.entry entry) body) (t.noteDamage entry body) := by
  unfold Robot.noteDamage
  split
  · next e => exact h.note (.responseCorrupt e entry.command)
  · exact h

theorem handleAnswer (h : past.Renews s t) (entry : InFlight.Entry) (packet : Packet) :
    past.Renews (s.handleAnswer (past.entry entry) packet) (t.handleAnswer entry packet) := by
  let response := Response.decode entry.command.kind packet
  let damaged (r : Robot) (entry : InFlight.Entry) : Robot :=
    (r.note (.responseMatched response entry.system)).noteDamage entry response.body
  let known (r : Robot) (entry : InFlight.Entry) : Robot :=
    if response.status.isOk then (damaged r entry).confirm entry response.body
    else (damaged r entry).note (.commandRejected response.status entry.command)
  have damage : past.Renews (damaged s (past.entry entry)) (damaged t entry) :=
    (h.note (.responseMatched response entry.system)).noteDamage entry response.body
  have knows : past.Renews (known s (past.entry entry)) (known t entry) := by
    simp only [known]
    split
    · exact damage.confirm entry response.body
    · exact damage.note (.commandRejected response.status entry.command)
  show past.Renews (if entry.system then known s (past.entry entry) else (known s (past.entry entry)).tell _)
    (if entry.system then known t entry else (known t entry).tell _)
  split
  · exact knows
  · exact knows.tell _

theorem inFlight (h : past.Renews s t) : s.inFlight = past.inFlight t.inFlight := by
  cases h
  rfl

theorem await (h : past.Renews s t) (inFlight : InFlight) :
    past.Renews { s with inFlight := past.inFlight inFlight } { t with inFlight } :=
  h.of_kept (fun _ _ same => by rw [same]; rfl) rfl rfl rfl rfl

theorem handleResponse (h : past.Renews s t) (g : Nat) (packet : Packet) :
    past.Renews (s.handleResponse (g + past.generations) packet) (t.handleResponse g packet) := by
  unfold Robot.handleResponse InFlight.resolve
  rw [h.inFlight]
  cases entries : t.inFlight.entries with
  | nil =>
    simp only [History.inFlight, entries, List.map_nil, List.head?_nil]
    exact (h.note (.responseUnmatched (Status.ofCode packet.header.code))).tellEvent _
  | cons entry rest =>
    simp only [History.inFlight, entries, List.map_cons, List.head?_cons, List.tail_cons]
    exact ((h.await ⟨rest⟩).record (.answered g entry packet)).handleAnswer entry packet

theorem handleInformation (h : past.Renews s t) (packet : Packet) :
    past.Renews (s.handleInformation packet) (t.handleInformation packet) := by
  unfold Robot.handleInformation
  split
  · next e _ => exact h.note (.informationCorrupt e packet.header.code)
  · next information _ =>
    have noted := h.note (.informationReceived information.kind)
    obtain ⟨-, -, upload, -⟩ := h.kept
    have same : (s.note (.informationReceived information.kind)).upload =
      (t.note (.informationReceived information.kind)).upload := upload
    dsimp only
    rw [same]
    split
    · exact noted.progressMacro _ _
    · exact noted.tell _

theorem handlePacket (h : past.Renews s t) (g : Nat) (packet : Packet) :
    past.Renews (s.handlePacket (g + past.generations) packet) (t.handlePacket g packet) := by
  have received := h.record (.received g packet)
  unfold Robot.handlePacket
  dsimp only
  split
  · next e _ => exact received.note (.packetUnrecognised e)
  · exact received.handleResponse g packet
  · exact received.handleInformation packet

theorem handleFrames (h : past.Renews s t) (g : Nat) (frames : List Frame) :
    past.Renews (s.handleFrames (g + past.generations) frames) (t.handleFrames g frames) := by
  refine foldl (fun {s t} h frame => ?_) h frames
  have there : (s.current? (g + past.generations)).isSome = (t.current? g).isSome := by
    rw [h.current?, Option.isSome_map]
  rw [there]
  split
  · cases frame with
    | skipped header => exact h.note (.packetEmpty header)
    | packet packet => exact h.handlePacket g packet
  · exact h

theorem handleArrival (h : past.Renews s t) (link : Link) (arrival : Arrival) :
    past.Renews (s.handleArrival (past.link link) arrival) (t.handleArrival link arrival) := by
  have taken := h.record (.took link.generation arrival)
  cases arrival with
  | bytes chunk =>
    refine handleFrames (taken.mapLink (f := fun l => { l with buffer := (Frame.feed link.buffer chunk).2 })
      (fun _ _ => rfl) fun _ _ => rfl) link.generation _
  | ended => exact taken.connectionLost _
  | failed fault => exact taken.connectionLost _

theorem runReader (h : past.Renews s t) (link : Link) :
    past.Renews (s.runReader (past.link link)) (t.runReader link) := by
  have emptied : past.Renews (s.mapLink fun link => { link with inbox := [] })
      (t.mapLink fun link => { link with inbox := [] }) := h.mapLink (fun _ _ => rfl) fun _ _ => rfl
  refine foldl (fun {s t} h arrival => ?_) emptied link.inbox
  have same : s.current? (past.link link).generation = (t.current? link.generation).map past.link :=
    h.current? link.generation
  rw [same]
  cases t.current? link.generation with
  | none => exact h
  | some next => exact h.handleArrival next arrival

/-! ## The writer -/

theorem register (h : past.Renews s t) (g : Nat) (item : Outbox.Item) :
    past.Renews (s.register (g + past.generations) item) (t.register g item) := by
  have entered : past.Renews
      { s with inFlight := past.inFlight (t.inFlight.register ⟨item.command, item.system, t.clock⟩) }
      { t with inFlight := t.inFlight.register ⟨item.command, item.system, t.clock⟩ } := h.await _
  have same : past.inFlight (t.inFlight.register ⟨item.command, item.system, t.clock⟩) =
      s.inFlight.register ⟨item.command, item.system, s.clock⟩ := by
    rw [h.inFlight, h.clock.1]
    simp [History.inFlight, InFlight.register, History.entry]
  rw [same] at entered
  have registered := entered.record (.registered g ⟨item.command, item.system, t.clock⟩)
  have entry : past.deed (.registered g ⟨item.command, item.system, t.clock⟩) =
      .registered (g + past.generations) ⟨item.command, item.system, s.clock⟩ := by
    rw [h.clock.1]
    rfl
  rw [entry] at registered
  exact registered

theorem takeEmission (h : past.Renews s t) (link : Link) (emission : Outbox.Emission) :
    past.Renews (s.takeEmission (past.link link) emission) (t.takeEmission link emission) := by
  cases emission with
  | dropped command e => exact h.note (.unencodable e command)
  | registered batch => exact foldl (fun h item => h.register link.generation item) h batch
  | wrote bytes => exact h.record (.wrote link.channel bytes)

theorem runWriter (h : past.Renews s t) (hl : t.link? = some link) :
    past.Renews (s.runWriter (past.link link)) (t.runWriter link) := by
  have worked : past.Renews (s.withLink (past.link { link with writer := (link.writer.work false false).1 }))
      (t.withLink { link with writer := (link.writer.work false false).1 }) := h.withLink hl rfl
  have emitted := foldl (fun h emission => h.takeEmission link emission) worked (link.writer.work false false).2
  unfold Robot.runWriter Robot.checkWriter
  dsimp only [History.link]
  split
  · next fault _ => exact (emitted.record (.halted link.generation fault)).connectionLost _
  · exact emitted

/-! ## Alarms -/

theorem rearm (h : past.Renews s t) (deadline : Option Nat) (alarm : Alarm) :
    past.Renews (s.rearm (deadline.map (· + past.clock)) alarm) (t.rearm deadline alarm) := by
  cases deadline with
  | none => exact h
  | some deadline =>
    refine h.mapLink (fun link _ => ?_) fun _ _ => rfl
    exact congrArg (fun agenda => { past.link link with agenda }) (past.arm link.agenda deadline alarm)

theorem runTimer (h : past.Renews s t) (hl : t.link? = some link) (task : Nat) :
    past.Renews (s.runTimer (past.link link) task) (t.runTimer link task) := by
  have looked := past.look link.scheduler t.rung t.clock task
  unfold Robot.runTimer
  dsimp only
  rw [h.clock.1, h.clock.2,
    show (past.link link).scheduler.look (t.rung + past.clock) (t.clock + past.clock) task = _ from looked]
  have next : past.Renews
      (s.withLink (past.link { link with scheduler := (link.scheduler.look t.rung t.clock task).2.2 }))
      (t.withLink { link with scheduler := (link.scheduler.look t.rung t.clock task).2.2 }) := h.withLink hl rfl
  exact (next.enqueueAll _).rearm _ _

theorem giveUp (timeout : Nat) (h : past.Renews s t) (entry : InFlight.Entry) :
    past.Renews (s.giveUp timeout (past.entry entry)) (t.giveUp timeout entry) :=
  (h.note (.responseOverdue entry.command timeout)).tellEvent _

theorem giveUpOverdue (h : past.Renews s t) (g timeout : Nat) :
    past.Renews (s.giveUpOverdue (g + past.generations) timeout) (t.giveUpOverdue g timeout) := by
  have overdue : s.inFlight.expire s.clock timeout = ((t.inFlight.expire t.clock timeout).1.map past.entry,
      past.inFlight (t.inFlight.expire t.clock timeout).2) := by
    rw [h.inFlight, h.clock.1, past.expire]
  unfold Robot.giveUpOverdue
  rw [overdue]
  dsimp only
  have expired := (h.await (t.inFlight.expire t.clock timeout).2).recordAll
    ((t.inFlight.expire t.clock timeout).1.map (.expired g))
  rw [List.map_map] at expired
  rw [List.map_map, List.foldl_map]
  exact foldl (fun h entry => h.giveUp timeout entry) expired _

theorem sweepTimer (h : past.Renews s t) (link : Link) (timeout : Nat) :
    s.sweepTimer (past.link link) timeout = past.timer (t.sweepTimer link timeout) := by
  unfold Robot.sweepTimer
  rw [show (past.link link).sweep = link.sweep.map past.timer from rfl, h.clock.1]
  cases link.sweep <;> rfl

theorem runSweep (h : past.Renews s t) (hl : t.link? = some link) :
    past.Renews (s.runSweep (past.link link)) (t.runSweep link) := by
  unfold Robot.runSweep
  rw [h.kept.2.1]
  cases t.settings.responseTimeout with
  | none => exact h
  | some timeout =>
    simp only [h.sweepTimer, h.clock.1, h.clock.2, past.fire]
    generalize (t.sweepTimer link timeout).fire t.rung t.clock = fired
    have looked : past.Renews (s.withLink (past.link { link with sweep := fired.2 }))
        (t.withLink { link with sweep := fired.2 }) := h.withLink hl rfl
    have next : past.Renews
        (if fired.1 = 0 then s.withLink (past.link { link with sweep := fired.2 })
          else (s.withLink (past.link { link with sweep := fired.2 })).giveUpOverdue
            (link.generation + past.generations) timeout)
        (if fired.1 = 0 then t.withLink { link with sweep := fired.2 }
          else (t.withLink { link with sweep := fired.2 }).giveUpOverdue link.generation timeout) := by
      split
      · exact looked
      · exact looked.giveUpOverdue _ _
    have armed := next.rearm (fired.2.map (·.deadline)) .sweep
    have deadlines : (fired.2.map past.timer).map (·.deadline) = (fired.2.map (·.deadline)).map (· + past.clock) := by
      cases fired.2 <;> rfl
    rw [deadlines]
    exact armed

/-! ## Calls -/

theorem disconnectCall (h : past.Renews s t) (call : Nat) :
    past.Renews (s.disconnectCall call) (t.disconnectCall call) := by
  unfold Robot.disconnectCall
  rw [h.session]
  cases hs : t.session with
  | up link => exact h.beginDisconnect (Robot.link?_of_up hs) (some call)
  | down | closing => exact ((h.note .nothingToDisconnect).tellEvent _).record (.finished call (.answered false))

theorem finish (h : past.Renews s t) (call : Nat) (outcome : Outcome) :
    past.Renews (s.finish call outcome) (t.finish call outcome) :=
  h.record (.finished call outcome)

/-! ## How a connection begins -/

theorem timer_repeating (past : History) (now initial period : Nat) :
    Timer.repeating (now + past.clock) initial period = past.timer (.repeating now initial period) := by
  simp [Timer.repeating, History.timer, past.deadlineAfter]

theorem timer_once (past : History) (now delay : Nat) :
    Timer.once (now + past.clock) delay = past.timer (.once now delay) := by
  simp [Timer.once, History.timer, past.deadlineAfter]

theorem newLink (h : past.Renews s t) (g channel : Nat) (sink : Sink) :
    s.newLink (g + past.generations) channel sink = past.link (t.newLink g channel sink) := by
  unfold Robot.newLink
  rw [h.kept.2.1]
  rfl

theorem planKeepAlive (h : past.Renews s t) (hl : t.link? = some link) :
    past.Renews (s.planKeepAlive (past.link link)) (t.planKeepAlive link) := by
  obtain ⟨-, settings, -⟩ := h.kept
  unfold Robot.planKeepAlive
  dsimp only
  rw [settings, h.clock.1, timer_repeating]
  exact (h.plan hl _ _).2

theorem planSweep (h : past.Renews s t) (hl : t.link? = some link) :
    past.Renews (s.planSweep (past.link link)) (t.planSweep link) := by
  unfold Robot.planSweep
  rw [h.kept.2.1]
  split
  · exact h.spawn (.wake link.generation .sweep) (h.known hl rfl)
  · exact h

theorem launch (h : past.Renews s t) {g : Nat} (known : 0 < g ∧ g ≤ t.generations) :
    past.Renews (s.launch (g + past.generations)) (t.launch g) := by
  have own (task : Task) (own : task.generation? = some g) (n : Nat) (same : task.generation? = some n) :
      0 < n ∧ n ≤ t.generations := by
    rw [own] at same
    cases same
    exact known
  have awake := (h.spawn (.write g) (own _ rfl)).spawn (.read g) (own _ rfl)
  have reset := awake.enqueueAll (t.shadow.resetSequence.map fun c => ⟨c, true⟩)
  obtain ⟨-, -, -, shadow, -⟩ := h.kept
  have same : s.shadow.resetSequence = t.shadow.resetSequence := by rw [shadow]
  rw [← same] at reset
  have sent : past.Renews ((s.spawn (.write (g + past.generations))).spawn (.read (g + past.generations))).sendReset
      ((t.spawn (.write g)).spawn (.read g)).sendReset := by
    unfold Robot.sendReset
    rw [show ((t.spawn (.write g)).spawn (.read g)).shadow = t.shadow from rfl, ← same]
    exact reset
  exact (sent.onLink fun link hl => planKeepAlive sent hl).onLink
    fun link hl => planSweep (sent.onLink fun link hl => planKeepAlive sent hl) hl

/-- The driver without what a connection leaves behind and the next one forgets. -/
def forget (r : Robot) : Robot :=
  { r with session := .down, inFlight := {}, upload := r.upload.clear, shadow := {} }

theorem forgetting (h : past.Renews s t) : past.Renews (forget s) (forget t) := by
  cases h with | @intro t ready schedule fresh plans numbered =>
  exact @intro past (forget t) ready schedule fresh plans ⟨fun _ => nofun, numbered.ready, numbered.schedule⟩

theorem count (h : past.Renews s t) :
    past.Renews { s with generations := s.generations + 1 } { t with generations := t.generations + 1 } := by
  cases h with | @intro t ready schedule fresh plans numbered =>
  have more : (past.robot t ready schedule).generations + 1 = t.generations + 1 + past.generations :=
    Nat.add_right_comm _ _ _
  rw [more]
  refine @intro past { t with generations := t.generations + 1 } ready schedule fresh plans ⟨?_, ?_, ?_⟩
  · exact fun link hl => (numbered.link link hl).imp_right Nat.le_succ_of_le
  · exact fun task there g own => Nat.le_succ_of_le (numbered.ready task there g own)
  · exact fun plan there => Nat.le_succ_of_le (numbered.schedule plan there)

theorem generations (h : past.Renews s t) : s.generations = t.generations + past.generations := by
  cases h
  rfl

/-- A connection begins, whatever was left behind. -/
theorem start_of_forget (h : past.Renews (forget s) (forget t)) (hs : s.link? = none) (ht : t.link? = none)
    (channel : Nat) (sink : Sink) : past.Agrees (s.start channel sink) (t.start channel sink) := by
  have counted := h.count
  have known : 0 < t.generations + 1 ∧ t.generations + 1 ≤ t.generations + 1 := ⟨Nat.succ_pos _, Nat.le_refl _⟩
  let link := { t with generations := t.generations + 1 }.newLink (t.generations + 1) channel sink
  have same :
      { s with generations := s.generations + 1 }.newLink (s.generations + 1) channel sink = past.link link := by
    have number : s.generations + 1 = t.generations + 1 + past.generations := counted.generations
    rw [number]
    exact counted.newLink (t.generations + 1) channel sink
  have installed := counted.replace (.up link) fun other ho => by
    cases ho
    exact known
  rw [show past.session (.up link) = .up (past.link link) from rfl, ← same] at installed
  have begun := ((installed.launch (g := t.generations + 1) known).note
    (.connected t.address.digits (t.generations + 1))).tellEvent .connected
  have number : t.generations + 1 + past.generations = s.generations + 1 := counted.generations.symm
  have note : past.note (.connected t.address.digits (t.generations + 1)) =
      .connected s.address.digits (s.generations + 1) := by
    rw [History.note, number, show t.address = s.address from h.kept.1.symm]
  rw [note, number] at begun
  have fresh {r : Robot} (none : r.link? = none) : ¬ r.link?.isSome = true := by
    rw [none]
    nofun
  have left : s.start channel sink = (true, _) := if_neg (fresh hs)
  have right : t.start channel sink = (true, _) := if_neg (fresh ht)
  rw [left, right]
  exact ⟨rfl, begun⟩

theorem start (h : past.Renews s t) (channel : Nat) (sink : Sink) :
    past.Agrees (s.start channel sink) (t.start channel sink) := by
  cases ht : t.link? with
  | none => exact start_of_forget h.forgetting (by rw [h.link?, ht]; rfl) ht channel sink
  | some link =>
    have surplus := h.count.note (.transportDropped (t.generations + 1))
    have number : t.generations + 1 + past.generations = s.generations + 1 := h.count.generations.symm
    rw [History.note, number] at surplus
    have left : s.start channel sink = (false, _) := if_pos (by show s.link?.isSome = true; rw [h.link?, ht]; rfl)
    have right : t.start channel sink = (false, _) := if_pos (by show t.link?.isSome = true; rw [ht]; rfl)
    rw [left, right]
    exact ⟨rfl, surplus⟩

/-- Channels are opened in another way. -/
theorem withDialler (h : past.Renews s t) {dialler dialler' : Dialler} (same : dialler' = dialler) :
    past.Renews { s with dialler := dialler' } { t with dialler } := by
  rw [same]
  exact h.of_kept (fun _ _ same => by rw [same]; rfl) rfl rfl rfl rfl

theorem takeChannel (h : past.Renews s t) : s.takeChannel.1 = t.takeChannel.1 ∧
    s.takeChannel.2.1 = t.takeChannel.2.1 ∧ past.Renews s.takeChannel.2.2 t.takeChannel.2.2 := by
  obtain ⟨-, -, -, -, -, dialler, -⟩ := h.kept
  unfold Robot.takeChannel
  rw [dialler]
  exact ⟨rfl, rfl, h.withDialler rfl⟩

/-- A channel is opened, and the connection begins or does not. -/
theorem dial_of_start (call : Nat) (left : s.dialler.refuse = false) (right : t.dialler.refuse = false)
    (start : past.Agrees (s.takeChannel.2.2.start s.takeChannel.1 s.takeChannel.2.1)
      (t.takeChannel.2.2.start t.takeChannel.1 t.takeChannel.2.1)) :
    past.Renews (s.dial call) (t.dial call) := by
  obtain ⟨same, started⟩ := start
  have finished := started.finish call (.answered (t.takeChannel.2.2.start t.takeChannel.1 t.takeChannel.2.1).1)
  unfold Robot.dial
  rw [if_neg (by rw [left]; exact Bool.false_ne_true), if_neg (by rw [right]; exact Bool.false_ne_true)]
  dsimp only
  rw [same]
  exact finished

theorem dial (h : past.Renews s t) (call : Nat) : past.Renews (s.dial call) (t.dial call) := by
  obtain ⟨address, settings, -, -, -, dialler, -⟩ := h.kept
  cases refuse : t.dialler.refuse with
  | false =>
    obtain ⟨channel, sink, taken⟩ := h.takeChannel
    refine dial_of_start call (by rw [dialler, refuse]) refuse ?_
    rw [channel, sink]
    exact taken.start _ _
  | true =>
    unfold Robot.dial Robot.openFailure
    rw [if_pos (by rw [dialler, refuse]), if_pos refuse, address, settings]
    exact ((h.note (.openFailed _ _)).tellEvent .connectFailed).finish call _

/-- A call whose channel is opened makes a connection of it, whatever was left behind. -/
theorem dial_of_forget (h : past.Renews (forget s) (forget t)) (hs : s.link? = none) (ht : t.link? = none) {call : Nat}
    (connects : (s.dial call).link?.isSome = true) : past.Renews (s.dial call) (t.dial call) := by
  have dialler : s.dialler = t.dialler := h.kept.2.2.2.2.2.1
  cases refuse : s.dialler.refuse with
  | false =>
    have taken : past.Renews (forget s.takeChannel.2.2) (forget t.takeChannel.2.2) := by
      have same (r : Robot) : (forget r).takeChannel.2.2 = forget r.takeChannel.2.2 := rfl
      rw [← same, ← same]
      exact h.takeChannel.2.2
    refine dial_of_start call refuse (by rw [← dialler, refuse]) ?_
    rw [show s.takeChannel.1 = t.takeChannel.1 from congrArg Dialler.opened dialler,
      show s.takeChannel.2.1 = t.takeChannel.2.1 from congrArg Dialler.nextSink dialler]
    exact start_of_forget taken hs ht _ _
  | true =>
    have gone : (s.dial call).link? = none := by
      unfold Robot.dial
      rw [if_pos refuse]
      exact Robot.link?_tell_of_none (r := s.note _) hs _
    rw [gone] at connects
    cases connects

theorem noteDialled (h : past.Renews s t) : past.Renews s.noteDialled t.noteDialled := by
  obtain ⟨address, -, -, -, -, dialler, -⟩ := h.kept
  exact h.withDialler (by rw [address, dialler])

theorem holdCall (h : past.Renews s t) (call : Nat) : past.Renews (s.holdCall call) (t.holdCall call) := by
  obtain ⟨-, -, -, -, -, dialler, -⟩ := h.kept
  exact h.withDialler (by rw [dialler])

theorem isConnected (h : past.Renews s t) : s.isConnected = t.isConnected := by
  unfold Robot.isConnected
  rw [h.session]
  cases t.session <;> rfl

theorem connectCall (h : past.Renews s t) (call : Nat) : past.Renews (s.connectCall call) (t.connectCall call) := by
  have address : s.address = t.address := h.kept.1
  have connecting := (h.note (.connecting t.address.digits)).noteDialled
  obtain ⟨-, -, -, -, -, dialler, -⟩ := connecting.kept
  unfold Robot.connectCall
  rw [h.isConnected, address]
  split
  · exact (h.note (.alreadyConnected _)).finish call _
  · dsimp only [History.note] at connecting dialler ⊢
    rw [dialler]
    split
    · exact connecting.holdCall call
    · exact connecting.dial call

theorem connectCall_of_forget (h : past.Renews (forget s) (forget t)) (hs : s.link? = none) (ht : t.link? = none)
    {call : Nat} (connects : (s.connectCall call).link?.isSome = true) :
    past.Renews (s.connectCall call) (t.connectCall call) := by
  let reach (r : Robot) : Robot := (r.note (.connecting r.address.digits)).noteDialled
  have calls {r : Robot} (gone : r.link? = none) : r.connectCall call =
      if (reach r).dialler.hold then (reach r).holdCall call else (reach r).dial call := by
    refine if_neg fun up => ?_
    rw [Robot.isConnected, Robot.session_of_link?_eq_none gone] at up
    cases up
  have reached : past.Renews (forget (reach s)) (forget (reach t)) := by
    have same (r : Robot) : forget (reach r) = ((forget r).note (.connecting r.address.digits)).noteDialled := rfl
    have address : s.address = t.address := h.kept.1
    rw [same, same, address]
    exact (h.note (.connecting _)).noteDialled
  have hold : (reach s).dialler.hold = (reach t).dialler.hold := congrArg Dialler.hold reached.kept.2.2.2.2.2.1
  rw [calls hs] at connects ⊢
  rw [calls ht, ← hold]
  split at connects
  · -- A call that is held makes no connection.
    have gone : ((reach s).holdCall call).link? = none := hs
    rw [gone] at connects
    cases connects
  · next free =>
    rw [if_neg free, if_neg free]
    exact dial_of_forget reached hs ht connects

/-! ## All tasks -/

theorem runAlarm (h : past.Renews s t) (hl : t.link? = some link) (alarm : Alarm) :
    past.Renews (s.runAlarm (past.link link) alarm) (t.runAlarm link alarm) := by
  cases alarm with
  | timer task => exact h.runTimer hl task
  | sweep => exact h.runSweep hl
  | grace => exact h.graceOver

theorem run (h : past.Renews s t) (task : Task) : past.Renews (s.run (past.task task)) (t.run task) := by
  cases task with
  | connect call => exact h.connectCall call
  | dial call => exact h.dial call
  | disconnect call => exact h.disconnectCall call
  | disconnected call => exact h.finish call _
  | write g => exact h.onCurrent fun _ hl => h.runWriter hl
  | read g => exact h.onCurrent fun link _ => h.runReader link
  | wake g alarm =>
    exact h.onCurrent (f := fun r link => r.runAlarm link alarm) fun _ hl => h.runAlarm hl alarm

/-! ## Turns and alarms -/

/-- A task takes its turn. If it belongs to a connection that is past, nothing comes of that. -/
theorem turn (h : past.Renews s t) {index : Nat} {old : Task} (here : s.ready[index]? = some old) :
    (past.fresh? old = none ∧ { s with ready := s.ready.eraseIdx index }.run old =
        { s with ready := s.ready.eraseIdx index } ∧ past.Renews { s with ready := s.ready.eraseIdx index } t) ∨
      ∃ new, past.fresh? old = some new ∧ t.ready[past.place s.ready index]? = some new ∧
        past.Renews ({ s with ready := s.ready.eraseIdx index }.run old)
          ({ t with ready := t.ready.eraseIdx (past.place s.ready index) }.run new) := by
  cases own : past.fresh? old with
  | none =>
    have rest := h.erase_stale here own
    exact .inl ⟨rfl, rest.run_stale own, rest⟩
  | some new =>
    obtain ⟨there, rest⟩ := h.erase_fresh here own
    rw [(past.fresh?_eq_some own).1]
    exact .inr ⟨new, rfl, there, rest.run new⟩

/-- All tasks run in the order of the queue, and those of connections that are past take their turns in between. -/
theorem settle (h : past.Renews s t) : past.Renews s.settle t.settle := by
  induction hn : s.load using Nat.strongRecOn generalizing s t with
  | ind n ih =>
    subst hn
    cases hr : s.ready with
    | nil =>
      have none : t.ready = [] := by rw [← h.fresh, hr, List.filterMap_nil]
      rw [Robot.settle_nil hr, Robot.settle_nil none]
      exact h
    | cons old others =>
      have here : s.ready[0]? = some old := by rw [hr, List.getElem?_cons_zero]
      have lighter := Robot.load_turn_lt hr
      rw [Robot.settle_cons hr]
      rcases h.turn here with ⟨-, idle, rest⟩ | ⟨new, -, there, next⟩
      · rw [hr, List.eraseIdx_cons_zero] at idle rest
        rw [idle] at lighter ⊢
        exact ih _ lighter rest rfl
      · have first : past.place s.ready 0 = 0 := rfl
        rw [first] at there next
        obtain ⟨rest, ht⟩ : ∃ rest, t.ready = new :: rest := by
          cases ht : t.ready with
          | nil => rw [ht] at there; cases there
          | cons first rest =>
            rw [ht] at there
            cases there
            exact ⟨rest, rfl⟩
        rw [hr, ht, List.eraseIdx_cons_zero, List.eraseIdx_cons_zero] at next
        rw [Robot.settle_cons ht]
        exact ih _ lighter next rfl

theorem tick (h : past.Renews s t) (ms : Nat) :
    past.Renews { s with clock := s.clock + ms } { t with clock := t.clock + ms } := by
  cases h with | @intro t ready schedule fresh plans numbered =>
  have later : (past.robot t ready schedule).clock + ms = t.clock + ms + past.clock := Nat.add_right_comm _ _ _
  rw [later]
  exact @intro past { t with clock := t.clock + ms } ready schedule fresh plans
    ⟨numbered.link, numbered.ready, numbered.schedule⟩

theorem ring (h : past.Renews s t) : past.Renews s.ring t.ring := by
  have rung : past.Renews { s with rung := s.clock } { t with rung := t.clock } := by
    rw [h.clock.1]
    exact h.of_kept (fun _ _ same => by rw [same]; rfl) rfl rfl rfl rfl
  unfold Robot.ring
  refine rung.onLink fun link hl => ?_
  have now : s.clock = t.clock + past.clock := h.clock.1
  have later : past.Renews
      ({ s with rung := s.clock }.withLink (past.link { link with agenda := link.agenda.later t.clock }))
      ({ t with rung := t.clock }.withLink { link with agenda := link.agenda.later t.clock }) :=
    rung.withLink hl rfl
  have woken := later.spawnAll ((link.agenda.due t.clock).map (.wake link.generation)) fun task there g own => by
    obtain ⟨alarm, -, rfl⟩ := List.mem_map.1 there
    cases own
    exact h.numbered.link link hl
  rw [List.map_map] at woken
  have agenda : (past.agenda link.agenda).later s.clock = past.agenda (link.agenda.later t.clock) ∧
      (past.agenda link.agenda).due s.clock = link.agenda.due t.clock := by
    rw [now]
    exact ⟨past.later _ _, past.due _ _⟩
  show past.Renews { { s with rung := s.clock }.withLink
      { past.link link with agenda := (past.agenda link.agenda).later s.clock } with
      ready := s.ready ++ ((past.agenda link.agenda).due s.clock).map (.wake (link.generation + past.generations)) } _
  rw [agenda.1, agenda.2]
  exact woken

theorem advance (h : past.Renews s t) (ms : Nat) : past.Renews (s.advance ms) (t.advance ms) :=
  (h.tick ms).settle.ring

/-- A task by which a connection comes about leads to the same, whatever was left behind. -/
theorem run_of_forget (h : past.Renews (forget s) (forget t)) (hs : s.link? = none) (ht : t.link? = none) {task : Task}
    (connects : (s.run task).link?.isSome = true) : past.Renews (s.run task) (t.run task) := by
  obtain ⟨call, rfl | rfl⟩ := Robot.calls_of_connects hs connects
  · exact connectCall_of_forget h hs ht connects
  · exact dial_of_forget h hs ht connects

end Renews

end RobotDriver.History
