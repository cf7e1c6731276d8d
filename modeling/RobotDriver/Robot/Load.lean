import RobotDriver.Robot.Running

/-!
# Every task lowers the load

`run_load_lt` says that a task makes less ready than it weighs itself, so that `settle` never stops early:
`ready_settle` says that it leaves no task ready. A connection may still cause two things of its own accord,
the alarm of its time of grace and the end of a waiting call; `Session.credit` sets their weight aside while
they are to come. A writer is made ready at most once, whatever is sent, which is why `Within` counts it apart.
-/

namespace RobotDriver

/-- The weight of the tasks that the state of a connection may still cause. -/
def Session.credit : Session → Nat
  | up _ => 4
  | closing _ closure => if closure.waiter.isSome then 1 else 0
  | down => 0

theorem Session.credit_le (s : Session) : s.credit ≤ 4 := by
  unfold credit
  split
  · exact Nat.le_refl 4
  · split <;> omega
  · omega

theorem Task.weight_pos (t : Task) : 0 < t.weight := by
  cases t with
  | wake n alarm => cases alarm <;> simp [Task.weight, Alarm.weight]
  | _ => simp [Task.weight]

@[simp] theorem Session.credit_mapLink (f : Link → Link) (s : Session) : (s.mapLink f).credit = s.credit := by
  cases s <;> rfl

namespace Robot

/-- The weight of a task that is not the writer of a generation. -/
def weightBeside (g : Nat) (t : Task) : Nat :=
  if t = .write g then 0 else t.weight

/-- The weight of the tasks that are ready beside the writer of a generation. -/
def loadBeside (r : Robot) (g : Nat) : Nat :=
  total (r.ready.map (weightBeside g))

theorem total_weight_eq (g : Nat) (ts : List Task) :
    total (ts.map Task.weight) = total (ts.map (weightBeside g)) + 2 * ts.count (.write g) := by
  induction ts with
  | nil => rfl
  | cons t ts ih =>
    by_cases h : t = .write g
    · subst h
      simp [weightBeside, Task.weight, ih]
      omega
    · simp [weightBeside, h, ih]
      omega

theorem load_eq (r : Robot) (g : Nat) : r.load = r.loadBeside g + 2 * r.ready.count (.write g) :=
  total_weight_eq g r.ready

/-- The connection is of generation `g`, its writer is ready at most `c` times, and all else that is ready or
to come of it weighs at most `b`. -/
structure Within (g b c : Nat) (r : Robot) : Prop where
  generation : ∀ link, r.link? = some link → link.generation = g
  beside : r.loadBeside g + r.session.credit ≤ b
  writers : r.ready.count (.write g) ≤ c

variable {g b c : Nat} {r : Robot}

theorem Within.load_le (h : Within g b c r) : r.load ≤ b + 2 * c := by
  have := h.beside
  have := h.writers
  rw [load_eq r g]
  omega

theorem Within.of_eq (h : Within g b c r) {next : Robot} (ready : next.ready = r.ready)
    (session : next.session = r.session) : Within g b c next := by
  refine ⟨?_, ?_, ?_⟩
  · unfold link?
    rw [session]
    exact h.generation
  · unfold loadBeside
    rw [ready, session]
    exact h.beside
  · rw [ready]
    exact h.writers

theorem Within.recordAll (h : Within g b c r) (ds : List Deed) : Within g b c (r.recordAll ds) :=
  h.of_eq rfl rfl

theorem Within.record (h : Within g b c r) (d : Deed) : Within g b c (r.record d) :=
  h.recordAll [d]

theorem Within.note (h : Within g b c r) (n : Note) : Within g b c (r.note n) :=
  h.of_eq rfl rfl

theorem Within.mapLink (h : Within g b c r) {f : Link → Link}
    (hf : ∀ link, link.generation = g → (f link).generation = g) : Within g b c (r.mapLink f) := by
  refine ⟨?_, ?_, h.writers⟩
  · intro link hl
    simp only [link?, Robot.mapLink, Session.link?_mapLink, Option.map_eq_some_iff] at hl
    obtain ⟨before, hb, rfl⟩ := hl
    exact hf before (h.generation before hb)
  · simpa [loadBeside, Robot.mapLink] using h.beside

theorem Within.withLink (h : Within g b c r) {link : Link} (hl : link.generation = g) :
    Within g b c (r.withLink link) :=
  h.mapLink fun _ _ => hl

/-- Making a task ready costs its weight. -/
theorem Within.spawn (h : Within g b c r) {t : Task} (ht : t ≠ .write g) :
    Within g (b + t.weight) c (r.spawn t) := by
  refine ⟨h.generation, ?_, ?_⟩
  · have := h.beside
    have e : (r.spawn t).loadBeside g = r.loadBeside g + t.weight := by
      simp [loadBeside, Robot.spawn, weightBeside, ht]
    rw [e, show (r.spawn t).session = r.session from rfl]
    omega
  · have := h.writers
    simpa [Robot.spawn, List.count_append, List.count_cons, ht] using this

/-- Rousing the writer costs nothing. -/
theorem Within.rouse (h : Within g b c r) (hc : 1 ≤ c) : Within g b c (r.rouse (.write g)) := by
  unfold Robot.rouse
  split
  · exact h
  · next absent =>
    refine ⟨h.generation, ?_, ?_⟩
    · simpa [loadBeside, Robot.spawn, weightBeside] using h.beside
    · have : r.ready.count (.write g) = 0 := by simpa [List.count_eq_zero] using absent
      simp only [Robot.spawn, List.count_append, List.count_cons_self, List.count_nil]
      omega

/-! ## Sending and telling -/

theorem Within.requeue (h : Within g b c r) (hc : 1 ≤ c) {link : Link} (hl : r.link? = some link)
    (outbox : Outbox) : Within g b c (r.requeue link outbox) := by
  have hg := h.generation link hl
  have next : Within g b c (r.withLink (link.withOutbox outbox)) := h.withLink hg
  unfold Robot.requeue
  dsimp only
  split
  · rw [hg]
    exact next.rouse hc
  · exact next

theorem Within.enqueue (h : Within g b c r) (hc : 1 ≤ c) (item : Outbox.Item) :
    Within g b c (r.enqueue item).2 := by
  unfold Robot.enqueue
  split
  · exact h
  · next link hl =>
    split
    · exact h.requeue hc hl _
    · exact h.note _

theorem Within.force (h : Within g b c r) (hc : 1 ≤ c) (command : Command) : Within g b c (r.force command) := by
  unfold Robot.force
  split
  · exact h
  · next link hl =>
    split
    · exact h.requeue hc hl _
    · exact h.note _

theorem Within.foldl {α : Type} {f : Robot → α → Robot} (hf : ∀ r a, Within g b c r → Within g b c (f r a))
    (as : List α) : ∀ r, Within g b c r → Within g b c (as.foldl f r) := by
  induction as with
  | nil => exact fun _ h => h
  | cons a as ih => exact fun r h => ih _ (hf r a h)

theorem Within.enqueueAll (h : Within g b c r) (hc : 1 ≤ c) (items : List Outbox.Item) :
    Within g b c (r.enqueueAll items) :=
  Within.foldl (fun _ item h => h.enqueue hc item) items r h

theorem Within.submit (h : Within g b c r) (hc : 1 ≤ c) (item : Outbox.Item) : Within g b c (r.submit item).2 := by
  unfold Robot.submit
  split
  · exact h
  · split
    · exact h
    · exact h.enqueue hc item

theorem Within.tellOne (h : Within g b c r) (hc : 1 ≤ c) (report : Report) (hearer : Nat × Listener) :
    Within g b c (r.tellOne report hearer) := by
  unfold Robot.tellOne
  dsimp only
  split
  · exact h.record _
  · split
    · exact ((h.record _).submit hc _).record _
    · exact h.record _

theorem Within.tell (h : Within g b c r) (hc : 1 ≤ c) (report : Report) : Within g b c (r.tell report) :=
  Within.foldl (fun _ hearer h => h.tellOne hc report hearer) _ _ (h.record _)

/-! ## The end of a connection -/

theorem Within.release (h : Within g b c r) : Within g b c r.release := by
  have beside := h.beside
  unfold Robot.release
  dsimp only
  split
  · refine ⟨by simp [link?, Session.link?], ?_, h.writers⟩
    exact Nat.le_trans (Nat.add_le_add_left (Nat.zero_le _) _) beside
  · next call hcall =>
    refine ⟨by simp [Robot.spawn, link?, Session.link?], ?_, ?_⟩
    · have : r.session.credit = 1 := by
        revert hcall
        cases r.session <;> simp +contextual [Session.waiter?, Session.credit]
      simp only [loadBeside, Robot.spawn, weightBeside, List.map_append, List.map_cons, List.map_nil,
        total_append, total_cons, total_nil, Session.credit, Task.weight, reduceCtorEq, if_false]
      simp only [loadBeside] at beside
      omega
    · simpa [Robot.spawn, List.count_append, List.count_cons] using h.writers

theorem Within.finishDisconnect (h : Within g b c r) (hc : 1 ≤ c) : Within g b c r.finishDisconnect := by
  unfold Robot.finishDisconnect
  split
  · exact (h.release.note _).tell hc _
  · exact h

theorem Within.connectionLost (h : Within g b c r) (hc : 1 ≤ c) (cause : TransportError) :
    Within g b c (r.connectionLost cause) := by
  unfold Robot.connectionLost
  split
  · exact h
  · exact (h.release.note _).tell hc _
  · exact (h.release.note _).tell hc _

/-- More becomes known of a connection that is being closed. -/
theorem Within.linger (h : Within g b c r) {link next : Link} {closure after : Closure}
    (hs : r.session = .closing link closure) (same : next.generation = link.generation)
    (waiter : after.waiter = closure.waiter) : Within g b c { r with session := .closing next after } := by
  refine ⟨fun l hl => ?_, ?_, h.writers⟩
  · cases hl
    exact same.trans (h.generation link (link?_of_closing hs))
  · simpa [hs, loadBeside, Session.credit, waiter] using h.beside

theorem Within.shutdownEcho (h : Within g b c r) (hc : 1 ≤ c) : Within g b c r.shutdownEcho := by
  unfold Robot.shutdownEcho
  split
  · next link closure hs =>
    split
    · exact h.finishDisconnect hc
    · exact h.linger hs rfl rfl
  · exact h

/-- Closing a connection on request costs the end of the call that waits for it; the alarm is paid for. -/
theorem Within.beginDisconnect (h : Within g b c r) (hc : 1 ≤ c) {link : Link} (hs : r.session = .up link)
    (waiter : Option Nat) :
    Within g (b + if waiter.isSome then 1 else 0) c (r.beginDisconnect link waiter) := by
  have hg : link.generation = g := h.generation link (link?_of_up hs)
  let closing : Robot :=
    { r with session :=
        .closing link.shut { waiter } }
  have start : Within g (b - 4 + if waiter.isSome then 1 else 0) c closing := by
    refine ⟨?_, ?_, h.writers⟩
    · intro l hl
      simp only [closing, link?, Session.link?, Option.some.injEq] at hl
      subst hl
      exact hg
    · have := h.beside
      simp only [hs, Session.credit] at this
      simp only [closing, loadBeside, Session.credit] at this ⊢
      omega
  have := (((start.force hc finalStop).force hc finalDark).note (.disconnecting link.generation)).spawn
    (by simp : Task.wake link.generation .grace ≠ .write g)
  have four : 4 ≤ b := by
    have := h.beside
    simp only [hs, Session.credit] at this
    omega
  have e : b - 4 + (if waiter.isSome then 1 else 0) + (Task.wake link.generation .grace).weight =
      b + if waiter.isSome then 1 else 0 := by
    simp only [Task.weight, Alarm.weight]
    omega
  rw [e] at this
  exact this

/-! ## Reading -/

theorem Within.progressMacro (h : Within g b c r) (hc : 1 ≤ c) (upload : Macro.Upload) (progress : Macro.Progress) :
    Within g b c (r.progressMacro upload progress) := by
  have start : Within g b c ({ r with upload }.noteFinish progress) := by
    unfold noteFinish
    split <;> exact h.of_eq rfl rfl
  have next := start.enqueueAll hc
    (progress.uploads.map (⟨·, true⟩) ++ (progress.finished.getD []).map (⟨·, false⟩))
  unfold Robot.progressMacro
  dsimp only
  split
  · exact next.tell hc _
  · exact next

theorem Within.closeBeforeSleep (h : Within g b c r) (hc : 1 ≤ c) (command : Command) :
    Within g b c (r.closeBeforeSleep command) := by
  unfold Robot.closeBeforeSleep
  split
  · next hs => exact h.beginDisconnect hc hs none
  · next hs => exact h.beginDisconnect hc hs none
  · exact h

theorem Within.confirm (h : Within g b c r) (hc : 1 ≤ c) (entry : InFlight.Entry) (body : Response.Body) :
    Within g b c (r.confirm entry body) := by
  have echo : Within g b c (if isEcho entry.command then r.shutdownEcho else r) := by
    split
    · exact h.shutdownEcho hc
    · exact h
  unfold Robot.confirm
  dsimp only
  apply Within.closeBeforeSleep _ hc
  unfold Robot.updateName
  split <;> exact echo.of_eq rfl rfl

theorem Within.handleAnswer (h : Within g b c r) (hc : 1 ≤ c) (entry : InFlight.Entry) (packet : Packet) :
    Within g b c (r.handleAnswer entry packet) := by
  unfold Robot.handleAnswer
  dsimp only
  generalize Response.decode entry.command.kind packet = response
  have start : Within g b c ((r.note (.responseMatched response entry.system)).noteDamage entry response.body) := by
    unfold noteDamage
    split <;> exact h.of_eq rfl rfl
  generalize (r.note (.responseMatched response entry.system)).noteDamage entry response.body = s at start
  have next : Within g b c (if response.status.isOk then s.confirm entry response.body
      else s.note (.commandRejected response.status entry.command)) := by
    split
    · exact start.confirm hc _ _
    · exact start.note _
  split
  · exact next
  · exact next.tell hc _

theorem Within.handleResponse (h : Within g b c r) (hc : 1 ≤ c) (n : Nat) (packet : Packet) :
    Within g b c (r.handleResponse n packet) := by
  unfold Robot.handleResponse
  split
  · exact (h.note _).tell hc _
  · next entry inFlight _ =>
    have start : Within g b c { r with inFlight } := h.of_eq rfl rfl
    exact (start.record _).handleAnswer hc entry packet

theorem Within.handleInformation (h : Within g b c r) (hc : 1 ≤ c) (packet : Packet) :
    Within g b c (r.handleInformation packet) := by
  unfold Robot.handleInformation
  split
  · exact h.note _
  · dsimp only
    split
    · exact (h.note _).progressMacro hc _ _
    · exact (h.note _).tell hc _

theorem Within.handleFrame (h : Within g b c r) (hc : 1 ≤ c) (n : Nat) (frame : Frame) :
    Within g b c (r.handleFrame n frame) := by
  unfold Robot.handleFrame
  split
  · exact h.note _
  · next packet =>
    have start := h.record (.received n packet)
    unfold Robot.handlePacket
    dsimp only
    split
    · exact start.note _
    · exact start.handleResponse hc _ _
    · exact start.handleInformation hc _

theorem Within.handleArrival (h : Within g b c r) (hc : 1 ≤ c) (link : Link) (arrival : Arrival) :
    Within g b c (r.handleArrival link arrival) := by
  have start := h.record (.took link.generation arrival)
  cases arrival with
  | bytes chunk =>
    have buffered : Within g b c ((r.record (.took link.generation (.bytes chunk))).mapLink fun l =>
        { l with buffer := (Frame.feed link.buffer chunk).2 }) := start.mapLink fun _ hl => hl
    exact handleFrames_induction buffered (fun _ _ frame h _ => h.handleFrame hc _ frame) _
  | ended => exact start.connectionLost hc _
  | failed fault => exact start.connectionLost hc _

theorem Within.runReader (h : Within g b c r) (hc : 1 ≤ c) (link : Link) : Within g b c (r.runReader link) :=
  runReader_induction (h.mapLink fun _ hl => hl) fun _ _ _ h _ => h.handleArrival hc _ _

/-! ## Alarms -/

theorem Within.rearm (h : Within g b c r) (deadline : Option Nat) (alarm : Alarm) :
    Within g b c (r.rearm deadline alarm) := by
  unfold Robot.rearm
  split
  · exact h
  · exact h.mapLink fun _ hl => hl

theorem Within.giveUpOverdue (h : Within g b c r) (hc : 1 ≤ c) (n timeout : Nat) :
    Within g b c (r.giveUpOverdue n timeout) :=
  Within.foldl (fun _ _ h => (h.note _).tell hc _) _ _ (h.of_eq rfl rfl)

theorem Within.runAlarm (h : Within g b c r) (hc : 1 ≤ c) {link : Link} (hl : r.link? = some link)
    (alarm : Alarm) : Within g b c (r.runAlarm link alarm) := by
  have hg := h.generation link hl
  cases alarm with
  | timer task =>
    have start : Within g b c (r.withLink { link with scheduler := (link.scheduler.look r.rung r.clock task).2.2 }) :=
      h.withLink hg
    exact (start.enqueueAll hc _).rearm _ _
  | sweep =>
    have looked (sweep : Option Timer) : Within g b c (r.withLink { link with sweep }) := h.withLink hg
    exact runSweep_cases h (fun sweep _ => (looked sweep).rearm _ _) fun _ _ sweep _ =>
      ((looked sweep).giveUpOverdue hc _ _).rearm _ _
  | grace =>
    exact graceOver_cases h (fun _ _ _ _ => (h.note _).finishDisconnect hc) fun _ _ hs _ => h.linger hs rfl rfl

/-! ## The beginning of a connection -/

theorem Within.plan (h : Within g b c r) {link : Link} (hl : r.link? = some link) (item : Outbox.Item)
    (timer : Timer) : Within g (b + 8) c (r.plan link item timer).2 := by
  unfold Robot.plan
  dsimp only
  have start : Within g b c (r.withLink { link with scheduler := (link.scheduler.add item timer).2 }) :=
    h.withLink (h.generation link hl)
  exact start.spawn (t := .wake link.generation (.timer (link.scheduler.add item timer).1)) (by simp)

theorem Within.mono (h : Within g b c r) {d : Nat} (hd : b ≤ d) : Within g d c r :=
  ⟨h.generation, Nat.le_trans h.beside hd, h.writers⟩

theorem Within.planKeepAlive (h : Within g b c r) : Within g (b + 8) c (r.onLink Robot.planKeepAlive) :=
  onLink_cases (h.mono (by omega)) fun _ hl => h.plan hl _ _

theorem Within.planSweep (h : Within g b c r) : Within g (b + 8) c (r.onLink Robot.planSweep) := by
  refine onLink_cases (h.mono (by omega)) fun link _ => ?_
  unfold Robot.planSweep
  split
  · exact h.spawn (t := .wake link.generation .sweep) (by simp)
  · exact h.mono (by omega)

theorem Within.launch (h : Within g b c r) : Within g (b + 24) (c + 1) (r.launch g) := by
  have start : Within g b (c + 1) (r.spawn (.write g)) := by
    refine ⟨h.generation, ?_, ?_⟩
    · simpa [loadBeside, Robot.spawn, weightBeside] using h.beside
    · have := h.writers
      simp only [Robot.spawn, List.count_append, List.count_cons_self, List.count_nil]
      omega
  exact ((start.spawn (t := .read g) (by simp)).enqueueAll (by omega) _).planKeepAlive.planSweep

theorem load_start (r : Robot) (channel : Nat) (sink : Sink) : (r.start channel sink).2.load ≤ r.load + 30 := by
  unfold start
  dsimp only
  split
  · exact Nat.le_add_right _ _
  · have fresh : Within (r.generations + 1) (r.loadBeside (r.generations + 1) + 4)
        (r.ready.count (.write (r.generations + 1)))
        (install { r with generations := r.generations + 1 }
          (newLink { r with generations := r.generations + 1 } (r.generations + 1) channel sink)) := by
      refine ⟨?_, Nat.le_refl _, Nat.le_refl _⟩
      intro link hl
      simp only [link?, install, Session.link?, Option.some.injEq] at hl
      subst hl
      rfl
    have := ((fresh.launch.note (.connected r.address.digits (r.generations + 1))).tell (by omega)
      (.event .connected)).load_le
    have := load_eq r (r.generations + 1)
    simp only [tellEvent] at *
    omega

/-! ## Turns -/

/-- What the state of a connection may still cause is the most that anything but a new connection adds. -/
theorem load_le_of_within {next : Robot} (h : ∀ g b c, 1 ≤ c → Within g b c r → Within g b c next) :
    next.load ≤ r.load + r.session.credit + 2 := by
  let g := (r.link?.map (·.generation)).getD 0
  have start : Within g (r.loadBeside g + r.session.credit) (r.ready.count (.write g) + 1) r :=
    ⟨fun link hl => by simp [g, hl], Nat.le_refl _, Nat.le_succ _⟩
  have := (h _ _ _ (by omega) start).load_le
  have := load_eq r g
  omega

theorem load_dial (r : Robot) (call : Nat) : (r.dial call).load ≤ r.load + 30 := by
  unfold dial
  split
  · let cause : TransportError := .cannotOpen r.address.digits .connectionRefused
    have := load_le_of_within (r := r) fun g b c hc (h : Within g b c r) =>
      ((h.note (.openFailed cause r.address.digits)).tell hc (.event .connectFailed)).record
        (.finished call (r.openFailure cause))
    have := r.session.credit_le
    exact Nat.le_trans ‹_› (by omega)
  · exact load_start { r with dialler := _ } _ _

theorem load_connectCall (r : Robot) (call : Nat) : (r.connectCall call).load ≤ r.load + 30 := by
  unfold connectCall
  split
  · exact Nat.le_add_right _ _
  · dsimp only
    split
    · exact Nat.le_add_right _ _
    · exact load_dial (noteDialled (r.note _)) call

theorem load_disconnectCall (r : Robot) (call : Nat) : (r.disconnectCall call).load ≤ r.load + 7 := by
  unfold disconnectCall
  split
  · next link hs =>
    have start : Within link.generation (r.loadBeside link.generation + r.session.credit)
        (r.ready.count (.write link.generation) + 1) r :=
      ⟨fun l hl => congrArg Link.generation (Option.some.inj (hl.symm.trans (link?_of_up hs))),
        Nat.le_refl _, Nat.le_succ _⟩
    have := (start.beginDisconnect (by omega) hs (some call)).load_le
    have := load_eq r link.generation
    simp only [hs, Session.credit, Option.isSome_some, if_true] at *
    omega
  · have := load_le_of_within (r := r) fun g b c hc (h : Within g b c r) =>
      ((h.note .nothingToDisconnect).tell hc (.event .noConnection)).record (.finished call (.answered false))
    have := r.session.credit_le
    exact Nat.le_trans ‹_› (by omega)

/-- Without a connection no listener's command makes anything ready. -/
theorem ready_tell_of_down (h : r.link? = none) (report : Report) : (r.tell report).ready = r.ready := by
  suffices ∀ (hearers : List (Nat × Listener)) (s : Robot), s.link? = none →
      (hearers.foldl (tellOne report) s).ready = s.ready from this _ (r.record _) h
  intro hearers
  induction hearers with
  | nil => exact fun _ _ => rfl
  | cons hearer hearers ih =>
    intro s hs
    have same : (s.tellOne report hearer).session = s.session ∧ (s.tellOne report hearer).ready = s.ready := by
      unfold tellOne
      dsimp only
      split
      · exact ⟨rfl, rfl⟩
      · split
        · have none : (s.record (.told hearer.1 report)).link? = none := hs
          simp only [send, submit, none]
          exact ⟨rfl, rfl⟩
        · exact ⟨rfl, rfl⟩
    rw [List.foldl_cons, ih _ (by rw [link?, same.1]; exact hs), same.2]

theorem load_release (r : Robot) : r.release.load ≤ r.load + 1 := by
  unfold release
  dsimp only
  split
  · exact Nat.le_add_right _ _
  · simp [load, spawn, Task.weight]

theorem load_connectionLost (r : Robot) (cause : TransportError) : (r.connectionLost cause).load ≤ r.load + 1 := by
  have down : r.release.link? = none := link?_of_down r.session_release
  have told (n : Note) (e : Event) : ((r.release.note n).tellEvent e).load = r.release.load := by
    unfold load tellEvent
    rw [ready_tell_of_down (r := r.release.note n) down]
    rfl
  unfold connectionLost
  split
  · exact Nat.le_add_right _ _
  · rw [told]
    exact r.load_release
  · rw [told]
    exact r.load_release

theorem ready_register (g : Nat) (items : List Outbox.Item) (r : Robot) :
    (items.foldl (register g) r).ready = r.ready := by
  induction items generalizing r with
  | nil => rfl
  | cons item items ih =>
    rw [List.foldl_cons, ih]
    rfl

theorem ready_takeEmission (link : Link) (es : List Outbox.Emission) (r : Robot) :
    (es.foldl (takeEmission link) r).ready = r.ready := by
  induction es generalizing r with
  | nil => rfl
  | cons e es ih =>
    rw [List.foldl_cons, ih]
    cases e with
    | registered batch => exact ready_register _ _ _
    | dropped | wrote => rfl

theorem load_runWriter (r : Robot) (link : Link) : (r.runWriter link).load ≤ r.load + 1 := by
  unfold runWriter
  dsimp only
  generalize link.writer.work false false = result
  have same : (result.2.foldl (takeEmission link) (r.withLink { link with writer := result.1 })).load =
      r.load := by
    unfold load
    rw [ready_takeEmission]
    rfl
  unfold checkWriter
  split
  · next fault _ =>
    have lost := load_connectionLost ((result.2.foldl (takeEmission link)
      (r.withLink { link with writer := result.1 })).record (.halted link.generation fault)) (.write fault)
    exact same ▸ lost
  · rw [same]
    exact Nat.le_succ _

theorem load_graceOver (r : Robot) : r.graceOver.load ≤ r.load + 3 := by
  cases hs : r.session with
  | closing link closure =>
    have hl : r.link? = some link := link?_of_closing hs
    have := load_le_of_within (r := r) fun g b c hc (h : Within g b c r) => h.runAlarm hc hl .grace
    have : r.session.credit ≤ 1 := by
      rw [hs]
      simp only [Session.credit]
      split <;> omega
    exact Nat.le_trans ‹_› (by omega)
  | down => simp [graceOver, hs]
  | up link => simp [graceOver, hs]

/-- A task makes less ready than it weighs itself. -/
theorem load_run_lt (r : Robot) (t : Task) : (r.run t).load < r.load + t.weight := by
  have credit := r.session.credit_le
  cases t with
  | connect call => exact Nat.lt_of_le_of_lt (r.load_connectCall call) (by simp [Task.weight])
  | dial call => exact Nat.lt_of_le_of_lt (r.load_dial call) (by simp [Task.weight])
  | disconnect call => exact Nat.lt_of_le_of_lt (r.load_disconnectCall call) (by simp [Task.weight])
  | disconnected call => exact Nat.lt_succ_self _
  | write n =>
    simp only [run, onCurrent, Task.weight]
    split
    · omega
    · exact Nat.lt_of_le_of_lt (r.load_runWriter _) (by omega)
  | read n =>
    simp only [run, onCurrent, Task.weight]
    split
    · omega
    · next link _ =>
      have := load_le_of_within (r := r) fun g b c hc (h : Within g b c r) => h.runReader hc link
      exact Nat.lt_of_le_of_lt this (by omega)
  | wake n alarm =>
    simp only [run, onCurrent, Task.weight]
    split
    · cases alarm <;> simp [Alarm.weight]
    · next link hl =>
      have hl : r.link? = some link := (Option.filter_eq_some_iff.1 hl).1
      have := load_le_of_within (r := r) fun g b c hc (h : Within g b c r) => h.runAlarm hc hl alarm
      cases alarm with
      | timer task => exact Nat.lt_of_le_of_lt this (by simp [Alarm.weight]; omega)
      | sweep => exact Nat.lt_of_le_of_lt this (by simp [Alarm.weight]; omega)
      | grace => exact Nat.lt_of_le_of_lt r.load_graceOver (by simp [Alarm.weight])

theorem ready_turns {n : Nat} (h : r.load ≤ n) : (turns n r).ready = [] := by
  induction n generalizing r with
  | zero =>
    cases hr : r.ready with
    | nil => exact hr
    | cons t ts =>
      simp only [load, hr, List.map_cons, total_cons] at h
      have := t.weight_pos
      omega
  | succ n ih =>
    unfold turns
    split
    · next hr => exact hr
    · next t ts hr =>
      apply ih
      have := load_run_lt { r with ready := ts } t
      simp only [load, hr, List.map_cons, total_cons] at h this ⊢
      omega

/-- Nothing is left to run when everything has settled. -/
theorem ready_settle (r : Robot) : r.settle.ready = [] :=
  ready_turns (Nat.le_refl _)

/-! ## Turns of a settling -/

variable {task : Task} {others : List Task}

theorem load_turn_lt (ready : r.ready = task :: others) : ({ r with ready := others }.run task).load < r.load := by
  have lighter := load_run_lt { r with ready := others } task
  have weight : r.load = task.weight + { r with ready := others }.load := by
    rw [load, ready, List.map_cons, total_cons]
    rfl
  omega

theorem turns_nil (ready : r.ready = []) (n : Nat) : turns n r = r := by
  cases n with
  | zero => rfl
  | succ n => rw [turns, ready]

/-- Tasks run until none is ready, however many more might. -/
theorem turns_of_load_le {n : Nat} (enough : r.load ≤ n) : turns n r = r.settle := by
  have more (n : Nat) (r : Robot) (enough : r.load ≤ n) : turns (n + 1) r = turns n r := by
    induction n generalizing r with
    | zero =>
      cases hr : r.ready with
      | nil => rw [turns_nil hr, turns_nil hr]
      | cons task others =>
        have := load_turn_lt hr
        omega
    | succ n ih =>
      cases hr : r.ready with
      | nil => rw [turns_nil hr, turns_nil hr]
      | cons task others =>
        have := load_turn_lt hr
        rw [turns, hr]
        conv => rhs; rw [turns, hr]
        exact ih _ (by omega)
  induction enough with
  | refl => rfl
  | step enough ih => rw [more _ r enough, ih]

theorem settle_nil (ready : r.ready = []) : r.settle = r :=
  turns_nil ready _

theorem settle_cons (ready : r.ready = task :: others) : r.settle = ({ r with ready := others }.run task).settle := by
  have lighter := load_turn_lt ready
  cases load : r.load with
  | zero => omega
  | succ n =>
    rw [settle, load, turns, ready]
    exact turns_of_load_le (by omega)

end Robot

end RobotDriver
