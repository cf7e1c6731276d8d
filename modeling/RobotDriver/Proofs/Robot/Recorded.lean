import RobotDriver.Proofs.Robot.Running
import RobotDriver.Robot.Move

/-!
# Every run is recorded

`Recorded` is what every driver that moves have led to keeps: its journal is a chronicle that owes nothing,
and a driver that has been given up is `Gone`. A driver that is gone does nothing more (`Gone.move`);
`recorded_after` puts the two together for every run.
-/

namespace RobotDriver.Robot

variable {r s : Robot}

/-- Nothing is left that could act: there is no connection, and no call is ready or held. -/
structure Gone (r : Robot) : Prop where
  dropped : r.dropped = true
  session : r.session = .down
  ready : ∀ task ∈ r.ready, isCall task = false
  held : r.dialler.held = []

/-- From `r` to `s` nothing has happened, and nothing can. -/
structure Still (r s : Robot) : Prop where
  gone : Gone s
  outline : s.outline [] = r.outline []
  journal : s.journal = r.journal

theorem Gone.still (h : Gone r) : Still r r :=
  ⟨h, rfl, rfl⟩

theorem Still.trans {t : Robot} (h : Still r s) (k : Still s t) : Still r t :=
  ⟨k.gone, k.outline.trans h.outline, k.journal.trans h.journal⟩

theorem Gone.onCurrent (h : Gone r) (n : Nat) (f : Robot → Link → Robot) : r.onCurrent n f = r := by
  simp [Robot.onCurrent, current?, link?, h.session, Session.link?]

theorem Gone.onLink (h : Gone r) (f : Robot → Link → Robot) : r.onLink f = r := by
  simp [Robot.onLink, link?, h.session, Session.link?]

/-! ## Tasks -/

theorem Gone.withReady (h : Gone r) {tasks : List Task} (ht : ∀ task ∈ tasks, isCall task = false) :
    Gone { r with ready := tasks } :=
  ⟨h.dropped, h.session, ht, h.held⟩

theorem Gone.run (h : Gone r) {task : Task} (ht : isCall task = false) : r.run task = r := by
  cases task with
  | connect | dial | disconnect | disconnected => cases ht
  | write n => exact h.onCurrent n _
  | read n => exact h.onCurrent n _
  | wake n alarm => exact h.onCurrent n fun r link => r.runAlarm link alarm

theorem Gone.turns (n : Nat) (h : Gone r) : Still r (turns n r) := by
  induction n generalizing r with
  | zero => exact h.still
  | succ n ih =>
    unfold Robot.turns
    split
    · exact h.still
    · next task others hr =>
      have ready := h.ready
      rw [hr] at ready
      have rest : Gone { r with ready := others } := h.withReady fun t ht => ready t (by simp [ht])
      rw [rest.run (ready task (by simp))]
      have next := ih rest
      exact ⟨next.gone, next.outline, next.journal⟩

theorem Gone.settle (h : Gone r) : Still r r.settle :=
  h.turns _

theorem Gone.ring (h : Gone r) : Still r r.ring := by
  have later : Gone { r with rung := r.clock } := ⟨h.dropped, h.session, h.ready, h.held⟩
  unfold Robot.ring
  rw [later.onLink]
  exact ⟨later, rfl, rfl⟩

theorem Gone.advance (h : Gone r) (ms : Nat) : Still r (r.advance ms) := by
  have later : Gone { r with clock := r.clock + ms } := ⟨h.dropped, h.session, h.ready, h.held⟩
  have settled := later.settle
  have rung := settled.gone.ring
  exact ⟨rung.gone, rung.outline.trans settled.outline, rung.journal.trans settled.journal⟩

theorem Gone.abandonCalls (h : Gone r) : Still r r.abandonCalls := by
  have down : r.abandonCalls.session = .down := by simp [Robot.abandonCalls, h.session, forgetWaiter]
  refine ⟨⟨h.dropped, down, ?_, rfl⟩, ?_, rfl⟩
  · intro task ht
    simpa using (List.mem_filter.1 ht).2
  · simp only [outline, down, h.session]
    rfl

theorem gone_quit (r : Robot) : Gone r.quit := by
  rw [quit_eq]
  refine ⟨rfl, rfl, fun task ht => ?_, rfl⟩
  simpa using (List.mem_filter.1 ht).2

theorem Gone.quit (h : Gone r) : Still r r.quit := by
  refine ⟨gone_quit r, ?_, ?_⟩
  · rw [quit_eq]
    simp [outline, h.dropped, h.session]
  · rw [quit_eq, link?_of_down h.session]
    exact List.append_nil _

/-! ## Steps -/

theorem Gone.askDropped (h : Gone r) (request : Request) : Still r (r.askDropped request).2 := by
  unfold Robot.askDropped
  split
  · exact ⟨⟨h.dropped, h.session, h.ready, h.held⟩, rfl, rfl⟩
  · exact h.still

theorem Gone.onChannel (h : Gone r) (channel : Option Nat) (f : Robot → Link → Robot) : r.onChannel channel f = r := by
  simp [Robot.onChannel, link?, h.session, Session.link?]

theorem Gone.withDialler (h : Gone r) {dialler : Dialler} (held : dialler.held = []) : Still r { r with dialler } :=
  ⟨⟨h.dropped, h.session, h.ready, held⟩, rfl, rfl⟩

mutual

theorem Gone.perform {r : Robot} (h : Gone r) (step : Step) : Still r (r.perform step).2 := by
  cases step with
  | ask request =>
    simp only [Robot.perform, h.dropped, if_true]
    exact h.askDropped request
  | cancelTask task =>
    simp only [Robot.perform, cancelPlan]
    split
    · exact h.still
    · rw [h.onCurrent]
      exact h.still
  | tasks => exact h.still
  | arrive channel arrivals =>
    simp only [Robot.perform, h.onChannel]
    exact h.still
  | changeSink sink =>
    simp only [Robot.perform, h.onChannel]
    exact h.still
  | changeNextSink sink => exact h.withDialler h.held
  | refuse on => exact h.withDialler h.held
  | hold => exact h.withDialler h.held
  | release =>
    simp only [Robot.perform, releaseHeld, h.held, List.map_nil, List.append_nil]
    exact h.withDialler rfl
  | dialled => exact h.still
  | advance ms => exact h.advance ms
  | settle => exact h.still
  | group steps =>
    simp only [Robot.perform]
    exact h.performAll steps
  | drop =>
    simp only [Robot.perform, Robot.drop, h.dropped, if_true]
    exact h.still

theorem Gone.performAll {r : Robot} (h : Gone r) (steps : List Step) : Still r (r.performAll steps).2 := by
  cases steps with
  | nil => exact h.still
  | cons step steps =>
    have first := h.perform step
    simp only [Robot.performAll]
    exact first.trans (first.gone.performAll steps)

end

/-- A driver that is gone does nothing more, whatever move is made. -/
theorem Gone.move (h : Gone r) (m : Move) : Still r (r.move m) := by
  cases m with
  | perform step => exact h.perform step
  | run index =>
    simp only [Robot.move]
    split
    · exact h.still
    · next task ht =>
      have rest : Gone { r with ready := r.ready.eraseIdx index } :=
        h.withReady fun t ht => h.ready t (List.mem_of_mem_eraseIdx ht)
      rw [rest.run (h.ready task (List.mem_of_getElem? ht))]
      exact ⟨rest, rfl, rfl⟩
  | tick ms => exact ⟨⟨h.dropped, h.session, h.ready, h.held⟩, rfl, rfl⟩
  | ring => exact h.ring
  | abandon => exact h.abandonCalls
  | quit => exact h.quit

theorem Gone.after (moves : List Move) (h : Gone r) : Still r (r.after moves) := by
  induction moves generalizing r with
  | nil => exact h.still
  | cons m moves ih =>
    have first := h.move m
    exact first.trans (ih first.gone)

/-! ## Steps of a driver that is there -/

theorem Chronicled.withReady {owed : List Due} (h : Chronicled owed r) (tasks : List Task) :
    Chronicled owed { r with ready := tasks } :=
  h.quiet (.of_eq rfl rfl)

theorem Chronicled.turns (n : Nat) (h : Chronicled [] r) : Chronicled [] (turns n r) := by
  induction n generalizing r with
  | zero => exact h
  | succ n ih =>
    unfold Robot.turns
    split
    · exact h
    · next task others _ => exact ih ((h.withReady others).run task)

theorem Chronicled.settle (h : Chronicled [] r) : Chronicled [] r.settle :=
  h.turns _

theorem Chronicled.ring (h : Chronicled [] r) : Chronicled [] r.ring :=
  h.quiet (lenient_quiet.ring r)

theorem Chronicled.advance (h : Chronicled [] r) (ms : Nat) : Chronicled [] (r.advance ms) := by
  have later : Chronicled [] { r with clock := r.clock + ms } := h.quiet (.of_eq rfl rfl)
  exact later.settle.ring

theorem Chronicled.playMacro (h : Chronicled [] r) (m : Macro) : Chronicled [] (r.playMacro m).2 := by
  unfold Robot.playMacro
  split
  · exact h.note rfl
  · split
    · unfold storeMacro
      split
      · exact h
      · exact h.quiet ((sends_enqueue _ _).trans (sends_enqueue _ _)).quiet
    · split
      · unfold streamMacro
        split
        · exact h
        · dsimp only
          split
          · exact ((h.note rfl).note rfl).progressMacro _ _
          · exact (h.note rfl).progressMacro _ _
      · exact h.note rfl

theorem Chronicled.stopMacro (h : Chronicled [] r) : Chronicled [] r.stopMacro := by
  have given : Chronicled [] { r.noteAbort with upload := r.upload.abort.1 } :=
    (h.note rfl).quiet (.of_eq rfl rfl)
  exact given.quiet (sends_enqueueAll _ _).quiet

theorem Chronicled.ask (h : Chronicled [] r) (request : Request) : Chronicled [] (r.ask request).2 := by
  cases request with
  | connect | disconnect | afterMacro | cancelAfterMacro | addListener | registerAgain | removeListener =>
    exact h.quiet (.of_eq rfl rfl)
  | playMacro m =>
    rw [ask_playMacro]
    exact h.playMacro m
  | stopMacro => exact h.stopMacro
  | _ => exact h.quiet (lenient_quiet.ask r rfl)

/-! ## Runs -/

/-- The journal tells all that has happened, no report is owed, and a driver that is given up is gone. -/
structure Recorded (r : Robot) : Prop where
  chronicle : Chronicle r.journal (r.outline [])
  gone : r.dropped = true → Gone r

theorem Chronicled.recorded (h : Chronicled [] r) : Recorded r :=
  ⟨h.chronicle, fun dropped => absurd dropped (by simp [h.here])⟩

theorem Recorded.still (h : Recorded r) (k : Still r s) : Recorded s := by
  refine ⟨?_, fun _ => k.gone⟩
  rw [k.journal, k.outline]
  exact h.chronicle

/-- What keeps the chronicle of a driver that is there and does nothing to one that is gone keeps every record. -/
theorem Recorded.step (h : Recorded r) (here : Chronicled [] r → Recorded s) (gone : Gone r → Still r s) :
    Recorded s := by
  cases hd : r.dropped with
  | false => exact here ⟨hd, h.chronicle⟩
  | true => exact h.still (gone (h.gone hd))

theorem Recorded.quiet (h : Recorded r) (q : Quiet r s) (gone : Gone r → Still r s) : Recorded s :=
  h.step (fun c => (c.quiet q).recorded) gone

/-- Of a driver that goes away, only its log tells. -/
theorem journal_quit (r : Robot) : r.quit.journal = r.journal ++ r.session.phase.farewell := by
  rw [quit_eq, Phase.farewell, Session.phase_generation?]
  show r.journal ++ r.link?.toList.map _ = r.journal ++ (r.link?.map _).toList.map _
  cases r.link? <;> rfl

theorem Chronicled.quit (h : Chronicled [] r) : Recorded r.quit := by
  refine ⟨?_, fun _ => gone_quit r⟩
  have outline : r.quit.outline [] = { r.outline [] with phase := .idle, dropped := true } := by
    rw [quit_eq]
    rfl
  rw [outline, journal_quit]
  exact h.chronicle.next h.here .dropped

mutual

theorem Recorded.perform {r : Robot} (h : Recorded r) (step : Step) : Recorded (r.perform step).2 := by
  cases step with
  | group steps =>
    simp only [Robot.perform]
    exact h.performAll steps
  | drop =>
    refine h.step (fun c => ?_) fun gone => gone.perform .drop
    simp only [Robot.perform, Robot.drop, c.here]
    exact ((c.quiet (quiet_abandonCalls r)).settle).quit
  | ask request =>
    refine h.step (fun c => ?_) fun gone => gone.perform (.ask request)
    simp only [Robot.perform, c.here]
    exact (c.ask request).recorded
  | cancelTask task => exact h.quiet (lenient_quiet.cancelPlan r task) fun gone => gone.perform (.cancelTask task)
  | arrive channel arrivals =>
    have arrived := lenient_quiet.onChannel r channel (f := fun r link => r.arrive arrivals link) fun _ hl =>
      lenient_quiet.arrive hl arrivals
    exact h.quiet arrived fun gone => gone.perform (.arrive channel arrivals)
  | changeSink sink =>
    have changed := lenient_quiet.onChannel r none (f := fun r link => r.changeSink sink link) fun _ hl =>
      lenient_quiet.changeSink (quiet_withLink _ hl rfl)
    exact h.quiet changed fun gone => gone.perform (.changeSink sink)
  | changeNextSink | refuse | hold | release =>
    exact h.quiet (.of_eq rfl rfl) fun gone => gone.perform _
  | advance ms => exact h.step (fun c => (c.advance ms).recorded) fun gone => gone.perform (.advance ms)
  | tasks | dialled | settle => exact h

theorem Recorded.performAll {r : Robot} (h : Recorded r) (steps : List Step) : Recorded (r.performAll steps).2 := by
  cases steps with
  | nil => exact h
  | cons step steps =>
    simp only [Robot.performAll]
    exact (h.perform step).performAll steps

end

theorem Recorded.move (h : Recorded r) (m : Move) : Recorded (r.move m) := by
  cases m with
  | perform step => exact h.perform step
  | run index =>
    refine h.step (fun c => ?_) fun gone => gone.move (.run index)
    simp only [Robot.move]
    split
    · exact h
    · exact ((c.withReady _).run _).recorded
  | tick ms => exact h.quiet (.of_eq rfl rfl) fun gone => gone.move (.tick ms)
  | ring => exact h.step (fun c => c.ring.recorded) fun gone => gone.move .ring
  | abandon => exact h.quiet (quiet_abandonCalls r) fun gone => gone.move .abandon
  | quit => exact h.step (fun c => c.quit) fun gone => gone.move .quit

theorem Recorded.after (moves : List Move) (h : Recorded r) : Recorded (r.after moves) := by
  induction moves generalizing r with
  | nil => exact h
  | cons m moves ih => exact ih (h.move m)

theorem recorded_make {address : String} {settings : Settings} (made : make address settings = .ok r) :
    Recorded r := by
  obtain ⟨address, rfl⟩ := eq_of_make made
  exact ⟨.start, fun dropped => by cases dropped⟩

/-- Whatever moves are made, in whatever order, from a new driver on: the journal is a chronicle. -/
theorem recorded_after {address : String} {settings : Settings} (made : make address settings = .ok r)
    (moves : List Move) : Recorded (r.after moves) :=
  (recorded_make made).after moves

end RobotDriver.Robot
