import RobotDriver.Proofs.Robot.Renewing

/-!
# Steps and moves with a past

Requests are answered alike with a past and without, but for the name that the robot has told in the past, and all other
steps lead to drivers that are the same but for the past. `History.counterparts` are the moves that a driver without the
past makes where one with it makes those of a run: tasks of connections that are past do not run there, as they do
nothing.
-/

namespace RobotDriver

namespace History

mutual

/-- The answer to a step with this past, given the answer without: they differ in the name alone. -/
def answer (past : History) : Step → Answer → Answer
  | .ask .name, .text name => .text (name.or past.name)
  | .group steps, .group answers => .group (past.answers steps answers)
  | _, answer => answer

def answers (past : History) : List Step → List Answer → List Answer
  | step :: steps, answer :: answers => past.answer step answer :: past.answers steps answers
  | _, answers => answers

end

theorem answer_ask (past : History) {request : Request} (other : request ≠ .name) (answer : Answer) :
    past.answer (.ask request) answer = answer := by
  cases request with
  | name => exact absurd rfl other
  | _ => rfl

/-- The answer to the step is the same but for the name, and the drivers are but for the past. -/
def Answers (past : History) (step : Step) (x y : Answer × Robot) : Prop :=
  x.1 = past.answer step y.1 ∧ past.Renews x.2 y.2

namespace Renews

variable {past : History} {s t : Robot} {link : Link}

/-! ## Commands -/

theorem sendEach (commands : List Command) (h : past.Renews s t) :
    past.Agrees (s.sendEach commands) (t.sendEach commands) := by
  induction commands generalizing s t with
  | nil => exact ⟨rfl, h⟩
  | cons command commands ih =>
    obtain ⟨same, sent⟩ := h.send command
    unfold Robot.sendEach
    cases hs : s.send command with | mk b s' =>
    cases ht : t.send command with | mk c t' =>
    rw [hs, ht] at same sent
    obtain rfl : b = c := same
    cases b with
    | true => exact ih sent
    | false => exact ⟨rfl, sent⟩

theorem boost (h : past.Renews s t) (duration : Nat) : past.Agrees (s.boost duration) (t.boost duration) := by
  obtain ⟨-, -, -, shadow, -⟩ := h.kept
  unfold Robot.boost
  dsimp only
  rw [shadow]
  obtain ⟨same, sent⟩ := h.submit ⟨.roll t.shadow.heading .one false, true⟩
  cases hs : s.submit ⟨.roll t.shadow.heading .one false, true⟩ with | mk b s' =>
  cases ht : t.submit ⟨.roll t.shadow.heading .one false, true⟩ with | mk c t' =>
  rw [hs, ht] at same sent
  obtain rfl : b = c := same
  cases b with
  | false => exact ⟨rfl, sent⟩
  | true =>
    have planned : past.Renews
        (s'.onLink fun r link => (r.plan link ⟨t.shadow.motion, true⟩ (.once r.clock duration)).2)
        (t'.onLink fun r link => (r.plan link ⟨t.shadow.motion, true⟩ (.once r.clock duration)).2) := by
      refine onLink sent fun link hl => ?_
      have now : s'.clock = t'.clock + past.clock := sent.clock.1
      rw [now, timer_once]
      exact (sent.plan hl _ _).2
    exact ⟨rfl, planned⟩

/-! ## Scheduled commands -/

theorem plans (h : past.Renews s t) :
    s.schedule.map (fun plan => (plan.1 - past.generations, plan.2)) = t.schedule := by
  cases h with | intro _ plans => exact plans

theorem reschedule (h : past.Renews s t) {plan : Nat × Nat} (known : 0 < plan.1 ∧ plan.1 ≤ t.generations) :
    past.Renews { s with schedule := s.schedule ++ [(plan.1 + past.generations, plan.2)] }
      { t with schedule := t.schedule ++ [plan] } := by
  cases h with | @intro t ready schedule fresh plans numbered =>
  refine @intro past { t with schedule := t.schedule ++ [plan] } ready _ fresh ?_
    ⟨numbered.link, numbered.ready, fun other there => ?_⟩
  · rw [List.map_append]
    exact congrArg₂ (· ++ ·) plans (congrArg (fun g => [(g, plan.2)]) (Nat.add_sub_cancel _ _))
  · rcases List.mem_append.1 there with there | there
    · exact numbered.schedule other there
    · rw [List.mem_singleton.1 there]
      exact known.2

theorem schedulePlan (h : past.Renews s t) (command : Command) (timer : Timer) :
    past.Agrees (s.schedulePlan command (past.timer timer)) (t.schedulePlan command timer) := by
  unfold Robot.schedulePlan
  rw [h.link?]
  cases hl : t.link? with
  | none => exact ⟨rfl, h⟩
  | some link =>
    obtain ⟨same, planned⟩ := h.plan hl ⟨command, false⟩ timer
    have number : (s.plan (past.link link) ⟨command, false⟩ (past.timer timer)).2.schedule.length =
        (t.plan link ⟨command, false⟩ timer).2.schedule.length := by
      rw [← planned.plans, List.length_map]
    dsimp only [Option.map_some]
    rw [number, same]
    have known : 0 < (link.generation, (t.plan link ⟨command, false⟩ timer).1).1 ∧ _ := h.numbered.link link hl
    exact ⟨rfl, planned.reschedule known⟩

/-- A scheduled command of a connection that is past belongs to none without the past. -/
theorem current?_sub (h : past.Renews s t) (g : Nat) :
    s.current? g = (t.current? (g - past.generations)).map past.link := by
  by_cases old : g ≤ past.generations
  · have none : t.current? (g - past.generations) = none := by
      rw [Nat.sub_eq_zero_of_le old]
      cases current : t.current? 0 with
      | none => rfl
      | some link =>
        obtain ⟨hl, own⟩ := Robot.current?_eq_some.1 current
        have live := (h.numbered.link link hl).1
        omega
    rw [none, h.current?_of_past old]
    rfl
  · have number : g - past.generations + past.generations = g := by omega
    rw [← h.current?, number]

theorem cancelPlan (h : past.Renews s t) (number : Nat) : past.Renews (s.cancelPlan number) (t.cancelPlan number) := by
  unfold Robot.cancelPlan
  rw [← h.plans, List.getElem?_map]
  cases s.schedule[number]? with
  | none => exact h
  | some plan =>
    obtain ⟨g, task⟩ := plan
    dsimp only [Option.map_some]
    unfold Robot.onCurrent
    rw [h.current?_sub]
    cases current : t.current? (g - past.generations) with
    | none => exact h
    | some link =>
      have hl := (Robot.current?_eq_some.1 current).1
      have cancelled : past.Renews
          (s.withLink (past.link { link with scheduler := link.scheduler.cancelTask task }))
          (t.withLink { link with scheduler := link.scheduler.cancelTask task }) := h.withLink hl rfl
      have same : past.link { link with scheduler := link.scheduler.cancelTask task } =
          { past.link link with scheduler := (past.link link).scheduler.cancelTask task } :=
        congrArg (fun scheduler => { past.link link with scheduler }) (past.cancelTask link.scheduler task).symm
      rw [same] at cancelled
      exact cancelled

theorem isPlanCancelled (h : past.Renews s t) (plan : Nat × Nat) :
    s.isPlanCancelled plan = t.isPlanCancelled (plan.1 - past.generations, plan.2) := by
  unfold Robot.isPlanCancelled
  rw [h.current?_sub]
  cases t.current? (plan.1 - past.generations) with
  | none => rfl
  | some link => exact past.isCancelled link.scheduler plan.2

/-! ## Macros -/

theorem storeMacro (h : past.Renews s t) (bytes : Bytes) : past.Agrees (s.storeMacro bytes) (t.storeMacro bytes) := by
  unfold Robot.storeMacro
  split
  · exact ⟨rfl, h⟩
  · obtain ⟨-, saved⟩ := h.enqueue ⟨.saveTemporaryMacro Command.motorControlFlag bytes, true⟩
    obtain ⟨same, sent⟩ := saved.enqueue ⟨.runMacro Command.temporaryMacroId, true⟩
    exact ⟨congrArg Except.ok same, sent⟩

theorem upload (h : past.Renews s t) : s.upload = t.upload :=
  h.kept.2.2.1

theorem noteAbort (h : past.Renews s t) : past.Renews s.noteAbort t.noteAbort := by
  unfold Robot.noteAbort
  rw [h.upload]
  exact h.note (.macroAborted _ _)

theorem streamMacro (h : past.Renews s t) (steps : List Macro.Step) :
    past.Agrees (s.streamMacro steps) (t.streamMacro steps) := by
  unfold Robot.streamMacro
  rw [h.upload]
  split
  · exact ⟨rfl, h⟩
  · next upload progress _ =>
    have replaced : past.Renews (if t.upload.isBusy then s.noteAbort else s)
        (if t.upload.isBusy then t.noteAbort else t) := by
      split
      · exact h.noteAbort
      · exact h
    have submitted := replaced.note (.macroSubmitted steps.length)
    exact ⟨rfl, submitted.progressMacro upload progress⟩

theorem playMacro (h : past.Renews s t) (m : Macro) : past.Agrees (s.playMacro m) (t.playMacro m) := by
  obtain ⟨-, settings, -⟩ := h.kept
  unfold Robot.playMacro
  rw [show s.link?.isNone = t.link?.isNone by rw [h.link?, Option.isNone_map], settings]
  split
  · have noted := h.note .macroWithoutConnection
    exact ⟨rfl, noted⟩
  · split
    · exact h.storeMacro _
    · split
      · exact h.streamMacro _
      · have noted := h.note .macroStreamingDisabled
        exact ⟨rfl, noted⟩

theorem stopMacro (h : past.Renews s t) : past.Renews s.stopMacro t.stopMacro := by
  unfold Robot.stopMacro
  rw [h.upload]
  exact (h.noteAbort.takeOver _).enqueueAll _

/-! ## Listeners -/

theorem withAudience (h : past.Renews s t) {audience audience' : Audience} (same : audience' = audience) :
    past.Renews { s with audience := audience' } { t with audience } := by
  rw [same]
  exact h.of_kept (fun _ _ same => by rw [same]; rfl) rfl rfl rfl rfl

/-! ## Requests -/

theorem startCall (h : past.Renews s t) {task : Nat → Task} (free : ∀ call, (task call).generation? = none)
    (same : ∀ call, past.task (task call) = task call) : past.Agrees (s.startCall task) (t.startCall task) := by
  have counted : past.Renews { s with calls := t.calls + 1 } { t with calls := t.calls + 1 } :=
    h.of_kept (fun _ _ same => by rw [same]; rfl) rfl rfl rfl rfl
  have spawned := counted.spawn (task t.calls) fun g own => by
    rw [free] at own
    cases own
  obtain ⟨-, -, -, -, -, -, calls, -⟩ := h.kept
  rw [same] at spawned
  unfold Robot.startCall
  rw [calls]
  exact ⟨rfl, spawned⟩

theorem flagged {x y : Bool × Robot} (h : past.Agrees x y) : past.Agrees (Robot.flagged x) (Robot.flagged y) :=
  ⟨congrArg Answer.flag h.1, h.2⟩

theorem journal (h : past.Renews s t) : s.journal = past.journal ++ t.journal.map past.deed := by
  cases h
  rfl

theorem name (h : past.Renews s t) : s.name = t.name.or past.name := by
  cases h
  rfl

theorem stateName (h : past.Renews s t) : s.session.stateName = t.session.stateName := by
  rw [h.session]
  cases t.session <;> rfl

/-- Requests but for the name are answered alike. -/
theorem ask (h : past.Renews s t) {request : Request} (other : request ≠ .name) :
    past.Agrees (s.ask request) (t.ask request) := by
  obtain ⟨address, settings, upload, shadow, audience, -⟩ := h.kept
  have number {x y : Option Nat × Robot} (h : past.Agrees x y) :
      past.Agrees (Answer.number x.1, x.2) (Answer.number y.1, y.2) :=
    ⟨congrArg Answer.number h.1, h.2⟩
  have told {a b : Answer} (same : a = b) : past.Agrees (a, s) (b, t) := ⟨same, h⟩
  cases request with
  | connect | disconnect => exact h.startCall (fun _ => rfl) fun _ => rfl
  | send | roll | rotate | setRgbLed | setFrontLed | setRotationRate | stabilization | setName | sleep
  | jumpToBootloader => exact flagged (h.send _)
  | calibrate => exact flagged (h.sendEach _)
  | stopMotors =>
    unfold Robot.ask
    dsimp only
    rw [shadow]
    exact flagged (h.send _)
  | resetHeading =>
    unfold Robot.ask
    dsimp only
    rw [shadow]
    exact flagged (sendEach _ h)
  | refreshName => exact flagged (h.submit _)
  | boost duration => exact flagged (h.boost duration)
  | after command delay =>
    have planned := h.schedulePlan command (.once t.clock delay)
    rw [← timer_once, ← h.clock.1] at planned
    exact number planned
  | periodic command initial period =>
    have planned := h.schedulePlan command (.repeating t.clock initial period)
    rw [← timer_repeating, ← h.clock.1] at planned
    exact number planned
  | playMacro m =>
    obtain ⟨same, played⟩ := h.playMacro m
    unfold Robot.ask
    dsimp only
    cases hs : s.playMacro m with | mk x s' =>
    cases ht : t.playMacro m with | mk y t' =>
    rw [hs, ht] at same played
    obtain rfl : x = y := same
    cases x <;> exact ⟨rfl, played⟩
  | stopMacro => exact ⟨rfl, h.stopMacro⟩
  | afterMacro command =>
    have later := h.takeOver (t.upload.sendAfter command)
    have same : s.sendAfterMacro command = { s with upload := t.upload.sendAfter command } := by
      rw [Robot.sendAfterMacro, upload]
    rw [← same] at later
    exact ⟨rfl, later⟩
  | cancelAfterMacro =>
    have later := h.takeOver t.upload.clearAfter
    have same : s.clearAfterMacro = { s with upload := t.upload.clearAfter } := by
      rw [Robot.clearAfterMacro, upload]
    rw [← same] at later
    exact ⟨rfl, later⟩
  | shadow => exact told (by rw [shadow])
  | name => exact absurd rfl other
  | address => exact told (by rw [address])
  | state => exact told (by rw [h.stateName])
  | settings => exact told (by rw [settings])
  | describe =>
    have same : s.describe = t.describe := by
      unfold Robot.describe
      rw [address, h.stateName]
    exact told (by rw [same])
  | addListener listener =>
    have same : (s.addListener listener).2.audience = (t.addListener listener).2.audience := by
      unfold Robot.addListener
      rw [audience]
    refine ⟨?_, h.withAudience same⟩
    show Answer.number (some s.audience.listeners.length) = .number (some t.audience.listeners.length)
    rw [audience]
  | registerAgain number => exact ⟨rfl, h.withAudience (by rw [audience])⟩
  | removeListener number =>
    refine flagged ⟨?_, h.withAudience (by rw [audience])⟩
    show s.audience.registered.contains number = t.audience.registered.contains number
    rw [audience]

theorem askDropped (h : past.Renews s t) (request : Request) :
    past.Agrees (s.askDropped request) (t.askDropped request) := by
  have audience : s.audience = t.audience := h.kept.2.2.2.2.1
  cases request with
  | addListener listener =>
    refine ⟨?_, h.withAudience (by rw [audience])⟩
    show Answer.number (some s.audience.listeners.length) = .number (some t.audience.listeners.length)
    rw [audience]
  | _ => exact ⟨rfl, h⟩

/-! ## Channels -/

theorem onChannel (h : past.Renews s t) (channel : Option Nat) {f : Robot → Link → Robot}
    (step : ∀ link, t.link? = some link → past.Renews (f s (past.link link)) (f t link)) :
    past.Renews (s.onChannel channel f) (t.onChannel channel f) := by
  obtain ⟨-, -, -, -, -, dialler, -⟩ := h.kept
  unfold Robot.onChannel
  rw [h.link?, dialler]
  cases hl : t.link? with
  | none => exact h
  | some link =>
    show past.Renews (if channel.getD (t.dialler.opened - 1) = link.channel then f s (past.link link) else s)
      (if channel.getD (t.dialler.opened - 1) = link.channel then f t link else t)
    split
    · exact step link hl
    · exact h

theorem arrive (h : past.Renews s t) (hl : t.link? = some link) (arrivals : List Arrival) :
    past.Renews (s.arrive arrivals (past.link link)) (t.arrive arrivals link) := by
  have arrived := h.withLink hl (rfl : (link.arrive arrivals).generation = link.generation)
  exact arrived.rouse (.read link.generation) (h.known hl rfl)

theorem changeSink (h : past.Renews s t) (hl : t.link? = some link) (sink : Sink) :
    past.Renews (s.changeSink sink (past.link link)) (t.changeSink sink link) := by
  have changed : past.Renews (s.withLink (past.link { link with writer := { link.writer with sink } }))
      (t.withLink { link with writer := { link.writer with sink } }) := h.withLink hl rfl
  unfold Robot.changeSink
  show past.Renews (if link.isWriterBlocked then _ else _) (if link.isWriterBlocked then _ else _)
  split
  · exact changed.rouse (.write link.generation) (h.known hl rfl)
  · exact changed

theorem releaseHeld (h : past.Renews s t) : past.Renews s.releaseHeld t.releaseHeld := by
  obtain ⟨-, -, -, -, -, dialler, -⟩ := h.kept
  have gone := h.spawnAll (t.dialler.held.map .dial) fun task there g own => by
    obtain ⟨call, -, rfl⟩ := List.mem_map.1 there
    cases own
  rw [List.map_map] at gone
  unfold Robot.releaseHeld
  rw [dialler]
  exact gone.withDialler rfl

/-! ## The end of the driver -/

theorem abandonCalls (h : past.Renews s t) : past.Renews s.abandonCalls t.abandonCalls := by
  have session : Robot.forgetWaiter (past.session t.session) = past.session (Robot.forgetWaiter t.session) := by
    cases t.session <;> rfl
  cases h with | @intro t ready schedule fresh plans numbered =>
  have same : (past.robot t ready schedule).abandonCalls =
      past.robot t.abandonCalls (ready.filter fun task => !Robot.isCall task) schedule := by
    simp only [Robot.abandonCalls, robot, session]
  have kept (task : Task) : (if (!Robot.isCall task) = true then past.fresh? task else none) =
      (past.fresh? task).filter fun task => !Robot.isCall task := by
    cases task with
    | write g | read g | wake g alarm =>
      simp only [fresh?, Robot.isCall]
      cases past.since? g <;> rfl
    | _ => rfl
  rw [same]
  refine .intro ?_ plans ⟨fun link hl => ?_, fun task there => ?_, numbered.schedule⟩
  · rw [List.filterMap_filter, List.filterMap_congr fun task _ => kept task, ← List.filter_filterMap, fresh]
    rfl
  · refine numbered.link link ?_
    rw [← hl]
    show t.session.link? = (Robot.forgetWaiter t.session).link?
    cases t.session <;> rfl
  · exact numbered.ready task (List.mem_of_mem_filter there)

theorem noteDrop (h : past.Renews s t) : past.Renews s.noteDrop t.noteDrop :=
  h.onLink fun link _ => h.note (.handleDropped link.generation)

theorem quit (h : past.Renews s t) : past.Renews s.quit t.quit := by
  have down := h.abandonCalls.noteDrop.replace .down fun _ => nofun
  exact down.of_kept (fun _ _ same => congrArg (fun r : Robot => { r with dropped := true }) same) rfl rfl rfl rfl

theorem drop (h : past.Renews s t) : past.Renews s.drop t.drop := by
  obtain ⟨-, -, -, -, -, -, -, dropped⟩ := h.kept
  unfold Robot.drop
  rw [dropped]
  split
  · exact h
  · exact h.abandonCalls.settle.quit

/-! ## Steps and moves -/

mutual

/-- A step is answered alike with a past and without, but for the name. -/
theorem perform {s t : Robot} (step : Step) (h : past.Renews s t) :
    past.Answers step (s.perform step) (t.perform step) := by
  obtain ⟨-, -, -, -, -, dialler, -, dropped⟩ := h.kept
  cases step with
  | ask request =>
    show past.Answers (.ask request) (if s.dropped then s.askDropped request else s.ask request)
      (if t.dropped then t.askDropped request else t.ask request)
    rw [dropped]
    by_cases name : request = .name
    · subst name
      split
      · exact ⟨rfl, h⟩
      · exact ⟨congrArg Answer.text h.name, h⟩
    · have alike {x y : Answer × Robot} (h : past.Agrees x y) : past.Answers (.ask request) x y :=
        ⟨by rw [past.answer_ask name, h.1], h.2⟩
      split
      · exact alike (h.askDropped request)
      · exact alike (h.ask name)
  | cancelTask task => exact ⟨rfl, h.cancelPlan task⟩
  | tasks =>
    refine ⟨?_, h⟩
    show Answer.flags (s.schedule.map s.isPlanCancelled) = .flags (t.schedule.map t.isPlanCancelled)
    rw [← h.plans, List.map_map]
    exact congrArg Answer.flags (List.map_congr_left fun plan _ => h.isPlanCancelled plan)
  | arrive channel arrivals =>
    exact ⟨rfl, h.onChannel channel (f := fun r link => r.arrive arrivals link) fun _ hl => h.arrive hl arrivals⟩
  | changeSink sink =>
    exact ⟨rfl, h.onChannel none (f := fun r link => r.changeSink sink link) fun _ hl => h.changeSink hl sink⟩
  | changeNextSink | refuse | hold => exact ⟨rfl, h.withDialler (by rw [dialler])⟩
  | release => exact ⟨rfl, h.releaseHeld⟩
  | dialled =>
    refine ⟨?_, h⟩
    show Answer.texts s.dialler.dialled = .texts t.dialler.dialled
    rw [dialler]
  | advance ms => exact ⟨rfl, h.advance ms⟩
  | settle => exact ⟨rfl, h⟩
  | group steps =>
    obtain ⟨same, performed⟩ := performAll steps h
    exact ⟨congrArg Answer.group same, performed⟩
  | drop => exact ⟨rfl, h.drop⟩

theorem performAll {s t : Robot} (steps : List Step) (h : past.Renews s t) :
    (s.performAll steps).1 = past.answers steps (t.performAll steps).1 ∧
      past.Renews (s.performAll steps).2 (t.performAll steps).2 := by
  cases steps with
  | nil => exact ⟨rfl, h⟩
  | cons step steps =>
    obtain ⟨same, performed⟩ := perform step h
    obtain ⟨rest, after⟩ := performAll steps performed
    exact ⟨congrArg₂ List.cons same rest, after⟩

end

/-- A step of a script, with all tasks that run after it. -/
theorem play (h : past.Renews s t) (step : Step) :
    (s.play step).1 = past.answer step (t.play step).1 ∧ (s.play step).2.1 = (t.play step).2.1.map past.deed ∧
      past.Renews (s.play step).2.2 (t.play step).2.2 := by
  obtain ⟨same, performed⟩ := perform step h
  have settled := performed.settle
  refine ⟨same, ?_, settled⟩
  show (s.perform step).2.settle.journal.drop s.journal.length =
    ((t.perform step).2.settle.journal.drop t.journal.length).map past.deed
  rw [settled.journal, h.journal, List.length_append, List.length_map, List.drop_append, List.map_drop]
  simp

theorem playAll (steps : List Step) (h : past.Renews s t) :
    (s.playAll steps).map (·.1) = past.answers steps ((t.playAll steps).map (·.1)) ∧
      (s.playAll steps).map (·.2.1) = (t.playAll steps).map (·.2.1.map past.deed) ∧
      (s.playAll steps).map (·.2.2.shadow) = (t.playAll steps).map (·.2.2.shadow) := by
  induction steps generalizing s t with
  | nil => exact ⟨rfl, rfl, rfl⟩
  | cons step steps ih =>
    obtain ⟨same, deeds, next⟩ := h.play step
    obtain ⟨answers, more, shadows⟩ := ih next
    have shadow : (s.play step).2.2.shadow = (t.play step).2.2.shadow := next.kept.2.2.2.1
    exact ⟨congrArg₂ List.cons same answers, congrArg₂ List.cons deeds more, congrArg₂ List.cons shadow shadows⟩

end Renews

/-- The moves that a driver without the past makes where `r`, with it, makes this one. -/
def counterpart (past : History) (r : Robot) : Move → List Move
  | .run index =>
    match r.ready[index]? with
    | none => []
    | some task => if (past.fresh? task).isSome then [.run (past.place r.ready index)] else []
  | m => [m]

/-- The moves that a driver without the past makes where `r`, with it, makes these. -/
def counterparts (past : History) (r : Robot) : List Move → List Move
  | [] => []
  | m :: moves => past.counterpart r m ++ past.counterparts (r.move m) moves

/-- An answer with this past, given the one without, with the step that it answers. -/
def reply (past : History) (reply : Step × Answer) : Step × Answer :=
  (reply.1, past.answer reply.1 reply.2)

end History

namespace Robot

/-- The step that is taken by a move, if any, and its answer. -/
def reply (r : Robot) : Move → List (Step × Answer)
  | .perform step => [(step, (r.perform step).1)]
  | _ => []

/-- The steps that are taken in a run, and their answers. -/
def replies (r : Robot) : List Move → List (Step × Answer)
  | [] => []
  | m :: moves => r.reply m ++ (r.move m).replies moves

theorem replies_append (r : Robot) (ms ns : List Move) :
    r.replies (ms ++ ns) = r.replies ms ++ (r.after ms).replies ns := by
  induction ms generalizing r with
  | nil => rfl
  | cons m ms ih =>
    simp only [List.cons_append, replies, ih, List.append_assoc]
    rfl

end Robot

namespace History.Renews

variable {past : History} {s t : Robot}

theorem move (h : past.Renews s t) (m : Move) : past.Renews (s.move m) (t.after (past.counterpart s m)) ∧
    s.reply m = (t.replies (past.counterpart s m)).map past.reply := by
  cases m with
  | perform step =>
    obtain ⟨same, performed⟩ := h.perform step
    exact ⟨performed, congrArg (fun answer => [(step, answer)]) same⟩
  | run index =>
    cases here : s.ready[index]? with
    | none =>
      have idle : s.move (.run index) = s := by simp only [Robot.move, here]
      have none : past.counterpart s (.run index) = [] := by simp only [History.counterpart, here]
      rw [idle, none]
      exact ⟨h, rfl⟩
    | some task =>
      rw [Robot.move_run here]
      rcases h.turn here with ⟨stale, idle, rest⟩ | ⟨new, own, there, next⟩
      · have none : past.counterpart s (.run index) = [] := by simp [History.counterpart, here, stale]
        rw [idle, none]
        exact ⟨rest, rfl⟩
      · have one : past.counterpart s (.run index) = [.run (past.place s.ready index)] := by
          simp [History.counterpart, here, own]
        have then' : t.after [.run (past.place s.ready index)] = _ := Robot.move_run there
        rw [one, then']
        exact ⟨next, rfl⟩
  | tick ms => exact ⟨h.tick ms, rfl⟩
  | ring => exact ⟨h.ring, rfl⟩
  | abandon => exact ⟨h.abandonCalls, rfl⟩
  | quit => exact ⟨h.quit, rfl⟩

/-- Whatever happens, it happens alike with a past and without. -/
theorem after (moves : List Move) (h : past.Renews s t) :
    past.Renews (s.after moves) (t.after (past.counterparts s moves)) ∧
      s.replies moves = (t.replies (past.counterparts s moves)).map past.reply := by
  induction moves generalizing s t with
  | nil => exact ⟨h, rfl⟩
  | cons m moves ih =>
    obtain ⟨next, first⟩ := h.move m
    obtain ⟨last, rest⟩ := ih next
    rw [History.counterparts, Robot.after_append, Robot.replies, Robot.replies_append, List.map_append, first, rest]
    exact ⟨last, rfl⟩

end History.Renews

end RobotDriver
