import RobotDriver.Proofs.Robot.Chronicled

/-!
# Tasks and chronicles

What the writer does, what alarms cause and how a connection begins are turns, so that all tasks are:
`Chronicled.run` says that whatever task runs, it leads from one chronicle to the next.
-/

namespace RobotDriver.Robot

variable {r : Robot} {owed : List Due} {g : Nat} {link : Link}

/-! ## The writer -/

theorem Chronicled.register (h : Chronicled owed r) (here : r.session.phase.generation? = some g)
    (item : Outbox.Item) : Chronicled owed (r.register g item) :=
  h.turn (.registered here _) rfl rfl

theorem session_register (g : Nat) (items : List Outbox.Item) (r : Robot) :
    (items.foldl (register g) r).session = r.session := by
  induction items generalizing r with
  | nil => rfl
  | cons item items ih => exact ih _

theorem Chronicled.registerAll (items : List Outbox.Item) (h : Chronicled owed r)
    (here : r.session.phase.generation? = some g) : Chronicled owed (items.foldl (Robot.register g) r) := by
  induction items generalizing r with
  | nil => exact h
  | cons item items ih => exact ih (h.register here item) here

/-- What the writer has done is taken over while the connection is there. -/
theorem Chronicled.takeEmissions (es : List Outbox.Emission) (h : Chronicled owed r)
    (here : r.session.phase.generation? = some link.generation) :
    Chronicled owed (es.foldl (takeEmission link) r) ∧
      (es.foldl (takeEmission link) r).session.phase.generation? = some link.generation := by
  induction es generalizing r with
  | nil => exact ⟨h, here⟩
  | cons e es ih =>
    have next : Chronicled owed (r.takeEmission link e) ∧
        (r.takeEmission link e).session.phase.generation? = some link.generation := by
      cases e with
      | dropped command e => exact ⟨h.note rfl, here⟩
      | registered batch => exact ⟨h.registerAll batch here, by rw [takeEmission, session_register]; exact here⟩
      | wrote bytes => exact ⟨h.quiet (quiet_record r rfl), here⟩
    exact ih next.1 next.2

theorem Chronicled.runWriter (h : Chronicled owed r) (hl : r.link? = some link) :
    Chronicled owed (r.runWriter link) := by
  unfold Robot.runWriter
  dsimp only
  have worked := quiet_withLink { link with writer := (link.writer.work false false).1 } hl rfl
  have present : (r.withLink { link with writer := (link.writer.work false false).1 }).session.phase.generation? =
      some link.generation := by
    rw [worked.phase]
    exact phase_of_link? hl
  obtain ⟨taken, here⟩ := (h.quiet worked).takeEmissions (link.writer.work false false).2 present
  unfold checkWriter
  split
  · next fault _ => exact taken.connectionLost here (.write fault)
  · exact taken

/-! ## Alarms -/

theorem Chronicled.runTimer (h : Chronicled owed r) (hl : r.link? = some link) (task : Nat) :
    Chronicled owed (r.runTimer link task) :=
  h.quiet (lenient_quiet.runTimer hl task)

theorem Chronicled.giveUp (timeout : Nat) (es : List InFlight.Entry) (h : Chronicled (es.map .timeout) r) :
    Chronicled [] (es.foldl (Robot.giveUp timeout) r) := by
  induction es generalizing r with
  | nil => exact h
  | cons e es ih =>
    apply ih
    exact (h.note (n := .responseOverdue e.command timeout) rfl).pay

theorem Chronicled.giveUpOverdue (h : Chronicled [] r) (here : r.session.phase.generation? = some g)
    (timeout : Nat) : Chronicled [] (r.giveUpOverdue g timeout) := by
  have waiting : (r.outline []).waiting =
      (r.inFlight.expire r.clock timeout).1 ++ (r.inFlight.expire r.clock timeout).2.entries :=
    List.takeWhile_append_dropWhile.symm
  exact Chronicled.giveUp timeout _ ⟨h.here, h.chronicle.expired h.here here waiting⟩

theorem Chronicled.runSweep (h : Chronicled [] r) (hl : r.link? = some link) : Chronicled [] (r.runSweep link) := by
  have looked (sweep : Option Timer) := quiet_withLink { link with sweep } hl rfl
  refine runSweep_cases h (fun sweep _ => (h.quiet (looked sweep)).quiet (lenient_quiet.rearm _ _ _))
    fun timeout _ sweep _ => ?_
  have here : (r.withLink { link with sweep }).session.phase.generation? = some link.generation := by
    rw [(looked sweep).phase]
    exact phase_of_link? hl
  exact ((h.quiet (looked sweep)).giveUpOverdue here timeout).quiet (lenient_quiet.rearm _ _ _)

theorem Chronicled.runAlarm (h : Chronicled [] r) (hl : r.link? = some link) (alarm : Alarm) :
    Chronicled [] (r.runAlarm link alarm) := by
  cases alarm with
  | timer task => exact h.runTimer hl task
  | sweep => exact h.runSweep hl
  | grace => exact h.graceOver

/-! ## The beginning of a connection -/

theorem Chronicled.start (h : Chronicled owed r) (channel : Nat) (sink : Sink) :
    Chronicled owed (r.start channel sink).2 := by
  unfold Robot.start
  dsimp only
  split
  · have counted : Chronicled owed { r with generations := r.generations + 1 } :=
      h.turn (.surplus) (List.append_nil _).symm rfl
    exact counted.note rfl
  · next absent =>
    have down : r.session = .down := session_of_link?_eq_none (Option.not_isSome_iff_eq_none.1 absent)
    have idle : (r.outline owed).phase = .idle := congrArg Session.phase down
    let opened : Robot :=
      install { r with generations := r.generations + 1 }
        (newLink { r with generations := r.generations + 1 } (r.generations + 1) channel sink)
    have launched := lenient_quiet.launch opened (r.generations + 1)
    obtain ⟨calm, hcalm, journal⟩ := launched.journal
    -- The calm deeds of the launch come before the connection counts as begun.
    have before : Chronicled owed (r.recordAll calm) := ⟨h.here, h.chronicle.calm h.here hcalm⟩
    apply before.report [.noted (.connected r.address.digits (r.generations + 1))]
    · exact congrArg (· ++ [Deed.noted (.connected r.address.digits (r.generations + 1))]) journal
    · exact launched.dropped
    · intro hearers ds told
      have outline : ((opened.launch (r.generations + 1)).note
          (.connected r.address.digits (r.generations + 1))).outline owed = opened.outline owed := launched.outline owed
      rw [outline]
      exact .connected idle r.address.digits told

/-! ## Turns of the tasks -/

theorem Chronicled.finish (h : Chronicled owed r) (call : Nat) (outcome : Outcome) :
    Chronicled owed (r.finish call outcome) :=
  h.quiet (quiet_record r rfl)

theorem Chronicled.dial (h : Chronicled owed r) (call : Nat) : Chronicled owed (r.dial call) := by
  unfold Robot.dial
  split
  · exact ((h.note rfl).tell rfl).finish call _
  · have taken : Chronicled owed r.takeChannel.2.2 := h.quiet (.of_eq rfl rfl)
    exact (taken.start _ _).finish call _

theorem Chronicled.connectCall (h : Chronicled owed r) (call : Nat) : Chronicled owed (r.connectCall call) := by
  unfold Robot.connectCall
  split
  · exact (h.note rfl).finish call _
  · dsimp only
    have dialled : Chronicled owed (r.note (.connecting r.address.digits)).noteDialled :=
      (h.note rfl).quiet (.of_eq rfl rfl)
    split
    · exact dialled.quiet (.of_eq rfl rfl)
    · exact dialled.dial call

theorem Chronicled.disconnectCall (h : Chronicled owed r) (call : Nat) : Chronicled owed (r.disconnectCall call) := by
  unfold Robot.disconnectCall
  split
  · next hs => exact h.beginDisconnect hs (some call)
  · exact ((h.note rfl).tell rfl).finish call _

theorem Chronicled.onCurrent (h : Chronicled owed r) (n : Nat) {f : Robot → Link → Robot}
    (hf : ∀ link, r.link? = some link → Chronicled owed (f r link)) : Chronicled owed (r.onCurrent n f) :=
  onCurrent_cases h fun link hl _ => hf link hl

/-- Whatever task runs, it takes the driver from turn to turn. -/
theorem Chronicled.run (h : Chronicled [] r) (task : Task) : Chronicled [] (r.run task) := by
  cases task with
  | connect call => exact h.connectCall call
  | dial call => exact h.dial call
  | disconnect call => exact h.disconnectCall call
  | disconnected call => exact h.finish call _
  | write n => exact h.onCurrent n fun _ hl => h.runWriter hl
  | read n => exact h.onCurrent n fun link _ => h.runReader link
  | wake n alarm => exact h.onCurrent n (f := fun r link => r.runAlarm link alarm) fun _ hl => h.runAlarm hl alarm

end RobotDriver.Robot
