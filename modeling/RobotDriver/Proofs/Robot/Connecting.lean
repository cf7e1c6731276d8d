import RobotDriver.Proofs.Robot.Hearing
import RobotDriver.Proofs.Robot.LastWords
import RobotDriver.Proofs.Robot.Playing

/-!
# What a call to connect comes to

A call to connect finds the robot connected, makes a connection, is refused a channel, or has to wait for one:
`attempt_run` says what each of these reports and what it leaves alone. There is a fifth case. A channel may be open at
last when there is another connection, one that is still being closed or one that another call has made meanwhile; the
channel is let go then, and the call answers that it has failed without a report. `answered_unreported` is such a run.
-/

namespace RobotDriver

/-- How a call has come out. -/
def Deed.outcome? : Deed → Option (Nat × Outcome)
  | finished call outcome => some (call, outcome)
  | _ => none

theorem Deed.event?_of_isSilent {d : Deed} (silent : d.isSilent = true) : d.event? = none := by
  cases d <;> first | rfl | cases silent

theorem Deed.outcome?_of_isSlight {d : Deed} (slight : d.isSlight = true) : d.outcome? = none := by
  cases d <;> first | rfl | cases slight

namespace Robot

variable {r s t : Robot} {call : Nat} {events later : List Event} {outcomes more : List (Nat × Outcome)}

/-! ## Deeds -/

/-- From `r` to `s` there are no more than notes. -/
def Notes (r s : Robot) : Prop :=
  ∃ notes : List Note, s.journal = r.journal ++ notes.map .noted

theorem lenient_notes : Lenient Notes where
  refl r := ⟨[], (List.append_nil _).symm⟩
  trans := by
    rintro r s t ⟨first, hs⟩ ⟨second, ht⟩
    exact ⟨first ++ second, by rw [ht, hs, List.map_append, List.append_assoc]⟩
  spare r _ _ := ⟨[], (List.append_nil _).symm⟩
  arrange r _ _ _ := ⟨[], (List.append_nil _).symm⟩
  note r n _ := ⟨[n], rfl⟩

/-- From `r` to `s` these events are reported, and these calls finish. -/
def Reports (r : Robot) (events : List Event) (outcomes : List (Nat × Outcome)) (s : Robot) : Prop :=
  ∃ ds, s.journal = r.journal ++ ds ∧ ds.filterMap Deed.event? = events ∧ ds.filterMap Deed.outcome? = outcomes

theorem Reports.trans (h : Reports r events outcomes s) (k : Reports s later more t) :
    Reports r (events ++ later) (outcomes ++ more) t := by
  obtain ⟨ds, hs, rfl, rfl⟩ := h
  obtain ⟨es, ht, rfl, rfl⟩ := k
  exact ⟨ds ++ es, by rw [ht, hs, List.append_assoc], List.filterMap_append, List.filterMap_append⟩

theorem Notes.reports (h : Notes r s) : Reports r [] [] s := by
  obtain ⟨notes, hs⟩ := h
  exact ⟨_, hs, List.filterMap_eq_nil_iff.2 (List.forall_mem_map.2 fun _ _ => rfl),
    List.filterMap_eq_nil_iff.2 (List.forall_mem_map.2 fun _ _ => rfl)⟩

theorem reports_tell (r : Robot) (e : Event) : Reports r [e] [] (r.tellEvent e) := by
  obtain ⟨ds, telling, light, tends⟩ := tends_tell r (.event e)
  exact ⟨ds, tends.journal, telling.filterMap_eq fun _ => Deed.event?_of_isSilent,
    List.filterMap_eq_nil_iff.2 (forall_mem_told light rfl fun _ => Deed.outcome?_of_isSlight)⟩

theorem reports_finish (r : Robot) (call : Nat) (outcome : Outcome) :
    Reports r [] [(call, outcome)] (r.finish call outcome) :=
  ⟨[.finished call outcome], rfl, rfl, rfl⟩

/-! ## Attempts -/

/-- What it comes to when a call to connect runs. -/
inductive Attempt (r : Robot) (call : Nat) (s : Robot) : Prop
  /-- Channels may not be opened now, and the call waits until they may. -/
  | waits (hold : r.dialler.hold = true) (held : s.dialler.held = r.dialler.held ++ [call]) (reports : Reports r [] [] s)
      (rest : s = { r with dialler := s.dialler, ready := s.ready, journal := s.journal })
  /-- The robot is connected, by this call or before it. -/
  | connects (connected : s.isConnected = true)
      (reports : Reports r (if r.isConnected then [] else [.connected]) [(call, .answered true)] s)
  /-- The channel is refused. Nothing becomes of the connection that is there but what listeners send on it when they
  hear of the failure, and they can do so only while it is in use. -/
  | fails (cause : TransportError) (reports : Reports r [.connectFailed] [(call, r.openFailure cause)] s)
      (session : s.session = r.session.mapLink (·.sent (r.audience.replies (.event .connectFailed))))
      (untouched : r.isConnected = false ∨ r.audience.replies (.event .connectFailed) = [] → s.session = r.session)
      (inFlight : s.inFlight = r.inFlight) (upload : s.upload = r.upload) (shadow : s.shadow = r.shadow)
  /-- The channel is open when there is a connection already, and is let go. -/
  | late (there : r.link?.isSome = true) (reports : Reports r [] [(call, .answered false)] s)
      (rest : s = { r with
        dialler := s.dialler
        generations := s.generations
        ready := s.ready
        journal := s.journal })

/-- A new connection is in use when listeners hear of it. -/
theorem isConnected_start (gone : r.link? = none) (channel : Nat) (sink : Sink) :
    (r.start channel sink).1 = true ∧ (r.start channel sink).2.isConnected = true ∧
      Reports r [.connected] [] (r.start channel sink).2 := by
  let counted : Robot := { r with generations := r.generations + 1 }
  let installed := counted.install (counted.newLink (r.generations + 1) channel sink)
  have absent : ¬ counted.link?.isSome = true := by
    show ¬ r.link?.isSome = true
    rw [gone]
    exact nofun
  have starts : r.start channel sink = (true, ((installed.launch (r.generations + 1)).note
      (.connected r.address.digits (r.generations + 1))).tellEvent .connected) := if_neg absent
  obtain ⟨_, _, launched⟩ := gentle_tends.launch installed (r.generations + 1)
  obtain ⟨notes, noted⟩ := lenient_notes.launch installed (r.generations + 1)
  let connected := (installed.launch (r.generations + 1)).note (.connected r.address.digits (r.generations + 1))
  obtain ⟨_, _, _, told⟩ := tends_tell connected (.event .connected)
  rw [starts]
  refine ⟨rfl, told.session.isUp.trans launched.session.isUp, ?_⟩
  have quiet : Notes r connected := by
    refine ⟨notes ++ [.connected r.address.digits (r.generations + 1)], ?_⟩
    show _ ++ _ = _
    rw [noted, List.map_append, ← List.append_assoc]
    rfl
  exact quiet.reports.trans (reports_tell connected .connected)

theorem attempt_dial (gated : r.session.Gated) (call : Nat) : Attempt r call (r.dial call) := by
  unfold dial
  split
  · let noted := r.note (.openFailed (.cannotOpen r.address.digits .connectionRefused) r.address.digits)
    have failed : Reports r [.connectFailed] [] (noted.tellEvent .connectFailed) :=
      (lenient_notes.note r rfl).reports.trans (reports_tell noted .connectFailed)
    obtain ⟨ds, -, sent⟩ := sends_tell noted (.event .connectFailed)
    obtain ⟨shadow, -, upload⟩ := sent.knows
    have inFlight : (noted.tell (.event .connectFailed)).inFlight = noted.inFlight := by
      obtain ⟨send, ready, same⟩ := sent
      rw [same]
    refine .fails _ (failed.trans (reports_finish _ call _)) (session_tell noted _) ?_ inFlight upload shadow
    rintro (disconnected | unanswered)
    · exact session_tell_of_disconnected (r := noted) gated disconnected _
    · exact session_tell_of_unanswered (r := noted) unanswered
  · cases hl : r.link? with
    | none =>
      obtain ⟨started, connected, reports⟩ :=
        isConnected_start (r := r.takeChannel.2.2) hl r.takeChannel.1 r.takeChannel.2.1
      have down : r.isConnected = false := by
        rw [isConnected, session_of_link?_eq_none hl]
        rfl
      dsimp only
      rw [started]
      refine .connects connected ?_
      rw [down]
      exact reports.trans (reports_finish _ call _)
    | some link =>
      have there : r.link?.isSome = true := by
        rw [hl]
        rfl
      have skipped : r.takeChannel.2.2.start r.takeChannel.1 r.takeChannel.2.1 =
          (false, r.skipChannel.note (.transportDropped (r.generations + 1))) := if_pos there
      have noted : Notes r (r.skipChannel.note (.transportDropped (r.generations + 1))) := ⟨[_], rfl⟩
      dsimp only
      rw [skipped]
      exact .late there (noted.reports.trans (reports_finish _ call _)) rfl

/-- What has been noted before an attempt is no part of it. -/
theorem Attempt.noted {n : Note} (h : Attempt (r.note n).noteDialled call s) : Attempt r call s := by
  have noted {events : List Event} {outcomes : List (Nat × Outcome)}
      (reports : Reports (r.note n).noteDialled events outcomes s) : Reports r events outcomes s := by
    have before : Notes r (r.note n).noteDialled := ⟨[n], rfl⟩
    exact before.reports.trans reports
  cases h with
  | waits hold held reports rest => exact .waits hold held (noted reports) rest
  | connects connected reports => exact .connects connected (noted reports)
  | fails cause reports session untouched inFlight upload shadow =>
    exact .fails cause (noted reports) session untouched inFlight upload shadow
  | late there reports rest => exact .late there (noted reports) rest

theorem attempt_connectCall (gated : r.session.Gated) (call : Nat) : Attempt r call (r.connectCall call) := by
  unfold connectCall
  split
  · next connected =>
    have noted : Notes r (r.note (.alreadyConnected r.address.digits)) := ⟨[_], rfl⟩
    refine .connects connected ?_
    rw [if_pos connected]
    exact noted.reports.trans (reports_finish _ call _)
  · refine Attempt.noted (n := .connecting r.address.digits) ?_
    dsimp only
    split
    · next hold => exact .waits hold rfl ((lenient_notes.refl _).reports) rfl
    · exact attempt_dial (r := (r.note (.connecting r.address.digits)).noteDialled) gated call

theorem attempt_run (gated : r.session.Gated) {index : Nat} {task : Task} (here : r.ready[index]? = some task)
    (connects : task = .connect call ∨ task = .dial call) : Attempt r call (r.move (.run index)) := by
  let rest : Robot := { r with ready := r.ready.eraseIdx index }
  have attempt : Attempt rest call (rest.run task) := by
    rcases connects with rfl | rfl
    · exact attempt_connectCall (r := rest) gated call
    · exact attempt_dial (r := rest) gated call
  have runs : r.move (.run index) = rest.run task := move_run here
  rw [runs]
  cases attempt with
  | waits hold held reports rest => exact .waits hold held reports rest
  | connects connected reports => exact .connects connected reports
  | fails cause reports session untouched inFlight upload shadow =>
    exact .fails cause reports session untouched inFlight upload shadow
  | late there reports rest => exact .late there reports rest

/-- A refusal is an error if the settings ask for one, so that the call never just says no. -/
theorem Attempt.raises (h : Attempt r call s) (raise : r.settings.raiseOnConnectFailure = true)
    (gone : r.link? = none) : (call, .answered false) ∉ (s.journal.drop r.journal.length).filterMap Deed.outcome? := by
  have since {events : List Event} {outcomes : List (Nat × Outcome)} (reports : Reports r events outcomes s) :
      (s.journal.drop r.journal.length).filterMap Deed.outcome? = outcomes := by
    obtain ⟨ds, journal, -, finished⟩ := reports
    rw [journal, List.drop_left, finished]
  cases h with
  | waits _ _ reports => simp [since reports]
  | connects _ reports => simp [since reports]
  | fails cause reports => simp [since reports, openFailure, raise]
  | late there =>
    rw [gone] at there
    cases there

/-! ## Runs -/

/-- **Each call to connect tells how it came out**, in any run. Whenever such a call runs, it finds the robot connected
or connects it and says yes; or it is refused a channel, says so to all listeners once, gives the error or the no that
the settings ask for, and leaves all else alone; or it waits, which it does only while channels may not be opened. Only
a channel that is open when there is a connection already is let go without a report and with a no, so that where errors
are asked for a call does not say no while there is none. A call that is made when no task is ready runs at once. -/
theorem attempt_after {address : String} {settings : Settings} {start : Robot}
    (made : make address settings = .ok start) (moves : List Move) :
    let r := start.after moves
    r.settings = settings ∧
    (∀ index call task, r.ready[index]? = some task → task = .connect call ∨ task = .dial call →
      let s := r.move (.run index)
      Attempt r call s ∧ (settings.raiseOnConnectFailure = true → r.link? = none →
        (call, .answered false) ∉ (s.journal.drop r.journal.length).filterMap Deed.outcome?)) ∧
    (r.dropped = false → r.ready = [] → ∃ s, Attempt (r.perform (.ask .connect)).2 r.calls s ∧
      (r.play (.ask .connect)).2.2 = s.settle) := by
  intro r
  have gated : Gated r := (strides_after moves start).gated (gated_make made)
  have same : r.settings = settings := settings_after made moves
  refine ⟨same, fun index call task here connects => ?_, fun alive idle => ?_⟩
  · have attempt : Attempt r call (r.move (.run index)) := attempt_run gated.session here connects
    exact ⟨attempt, fun raise => attempt.raises (same ▸ raise)⟩
  · let asked : Robot := { r with calls := r.calls + 1, ready := [.connect r.calls] }
    have asks : (r.perform (.ask .connect)).2 = asked := by
      simp [Robot.perform, alive, Robot.ask, startCall, spawn, idle, asked]
    have here : asked.ready[0]? = some (.connect r.calls) := rfl
    refine ⟨asked.move (.run 0), ?_, ?_⟩
    · rw [asks]
      exact attempt_run (r := asked) gated.session here (.inl rfl)
    · show (r.perform (.ask .connect)).2.settle = _
      rw [asks, settle_cons (r := asked) rfl]
      rfl

/-- The user disconnects and connects again before the robot has confirmed. -/
def againWhileClosing : List Move :=
  [.perform (.ask .connect), settling, .perform (.ask .disconnect), settling, .perform (.ask .connect)]

/-- A driver that is asked for errors. -/
def raising : Robot :=
  { System.unused with settings := { raiseOnConnectFailure := true } }

theorem make_raising : make "00:06:66:AA:BB:CC" { raiseOnConnectFailure := true } = .ok raising :=
  System.eq_ok_of_toOption (by decide +kernel)

/-- Channels are refused, and then the first call runs. -/
def refusedConnect : List Move :=
  [.perform (.refuse true), .perform (.ask .connect)]

theorem attempt_after_refused :
    ∃ start, make "00:06:66:AA:BB:CC" { raiseOnConnectFailure := true } = .ok start ∧
      Attempt (start.after refusedConnect) 0 ((start.after refusedConnect).move (.run 0)) ∧
      ((start.after (refusedConnect ++ [.run 0])).journal.filterMap Deed.event?) = [.connectFailed] ∧
      (0, .answered false) ∉ (((start.after refusedConnect).move (.run 0)).journal.drop
        (start.after refusedConnect).journal.length).filterMap Deed.outcome? := by
  obtain ⟨-, runs, -⟩ := attempt_after make_raising refusedConnect
  obtain ⟨attempt, raises⟩ := runs 0 0 (.connect 0) rfl (.inl rfl)
  exact ⟨_, make_raising, attempt, by decide +kernel, raises rfl rfl⟩

/-- The connection that is being closed is in the way of the new one: the second call to connect says no, though errors
are asked for, and no failure is reported. -/
theorem answered_unreported :
    ∃ start, make "00:06:66:AA:BB:CC" { raiseOnConnectFailure := true } = .ok start ∧
      .finished 2 (.answered false) ∈ (start.after (againWhileClosing ++ [.run 0])).journal ∧
      ((start.after (againWhileClosing ++ [.run 0])).journal.filterMap Deed.event?) = [.connected] ∧
      (start.after (againWhileClosing ++ [.run 0])).isConnected = false :=
  ⟨_, make_raising, by decide +kernel, by decide +kernel, by decide +kernel⟩

end Robot

end RobotDriver
