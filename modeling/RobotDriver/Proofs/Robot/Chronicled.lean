import RobotDriver.Proofs.Robot.Quiet

/-!
# The journal of a driver is a chronicle

`Chronicled` ties a driver to its journal: the journal is a chronicle, and the chronicle leads to the outline
of the driver. Each function of the driver keeps this, one lemma a function: here are the end of a connection
and all that the reader does.
-/

namespace RobotDriver.Robot

variable {r s : Robot} {owed : List Due} {g : Nat} {link : Link}

/-- The journal is a chronicle that leads to where the driver is while these reports are owed. -/
structure Chronicled (owed : List Due) (r : Robot) : Prop where
  here : r.dropped = false
  chronicle : Chronicle r.journal (r.outline owed)

/-- One turn further. -/
theorem Chronicled.turn (h : Chronicled owed r) {ds : List Deed} {due : List Due}
    (turn : Turn (r.outline owed) ds (s.outline due)) (journal : s.journal = r.journal ++ ds)
    (dropped : s.dropped = r.dropped) : Chronicled due s := by
  refine ⟨dropped.trans h.here, ?_⟩
  rw [journal]
  exact h.chronicle.next h.here turn

theorem Chronicled.quiet (h : Chronicled owed r) (q : Quiet r s) : Chronicled owed s := by
  obtain ⟨ds, calm, journal⟩ := q.journal
  refine ⟨q.dropped.trans h.here, ?_⟩
  rw [journal, q.outline]
  exact h.chronicle.calm h.here calm

theorem Chronicled.note (h : Chronicled owed r) {n : Note} (hn : n.isMilestone = false) :
    Chronicled owed (r.note n) :=
  h.quiet (quiet_note r hn)

/-- A turn that ends with a report. Of the driver that makes it, `s`, the journal tells no more than the deeds
before the report. -/
theorem Chronicled.report (h : Chronicled owed r) (before : List Deed) {report : Report} {due : List Due}
    (journal : s.journal = r.journal ++ before) (dropped : s.dropped = r.dropped)
    (turn : ∀ hearers ds, Telling report hearers ds → Turn (r.outline owed) (before ++ ds) (s.outline due)) :
    Chronicled due (s.tell report) := by
  obtain ⟨ds, told, sent⟩ := sends_tell s report
  have same := sent.outline due
  constructor
  case here =>
    have here : (s.tell report).dropped = s.dropped := congrArg Outline.dropped same
    rw [here, dropped]
    exact h.here
  case chronicle =>
    rw [same, sent.journal, journal, List.append_assoc]
    exact h.chronicle.next h.here (turn _ ds told)

theorem Chronicled.tell (h : Chronicled owed r) {report : Report} (aside : report.isAside = true) :
    Chronicled owed (r.tell report) :=
  h.report [] (List.append_nil _).symm rfl fun _ _ told => .aside aside told

/-- A report that is owed is made. -/
theorem Chronicled.pay {due : Due} (h : Chronicled (due :: owed) r) : Chronicled owed (r.tell due.report) :=
  h.report [] (List.append_nil _).symm rfl fun _ _ told => .paid rfl told

/-! ## The end of a connection -/

theorem outline_release (r : Robot) (owed : List Due) :
    r.release.outline owed = { r.outline owed with phase := .idle, waiting := [] } := by
  rw [release_eq]
  rfl

theorem journal_release (r : Robot) : r.release.journal = r.journal := by
  rw [release_eq]

theorem dropped_release (r : Robot) : r.release.dropped = r.dropped :=
  congrArg Outline.dropped (r.outline_release [])

/-- What all ends of a connection have in common: it is released, and the end is noted and told. -/
theorem Chronicled.release (h : Chronicled owed r) (before : List Deed) {n : Note} {e : Event}
    (turn : ∀ hearers ds, Telling (.event e) hearers ds →
      Turn (r.outline owed) (before ++ .noted n :: ds) { r.outline owed with phase := .idle, waiting := [] }) :
    Chronicled owed (((r.recordAll before).release.note n).tellEvent e) := by
  apply h.report (before ++ [.noted n])
  · show (r.recordAll before).release.journal ++ [.noted n] = r.journal ++ (before ++ [.noted n])
    rw [journal_release, ← List.append_assoc]
    rfl
  · exact (r.recordAll before).dropped_release
  · intro hearers ds told
    rw [List.append_assoc, List.singleton_append]
    have outline : ((r.recordAll before).release.note n).outline owed =
        { r.outline owed with phase := .idle, waiting := [] } := (r.recordAll before).outline_release owed
    rw [outline]
    exact turn hearers ds told

theorem recordAll_nil (r : Robot) : r.recordAll [] = r := by
  rw [recordAll, List.append_nil]

theorem Chronicled.finishDisconnect (h : Chronicled owed r) : Chronicled owed r.finishDisconnect := by
  unfold Robot.finishDisconnect
  split
  · next link closure hs =>
    have closing : (r.outline owed).phase = .closing link.generation := by simp [Robot.outline, hs, Session.phase]
    have ended := h.release [] (n := .disconnected link.generation) fun _ _ told => .closed closing told
    rw [recordAll_nil] at ended
    exact ended
  · exact h

/-- A connection that fails ends with the report that fits its phase. -/
theorem Chronicled.connectionLost (h : Chronicled owed r) (here : r.session.phase.generation? = some g) {d : Deed}
    {cause : TransportError} (failed : Failure g d cause) :
    Chronicled owed ((r.record d).connectionLost cause) := by
  unfold Robot.connectionLost
  cases hs : r.session with
  | down =>
    rw [hs] at here
    cases here
  | up link =>
    obtain rfl : link.generation = g := by simpa [hs, Session.phase, Phase.generation?] using here
    have live : (r.outline owed).phase = .live link.generation := by simp [Robot.outline, hs, Session.phase]
    have same : (r.record d).session = .up link := hs
    rw [same]
    exact h.release [d] fun _ _ told => .lost live failed told
  | closing link closure =>
    obtain rfl : link.generation = g := by simpa [hs, Session.phase, Phase.generation?] using here
    have closing : (r.outline owed).phase = .closing link.generation := by
      simp [Robot.outline, hs, Session.phase]
    have same : (r.record d).session = .closing link closure := hs
    rw [same]
    exact h.release [d] fun _ _ told => .broken closing failed told

theorem Chronicled.shutdownEcho (h : Chronicled owed r) : Chronicled owed r.shutdownEcho := by
  unfold Robot.shutdownEcho
  split
  · next link closure hs =>
    split
    · exact h.finishDisconnect
    · exact h.quiet (.of_eq (by simp [Robot.outline, hs, Session.phase]) rfl)
  · exact h

theorem Chronicled.beginDisconnect (h : Chronicled owed r) (hs : r.session = .up link) (waiter : Option Nat) :
    Chronicled owed (r.beginDisconnect link waiter) := by
  let shut : Robot := { r with session := .closing link.shut { waiter } }
  have live : (r.outline owed).phase = .live link.generation := by simp [Robot.outline, hs, Session.phase]
  have forced : Quiet shut ((shut.force finalStop).force finalDark) :=
    ((sends_force _ _).trans (sends_force _ _)).quiet
  obtain ⟨ds, calm, journal⟩ := forced.journal
  have outline : (r.beginDisconnect link waiter).outline owed =
      { r.outline owed with phase := .closing link.generation } := forced.outline owed
  have dropped : (r.beginDisconnect link waiter).dropped = r.dropped := forced.dropped
  refine ⟨dropped.trans h.here, ?_⟩
  rw [outline]
  have grown : (r.beginDisconnect link waiter).journal = r.journal ++ ds ++ [.noted (.disconnecting link.generation)] :=
    congrArg (· ++ [Deed.noted (.disconnecting link.generation)]) journal
  rw [grown]
  exact (h.chronicle.calm h.here calm).next h.here (.closing live)

theorem Chronicled.graceOver (h : Chronicled owed r) : Chronicled owed r.graceOver := by
  refine graceOver_cases h (fun _ _ _ _ => (h.note rfl).finishDisconnect) fun link closure hs _ => ?_
  exact h.quiet (.of_eq (by simp [Robot.outline, hs, Session.phase, Link.arm]) rfl)

/-! ## Reading -/

theorem Chronicled.progressMacro (h : Chronicled owed r) (upload : Macro.Upload) (progress : Macro.Progress) :
    Chronicled owed (r.progressMacro upload progress) := by
  have start : Chronicled owed ({ r with upload }.noteFinish progress) := by
    have taken : Chronicled owed { r with upload } := h.quiet (.of_eq rfl rfl)
    unfold noteFinish
    split
    · exact taken
    · exact taken.note rfl
  have next : Chronicled owed (({ r with upload }.noteFinish progress).enqueueProgress progress) :=
    start.quiet (sends_enqueueAll _ _).quiet
  unfold Robot.progressMacro
  dsimp only
  split
  · exact next.tell rfl
  · exact next

theorem Chronicled.closeBeforeSleep (h : Chronicled owed r) (command : Command) :
    Chronicled owed (r.closeBeforeSleep command) := by
  unfold Robot.closeBeforeSleep
  split
  · next hs => exact h.beginDisconnect hs none
  · next hs => exact h.beginDisconnect hs none
  · exact h

theorem Chronicled.confirm (h : Chronicled owed r) (entry : InFlight.Entry) (body : Response.Body) :
    Chronicled owed (r.confirm entry body) := by
  have echo : Chronicled owed (if isEcho entry.command then r.shutdownEcho else r) := by
    split
    · exact h.shutdownEcho
    · exact h
  unfold Robot.confirm
  dsimp only
  generalize (if isEcho entry.command then r.shutdownEcho else r) = s at echo
  have shadowed : Chronicled owed (s.updateShadow entry.command) := echo.quiet (.of_eq rfl rfl)
  apply Chronicled.closeBeforeSleep
  unfold Robot.updateName
  split
  · exact (shadowed.note rfl).quiet (.of_eq rfl rfl)
  · exact shadowed

/-- Handling an answer pays what is due for it. -/
theorem Chronicled.handleAnswer {entry : InFlight.Entry} {packet : Packet}
    (h : Chronicled (Due.answers entry packet) r) : Chronicled [] (r.handleAnswer entry packet) := by
  unfold Robot.handleAnswer
  dsimp only
  have start : Chronicled (Due.answers entry packet)
      ((r.note (.responseMatched (Response.decode entry.command.kind packet) entry.system)).noteDamage entry
        (Response.decode entry.command.kind packet).body) := by
    have matched := h.note (n := .responseMatched (Response.decode entry.command.kind packet) entry.system) rfl
    unfold noteDamage
    split
    · exact matched.note rfl
    · exact matched
  generalize (r.note _).noteDamage entry _ = s at start
  have next : Chronicled (Due.answers entry packet)
      (if (Response.decode entry.command.kind packet).status.isOk
        then s.confirm entry (Response.decode entry.command.kind packet).body
        else s.note (.commandRejected (Response.decode entry.command.kind packet).status entry.command)) := by
    split
    · exact start.confirm _ _
    · exact start.note rfl
  unfold Due.answers at next
  split
  · next system => simpa only [system, if_true] using next
  · next user =>
    rw [if_neg user] at next
    exact next.pay

theorem Chronicled.handleResponse (h : Chronicled [] r) (here : r.session.phase.generation? = some g)
    {packet : Packet} (hp : packet.IsResponse) :
    Chronicled [] ((r.record (.received g packet)).handleResponse g packet) := by
  unfold Robot.handleResponse InFlight.resolve
  cases waiting : r.inFlight.entries with
  | nil =>
    have none : (r.record (.received g packet)).inFlight.entries = [] := waiting
    rw [none]
    apply h.report [.received g packet, .noted (.responseUnmatched (.ofCode packet.header.code))]
    · simp [Robot.note, Robot.record, recordAll]
    · rfl
    · intro hearers ds told
      exact .unmatched here hp waiting told
  | cons entry rest =>
    have some : (r.record (.received g packet)).inFlight.entries = entry :: rest := waiting
    rw [some]
    apply Chronicled.handleAnswer
    refine h.turn (.answered here hp waiting) ?_ rfl
    simp [Robot.record, recordAll]

theorem Chronicled.handlePacket (h : Chronicled [] r) (here : r.session.phase.generation? = some g)
    (packet : Packet) : Chronicled [] (r.handlePacket g packet) := by
  have passed (other : ¬ packet.IsResponse) : Chronicled [] (r.record (.received g packet)) :=
    h.turn (.passed other) rfl rfl
  unfold Robot.handlePacket
  dsimp only
  split
  · next e hp =>
    exact (passed (by simp [Packet.IsResponse, hp])).note rfl
  · next hp => exact h.handleResponse here hp
  · next hp =>
    have start := passed (by simp [Packet.IsResponse, hp])
    unfold Robot.handleInformation
    split
    · exact start.note rfl
    · dsimp only
      split
      · exact (start.note rfl).progressMacro _ _
      · exact (start.note rfl).tell rfl

theorem Chronicled.handleFrame (h : Chronicled [] r) (here : r.session.phase.generation? = some g) (frame : Frame) :
    Chronicled [] (r.handleFrame g frame) := by
  cases frame with
  | skipped header => exact h.note rfl
  | packet packet => exact h.handlePacket here packet

theorem phase_of_link? (hl : r.link? = some link) : r.session.phase.generation? = some link.generation := by
  rw [Session.phase_generation?]
  exact congrArg (Option.map _) hl

theorem Chronicled.handleFrames (h : Chronicled [] r) (n : Nat) (frames : List Frame) :
    Chronicled [] (r.handleFrames n frames) :=
  handleFrames_induction h (fun _ _ frame h hl => h.handleFrame (phase_of_link? hl) frame) frames

theorem Chronicled.handleArrival (h : Chronicled [] r) (hl : r.link? = some link) (arrival : Arrival) :
    Chronicled [] (r.handleArrival link arrival) := by
  have here := phase_of_link? hl
  cases arrival with
  | bytes chunk =>
    have taken : Chronicled [] (r.record (.took link.generation (.bytes chunk))) := h.turn (.took here chunk) rfl rfl
    refine Chronicled.handleFrames ?_ _ _
    exact taken.quiet (quiet_mapLink _ fun _ _ => rfl)
  | ended => exact h.connectionLost here (.ended link.buffer)
  | failed fault => exact h.connectionLost here (.read fault)

theorem Chronicled.runReader (h : Chronicled [] r) (link : Link) : Chronicled [] (r.runReader link) :=
  runReader_induction (h.quiet (quiet_mapLink _ fun _ _ => rfl)) fun _ _ arrival h hl => h.handleArrival hl arrival

end RobotDriver.Robot
