import Mathlib.Logic.Relation
import RobotDriver.Proofs.Robot.Departing
import RobotDriver.Proofs.Robot.Tending

/-!
# The acts of a driver

`Act` lists all that a driver does at one moment, each act with the state that it is possible in and the state that it
leads to. Whatever function runs, it is made of such acts (`acts_run`, `acts_ask`), so that an invariant has to be shown
once for each act and holds of every run. Time passes between acts: the clock moves and alarms go off in moves of
their own.
-/

namespace RobotDriver

/-- The packet is undamaged information that a macro has come to a marker. -/
def Packet.isMarker (p : Packet) : Bool :=
  match p.header.packetClass, Information.decode p with
  | .ok .information, .ok information => information.isMacroMarker
  | _, _ => false

/-- The items that bring a robot into the state that the driver takes it for at first. -/
def resets : List Outbox.Item :=
  Shadow.resetSequence {} |>.map fun c => ⟨c, true⟩

/-- The request submits a macro or gives one up. -/
def Request.plays : Request → Bool
  | playMacro _ | stopMacro => true
  | _ => false

namespace Robot

/-- The driver after the answer to its oldest command is noted. -/
def answer (r : Robot) (generation : Nat) (entry : InFlight.Entry) (rest : List InFlight.Entry) (packet : Packet)
    (notes : List Note) : Robot :=
  { r with
    inFlight := ⟨rest⟩
    journal := r.journal ++ (.received generation packet :: .answered generation entry packet :: notes.map .noted) }

theorem forall_mem_answer {P : Deed → Prop} {g : Nat} {entry : InFlight.Entry} {p : Packet} {notes : List Note}
    (light : ∀ n ∈ notes, (Deed.noted n).isLight = true) (received : P (.received g p))
    (answered : P (.answered g entry p)) (calm : ∀ d : Deed, d.isLight = true → P d) :
    ∀ d ∈ .received g p :: .answered g entry p :: notes.map Deed.noted, P d :=
  List.forall_mem_cons.2 ⟨received, List.forall_mem_cons.2 ⟨answered,
    List.forall_mem_map.2 fun n there => calm _ (light n there)⟩⟩

/-- Ends the connection: it is released, and its end is noted and told. -/
def part (r : Robot) (n : Note) (e : Event) : Robot :=
  (r.release.note n).tellEvent e

theorem finishDisconnect_of_closing {r : Robot} {link : Link} {closure : Closure}
    (hs : r.session = .closing link closure) :
    r.finishDisconnect = r.part (.disconnected link.generation) .disconnected := by
  unfold finishDisconnect
  rw [hs]
  rfl

/-- A channel is counted that comes too late. -/
def skipChannel (r : Robot) : Robot :=
  { r.takeChannel.2.2 with generations := r.generations + 1 }

/-- A new connection with the commands that reset the robot in its queue. -/
def fresh (r : Robot) : Robot :=
  let counted := r.skipChannel
  let link := counted.newLink counted.generations r.dialler.opened r.dialler.nextSink
  counted.install link |>.spawn (.write counted.generations) |>.spawn (.read counted.generations) |>.sendReset

/-- The writer has done nothing, or what it does when it works if it may, which is what `w` stands for. -/
def Worked (w : Prop) (link : Link) (ds : List Deed) : Prop :=
  ds = [] ∨ w ∧ link.Tells (link.writer.work false false).2 ds

theorem Worked.own {w : Prop} {link : Link} {ds : List Deed} (worked : Worked w link ds) :
    ∀ d ∈ ds, d.isWriters link.generation = true := by
  rcases worked with rfl | ⟨-, tells⟩
  · exact List.forall_mem_nil _
  · exact tells.own

/-- What a driver does only if it is let: its writer works, a macro is submitted or given up, the time of grace of a
connection is looked at. -/
inductive Privilege where
  | write
  | play
  | grace (generation : Nat)

/-- Everything is allowed. -/
abbrev Privilege.all : Privilege → Prop :=
  fun _ => True

/-- What a driver does at one moment, if it may. -/
inductive Act (may : Privilege → Prop) (r : Robot) : Robot → Prop
  | tends {s : Robot} (h : TendsLightly r s) : Act may r s
  /-- The channel comes to take bytes in another way. -/
  | sink {link : Link} (hl : r.link? = some link) (sink : Sink) :
      Act may r (r.withLink { link with writer := { link.writer with sink } })
  | dialled (dialler : Dialler) (same : dialler.opened = r.dialler.opened) (calls : List Nat) :
      Act may r { r with dialler, ready := r.ready ++ calls.map .dial }
  -- What the reader does.
  | took {link : Link} (hl : r.link? = some link) (chunk : Bytes) :
      Act may r (r.record (.took link.generation (.bytes chunk)))
  /-- A packet that answers no command and is no marker of a macro that runs. -/
  | received {link : Link} (hl : r.link? = some link) {p : Packet}
      (unmatched : p.IsResponse → r.inFlight.entries = []) (other : p.isMarker = true → r.upload.running = false) :
      Act may r (r.record (.received link.generation p))
  | marked {link : Link} (hl : r.link? = some link) {p : Packet} (marker : p.isMarker = true)
      (running : r.upload.running = true) {ds : List Deed} {s : Robot}
      (progresses : Progresses r.upload.acknowledge.2.finished.isSome
        { r.record (.received link.generation p) with upload := r.upload.acknowledge.1 } ds s) : Act may r s
  /-- An answer that is no confirmation of a closing. -/
  | answered {link : Link} (hl : r.link? = some link) {entry : InFlight.Entry} {rest : List InFlight.Entry}
      {p : Packet} {notes : List Note} (response : p.IsResponse) (oldest : r.inFlight.entries = entry :: rest)
      (light : ∀ n ∈ notes, (Deed.noted n).isLight = true)
      (uncounted : ∀ closure, r.session = .closing link closure →
        (Deed.answered link.generation entry p).confirms link.generation = false) :
      Act may r (r.answer link.generation entry rest p notes)
  | echoed {link : Link} {closure : Closure} (hs : r.session = .closing link closure) (first : closure.echoed = false)
      {entry : InFlight.Entry} {rest : List InFlight.Entry} {p : Packet} {notes : List Note}
      (response : p.IsResponse) (oldest : r.inFlight.entries = entry :: rest)
      (light : ∀ n ∈ notes, (Deed.noted n).isLight = true)
      (counted : (Deed.answered link.generation entry p).confirms link.generation = true) :
      Act may r { r.answer link.generation entry rest p notes with
        session := .closing link { closure with echoed := true } }
  | confirmed {link : Link} {closure : Closure} (hs : r.session = .closing link closure)
      (second : closure.echoed = true) {entry : InFlight.Entry} {rest : List InFlight.Entry} {p : Packet}
      {notes : List Note} (response : p.IsResponse) (oldest : r.inFlight.entries = entry :: rest)
      (light : ∀ n ∈ notes, (Deed.noted n).isLight = true)
      (counted : (Deed.answered link.generation entry p).confirms link.generation = true) :
      Act may r ((r.answer link.generation entry rest p notes).part (.disconnected link.generation) .disconnected)
  /-- Answers that are overdue are given up. -/
  | expired {link : Link} (hl : r.link? = some link) {entries rest : List InFlight.Entry}
      (oldest : r.inFlight.entries = entries ++ rest) :
      Act may r { r with inFlight := ⟨rest⟩, journal := r.journal ++ entries.map (.expired link.generation) }
  -- The writer, and how a connection begins and ends.
  | worked (allowed : may .write) {link : Link} (hl : r.link? = some link) {ds : List Deed}
      (tells : link.Tells (link.writer.work false false).2 ds)
      (going : ∀ fault, (link.writer.work false false).1.activity ≠ .ended (some fault)) :
      Act may r { r.withLink { link with writer := (link.writer.work false false).1 } with
        inFlight := ⟨r.inFlight.entries ++ registrations link.generation ds⟩
        journal := r.journal ++ ds }
  | surplus (there : r.link?.isSome = true) : Act may r r.skipChannel
  | begun {s : Robot} (hs : r.session = .down) (launched : TendsLightly r.fresh s) :
      Act may r ((s.note (.connected r.address.digits (r.generations + 1))).tellEvent .connected)
  | closing {link : Link} (hs : r.session = .up link) (waiter : Option Nat) : Act may r (r.beginDisconnect link waiter)
  | lost {link : Link} (hs : r.session = .up link) {ds : List Deed} {d : Deed} {cause : TransportError}
      (worked : Worked (may .write) link ds) (failed : Failure link.generation d cause) :
      Act may r ((r.recordAll (ds ++ [d])).part (.closedUnexpectedly link.generation cause) .unexpectedDisconnect)
  | broken {link : Link} {closure : Closure} (hs : r.session = .closing link closure) {ds : List Deed} {d : Deed}
      {cause : TransportError} (worked : Worked (may .write) link ds) (failed : Failure link.generation d cause) :
      Act may r ((r.recordAll (ds ++ [d])).part (.closedWhileDisconnecting link.generation cause) .disconnected)
  -- Tasks and calls.
  | lapsed {link : Link} {closure : Closure} (allowed : may (.grace link.generation))
      (hs : r.session = .closing link closure) (passed : r.graceDeadline closure ≤ r.rung) {index : Nat}
      (here : r.ready[index]? = some (.wake link.generation .grace)) :
      Act may r (({ r with ready := r.ready.eraseIdx index }.note
        (.shutdownUnconfirmed link.generation r.settings.disconnectGrace)).part (.disconnected link.generation)
        .disconnected)
  | watched {link : Link} {closure : Closure} (allowed : may (.grace link.generation))
      (hs : r.session = .closing link closure) (early : r.rung < r.graceDeadline closure) {index : Nat}
      (here : r.ready[index]? = some (.wake link.generation .grace)) :
      Act may r { r with
        ready := r.ready.eraseIdx index
        session := .closing (link.arm (r.graceDeadline closure) .grace)
          { closure with deadline := some (r.graceDeadline closure) } }
  | taken {index : Nat} {task : Task} (here : r.ready[index]? = some task)
      (other : ∀ link closure, r.session = .closing link closure → task ≠ .wake link.generation .grace)
      (unfinished : ∀ call, task ≠ .disconnected call) : Act may r { r with ready := r.ready.eraseIdx index }
  | returned {index call : Nat} (here : r.ready[index]? = some (.disconnected call)) :
      Act may r ({ r with ready := r.ready.eraseIdx index }.finish call (.answered true))
  | called {task : Task} (fresh : task = .connect r.calls ∨ task = .disconnect r.calls) :
      Act may r { r with calls := r.calls + 1, ready := r.ready ++ [task] }
  | finished (call : Nat) (outcome : Outcome) : Act may r (r.finish call outcome)
  -- The upload of a macro.
  | submitted (allowed : may .play) {steps : List Macro.Step} {upload : Macro.Upload} {progress : Macro.Progress}
      (accepted : r.upload.submit steps = .ok (upload, progress)) {ds : List Deed} {s : Robot}
      (progresses : Progresses progress.finished.isSome { r with upload } ds s) : Act may r s
  | aborted (allowed : may .play) : Act may r { r with upload := r.upload.abort.1 }
  | followed {upload : Macro.Upload}
      (later : (∃ command, upload = r.upload.sendAfter command) ∨ upload = r.upload.clearAfter) :
      Act may r { r with upload }

/-- Acts one after the other. -/
abbrev Acts (may : Privilege → Prop) : Robot → Robot → Prop :=
  Relation.ReflTransGen (Act may)

variable {may : Privilege → Prop} {r s : Robot} {link : Link}

theorem acts_tends (h : TendsLightly r s) : Acts may r s :=
  .single (.tends h)

theorem acts_foldl {α : Type} {f : Robot → α → Robot} (hf : ∀ r a, Acts may r (f r a)) (as : List α) (r : Robot) :
    Acts may r (as.foldl f r) :=
  List.foldlRecOn as f .refl fun _ hs a _ => hs.trans (hf _ a)

theorem acts_onCurrent (g : Nat) {f : Robot → Link → Robot} (hf : ∀ link, r.link? = some link → Acts may r (f r link)) :
    Acts may r (r.onCurrent g f) :=
  onCurrent_cases .refl fun link hl _ => hf link hl

theorem acts_onChannel (channel : Option Nat) {f : Robot → Link → Robot}
    (hf : ∀ link, r.link? = some link → Acts may r (f r link)) : Acts may r (r.onChannel channel f) :=
  onChannel_cases .refl hf

/-! ## Reading -/

/-- A connection fails, after what its writer has done. -/
theorem act_connectionLost (hl : r.link? = some link) {ds : List Deed} {d : Deed} {cause : TransportError}
    (worked : Worked (may .write) link ds) (failed : Failure link.generation d cause) :
    Act may r ((r.recordAll (ds ++ [d])).connectionLost cause) := by
  unfold Robot.connectionLost
  obtain hs | ⟨closure, hs⟩ := session_of_link? hl
  · have same : (r.recordAll (ds ++ [d])).session = .up link := hs
    rw [same]
    exact .lost hs worked failed
  · have same : (r.recordAll (ds ++ [d])).session = .closing link closure := hs
    rw [same]
    exact .broken hs worked failed

theorem acts_closeBeforeSleep (r : Robot) (command : Command) : Acts may r (r.closeBeforeSleep command) := by
  unfold Robot.closeBeforeSleep
  split
  · next hs => exact .single (.closing hs none)
  · next hs => exact .single (.closing hs none)
  · exact .refl

/-- What is noted of an answer before anything comes of it. -/
theorem noteDamage_eq (r : Robot) (entry : InFlight.Entry) (body : Response.Body) :
    ∃ notes : List Note, (∀ n ∈ notes, (Deed.noted n).isLight = true) ∧
      r.noteDamage entry body = r.recordAll (notes.map .noted) := by
  unfold noteDamage
  split
  · next e => exact ⟨[.responseCorrupt e entry.command], by simp [Deed.isLight, Note.isMilestone], rfl⟩
  · exact ⟨[], by simp, r.recordAll_nil.symm⟩

theorem confirms_answered (g : Nat) (entry : InFlight.Entry) (p : Packet) :
    (Deed.answered g entry p).confirms g =
      (isEcho entry.command && (Response.decode entry.command.kind p).status.isOk) := by
  simp [Deed.confirms]

theorem acts_report (r : Robot) (entry : InFlight.Entry) (response : Response) :
    Acts may r (if entry.system then r else r.tell (.response response entry.command)) := by
  split
  · exact .refl
  · exact acts_tends (tends_tell_aside r fun _ => rfl)

/-- An answer is one act, and so is the confirmation of a closing that it may be. -/
theorem act_counted (hl : r.link? = some link) {entry : InFlight.Entry} {rest : List InFlight.Entry} {p : Packet}
    {notes : List Note} (response : p.IsResponse) (oldest : r.inFlight.entries = entry :: rest)
    (light : ∀ n ∈ notes, (Deed.noted n).isLight = true) :
    Act may r (if (Response.decode entry.command.kind p).status.isOk && isEcho entry.command
      then (r.answer link.generation entry rest p notes).shutdownEcho
      else r.answer link.generation entry rest p notes) := by
  have confirms : (Deed.answered link.generation entry p).confirms link.generation =
      ((Response.decode entry.command.kind p).status.isOk && isEcho entry.command) := by
    rw [confirms_answered, Bool.and_comm]
  split
  · next echo =>
    obtain hs | ⟨closure, hs⟩ := session_of_link? hl
    · have same : (r.answer link.generation entry rest p notes).session = .up link := hs
      rw [shutdownEcho_of_up same]
      exact .answered hl response oldest light fun closure other => by rw [hs] at other; cases other
    · have same : (r.answer link.generation entry rest p notes).session = .closing link closure := hs
      rw [shutdownEcho_of_closing same]
      split
      · next second =>
        rw [finishDisconnect_of_closing same]
        exact .confirmed hs second response oldest light (confirms.trans echo)
      · next first => exact .echoed hs (Bool.eq_false_iff.2 first) response oldest light (confirms.trans echo)
  · next other => exact .answered hl response oldest light fun _ _ => confirms.trans (Bool.eq_false_iff.2 other)

/-- A response that answers a command is one act, and what the driver makes of it follows. -/
theorem acts_answered (hl : r.link? = some link) {entry : InFlight.Entry} {rest : List InFlight.Entry} {p : Packet}
    (response : p.IsResponse) (oldest : r.inFlight.entries = entry :: rest) :
    Acts may r ((({ r.record (.received link.generation p) with inFlight := ⟨rest⟩ }.record
      (.answered link.generation entry p)).handleAnswer entry p)) := by
  let decoded := Response.decode entry.command.kind p
  obtain ⟨damage, light, noted⟩ := noteDamage_eq
    (({ r.record (.received link.generation p) with inFlight := ⟨rest⟩ }.record
      (.answered link.generation entry p)).note (.responseMatched decoded entry.system)) entry decoded.body
  let notes := Note.responseMatched decoded entry.system :: damage
  have allLight : ∀ n ∈ notes, (Deed.noted n).isLight = true := List.forall_mem_cons.2 ⟨rfl, light⟩
  have answer : (({ r.record (.received link.generation p) with inFlight := ⟨rest⟩ }.record
      (.answered link.generation entry p)).note (.responseMatched decoded entry.system)).noteDamage entry decoded.body =
      r.answer link.generation entry rest p notes := by
    rw [noted]
    simp [Robot.answer, recordAll, Robot.record, Robot.note, notes]
  refine .head (act_counted hl response oldest allLight) ?_
  unfold handleAnswer
  dsimp only
  rw [answer]
  refine Relation.ReflTransGen.trans ?_ (acts_report _ entry decoded)
  show Acts may _ (if decoded.status.isOk then _ else _)
  cases decoded.status.isOk with
  | false => exact acts_tends (tends_note _ (.commandRejected decoded.status entry.command) rfl)
  | true => exact (acts_tends (tends_updateName _ entry decoded.body)).trans (acts_closeBeforeSleep _ _)

theorem acts_handleResponse (hl : r.link? = some link) {p : Packet} (response : p.IsResponse)
    (unmarked : p.isMarker = false) :
    Acts may r ((r.record (.received link.generation p)).handleResponse link.generation p) := by
  unfold handleResponse InFlight.resolve
  cases waiting : r.inFlight.entries with
  | nil =>
    have none : (r.record (.received link.generation p)).inFlight.entries = [] := waiting
    rw [none]
    have received : Acts may r (r.record (.received link.generation p)) :=
      .single (.received hl (fun _ => waiting) fun marker => by rw [unmarked] at marker; cases marker)
    exact received.trans (acts_tends ((tends_note _ _ rfl).trans (tends_tell_aside _ fun _ => rfl)))
  | cons entry rest =>
    have some : (r.record (.received link.generation p)).inFlight.entries = entry :: rest := waiting
    rw [some]
    exact acts_answered hl response waiting

theorem acts_handlePacket (hl : r.link? = some link) (p : Packet) : Acts may r (r.handlePacket link.generation p) := by
  have received (other : ¬ p.IsResponse) (unmarked : p.isMarker = true → r.upload.running = false) :
      Acts may r (r.record (.received link.generation p)) :=
    .single (.received hl (fun response => absurd response other) unmarked)
  unfold handlePacket
  dsimp only
  split
  · next e hp =>
    refine (received (by simp [Packet.IsResponse, hp]) ?_).trans (acts_tends (tends_note _ _ rfl))
    simp [Packet.isMarker, hp]
  · next hp => exact acts_handleResponse hl hp (by simp [Packet.isMarker, hp])
  · next hp =>
    have other : ¬ p.IsResponse := by simp [Packet.IsResponse, hp]
    unfold handleInformation
    split
    · next e damaged =>
      exact (received other (by simp [Packet.isMarker, hp, damaged])).trans (acts_tends (tends_note _ _ rfl))
    · next information whole =>
      have marker : p.isMarker = information.isMacroMarker := by simp [Packet.isMarker, hp, whole]
      dsimp only
      split
      · next both =>
        obtain ⟨isMarker, running⟩ := Bool.and_eq_true_iff.1 both
        have noted := tends_note { r.record (.received link.generation p) with upload := r.upload.acknowledge.1 }
          (.informationReceived information.kind) rfl
        obtain ⟨ds, progresses⟩ := progresses_progressMacro
          ((r.record (.received link.generation p)).note (.informationReceived information.kind))
          r.upload.acknowledge.1 r.upload.acknowledge.2
        obtain ⟨es, all⟩ := progresses.after noted
        exact .single (.marked hl (marker.trans isMarker) running all)
      · next neither =>
        refine (received other fun isMarker => ?_).trans
          (acts_tends ((tends_note _ _ rfl).trans (tends_tell_aside _ fun _ => rfl)))
        rw [marker] at isMarker
        exact Bool.eq_false_iff.2 fun running => neither (Bool.and_eq_true_iff.2 ⟨isMarker, running⟩)

theorem acts_handleFrames (g : Nat) (frames : List Frame) (r : Robot) : Acts may r (r.handleFrames g frames) := by
  refine handleFrames_induction .refl (fun _ _ frame h hl => h.trans ?_) frames
  cases frame with
  | skipped header => exact acts_tends (tends_note _ _ rfl)
  | packet packet => exact acts_handlePacket hl packet

theorem acts_handleArrival (hl : r.link? = some link) (arrival : Arrival) :
    Acts may r (r.handleArrival link arrival) := by
  cases arrival with
  | bytes chunk =>
    refine Relation.ReflTransGen.head (.took hl chunk) ?_
    have buffered : TendsLightly (r.record (.took link.generation (.bytes chunk)))
        ((r.record (.took link.generation (.bytes chunk))).mapLink fun l =>
          { l with buffer := (Frame.feed link.buffer chunk).2 }) :=
      tends_mapLink _ fun _ _ => .of_eq rfl rfl rfl rfl
    exact (acts_tends buffered).trans (acts_handleFrames _ _ _)
  | ended => exact .single (act_connectionLost hl (.inl rfl) (.ended link.buffer))
  | failed fault => exact .single (act_connectionLost hl (.inl rfl) (.read fault))

theorem acts_runReader (r : Robot) (link : Link) : Acts may r (r.runReader link) := by
  have emptied : TendsLightly r (r.mapLink fun link => { link with inbox := [] }) :=
    tends_mapLink r fun _ _ => .of_eq rfl rfl rfl rfl
  exact runReader_induction (acts_tends emptied) fun _ _ arrival h hl => h.trans (acts_handleArrival hl arrival)

/-! ## Writing -/

/-- A connection that is lost takes what has become of its writer along. -/
theorem connectionLost_eq (hl : r.link? = some link) (next : Link) (same : next.generation = link.generation)
    (inFlight : InFlight) (ds : List Deed) (d : Deed) (cause : TransportError) :
    ({ r.withLink next with inFlight, journal := r.journal ++ ds }.record d).connectionLost cause =
      (r.recordAll (ds ++ [d])).connectionLost cause := by
  have journal : r.journal ++ ds ++ [d] = r.journal ++ (ds ++ [d]) := List.append_assoc _ _ _
  unfold Robot.connectionLost release
  simp only [Robot.record, recordAll, withLink, mapLink, journal]
  obtain hs | ⟨closure, hs⟩ := session_of_link? hl
  all_goals
    simp only [hs, Session.mapLink, Session.waiter?, same]
    rfl

/-- The writer works in one act. -/
theorem act_runWriter (allowed : may .write) (hl : r.link? = some link) : Act may r (r.runWriter link) := by
  unfold runWriter checkWriter
  dsimp only
  obtain ⟨ds, tells, taken⟩ := takeEmissions_tells link (link.writer.work false false).2
    (r.withLink { link with writer := (link.writer.work false false).1 })
  rw [taken]
  split
  · next fault _ =>
    have lost := act_connectionLost hl (.inr ⟨allowed, tells⟩) (.write fault)
    rw [← connectionLost_eq hl { link with writer := (link.writer.work false false).1 } rfl
      ⟨r.inFlight.entries ++ registrations link.generation ds⟩] at lost
    exact lost
  · next going => exact .worked allowed hl tells going

/-! ## Alarms -/

theorem acts_giveUpOverdue (hl : r.link? = some link) (timeout : Nat) :
    Acts may r (r.giveUpOverdue link.generation timeout) := by
  have oldest : r.inFlight.entries =
      (r.inFlight.expire r.clock timeout).1 ++ (r.inFlight.expire r.clock timeout).2.entries :=
    List.takeWhile_append_dropWhile.symm
  exact .head (.expired hl oldest) (acts_foldl (fun r entry => acts_tends (tends_giveUp timeout r entry)) _ _)

theorem acts_runSweep (hl : r.link? = some link) : Acts may r (r.runSweep link) := by
  have tended (sweep : Option Timer) := gentle_tends.withLink { link with sweep } hl (.of_eq rfl rfl rfl rfl)
  have rearmed (s : Robot) (deadline : Option Nat) : Acts may s (s.rearm deadline .sweep) :=
    acts_tends (gentle_tends.rearm _ _ _)
  refine runSweep_cases .refl (fun sweep _ => (acts_tends (tended sweep)).trans (rearmed _ _))
    fun timeout _ sweep _ => ?_
  obtain ⟨ds, light, tends⟩ := tended sweep
  obtain ⟨next, hn, same⟩ := tends.link? hl
  have given : Acts may _ _ := acts_giveUpOverdue hn timeout
  rw [same.generation] at given
  exact ((acts_tends ⟨ds, light, tends⟩).trans given).trans (rearmed _ _)

/-! ## The beginning of a connection -/

theorem tends_planSweep (r : Robot) (link : Link) : TendsLightly r (r.planSweep link) := by
  unfold planSweep
  split
  · exact gentle_tends.spawn _ _ rfl
  · exact .refl _

theorem acts_start (r : Robot) :
    Acts may r (r.takeChannel.2.2.start r.takeChannel.1 r.takeChannel.2.1).2 := by
  unfold Robot.start
  dsimp only
  split
  · next there => exact .head (.surplus there) (acts_tends (tends_note _ _ rfl))
  · next absent =>
    have down : r.session = .down := session_of_link?_eq_none (Option.not_isSome_iff_eq_none.1 absent)
    have planned : TendsLightly r.fresh ((r.fresh.onLink planKeepAlive).onLink planSweep) :=
      (gentle_tends.onLink fun link hl => gentle_tends.plan hl _ _).trans
        (gentle_tends.onLink fun link _ => tends_planSweep _ link)
    exact .single (.begun down planned)

theorem acts_dial (r : Robot) (call : Nat) : Acts may r (r.dial call) := by
  unfold dial
  split
  · exact (acts_tends ((tends_note r _ rfl).trans (tends_tell_aside _ fun _ => rfl))).tail (.finished call _)
  · exact (acts_start r).tail (.finished call _)

theorem acts_withDialler (r : Robot) (dialler : Dialler) (same : dialler.opened = r.dialler.opened) :
    Acts may r { r with dialler } := by
  have act : Act may r _ := .dialled dialler same []
  rw [List.map_nil, List.append_nil] at act
  exact .single act

theorem acts_connectCall (r : Robot) (call : Nat) : Acts may r (r.connectCall call) := by
  unfold connectCall
  split
  · exact (acts_tends (tends_note r _ rfl)).tail (.finished call _)
  · dsimp only
    have dialled : Acts may r (r.note (.connecting r.address.digits)).noteDialled :=
      (acts_tends (tends_note r _ rfl)).trans (acts_withDialler _ _ rfl)
    split
    · exact dialled.trans (acts_withDialler _ _ rfl)
    · exact dialled.trans (acts_dial _ call)

theorem acts_disconnectCall (r : Robot) (call : Nat) : Acts may r (r.disconnectCall call) := by
  unfold disconnectCall
  split
  · next hs => exact .single (.closing hs (some call))
  · exact (acts_tends ((tends_note r _ rfl).trans (tends_tell_aside _ fun _ => rfl))).tail (.finished call _)

/-! ## Tasks -/

/-- A connection that is being closed looks at its time of grace: it is over, or the alarm is set. -/
theorem act_graceOver {closure : Closure} (allowed : may (.grace link.generation))
    (hs : r.session = .closing link closure) {index : Nat}
    (here : r.ready[index]? = some (.wake link.generation .grace)) :
    Act may r { r with ready := r.ready.eraseIdx index }.graceOver := by
  let rest : Robot := { r with ready := r.ready.eraseIdx index }
  have same : rest.session = .closing link closure := hs
  show Act may r rest.graceOver
  rw [graceOver_of_closing same]
  split
  · next passed =>
    have noted : (rest.note (.shutdownUnconfirmed link.generation rest.settings.disconnectGrace)).session =
        .closing link closure := hs
    rw [finishDisconnect_of_closing noted]
    exact .lapsed allowed hs passed here
  · next early => exact .watched allowed hs (Nat.lt_of_not_le early) here

/-- The end of the time of grace is looked at by the one task that waits for it. -/
theorem act_grace {index g : Nat} (allowed : may (.grace g)) (here : r.ready[index]? = some (.wake g .grace)) :
    Act may r ({ r with ready := r.ready.eraseIdx index }.onCurrent g fun r _ => r.graceOver) := by
  let rest : Robot := { r with ready := r.ready.eraseIdx index }
  by_cases closes : ∃ link closure, r.session = .closing link closure ∧ link.generation = g
  · obtain ⟨link, closure, hs, rfl⟩ := closes
    have there : rest.current? link.generation = some link := current?_eq_some.2 ⟨link?_of_closing hs, rfl⟩
    show Act may r (rest.onCurrent link.generation fun r _ => r.graceOver)
    unfold Robot.onCurrent
    rw [there]
    exact act_graceOver allowed hs here
  · have taken : Act may r rest := by
      refine .taken here (fun link closure hs task => closes ⟨link, closure, hs, ?_⟩) fun _ => nofun
      cases task
      rfl
    refine onCurrent_cases taken fun link hl own => ?_
    obtain hs | ⟨closure, hs⟩ := session_of_link? hl
    · rw [graceOver_of_up hs]
      exact taken
    · exact absurd ⟨link, closure, hs, own⟩ closes

/-- Whatever task runs, it is made of acts. -/
theorem acts_run {index : Nat} {task : Task} (here : r.ready[index]? = some task)
    (writes : ∀ g, task = .write g → may .write) (graces : ∀ g, task = .wake g .grace → may (.grace g)) :
    Acts may r ({ r with ready := r.ready.eraseIdx index }.run task) := by
  have taken (other : ∀ g, task ≠ .wake g .grace) (unfinished : ∀ call, task ≠ .disconnected call) :
      Act may r { r with ready := r.ready.eraseIdx index } :=
    .taken here (fun link _ _ => other link.generation) unfinished
  cases task with
  | connect call => exact .head (taken (fun _ => nofun) fun _ => nofun) (acts_connectCall _ call)
  | dial call => exact .head (taken (fun _ => nofun) fun _ => nofun) (acts_dial _ call)
  | disconnect call => exact .head (taken (fun _ => nofun) fun _ => nofun) (acts_disconnectCall _ call)
  | disconnected call => exact .single (.returned here)
  | write g =>
    exact .head (taken (fun _ => nofun) fun _ => nofun)
      (acts_onCurrent g fun _ hl => .single (act_runWriter (writes g rfl) hl))
  | read g => exact .head (taken (fun _ => nofun) fun _ => nofun) (acts_onCurrent g fun _ _ => acts_runReader _ _)
  | wake g alarm =>
    cases alarm with
    | timer number =>
      refine .head (taken (fun _ => nofun) fun _ => nofun) ?_
      exact acts_onCurrent g (f := fun r link => r.runTimer link number) fun _ hl =>
        acts_tends (gentle_tends.runTimer hl number)
    | sweep => exact .head (taken (fun _ => nofun) fun _ => nofun) (acts_onCurrent g fun _ hl => acts_runSweep hl)
    | grace => exact .single (act_grace (graces g rfl) here)

/-! ## Requests and steps -/

theorem acts_streamMacro (allowed : may .play) (r : Robot) (steps : List Macro.Step) :
    Acts may r (r.streamMacro steps).2 := by
  unfold streamMacro
  split
  · exact .refl
  · next upload progress accepted =>
    -- The notes of the submission come first, but do not touch the upload.
    have submitted (q : Robot) (same : q.upload = r.upload) (noted : TendsLightly r q) :
        Acts may r ((q.note (.macroSubmitted steps.length)).progressMacro upload progress) := by
      obtain ⟨ds, progresses⟩ := progresses_progressMacro (q.note (.macroSubmitted steps.length)) upload progress
      have accepts : (q.note (.macroSubmitted steps.length)).upload.submit steps = .ok (upload, progress) := by
        rw [← accepted, ← same]
        rfl
      exact ((acts_tends noted).trans (acts_tends (tends_note q _ rfl))).tail (.submitted allowed accepts progresses)
    dsimp only
    split
    · exact submitted r.noteAbort rfl (tends_note r _ rfl)
    · exact submitted r rfl (.refl r)

theorem acts_playMacro (allowed : may .play) (r : Robot) (m : Macro) : Acts may r (r.playMacro m).2 := by
  unfold playMacro
  split
  · exact acts_tends (tends_note r _ rfl)
  · split
    · exact acts_tends (tends_storeMacro r _)
    · split
      · exact acts_streamMacro allowed r _
      · exact acts_tends (tends_note r _ rfl)

theorem acts_stopMacro (allowed : may .play) (r : Robot) : Acts may r r.stopMacro := by
  have noted := tends_note r (.macroAborted r.upload.backlog.length r.upload.outstanding) rfl
  exact (acts_tends noted).trans (.head (.aborted allowed) (acts_tends (gentle_tends.enqueueAll _ _)))

theorem acts_ask (r : Robot) (request : Request) (allowed : request.plays = true → may .play) :
    Acts may r (r.ask request).2 := by
  cases request with
  | connect => exact .single (.called (.inl rfl))
  | disconnect => exact .single (.called (.inr rfl))
  | afterMacro command => exact .single (.followed (.inl ⟨command, rfl⟩))
  | cancelAfterMacro => exact .single (.followed (.inr rfl))
  | addListener | registerAgain | removeListener => exact acts_tends (.of_eq rfl rfl rfl rfl)
  | playMacro m =>
    rw [ask_playMacro]
    exact acts_playMacro (allowed rfl) r m
  | stopMacro => exact acts_stopMacro (allowed rfl) r
  | _ => exact acts_tends (gentle_tends.ask r rfl)

theorem acts_askDropped (r : Robot) (request : Request) : Acts may r (r.askDropped request).2 := by
  unfold askDropped
  split
  · exact acts_tends (.of_eq rfl rfl rfl rfl)
  · exact .refl

end Robot

end RobotDriver
