import RobotDriver.Proofs.Robot.Parting
import RobotDriver.Proofs.Robot.Recorded

/-!
# How connections depart

`Parting` ties a driver to its journal as far as the last commands of a connection are concerned: of the connection
that is there, the session and the journal tell the same story, and every connection that has been closed has `Parted`
as it should. Each function of the driver keeps this, one lemma a function.
-/

namespace RobotDriver.Robot

/-- The journal tells how connections have parted. If the channels are willing, so will the next one be. -/
structure Past (w : Prop) (r : Robot) : Prop where
  bound : ∀ d ∈ r.journal, ∀ g, d.begins g = true ∨ d.parts g = true → g ≤ r.generations
  parted : ∀ before g after, r.journal = before ++ .noted (.disconnected g) :: after → Parted w g before
  channel : w → r.dialler.nextSink.Willing

/-- The journal also tells how the connection that is there is served; `owed` confirmations are not counted yet. -/
structure Parting (w : Prop) (owed : Nat) (r : Robot) : Prop extends Past w r where
  served : r.session.Served w owed r.journal

variable {w : Prop} {r s : Robot} {owed due g : Nat} {link : Link} {ds : List Deed}

/-- A journal that grows without the end of a connection. -/
theorem parted_append {journal : List Deed}
    (h : ∀ before g after, journal = before ++ .noted (.disconnected g) :: after → Parted w g before)
    (none : ∀ g, .noted (.disconnected g) ∉ ds) :
    ∀ before g after, journal ++ ds = before ++ .noted (.disconnected g) :: after → Parted w g before := by
  intro before g after e
  rcases List.append_eq_append_iff.1 e with ⟨more, same, tail⟩ | ⟨more, same, tail⟩
  · refine absurd ?_ (none g)
    rw [tail]
    exact List.mem_append_right more List.mem_cons_self
  · cases more with
    | nil =>
      refine absurd ?_ (none g)
      rw [← List.nil_append ds, ← tail]
      exact List.mem_cons_self
    | cons d more =>
      cases tail
      exact h before g more same

/-- One part of the journal further. -/
theorem Past.next (h : Past w r) (journal : s.journal = r.journal ++ ds) (generations : r.generations ≤ s.generations)
    (channel : w → s.dialler.nextSink.Willing)
    (bound : ∀ d ∈ ds, ∀ g, d.begins g = true ∨ d.parts g = true → g ≤ s.generations)
    (none : ∀ g, .noted (.disconnected g) ∉ ds) : Past w s := by
  refine ⟨fun d hd g mark => ?_, ?_, channel⟩
  · rw [journal] at hd
    rcases List.mem_append.1 hd with hd | hd
    · exact Nat.le_trans (h.bound d hd g mark) generations
    · exact bound d hd g mark
  · rw [journal]
    exact parted_append h.parted none

theorem bound_of_isPlain (plain : ∀ d ∈ ds, d.isPlain = true) {n : Nat} :
    ∀ d ∈ ds, ∀ g, d.begins g = true ∨ d.parts g = true → g ≤ n := by
  intro d hd g mark
  simp [Deed.begins_of_isPlain (plain d hd), Deed.parts_of_isPlain (plain d hd)] at mark

theorem not_mem_of_isPlain (plain : ∀ d ∈ ds, d.isPlain = true) (g : Nat) : .noted (.disconnected g) ∉ ds := by
  intro there
  cases plain _ there

theorem Past.plain (h : Past w r) (journal : s.journal = r.journal ++ ds) (generations : s.generations = r.generations)
    (channel : w → s.dialler.nextSink.Willing) (plain : ∀ d ∈ ds, d.isPlain = true) : Past w s :=
  h.next journal (Nat.le_of_eq generations.symm) channel (bound_of_isPlain plain) (not_mem_of_isPlain plain)

/-- The beginning of a connection or of its closing is noted. -/
theorem Past.mark (h : Past w r) {n : Note} (journal : s.journal = r.journal ++ [.noted n])
    (generations : r.generations ≤ s.generations) (channel : w → s.dialler.nextSink.Willing)
    (known : ∀ g, (Deed.noted n).begins g = true ∨ (Deed.noted n).parts g = true → g ≤ s.generations)
    (going : ∀ g, n ≠ .disconnected g) : Past w s := by
  refine h.next journal generations channel (fun d hd => ?_) fun g there => ?_
  · rw [List.mem_singleton.1 hd]
    exact known
  · exact going g (Deed.noted.inj (List.mem_singleton.1 there)).symm

/-- The journal has no mark of a connection that is still to come. -/
theorem Past.unmarked (h : Past w r) (later : r.generations < g) {d : Deed} (hd : d ∈ r.journal) :
    d.begins g = false ∧ d.parts g = false := by
  have old (mark : d.begins g = true ∨ d.parts g = true) : False :=
    Nat.not_lt_of_le (h.bound d hd g mark) later
  exact ⟨Bool.eq_false_iff.2 fun mark => old (.inl mark), Bool.eq_false_iff.2 fun mark => old (.inr mark)⟩

theorem Parting.spares (h : Parting w owed r) (k : Spares r s) : Parting w owed s := by
  obtain ⟨ds, minor, journal⟩ := k.journal
  have plain (d : Deed) (hd : d ∈ ds) : d.isPlain = true := Deed.isPlain_of_isMinor (minor d hd)
  have channel (will : w) : s.dialler.nextSink.Willing := by
    rw [k.nextSink]
    exact h.channel will
  refine ⟨h.plain journal k.generations channel plain, ?_⟩
  rw [journal]
  exact h.served.spared k.session minor

theorem lenient_parting : Lenient fun r s => Parting w owed r → Parting w owed s where
  refl _ := id
  trans first second h := second (first h)
  spare r _ spared h := h.spares (spares_mapLink r spared)
  arrange _ _ _ _ h := h.spares (.of_eq rfl rfl rfl rfl)
  note r _ minor h := h.spares (spares_note r minor)

/-- A channel comes to take bytes in another way. -/
theorem Parting.changeSink (h : Parting w owed r) (hl : r.link? = some link) {sink : Sink}
    (willing : w → sink.Willing) : Parting w owed (r.changeSink sink link) :=
  lenient_parting.changeSink (fun h => ⟨⟨h.bound, h.parted, h.channel⟩, h.served.changeSink hl willing⟩) h

/-! ## The end of a connection -/

/-- A connection is released, and its end is noted and told. -/
theorem Past.release (h : Past w r) {n : Note} (e : Event)
    (marks : ∀ g, (Deed.noted n).begins g = false ∧ (Deed.noted n).parts g = false)
    (fits : ∀ g, n = .disconnected g → Parted w g r.journal) : Parting w due ((r.release.note n).tellEvent e) := by
  refine Parting.spares ?_ (spares_tell _ _)
  rw [release_eq]
  refine ⟨⟨fun d hd g mark => ?_, fun before g after cut => ?_, h.channel⟩, trivial⟩
  · rcases List.mem_append.1 hd with hd | hd
    · exact h.bound d hd g mark
    · rw [List.mem_singleton.1 hd] at mark
      simp [marks g] at mark
  · replace cut : r.journal ++ [.noted n] = before ++ .noted (.disconnected g) :: after := cut
    rcases List.eq_nil_or_concat after with rfl | ⟨others, last, rfl⟩
    · obtain ⟨rfl, same⟩ := List.append_inj' cut rfl
      cases same
      exact fits g rfl
    · rw [List.concat_eq_append, ← List.cons_append, ← List.append_assoc] at cut
      exact h.parted before g others (List.append_inj' cut rfl).1

theorem Past.finishDisconnect (h : Past w r) {closure : Closure} (hs : r.session = .closing link closure)
    (fits : Parted w link.generation r.journal) : Parting w due r.finishDisconnect := by
  unfold Robot.finishDisconnect
  rw [hs]
  refine h.release _ (fun _ => ⟨rfl, rfl⟩) ?_
  rintro g ⟨⟩
  exact fits

/-- A connection that has failed has not been closed. -/
theorem Past.connectionLost (h : Past w r) (cause : TransportError) : Parting w due (r.connectionLost cause) := by
  unfold Robot.connectionLost
  split
  · next hs => exact ⟨h, by rw [hs]; trivial⟩
  · exact h.release _ (fun _ => ⟨rfl, rfl⟩) nofun
  · exact h.release _ (fun _ => ⟨rfl, rfl⟩) nofun

/-- A confirmation is counted. -/
theorem Parting.shutdownEcho (h : Parting w 1 r) : Parting w 0 r.shutdownEcho := by
  unfold Robot.shutdownEcho
  split
  · next link closure hs =>
    have served := h.served
    rw [hs] at served
    obtain ⟨shift, accepted, earlier, departs⟩ := served
    split
    · next echoed =>
      rw [echoed] at departs
      exact h.finishDisconnect hs departs.ends
    · next first =>
      refine ⟨⟨h.bound, h.parted, h.channel⟩, shift, accepted, earlier, { departs with count := ?_ }⟩
      have one := departs.count
      rw [if_neg first] at one
      exact one
  · next other =>
    refine ⟨h.toPast, ?_⟩
    have served := h.served
    cases hs : r.session with
    | down => trivial
    | up link =>
      rw [hs] at served
      exact served
    | closing link closure => exact absurd hs (other link closure)

theorem Parting.graceOver (h : Parting w owed r) : Parting w owed r.graceOver := by
  refine graceOver_cases h (fun link closure hs _ => ?_) fun link closure hs _ => ?_
  · have noted := h.spares (spares_note r (n := .shutdownUnconfirmed link.generation r.settings.disconnectGrace) rfl)
    refine noted.finishDisconnect hs fun confirmed => ?_
    have last : (r.note (.shutdownUnconfirmed link.generation r.settings.disconnectGrace)).journal.getLast? =
        some (.noted (.shutdownUnconfirmed link.generation r.settings.disconnectGrace)) :=
      List.getLast?_concat
    exact absurd last (confirmed _)
  · refine h.spares ⟨?_, rfl, rfl, [], by simp, (List.append_nil _).symm⟩
    rw [hs]
    exact .closing (.of_writer rfl rfl rfl) rfl

/-! ## The beginning of the end -/

/-- A forced command enters the queue of a connection that is being closed. -/
theorem force_of_closing {closure : Closure} (hs : r.session = .closing link closure)
    (attended : link.writer.outbox.attended = true) (command : Command) :
    ∃ tasks, (∀ task ∈ tasks, isCall task = false) ∧ r.force command = { r with
      session := .closing (link.withOutbox { link.outbox with queue := link.outbox.queue ++ [⟨command, true⟩] }) closure
      ready := r.ready ++ tasks } := by
  have there : r.link? = some link := link?_of_closing hs
  have entered : link.outbox.force command =
      .ok { link.outbox with queue := link.outbox.queue ++ [⟨command, true⟩] } := by
    simp [Outbox.force, Outbox.push, Link.outbox, attended]
  have same (t : Robot) : t = { t with ready := t.ready ++ [] } := by rw [List.append_nil]
  unfold Robot.force
  rw [there]
  simp only [entered, requeue, withLink, mapLink, hs, Session.mapLink]
  split
  · unfold rouse
    split
    · exact ⟨[], by simp, same _⟩
    · exact ⟨[.write link.generation], by simp [isCall], rfl⟩
  · exact ⟨[], by simp, same _⟩

/-- The connection when its closing has begun: the gate is shut, and the two last commands are in the queue. -/
def partingLink (link : Link) : Link :=
  link.shut.withOutbox { link.outbox with queue := link.outbox.queue ++ finals, accepting := false }

theorem beginDisconnect_eq (r : Robot) (attended : link.writer.outbox.attended = true) (waiter : Option Nat) :
    ∃ tasks, (∀ task ∈ tasks, isCall task = false) ∧ r.beginDisconnect link waiter = { r with
      session := .closing (partingLink link) { waiter }
      journal := r.journal ++ [.noted (.disconnecting link.generation)]
      ready := r.ready ++ (tasks ++ [.wake link.generation .grace]) } := by
  let shut : Robot := { r with session := .closing link.shut { waiter } }
  obtain ⟨tasks, free, stopped⟩ := force_of_closing (r := shut) rfl attended finalStop
  let queued : Link :=
    link.shut.withOutbox { link.shut.outbox with queue := link.shut.outbox.queue ++ [⟨finalStop, true⟩] }
  have second : (shut.force finalStop).session = .closing queued { waiter } := by rw [stopped]
  obtain ⟨more, free', dark⟩ := force_of_closing second attended finalDark
  refine ⟨tasks ++ more, fun task there => (List.mem_append.1 there).elim (free task) (free' task), ?_⟩
  have both : r.beginDisconnect link waiter =
      (((shut.force finalStop).force finalDark).note (.disconnecting link.generation)).spawn
        (.wake link.generation .grace) := rfl
  have queue : (link.outbox.queue ++ [⟨finalStop, true⟩]) ++ [⟨finalDark, true⟩] = link.outbox.queue ++ finals :=
    List.append_assoc _ _ _
  rw [both, dark, stopped, partingLink, ← queue, ← List.append_assoc, ← List.append_assoc]
  rfl

/-- The two last commands enter the queue behind everything that it has accepted. -/
theorem serves_partingLink {life : List Deed} {shift : Outbox.Shift} (h : link.Serves w life shift) :
    (partingLink link).Serves w life
      { shift with writer := (partingLink link).writer, accepted := shift.accepted ++ finals } := by
  let later := ((shift.move .close).move (.force finalStop)).move (.force finalDark)
  have kept : later.Kept := ((h.kept.move .close).move (.force finalStop)).move (.force finalDark)
  have forced : later = { shift with
      writer := (partingLink link).writer
      accepted := shift.accepted ++ finals } := by
    simp [later, Outbox.Shift.move, Outbox.Shift.accept, Outbox.force, Outbox.push, h.writer, h.attended,
      Outbox.close, partingLink, Link.withOutbox, Link.outbox, Link.shut, finals]
  rw [forced] at kept
  exact ⟨rfl, kept, h.live, h.attended, h.wire, h.registered, h.channel, h.waits⟩

/-- A connection whose closing has just begun has accepted the two last commands and nothing after them. -/
theorem departs_partingLink {journal : List Deed} {shift : Outbox.Shift}
    (begun : ∃ d ∈ journal, d.begins link.generation = true) (apart : ∀ d ∈ journal, d.parts link.generation = false)
    (serves : link.Serves w (since (Deed.begins link.generation) journal) shift) :
    ∃ shift accepted earlier, (partingLink link).Departs w false 0
      (journal ++ [.noted (.disconnecting link.generation)]) shift accepted earlier := by
  have here : (Deed.noted (.disconnecting link.generation)).parts link.generation = true := by simp [Deed.parts]
  have closing := since_concat apart here
  have life := since_append begun [.noted (.disconnecting link.generation)]
  have generation : (partingLink link).generation = link.generation := rfl
  have served : (partingLink link).Serves w
      (since (Deed.begins link.generation) journal ++ [.noted (.disconnecting link.generation)]) _ :=
    (serves_partingLink serves).extend rfl rfl (by simp)
  rw [← life] at served
  obtain ⟨d, hd, first⟩ := begun
  obtain ⟨rest, live⟩ := Option.ne_none_iff_exists'.1 serves.live
  have pending := serves.kept.pending rest (by rw [serves.writer, live])
  refine ⟨_, shift.accepted, since (Deed.begins link.generation) journal, ⟨d, List.mem_append_left _ hd, first⟩,
    ⟨_, List.mem_append_right _ List.mem_cons_self, here⟩, served, ⟨.disconnecting link.generation, ?_⟩, rfl, rfl,
    ?_, ?_, fun _ => .inl ?_, ?_⟩
  · rw [generation, life, closing]
  · rw [generation, serves.registered]
    exact serves.kept.order
  · rw [generation, serves.wire, serves.registered]
    exact ⟨rest, pending⟩
  · rw [generation, closing]
    rfl
  · rw [generation, closing]
    rfl

theorem Parting.beginDisconnect (h : Parting w owed r) (hs : r.session = .up link) (waiter : Option Nat) :
    Parting w 0 (r.beginDisconnect link waiter) := by
  have served := h.served
  rw [hs] at served
  obtain ⟨begun, apart, shift, serves⟩ := served
  obtain ⟨tasks, -, begins⟩ := r.beginDisconnect_eq serves.attended waiter
  obtain ⟨d, hd, first⟩ := begun
  have known : link.generation ≤ r.generations := h.bound d hd link.generation (.inl first)
  rw [begins]
  refine ⟨h.mark rfl (Nat.le_refl _) h.channel (fun g mark => ?_) (by simp), ?_⟩
  · have same : link.generation = g := by simpa [Deed.begins, Deed.parts] using mark
    exact Nat.le_trans (Nat.le_of_eq same.symm) known
  · exact departs_partingLink ⟨d, hd, first⟩ apart serves

/-! ## Reading -/

theorem Parting.closeBeforeSleep (h : Parting w 0 r) (command : Command) :
    Parting w 0 (r.closeBeforeSleep command) := by
  unfold Robot.closeBeforeSleep
  split
  · next hs => exact h.beginDisconnect hs none
  · next hs => exact h.beginDisconnect hs none
  · exact h

/-- The number of confirmations in the answer to a command that the robot accepts. -/
def echoes (command : Command) : Nat :=
  if isEcho command then 1 else 0

theorem Parting.confirm {entry : InFlight.Entry} (h : Parting w (echoes entry.command) r) (body : Response.Body) :
    Parting w 0 (r.confirm entry body) := by
  have counted : Parting w 0 (if isEcho entry.command then r.shutdownEcho else r) := by
    unfold echoes at h
    split
    · next echo =>
      rw [if_pos echo] at h
      exact h.shutdownEcho
    · next other =>
      rw [if_neg other] at h
      exact h
  exact (counted.spares (spares_updateName _ entry body)).closeBeforeSleep entry.command

/-- The number of confirmations in an answer. -/
def confirmations (entry : InFlight.Entry) (packet : Packet) : Nat :=
  if (Response.decode entry.command.kind packet).status.isOk then echoes entry.command else 0

theorem Parting.handleAnswer {entry : InFlight.Entry} {packet : Packet}
    (h : Parting w (confirmations entry packet) r) : Parting w 0 (r.handleAnswer entry packet) := by
  unfold Robot.handleAnswer
  dsimp only
  let matched : Note := .responseMatched (Response.decode entry.command.kind packet) entry.system
  have noted := h.spares ((spares_note r (n := matched) rfl).trans
    (spares_noteDamage _ entry (Response.decode entry.command.kind packet).body))
  generalize (r.note _).noteDamage entry _ = s at noted
  have next : Parting w 0
      (if (Response.decode entry.command.kind packet).status.isOk
        then s.confirm entry (Response.decode entry.command.kind packet).body
        else s.note (.commandRejected (Response.decode entry.command.kind packet).status entry.command)) := by
    unfold confirmations at noted
    split
    · next ok =>
      rw [if_pos ok] at noted
      exact noted.confirm _
    · next rejected =>
      rw [if_neg rejected] at noted
      exact noted.spares (spares_note _ rfl)
  split
  · exact next
  · exact next.spares (spares_tell _ _)

/-- An answer to a command of the connection owes the confirmation that it holds. -/
theorem Parting.answered (h : Parting w 0 r) (hl : r.link? = some link) (inFlight : InFlight) (entry : InFlight.Entry)
    (packet : Packet) : Parting w (confirmations entry packet)
      ({ r with inFlight }.record (.answered link.generation entry packet)) := by
  refine ⟨h.next (rfl : _ = r.journal ++ [.answered link.generation entry packet]) (Nat.le_refl _) h.channel
    (by simp [Deed.begins, Deed.parts]) (by simp), ?_⟩
  have served := h.served
  have one : [Deed.answered link.generation entry packet].countP (Deed.confirms link.generation) =
      confirmations entry packet := by
    cases echo : isEcho entry.command <;>
      cases ok : (Response.decode entry.command.kind packet).status.isOk <;>
        simp [Deed.confirms, confirmations, echoes, echo, ok]
  show r.session.Served w _ (r.journal ++ [.answered link.generation entry packet])
  obtain hs | ⟨closure, hs⟩ := session_of_link? hl
  · rw [hs] at served ⊢
    obtain ⟨⟨d, hd, begun⟩, apart, shift, serves⟩ := served
    refine ⟨⟨d, List.mem_append_left _ hd, begun⟩, fun e he => ?_, shift, ?_⟩
    · rcases List.mem_append.1 he with he | he
      · exact apart e he
      · rw [List.mem_singleton.1 he]
        rfl
    · rw [since_append ⟨d, hd, begun⟩]
      exact serves.extend rfl rfl (by simp)
  · rw [hs] at served ⊢
    obtain ⟨shift, accepted, earlier, departs⟩ := served
    refine ⟨shift, accepted, earlier, departs.grow rfl (departs.serves.extend rfl rfl (by simp)) rfl departs.gate
      (fun rests => ?_) ?_⟩
    · have none : registeredItems link.generation [.answered link.generation entry packet] = [] := rfl
      rw [registeredItems_append, none, List.append_nil]
      exact departs.rest rests
    · rw [List.countP_append, one, departs.count]
      rfl

theorem Parting.handleResponse (h : Parting w 0 r) (hl : r.link? = some link) (packet : Packet) :
    Parting w 0 (r.handleResponse link.generation packet) := by
  unfold Robot.handleResponse
  split
  · exact h.spares ((spares_note r rfl).trans (spares_tell _ _))
  · next entry inFlight _ => exact (h.answered hl inFlight entry packet).handleAnswer

theorem Parting.handlePacket (h : Parting w 0 r) (hl : r.link? = some link) (packet : Packet) :
    Parting w 0 (r.handlePacket link.generation packet) := by
  have received := h.spares (spares_record r (d := .received link.generation packet) rfl)
  unfold Robot.handlePacket
  dsimp only
  split
  · exact received.spares (spares_note _ rfl)
  · exact received.handleResponse hl packet
  · exact received.spares (spares_handleInformation _ packet)

theorem Parting.handleFrame (h : Parting w 0 r) (hl : r.link? = some link) (frame : Frame) :
    Parting w 0 (r.handleFrame link.generation frame) := by
  cases frame with
  | skipped header => exact h.spares (spares_note r rfl)
  | packet packet => exact h.handlePacket hl packet

theorem Parting.handleFrames (h : Parting w 0 r) (n : Nat) (frames : List Frame) :
    Parting w 0 (r.handleFrames n frames) :=
  handleFrames_induction h (fun _ _ frame h hl => h.handleFrame hl frame) frames

theorem Parting.handleArrival (h : Parting w 0 r) (link : Link) (arrival : Arrival) :
    Parting w 0 (r.handleArrival link arrival) := by
  have took := h.spares (spares_record r (d := .took link.generation arrival) rfl)
  unfold Robot.handleArrival
  cases arrival with
  | bytes chunk =>
    refine Parting.handleFrames ?_ _ _
    exact took.spares (spares_mapLink _ fun _ _ => .of_writer rfl rfl rfl)
  | ended => exact took.toPast.connectionLost _
  | failed fault => exact took.toPast.connectionLost _

theorem Parting.runReader (h : Parting w 0 r) (link : Link) : Parting w 0 (r.runReader link) := by
  have taken := h.spares (spares_mapLink r (f := fun link => { link with inbox := [] }) fun _ _ =>
    .of_writer rfl rfl rfl)
  exact runReader_induction taken fun _ here arrival h _ => h.handleArrival here arrival

/-! ## Writing -/

theorem foldl_register (g : Nat) (items : List Outbox.Item) (r : Robot) :
    items.foldl (register g) r = { r with
      inFlight := ⟨r.inFlight.entries ++ items.map fun item => ⟨item.command, item.system, r.clock⟩⟩
      journal := r.journal ++ items.map fun item => .registered g ⟨item.command, item.system, r.clock⟩ } := by
  induction items generalizing r with
  | nil => simp
  | cons item items ih =>
    rw [List.foldl_cons, ih]
    simp [register, InFlight.register, record, recordAll]

/-- What the writer has done is told in the journal. -/
theorem takeEmission_tells (link : Link) (r : Robot) (e : Outbox.Emission) :
    ∃ ds, link.Tells [e] ds ∧ r.takeEmission link e = { r with
      inFlight := ⟨r.inFlight.entries ++ registrations link.generation ds⟩
      journal := r.journal ++ ds } := by
  have unchanged (d : Deed) (h : d.registered? link.generation = none) : r.record d = { r with
      inFlight := ⟨r.inFlight.entries ++ registrations link.generation [d]⟩
      journal := r.journal ++ [d] } := by
    have none : registrations link.generation [d] = [] := List.filterMap_cons_none h
    rw [none, List.append_nil]
    rfl
  cases e with
  | dropped command error =>
    exact ⟨[.noted (.unencodable error command)], ⟨by simp [Deed.isWriters], rfl, rfl, by simp⟩, unchanged _ rfl⟩
  | registered batch =>
    let ds := batch.map fun item => Deed.registered link.generation ⟨item.command, item.system, r.clock⟩
    have entries : registrations link.generation ds = batch.map fun item => ⟨item.command, item.system, r.clock⟩ := by
      simp [ds, registrations, List.filterMap_map, Function.comp_def, Deed.registered?]
    refine ⟨ds, ⟨by simp [ds, Deed.isWriters], ?_, ?_, by simp [ds]⟩, ?_⟩
    · exact List.flatMap_eq_nil_iff.2 (by simp [ds, Deed.bytes])
    · simp [registeredItems, entries, Outbox.batches, Function.comp_def]
    · rw [entries]
      exact foldl_register link.generation batch r
  | wrote bytes =>
    exact ⟨[.wrote link.channel bytes], ⟨by simp [Deed.isWriters], rfl, rfl, by simp⟩, unchanged _ rfl⟩

theorem takeEmissions_tells (link : Link) (es : List Outbox.Emission) (r : Robot) :
    ∃ ds, link.Tells es ds ∧ es.foldl (takeEmission link) r = { r with
      inFlight := ⟨r.inFlight.entries ++ registrations link.generation ds⟩
      journal := r.journal ++ ds } := by
  induction es generalizing r with
  | nil => exact ⟨[], ⟨by simp, rfl, rfl, by simp⟩, by simp [registrations]⟩
  | cons e es ih =>
    obtain ⟨ds, first, taken⟩ := takeEmission_tells link r e
    obtain ⟨more, rest, all⟩ := ih (r.takeEmission link e)
    refine ⟨ds ++ more, first.append rest, ?_⟩
    rw [List.foldl_cons, all, taken, registrations_append]
    simp only [List.append_assoc]

/-- A writer that fails ends the connection. -/
theorem Past.checkWriter (h : Past w r) (g : Nat) {activity : Outbox.Activity}
    (served : (∀ fault, activity ≠ .ended (some fault)) → r.session.Served w 0 r.journal) :
    Parting w 0 (r.checkWriter g activity) := by
  unfold Robot.checkWriter
  split
  · next fault =>
    have halted : Past w (r.record (.halted g fault)) := h.plain rfl rfl h.channel (by simp [Deed.isPlain])
    exact halted.connectionLost _
  · next going => exact ⟨h, served going⟩

theorem Parting.runWriter (h : Parting w 0 r) (hl : r.link? = some link) : Parting w 0 (r.runWriter link) := by
  unfold Robot.runWriter
  dsimp only
  obtain ⟨ds, tells, taken⟩ := takeEmissions_tells link (link.writer.work false false).2
    (r.withLink { link with writer := (link.writer.work false false).1 })
  rw [taken]
  refine Past.checkWriter ?_ _ fun going => ?_
  · exact h.toPast.plain rfl rfl h.channel tells.plain
  · exact h.served.work hl going tells

/-! ## The beginning of a connection -/

theorem Parting.withGenerations (h : Parting w owed r) {n : Nat} (later : r.generations ≤ n) :
    Parting w owed { r with generations := n } :=
  ⟨h.next (List.append_nil _).symm later h.channel (by simp) (by simp), h.served⟩

/-- A new connection has done nothing yet: what it has accepted is in its queue. -/
theorem serves_new {link next : Link} (fresh : link.writer.activity = .waiting) (outbox : link.writer.outbox = {})
    (sink : w → link.writer.sink.Willing) (spared : link.Spared next) :
    ∃ shift, next.Serves w [] shift ∧ shift.accepted = next.writer.outbox.queue := by
  have kept : Outbox.Shift.Kept { writer := link.writer } := Outbox.Shift.kept_fresh _ fresh (by rw [outbox])
  have live : link.writer.activity.pending ≠ none := by
    rw [fresh]
    exact nofun
  have serves : link.Serves w [] { writer := link.writer } :=
    ⟨rfl, kept, live, by rw [outbox], rfl, rfl, by simp, fun will => ⟨sink will, fresh⟩⟩
  obtain ⟨shift, entered, served, accepted, queue, -⟩ := serves.spared spared (List.forall_mem_nil _)
  rw [outbox] at queue
  exact ⟨shift, served, accepted.trans queue.symm⟩

/-- A connection that has just begun, although its first commands are in the queue. -/
theorem served_connected {link next : Link} {journal : List Deed} {hardware : String} (spared : link.Spared next)
    (fresh : link.writer.activity = .waiting) (outbox : link.writer.outbox = {}) (sink : w → link.writer.sink.Willing)
    (unmarked : ∀ d ∈ journal, d.begins link.generation = false ∧ d.parts link.generation = false) :
    (Session.up next).Served w 0 (journal ++ [.noted (.connected hardware link.generation)]) := by
  obtain ⟨shift, serves, -⟩ := serves_new fresh outbox sink spared
  rw [← spared.generation] at unmarked ⊢
  have here : (Deed.noted (.connected hardware next.generation)).begins next.generation = true := by
    simp [Deed.begins]
  refine ⟨⟨_, List.mem_append_right _ List.mem_cons_self, here⟩, fun d hd => ?_, shift, ?_⟩
  · rcases List.mem_append.1 hd with hd | hd
    · exact (unmarked d hd).2
    · rw [List.mem_singleton.1 hd]
      rfl
  · rw [since_concat (fun d hd => (unmarked d hd).1) here]
    exact serves

/-- A connection begins when its first commands are queued; until then the journal does not know of it. -/
theorem Parting.begin (h : Parting w owed r) {opened : Robot} (launched : Spares opened s)
    (hs : opened.session = .up link) (fresh : link.writer.activity = .waiting) (outbox : link.writer.outbox = {})
    (sink : w → link.writer.sink.Willing) (next : opened.dialler.nextSink = r.dialler.nextSink)
    (generation : link.generation = r.generations + 1) (counted : opened.generations = r.generations + 1)
    (journal : opened.journal = r.journal) (hardware : String) :
    Parting w 0 (s.note (.connected hardware (r.generations + 1))) := by
  obtain ⟨ds, minor, grown⟩ := launched.journal
  have plain (d : Deed) (hd : d ∈ ds) : d.isPlain = true := Deed.isPlain_of_isMinor (minor d hd)
  have generations : s.generations = r.generations + 1 := launched.generations.trans counted
  rw [journal] at grown
  have channel (will : w) : s.dialler.nextSink.Willing := by
    rw [launched.nextSink, next]
    exact h.channel will
  have past : Past w s :=
    h.toPast.next grown (by omega) channel (bound_of_isPlain plain) (not_mem_of_isPlain plain)
  have unmarked (d : Deed) (hd : d ∈ s.journal) :
      d.begins (r.generations + 1) = false ∧ d.parts (r.generations + 1) = false := by
    rw [grown] at hd
    rcases List.mem_append.1 hd with hd | hd
    · exact h.unmarked (Nat.lt_succ_self _) hd
    · exact ⟨Deed.begins_of_isPlain (plain d hd) _, Deed.parts_of_isPlain (plain d hd) _⟩
  refine ⟨past.mark rfl (Nat.le_refl _) channel (fun g mark => ?_) (by simp), ?_⟩
  · have same : r.generations + 1 = g := by simpa [Deed.begins, Deed.parts] using mark
    exact Nat.le_of_eq (same.symm.trans generations.symm)
  · show s.session.Served w 0 (s.journal ++ [.noted (.connected hardware (r.generations + 1))])
    rw [← generation] at unmarked ⊢
    have session := launched.session
    rw [hs] at session
    generalize s.session = now at session ⊢
    cases session with
    | up spared => exact served_connected spared fresh outbox sink unmarked

theorem Parting.start (h : Parting w 0 r) (channel : Nat) {sink : Sink} (willing : w → sink.Willing) :
    Parting w 0 (r.start channel sink).2 := by
  unfold Robot.start
  dsimp only
  split
  · exact (h.withGenerations (Nat.le_succ _)).spares (spares_note _ rfl)
  · let counted : Robot := { r with generations := r.generations + 1 }
    have launched := lenient_spares.launch (counted.install (counted.newLink (r.generations + 1) channel sink))
      (r.generations + 1)
    have begun := h.begin launched rfl rfl rfl willing rfl rfl rfl rfl r.address.digits
    exact begun.spares (spares_tell _ _)

/-! ## Tasks -/

theorem Parting.finish (h : Parting w owed r) (call : Nat) (outcome : Outcome) :
    Parting w owed (r.finish call outcome) :=
  h.spares (spares_record r rfl)

/-- The channel after the next one behaves as channels do at first. -/
theorem Parting.takeChannel (h : Parting w owed r) : Parting w owed r.takeChannel.2.2 :=
  ⟨h.next (List.append_nil _).symm (Nat.le_refl _) (fun _ => trivial) (by simp) (by simp), h.served⟩

theorem Parting.dial (h : Parting w 0 r) (call : Nat) : Parting w 0 (r.dial call) := by
  unfold Robot.dial
  split
  · exact (h.spares ((spares_note r rfl).trans (spares_tell _ _))).finish call _
  · exact (h.takeChannel.start _ h.channel).finish call _

theorem Parting.connectCall (h : Parting w 0 r) (call : Nat) : Parting w 0 (r.connectCall call) := by
  unfold Robot.connectCall
  split
  · exact (h.spares (spares_note r rfl)).finish call _
  · dsimp only
    have dialled : Parting w 0 (r.note (.connecting r.address.digits)).noteDialled :=
      h.spares ((spares_note r rfl).trans (.of_eq rfl rfl rfl rfl))
    split
    · exact dialled.spares (.of_eq rfl rfl rfl rfl)
    · exact dialled.dial call

theorem Parting.disconnectCall (h : Parting w 0 r) (call : Nat) : Parting w 0 (r.disconnectCall call) := by
  unfold Robot.disconnectCall
  split
  · next hs => exact h.beginDisconnect hs (some call)
  · exact (h.spares ((spares_note r rfl).trans (spares_tell _ _))).finish call _

theorem Parting.onCurrent (h : Parting w 0 r) (n : Nat) {f : Robot → Link → Robot}
    (hf : ∀ link, r.link? = some link → Parting w 0 (f r link)) : Parting w 0 (r.onCurrent n f) :=
  onCurrent_cases h fun link hl _ => hf link hl

theorem Parting.runAlarm (h : Parting w 0 r) (hl : r.link? = some link) (alarm : Alarm) :
    Parting w 0 (r.runAlarm link alarm) := by
  cases alarm with
  | timer task => exact h.spares (lenient_spares.runTimer hl task)
  | sweep => exact h.spares (spares_runSweep hl)
  | grace => exact h.graceOver

theorem Parting.run (h : Parting w 0 r) (task : Task) : Parting w 0 (r.run task) := by
  cases task with
  | connect call => exact h.connectCall call
  | dial call => exact h.dial call
  | disconnect call => exact h.disconnectCall call
  | disconnected call => exact h.finish call _
  | write n => exact h.onCurrent n fun _ hl => h.runWriter hl
  | read n => exact h.onCurrent n fun link _ => h.runReader link
  | wake n alarm => exact h.onCurrent n (f := fun r link => r.runAlarm link alarm) fun _ hl => h.runAlarm hl alarm

/-! ## Runs -/

theorem Parting.withReady (h : Parting w owed r) (tasks : List Task) : Parting w owed { r with ready := tasks } :=
  h.spares (.of_eq rfl rfl rfl rfl)

theorem Parting.turns (n : Nat) (h : Parting w 0 r) : Parting w 0 (turns n r) := by
  induction n generalizing r with
  | zero => exact h
  | succ n ih =>
    unfold Robot.turns
    split
    · exact h
    · next task others _ => exact ih ((h.withReady others).run task)

theorem Parting.settle (h : Parting w 0 r) : Parting w 0 r.settle :=
  h.turns _

theorem Parting.advance (h : Parting w 0 r) (ms : Nat) : Parting w 0 (r.advance ms) := by
  have later : Parting w 0 { r with clock := r.clock + ms } := h.spares (.of_eq rfl rfl rfl rfl)
  exact later.settle.spares (lenient_spares.ring _)

theorem Parting.quit (h : Parting w 0 r) : Parting w 0 r.quit := by
  have same : r.quit.generations = r.generations ∧ r.quit.dialler.nextSink = r.dialler.nextSink := by
    rw [quit_eq]
    exact ⟨rfl, rfl⟩
  have farewell (d : Deed) (hd : d ∈ r.session.phase.farewell) : ∃ g, d = .noted (.handleDropped g) := by
    obtain ⟨g, -, rfl⟩ := List.mem_map.1 hd
    exact ⟨g, rfl⟩
  refine ⟨h.toPast.next (journal_quit r) (Nat.le_of_eq same.1.symm) (same.2 ▸ h.channel) ?_ ?_, trivial⟩
  · intro d hd g mark
    obtain ⟨n, rfl⟩ := farewell d hd
    simp [Deed.begins, Deed.parts] at mark
  · intro g there
    obtain ⟨n, other⟩ := farewell _ there
    cases other

mutual

theorem Parting.perform {r : Robot} (h : Parting w 0 r) (step : Step) (willing : w → step.Willing) :
    Parting w 0 (r.perform step).2 := by
  cases step with
  | ask request =>
    simp only [Robot.perform]
    split
    · exact h.spares (spares_askDropped r request)
    · exact h.spares (spares_ask r request)
  | cancelTask task => exact h.spares (lenient_spares.cancelPlan r task)
  | arrive channel arrivals =>
    exact h.spares (lenient_spares.onChannel r channel (f := fun r link => r.arrive arrivals link) fun _ hl =>
      lenient_spares.arrive hl arrivals)
  | changeSink sink =>
    exact lenient_parting.onChannel r none (f := fun r link => r.changeSink sink link)
      (fun _ hl h => h.changeSink hl willing) h
  | changeNextSink sink => exact ⟨⟨h.bound, h.parted, willing⟩, h.served⟩
  | refuse | hold | release => exact h.spares (.of_eq rfl rfl rfl rfl)
  | advance ms => exact h.advance ms
  | group steps =>
    simp only [Robot.perform]
    exact h.performAll steps willing
  | drop =>
    simp only [Robot.perform, Robot.drop]
    split
    · exact h
    · exact (h.spares (spares_abandonCalls r)).settle.quit
  | tasks | dialled | settle => exact h

theorem Parting.performAll {r : Robot} (h : Parting w 0 r) (steps : List Step)
    (willing : w → Step.AllWilling steps) : Parting w 0 (r.performAll steps).2 := by
  cases steps with
  | nil => exact h
  | cons step steps =>
    simp only [Robot.performAll]
    exact (h.perform step fun will => (willing will).1).performAll steps fun will => (willing will).2

end

theorem Parting.move (h : Parting w 0 r) (m : Move) (willing : w → m.Willing) : Parting w 0 (r.move m) := by
  cases m with
  | perform step => exact h.perform step willing
  | run index =>
    simp only [Robot.move]
    split
    · exact h
    · exact (h.withReady _).run _
  | tick ms => exact h.spares (.of_eq rfl rfl rfl rfl)
  | ring => exact h.spares (lenient_spares.ring r)
  | abandon => exact h.spares (spares_abandonCalls r)
  | quit => exact h.quit

theorem Parting.after (moves : List Move) (willing : w → ∀ m ∈ moves, m.Willing) (h : Parting w 0 r) :
    Parting w 0 (r.after moves) := by
  induction moves generalizing r with
  | nil => exact h
  | cons m moves ih =>
    refine ih (fun will m' later => willing will m' (List.mem_cons_of_mem m later)) ?_
    exact h.move m fun will => willing will m List.mem_cons_self

theorem parting_make {address : String} {settings : Settings} (made : make address settings = .ok r) :
    Parting w 0 r := by
  obtain ⟨address, rfl⟩ := eq_of_make made
  exact ⟨⟨by simp, by simp, fun _ => trivial⟩, trivial⟩

end RobotDriver.Robot
