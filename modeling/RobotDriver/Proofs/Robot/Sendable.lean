import RobotDriver.Proofs.Robot.Playing
import RobotDriver.Proofs.Robot.Submitting

/-!
# A macro produces nothing that cannot be sent

A macro is refused by the bytes that it takes, its commands by the bytes that they carry. `fill_bounded` goes from one
to the other: a chunk, its marker included, is within the limits, and three bytes at most go with it into a command.
`Admits` says which items enter a queue, so that what a submitted macro and its markers bring to the queue of a connection
are these commands, and none of them is left out when it is written.
-/

namespace RobotDriver

/-- The command fits a packet, so that the encoder accepts it. -/
structure Command.Sendable (c : Command) : Prop where
  fits : c.data.length ≤ 254
  encoded : c.encode = .ok c.toBytes

theorem Command.sendable_of_le {c : Command} (fits : c.data.length ≤ 254) : c.Sendable :=
  ⟨fits, encode_of_encodable fits⟩

namespace Macro

/-- A macro that cannot be uploaded: stored in one piece it is too long, or it is to be streamed and one of its steps
leaves no room for a marker. -/
def Unfit (m : Macro) (settings : Settings) : Prop :=
  (m.mode = .normal ∧ 253 < m.toBytes.length) ∨
    (m.mode = .streaming ∧ settings.macroStreaming = true ∧ ∃ step ∈ m.steps, 98 < step.length)

namespace Upload

variable {u v : Upload} {c : Command} {steps : List Step} {progress : Progress}

/-! ## The commands of an upload -/

theorem length_chunkCommand_le (u : Upload) (steps rest : List Step) :
    (u.chunkCommand steps rest).data.length ≤ stepsLength steps + u.marker.length + 3 := by
  simp only [chunkCommand, Command.data, List.length_cons, List.length_append, length_stepBytes,
    u.marker.length_toBytes]
  split <;> simp only [List.length_cons, List.length_nil] <;> omega

theorem fillOnce_bounded (h : u.fillOnce = (v, some c)) : c.data.length ≤ u.limits.maxChunk + 3 := by
  obtain ⟨-, bytes, rfl, -⟩ := fillOnce_eq_some h
  have fits := splitFitting_fits u.cap u.marker.length u.backlog (ne_nil_of_stepsLength bytes)
  have within : u.cap ≤ u.limits.maxChunk := Nat.min_le_right _ _
  have carried := u.length_chunkCommand_le (splitFitting u.cap u.marker.length u.backlog).1
    (splitFitting u.cap u.marker.length u.backlog).2
  omega

/-- A chunk is within the limits, and its id, its flags and the end of the macro may go with it. -/
theorem fill_bounded (u : Upload) : ∀ c ∈ u.fill.2, c.data.length ≤ u.limits.maxChunk + 3 := by
  induction u using fill.induct with
  | case1 u v none => simp [fill_of_none none]
  | case2 u v c some _ _ _ ih =>
    obtain ⟨rest, size, rfl, -⟩ := fillOnce_of_some some
    rw [fill_of_some some]
    exact List.forall_mem_cons.2 ⟨fillOnce_bounded some, ih⟩

theorem acknowledge_bounded (u : Upload) : ∀ c ∈ u.acknowledge.2.uploads, c.data.length ≤ u.limits.maxChunk + 3 := by
  cases running : u.running with
  | false => simp [acknowledge, running]
  | true =>
    rw [acknowledge_eq running]
    exact fill_bounded u.released

theorem submit_bounded (sound : u.Sound) (accepted : u.submit steps = .ok (v, progress)) :
    ∀ c ∈ progress.uploads, c.data.length ≤ u.limits.maxChunk + 3 := by
  obtain ⟨-, -, uploads, -⟩ := submit_eq sound accepted
  rw [uploads, List.forall_mem_append]
  refine ⟨fun c aborts => ?_, fill_bounded (u.started steps)⟩
  split at aborts
  · rw [List.mem_singleton.1 aborts]
    exact Nat.zero_le _
  · cases aborts

/-- A macro is refused for a step that leaves no room for the marker, and for nothing else. -/
theorem submit_error_iff : (∃ e, u.submit steps = .error e) ↔
    ∃ step ∈ steps, u.limits.maxChunk < step.length + u.marker.length := by
  have found : (u.oversized? steps).isSome ↔ ∃ step ∈ steps, u.limits.maxChunk < step.length + u.marker.length := by
    simp [oversized?, List.find?_isSome]
  rw [← found]
  unfold submit
  cases u.oversized? steps with
  | none => exact iff_of_false (fun ⟨e, refused⟩ => by cases refused) Bool.false_ne_true
  | some step => exact iff_of_true ⟨_, rfl⟩ rfl

end Upload

end Macro

/-! ## What enters a queue -/

namespace Outbox

/-- Of items that are offered all enter the queue, or none. -/
theorem queue_foldl_offer (items : List Item) (o : Outbox) :
    ∃ more, (items.foldl offer o).queue = o.queue ++ more ∧ ∀ item ∈ more, item ∈ items := by
  by_cases opened : o.accepting = true ∧ o.attended = true
  · refine ⟨items, ?_, fun _ present => present⟩
    rw [foldl_offer_of_open items opened.1 opened.2]
  · refine ⟨[], ?_, nofun⟩
    have same : items.foldl offer o = o := by
      induction items with
      | nil => rfl
      | cons item items ih => rw [List.foldl_cons, offer_eq, if_neg opened, ih]
    rw [same, List.append_nil]

end Outbox

namespace Robot

variable {may : Outbox.Item → Prop} {r s t : Robot} {m : Macro} {items : List Outbox.Item}

/-- None but these items have entered a queue. -/
def Admits (may : Outbox.Item → Prop) (r s : Robot) : Prop :=
  ∀ g, ∃ items, queueOf g s = queueOf g r ++ items ∧ ∀ item ∈ items, may item

theorem Admits.entered (h : Admits may r s) (g : Nat) : ∀ item ∈ entered g r s, may item := by
  obtain ⟨items, queue, all⟩ := h g
  rw [Robot.entered, queue, List.drop_left]
  exact all

theorem Admits.trans (h : Admits may r s) (k : Admits may s t) : Admits may r t := by
  intro g
  obtain ⟨first, queue, all⟩ := h g
  obtain ⟨second, queue', all'⟩ := k g
  exact ⟨first ++ second, by rw [queue', queue, List.append_assoc], List.forall_mem_append.2 ⟨all, all'⟩⟩

theorem Admits.mono {may' : Outbox.Item → Prop} (h : Admits may r s) (imp : ∀ item, may item → may' item) :
    Admits may' r s := by
  intro g
  obtain ⟨items, queue, all⟩ := h g
  exact ⟨items, queue, fun item present => imp item (all item present)⟩

/-- Where the connection is left alone nothing enters its queue. -/
theorem admits_same (may : Outbox.Item → Prop) (same : s.session = r.session) : Admits may r s := by
  intro g
  refine ⟨[], ?_, List.forall_mem_nil _⟩
  rw [List.append_nil, queueOf, queueOf, current?, current?, link?, link?, same]

/-- Where the link of the connection takes in items they enter its queue. -/
theorem admits_mapLink {f : Link → Link} (session : s.session = r.session.mapLink f)
    (takes : ∀ link : Link, (f link).generation = link.generation ∧
      ∃ items, (f link).outbox.queue = link.outbox.queue ++ items ∧ ∀ item ∈ items, may item) : Admits may r s := by
  have after : s.link? = r.link?.map f := by rw [link?, session, Session.link?_mapLink]; rfl
  intro g
  cases hl : r.link? with
  | none =>
    rw [hl] at after
    exact ⟨[], by rw [queueOf_none (current?_of_none after g), queueOf_none (current?_of_none hl g)]; rfl,
      List.forall_mem_nil _⟩
  | some link =>
    rw [hl] at after
    obtain ⟨generation, items, queue, all⟩ := takes link
    by_cases own : g = link.generation
    · subst own
      have there : s.current? link.generation = some (f link) := current?_eq_some.2 ⟨after, generation⟩
      exact ⟨items, by rw [queueOf_current there, queueOf_current (current?_of_link hl), queue], all⟩
    · have gone : s.current? g = none := current?_of_other after (by rw [generation]; exact own)
      exact ⟨[], by rw [queueOf_none gone, queueOf_none (current?_of_other hl own)]; rfl, List.forall_mem_nil _⟩

theorem admits_enqueueAll (r : Robot) (all : ∀ item ∈ items, may item) : Admits may r (r.enqueueAll items) := by
  refine admits_mapLink (session_enqueueAll items r) fun link => ⟨rfl, ?_⟩
  obtain ⟨more, queue, offered⟩ := Outbox.queue_foldl_offer items link.outbox
  exact ⟨more, queue, fun item present => all item (offered item present)⟩

/-- What listeners send is theirs. -/
theorem system_of_mem_replies {audience : Audience} {report : Report} {item : Outbox.Item}
    (present : item ∈ audience.replies report) : item.system = false := by
  obtain ⟨hearer, -, sent⟩ := List.mem_filterMap.1 present
  unfold Listener.reply? at sent
  split at sent
  · cases sent
  · split at sent
    · cases sent
      rfl
    · cases sent

theorem admits_tell (r : Robot) (report : Report) : Admits (·.system = false) r (r.tell report) := by
  refine admits_mapLink (session_tell r report) fun link => ?_
  unfold Link.sent
  split
  · exact ⟨rfl, [], (List.append_nil _).symm, List.forall_mem_nil _⟩
  · obtain ⟨more, queue, offered⟩ := Outbox.queue_foldl_offer (r.audience.replies report) link.outbox
    exact ⟨rfl, more, queue, fun item present => system_of_mem_replies (offered item present)⟩

/-! ## Macros -/

/-- When the macro makes progress the driver uploads what the progress asks for. -/
theorem admits_progressMacro (r : Robot) (upload : Macro.Upload) (progress : Macro.Progress) :
    Admits (fun item => item.system = true → item ∈ followUpItems progress.uploads (progress.finished.getD [])) r
      (r.progressMacro upload progress) := by
  obtain ⟨notes, same⟩ := r.progressMacro_eq upload progress
  let noted := { r with upload }.recordAll (notes.map .noted)
  have queued : Admits (fun item => item.system = true → item ∈ followUpItems progress.uploads
      (progress.finished.getD [])) r (noted.enqueueAll _) :=
    (admits_same _ (s := noted) rfl).trans (noted.admits_enqueueAll fun item present _ => present)
  rw [same]
  unfold offerMacro
  dsimp only
  split
  · refine queued.trans ((admits_tell _ (.event .macroDone)).mono fun item own system => ?_)
    rw [own] at system
    cases system
  · exact queued

/-- Of the driver's own, a submitted macro brings its commands to the queue and nothing else. -/
theorem admits_playMacro (r : Robot) (m : Macro) :
    Admits (fun item => item.system = true → item ∈ r.macroItems m) r (r.playMacro m).2 := by
  unfold playMacro
  split
  · exact admits_same _ rfl
  · split
    · next normal =>
      unfold storeMacro
      split
      · exact admits_same _ rfl
      · have items : r.macroItems m = storingItems m.toBytes := by rw [macroItems, normal]
        have stored : Admits (fun item => item.system = true → item ∈ r.macroItems m) r
            (r.enqueueAll (storingItems m.toBytes)) :=
          r.admits_enqueueAll fun item present _ => items ▸ present
        exact stored
    · next streaming =>
      split
      · unfold streamMacro
        split
        · exact admits_same _ rfl
        · next upload progress accepted =>
          have items : r.macroItems m = followUpItems progress.uploads (progress.finished.getD []) := by
            rw [macroItems, streaming]
            simp only [accepted]
          have progressed (q : Robot) (session : q.session = r.session) :
              Admits (fun item => item.system = true → item ∈ r.macroItems m) r
                ((q.note (.macroSubmitted m.steps.length)).progressMacro upload progress) := by
            rw [items]
            exact (admits_same _ (s := q.note (.macroSubmitted m.steps.length)) session).trans
              (admits_progressMacro _ upload progress)
          dsimp only
          split
          · exact progressed r.noteAbort rfl
          · exact progressed r rfl
      · exact admits_same _ rfl

/-- Of the driver's own, information brings what the macro uploads when its marker comes back. -/
theorem admits_handleInformation (r : Robot) (p : Packet) :
    Admits (fun item => item.system = true → item.command ∈ r.upload.acknowledge.2.uploads) r
      (r.handleInformation p) := by
  unfold handleInformation
  split
  · exact admits_same _ rfl
  · next information _ =>
    dsimp only
    split
    · refine (admits_same _ (s := r.note (.informationReceived information.kind)) rfl).trans ?_
      refine (admits_progressMacro _ r.upload.acknowledge.1 r.upload.acknowledge.2).mono fun item own system => ?_
      rcases List.mem_append.1 (own system) with uploads | followUps
      · obtain ⟨c, there, rfl⟩ := List.mem_map.1 uploads
        exact there
      · obtain ⟨c, -, rfl⟩ := List.mem_map.1 followUps
        cases system
    · refine (admits_same _ (s := r.note (.informationReceived information.kind)) rfl).trans ?_
      refine (admits_tell _ (.information information)).mono fun item own system => ?_
      rw [own] at system
      cases system

/-- A macro is refused if it is unfit, and for nothing else. -/
theorem playMacro_error_iff (asked : Asked r) (there : r.link?.isSome = true) :
    (∃ e, (r.playMacro m).1 = .error e) ↔ m.Unfit r.settings := by
  have present : r.link?.isNone = false := by
    rw [Option.isNone_eq_false_iff]
    exact there
  unfold playMacro Macro.Unfit
  rw [if_neg (by rw [present]; exact Bool.false_ne_true)]
  cases mode : m.mode with
  | normal =>
    simp only [reduceCtorEq, false_and, or_false, true_and]
    unfold storeMacro
    split
    · next long => exact iff_of_true ⟨_, rfl⟩ long
    · next short => exact iff_of_false (fun ⟨e, refused⟩ => by cases refused) short
  | streaming =>
    simp only [reduceCtorEq, false_and, false_or, true_and]
    cases enabled : r.settings.macroStreaming with
    | false => exact iff_of_false (fun ⟨e, refused⟩ => by cases refused) nofun
    | true =>
      obtain ⟨limits, marker⟩ := asked.fixed
      have refused := @Macro.Upload.submit_error_iff r.upload m.steps
      have bound (step : Macro.Step) : r.upload.limits.maxChunk < step.length + r.upload.marker.length ↔
          98 < step.length := by
        rw [limits, marker]
        show 100 < step.length + 2 ↔ _
        omega
      simp only [bound] at refused
      simp only [if_true, true_and]
      rw [← refused]
      unfold streamMacro
      split
      · next e error => exact iff_of_true ⟨_, rfl⟩ ⟨_, error⟩
      · next accepted =>
        refine iff_of_false (fun ⟨e, refused⟩ => by cases refused) fun ⟨e, error⟩ => ?_
        rw [accepted] at error
        cases error

/-- A macro that is refused changes nothing. -/
theorem playMacro_error (gated : Gated r) {e : MacroError} (refused : (r.playMacro m).1 = .error e) :
    (r.playMacro m).2 = r := by
  have submission := submission_playMacro gated m
  rw [refused] at submission
  generalize (r.playMacro m).2 = s at submission ⊢
  cases submission
  rfl

/-- The driver's own commands of a macro that is not refused can be sent. -/
theorem sendable_macroItems (asked : Asked r) (fit : ∀ e, (r.playMacro m).1 ≠ .error e) (there : r.link?.isSome = true)
    {item : Outbox.Item} (present : item ∈ r.macroItems m) (own : item.system = true) : item.command.Sendable := by
  obtain ⟨limits, -⟩ := asked.fixed
  have able : ¬ m.Unfit r.settings := fun unfit => by
    obtain ⟨e, refused⟩ := (playMacro_error_iff asked there).2 unfit
    exact fit e refused
  unfold macroItems at present
  cases mode : m.mode with
  | normal =>
    rw [mode] at present
    have short : m.toBytes.length ≤ 253 := Nat.le_of_not_lt fun long => able (.inl ⟨mode, long⟩)
    rcases List.mem_cons.1 present with rfl | run
    · exact Command.sendable_of_le (Nat.succ_le_succ short)
    · rw [List.mem_singleton.1 run]
      exact Command.sendable_of_le (by decide)
  | streaming =>
    rw [mode] at present
    dsimp only at present
    split at present
    · cases present
    · next upload progress accepted =>
      rcases List.mem_append.1 present with uploads | followUps
      · obtain ⟨c, there, rfl⟩ := List.mem_map.1 uploads
        have bounded := Macro.Upload.submit_bounded asked.sound accepted c there
        rw [limits] at bounded
        exact Command.sendable_of_le (Nat.le_trans bounded (by decide))
      · obtain ⟨c, -, rfl⟩ := List.mem_map.1 followUps
        cases own

theorem sendable_acknowledge (asked : Asked r) : ∀ c ∈ r.upload.acknowledge.2.uploads, c.Sendable := by
  intro c present
  have bounded := Macro.Upload.acknowledge_bounded r.upload c present
  rw [asked.fixed.1] at bounded
  exact Command.sendable_of_le (Nat.le_trans bounded (by decide))

theorem Asked.playMacro (asked : Asked r) (m : Macro) : Asked (r.playMacro m).2 :=
  (acts_playMacro trivial r m : Acts Privilege.all r _).keeps (fun asked act => asked.next act.requests) asked

/-! ## Runs -/

/-- **Macros are refused as a whole, and none of their commands is too large to be sent.** In any run and for every
macro, as long as a connection is there: the macro is refused just if it is unfit, and then nothing at all has changed.
If it is not refused, all that the driver itself brings to the queue are the commands of the macro, each of which carries
at most 254 bytes and is accepted by the encoder; and so it is, whatever happens afterwards, with the commands that are
produced when a marker comes back. The writer leaves out none of them: whatever the connection has accepted and the
encoder accepts is on the wire, is being written or waits in the queue. -/
theorem sendable_after {address : String} {settings : Settings} {start : Robot}
    (made : make address settings = .ok start) (moves : List Move) (m : Macro) :
    let r := start.after moves
    let played := r.playMacro m
    (r.link?.isSome = true → ((∃ e, played.1 = .error e) ↔ m.Unfit settings)) ∧
    (∀ e, played.1 = .error e → played.2 = r) ∧
    (∀ answer, r.link?.isSome = true → played.1 = .ok answer →
      (∀ item ∈ r.macroItems m, item.system = true → item.command.Sendable) ∧
      ∀ g, ∀ item ∈ entered g r played.2, item.system = true → item ∈ r.macroItems m) ∧
    (∀ later, let s := played.2.after later
      (∀ c ∈ s.upload.acknowledge.2.uploads, c.Sendable) ∧
      ∀ g p, ∀ item ∈ entered g s (s.handleInformation p), item.system = true →
        item.command ∈ s.upload.acknowledge.2.uploads) ∧
    (∀ link, r.link? = some link → ∃ pending, link.writer.activity.pending = some pending ∧
      wireOn link.channel r.journal ++ pending ++ Outbox.packets (Outbox.encodable link.outbox.queue) =
        Outbox.packets (Outbox.encodable (acceptedOn link.generation start (start.singles moves)))) := by
  intro r played
  have asked : Asked r := upload_after made moves
  have gated : Gated r := (strides_after moves start).gated (gated_make made)
  have configured : r.settings = settings :=
    keeps_after False (fun same passage => passage.fixed.1.trans same) moves nofun (by
      obtain ⟨address, rfl⟩ := eq_of_make made
      rfl)
  refine ⟨fun there => ?_, fun e refused => playMacro_error gated refused, fun answer there accepted => ⟨?_, ?_⟩,
    fun later => ⟨?_, fun g p => (admits_handleInformation _ p).entered g⟩, fun link hl => ?_⟩
  · rw [← configured]
    exact playMacro_error_iff asked there
  · intro item present own
    refine sendable_macroItems asked (fun e refused => ?_) there present own
    rw [show (r.playMacro m).1 = .ok answer from accepted] at refused
    cases refused
  · exact (admits_playMacro r m).entered
  · exact sendable_acknowledge ((asked.playMacro m).after later)
  · have singles : Single False (start.singles moves) := single_singles moves start nofun
    have logged := (logged_make made).after (start.singles moves) fun move there => (singles move there).1
    rw [after_singles] at logged
    obtain ⟨⟨accepted, scribed, same⟩, -⟩ := logged
    have log := same link hl
    rw [List.nil_append] at log
    rw [log]
    exact (scribed.link link hl).accounted

/-- With the byte that ends it the macro has one byte too many. -/
def tooLong : Macro :=
  ⟨.normal, [.raw (.replicate 253 0x42)]⟩

/-- One macro is taken up and the other is refused. -/
theorem sendable_after_inUse :
    ∃ start, make "00:06:66:AA:BB:CC" {} = .ok start ∧
      let r := start.after inUse
      (r.playMacro twoDelays).1 = .ok true ∧
      (∃ item ∈ r.macroItems twoDelays, item.system = true ∧ item.command.Sendable) ∧
      (∃ e, (r.playMacro tooLong).1 = .error e) ∧ (r.playMacro tooLong).2 = r := by
  refine ⟨_, System.make_unused, ?_⟩
  have there : (System.unused.after inUse).link?.isSome = true := by decide +kernel
  have streamed : ((System.unused.after inUse).playMacro twoDelays).1 = .ok true :=
    System.eq_ok_of_toOption (by decide +kernel)
  obtain ⟨item, present, own⟩ : ∃ item ∈ (System.unused.after inUse).macroItems twoDelays, item.system = true := by
    decide +kernel
  obtain ⟨-, -, produced, -, -⟩ := sendable_after System.make_unused inUse twoDelays
  obtain ⟨refused, unchanged, -⟩ := sendable_after System.make_unused inUse tooLong
  obtain ⟨e, refusal⟩ := (refused there).2 (.inl ⟨rfl, by decide +kernel⟩)
  exact ⟨streamed, ⟨item, present, own, (produced true there streamed).1 item present own⟩, ⟨e, refusal⟩,
    unchanged e refusal⟩

end Robot

end RobotDriver
