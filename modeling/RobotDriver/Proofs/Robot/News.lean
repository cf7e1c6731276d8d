import RobotDriver.Proofs.Robot.Strides
import RobotDriver.Proofs.Robot.Playing

/-!
# What becomes known in a stride

Each kind of stride brings its own news, and changes what the driver believes of the robot, and what it tracks of the
macro, in its own way: here is one account for each kind. `Belief.after` is what a deed makes of a belief.
-/

namespace RobotDriver

/-- What the driver takes the robot for. -/
structure Belief where
  shadow : Shadow := {}
  /-- The name that the robot has last told. -/
  name : Option String := none

/-- The name that the robot tells in an answer, undamaged, to a request of the driver's own. -/
def toldName? (entry : InFlight.Entry) (body : Response.Body) : Option String :=
  match entry.command, entry.system, body with
  | .getBluetoothInfo, true, .bluetoothInfo name _ => some name
  | _, _, _ => none

namespace Deed

/-- The deed may change what the driver believes. -/
def teaches : Deed → Bool
  | answered _ _ _ | noted (.connected _ _) => true
  | _ => false

theorem teaches_of_isNews {d : Deed} (old : d.isNews = false) : d.teaches = false := by
  cases d with
  | noted n => cases n <;> first | rfl | cases old
  | answered => cases old
  | _ => rfl

theorem teaches_of_tellsDone {d : Deed} (done : d.tellsDone = true) : d.teaches = false := by
  cases d <;> first | rfl | cases done

end Deed

namespace Belief

/-- What an answer teaches, if the robot has accepted the command. -/
def learn (b : Belief) (entry : InFlight.Entry) (p : Packet) : Belief :=
  if p.header.code = 0 then
    { shadow := b.shadow.apply entry.command
      name := (toldName? entry (Response.decode entry.command.kind p).body).or b.name }
  else b

/-- What a deed makes of a belief: a new connection begins with a robot that has just been switched on. -/
def after (b : Belief) : Deed → Belief
  | .noted (.connected _ _) => { b with shadow := {} }
  | .answered _ entry p => b.learn entry p
  | _ => b

/-- Deeds that teach nothing leave a belief as it is. -/
theorem foldl_after {ds : List Deed} (b : Belief) (h : ∀ d ∈ ds, d.teaches = false) : ds.foldl after b = b := by
  induction ds with
  | nil => rfl
  | cons d ds ih =>
    obtain ⟨first, rest⟩ := List.forall_mem_cons.1 h
    have same : b.after d = b := by
      cases d with
      | noted n => cases n <;> first | rfl | cases first
      | answered => cases first
      | _ => rfl
    rw [List.foldl_cons, same, ih rest]

theorem foldl_news (b : Belief) (ds : List Deed) : (news ds).foldl after b = ds.foldl after b := by
  induction ds generalizing b with
  | nil => rfl
  | cons d ds ih =>
    cases new : d.isNews with
    | true => rw [news, List.filter_cons_of_pos new, List.foldl_cons, List.foldl_cons, ← news, ih]
    | false =>
      have same : [d].foldl after b = b :=
        foldl_after b (List.forall_mem_singleton.2 (Deed.teaches_of_isNews new))
      rw [news, List.filter_cons_of_neg (by simp [new]), ← news, ih]
      exact congrArg (fun b => ds.foldl after b) same.symm

end Belief

theorem Status.isOk_ofCode (code : UInt8) : (Status.ofCode code).isOk = decide (code = 0) := by
  unfold ofCode isOk
  split <;> simp_all

namespace Robot

variable {r s t : Robot} {link : Link} {g : Nat} {p : Packet}

def belief (r : Robot) : Belief :=
  { shadow := r.shadow, name := r.name }

theorem Abides.belief (h : Abides r s) : s.belief = r.belief := by
  rw [Robot.belief, Robot.belief, h.shadow, h.name]

/-! ## A macro goes on -/

/-- What is queued when a macro is over: the last uploads of the driver, then the user's commands that waited. -/
def followUpItems (uploads followUps : List Command) : List Outbox.Item :=
  (uploads.map fun c => ⟨c, true⟩) ++ followUps.map fun c => ⟨c, false⟩

/-- The driver when a macro is over: what waited for this has been offered to the queue, and the end is still to be
told. -/
def wound (r : Robot) (upload : Macro.Upload) (uploads followUps : List Command) : Robot :=
  { r with upload }.note (.macroFinished followUps.length) |>.enqueueAll (followUpItems uploads followUps)

theorem abides_wound (r : Robot) (upload : Macro.Upload) (uploads followUps : List Command) :
    Abides { r with upload } (r.wound upload uploads followUps) :=
  (abides_note _ rfl).trans (lenient_abides.enqueueAll _ _)

theorem progressMacro_of_none {upload : Macro.Upload} {progress : Macro.Progress} (going : progress.finished = none) :
    Abides { r with upload } (r.progressMacro upload progress) := by
  unfold progressMacro noteFinish
  rw [going]
  exact lenient_abides.enqueueAll _ _

theorem progressMacro_of_some {upload : Macro.Upload} {progress : Macro.Progress} {followUps : List Command}
    (ended : progress.finished = some followUps) :
    r.progressMacro upload progress = (r.wound upload progress.uploads followUps).tellEvent .macroDone := by
  unfold progressMacro noteFinish enqueueProgress
  rw [ended]
  dsimp only
  rw [if_pos Option.isSome_some]
  rfl

theorem tellDone_news (r : Robot) : (r.tellEvent .macroDone).belief = r.belief ∧
    (r.tellEvent .macroDone).upload = r.upload ∧
    ∃ hearers, Brings r [.reported (.event .macroDone) hearers] (r.tellEvent .macroDone) := by
  obtain ⟨ds, telling, sent⟩ := sends_tell r (.event .macroDone)
  obtain ⟨shadow, name, upload⟩ := sent.knows
  exact ⟨congrArg₂ Belief.mk shadow name, upload, _, ds, sent.journal, telling.news⟩

/-- The end of a macro is the only news. -/
theorem progressMacro_news (r : Robot) (upload : Macro.Upload) (progress : Macro.Progress) :
    (r.progressMacro upload progress).belief = r.belief ∧ (r.progressMacro upload progress).upload = upload ∧
      ∃ fresh, Brings r fresh (r.progressMacro upload progress) ∧
        ∀ d ∈ fresh, d.tellsDone = true ∧ progress.finished.isSome = true := by
  -- A changed upload is not yet news.
  have taken {s : Robot} (abides : Abides { r with upload } s) :
      s.belief = r.belief ∧ s.upload = upload ∧ Brings r [] s := by
    obtain ⟨ds, journal, none⟩ := abides.brings
    exact ⟨abides.belief, abides.upload, ds, journal, none⟩
  cases ended : progress.finished with
  | none =>
    obtain ⟨belief, same, brings⟩ := taken (progressMacro_of_none ended)
    exact ⟨belief, same, [], brings, List.forall_mem_nil _⟩
  | some followUps =>
    rw [progressMacro_of_some ended]
    obtain ⟨belief, same, brings⟩ := taken (abides_wound r upload progress.uploads followUps)
    obtain ⟨belief', same', hearers, told⟩ := tellDone_news (r.wound upload progress.uploads followUps)
    refine ⟨belief'.trans belief, same'.trans same, [.reported (.event .macroDone) hearers], brings.trans told, ?_⟩
    simp [Deed.tellsDone]

/-! ## Packets -/

/-- What becomes of a packet. -/
inductive Handled (r : Robot) (g : Nat) (p : Packet) (s : Robot) : Prop
  | passed (abides : Abides (r.record (.received g p)) s)
  | marked (marker : p.isMarker = true) (running : r.upload.running = true) (kind : Information.Kind)
      (same : s = ((r.record (.received g p)).note (.informationReceived kind)).progressMacro r.upload.acknowledge.1
        r.upload.acknowledge.2)
  | answered {entry : InFlight.Entry} {rest : List InFlight.Entry} (response : p.IsResponse)
      (oldest : r.inFlight.entries = entry :: rest) (belief : s.belief = r.belief.learn entry p)
      (upload : s.upload = r.upload) (brings : Brings (r.record (.received g p)) [.answered g entry p] s)

theorem brings_record (r : Robot) {d : Deed} (new : d.isNews = true) : Brings r [d] (r.record d) :=
  ⟨[d], rfl, List.filter_cons_of_pos new⟩

/-- From `r` to `s` nothing is news, but the driver comes to believe `b`. -/
structure Learns (r : Robot) (b : Belief) (s : Robot) : Prop where
  belief : s.belief = b
  upload : s.upload = r.upload
  brings : Brings r [] s

theorem Abides.learns {b : Belief} (h : Abides r s) (k : Learns s b t) : Learns r b t :=
  ⟨k.belief, k.upload.trans h.upload, h.brings.trans k.brings⟩

theorem Learns.abides {b : Belief} (h : Learns r b s) (k : Abides s t) : Learns r b t :=
  ⟨k.belief.trans h.belief, k.upload.trans h.upload, h.brings.trans k.brings⟩

theorem updateName_eq (r : Robot) (entry : InFlight.Entry) (body : Response.Body) :
    r.updateName entry body =
      match toldName? entry body with
      | some name => { r.note (.nameUpdated name) with name := some name }
      | none => r := by
  unfold updateName toldName?
  split <;> simp_all

theorem learns_updateName (r : Robot) (entry : InFlight.Entry) (body : Response.Body) :
    Learns r { r.belief with name := (toldName? entry body).or r.name } (r.updateName entry body) := by
  rw [updateName_eq]
  cases toldName? entry body with
  | none => exact ⟨rfl, rfl, (Abides.refl r).brings⟩
  | some name =>
    have noted : Abides r (r.note (.nameUpdated name)) := abides_note r rfl
    exact ⟨rfl, noted.upload, noted.brings⟩

/-- What the driver learns when the robot has accepted a command. -/
theorem learns_confirm (r : Robot) (entry : InFlight.Entry) (body : Response.Body) :
    Learns r { shadow := r.shadow.apply entry.command, name := (toldName? entry body).or r.name }
      (r.confirm entry body) := by
  have echoed : Abides r (if isEcho entry.command then r.shutdownEcho else r) := by
    split
    · exact abides_shutdownEcho r
    · exact .refl r
  unfold confirm
  dsimp only
  generalize (if isEcho entry.command then r.shutdownEcho else r) = q at echoed
  have shadowed : Learns q _ (q.updateShadow entry.command) := ⟨rfl, rfl, (Abides.refl q).brings⟩
  have named := learns_updateName (q.updateShadow entry.command) entry body
  have learnt : Learns q { shadow := q.shadow.apply entry.command, name := (toldName? entry body).or q.name }
      ((q.updateShadow entry.command).updateName entry body) := ⟨named.belief, named.upload, named.brings⟩
  rw [echoed.shadow, echoed.name] at learnt
  exact (echoed.learns learnt).abides (abides_closeBeforeSleep _ _)

theorem learns_handleAnswer (r : Robot) (entry : InFlight.Entry) (p : Packet) :
    Learns r (r.belief.learn entry p) (r.handleAnswer entry p) := by
  let response := Response.decode entry.command.kind p
  have noted : Abides r ((r.note (.responseMatched response entry.system)).noteDamage entry response.body) := by
    have matched : Abides r (r.note (.responseMatched response entry.system)) := abides_note r rfl
    refine matched.trans ?_
    unfold noteDamage
    split
    · exact abides_note _ rfl
    · exact .refl _
  have reported (q : Robot) : Abides q (if entry.system then q else q.tell (.response response entry.command)) := by
    split
    · exact .refl q
    · exact abides_tell q fun _ => rfl
  have status : response.status.isOk = decide (p.header.code = 0) := Status.isOk_ofCode _
  unfold handleAnswer
  dsimp only
  generalize (r.note (.responseMatched response entry.system)).noteDamage entry response.body = q at noted
  have learnt : Learns r (r.belief.learn entry p)
      (if response.status.isOk then q.confirm entry response.body
        else q.note (.commandRejected response.status entry.command)) := by
    unfold Belief.learn
    rw [status]
    by_cases ok : p.header.code = 0
    · simp only [ok, decide_true, if_true]
      have confirmed := noted.learns (learns_confirm q entry response.body)
      rw [noted.shadow, noted.name] at confirmed
      exact confirmed
    · simp only [ok, decide_false, if_false]
      have rejected : Abides q (q.note (.commandRejected response.status entry.command)) := abides_note q rfl
      exact ⟨(noted.trans rejected).belief, (noted.trans rejected).upload, (noted.trans rejected).brings⟩
  exact learnt.abides (reported _)

theorem handled_handlePacket (r : Robot) (g : Nat) (p : Packet) : Handled r g p (r.handlePacket g p) := by
  have note (n : Note) (old : (Deed.noted n).isNews = false) :
      Handled r g p ((r.record (.received g p)).note n) := .passed (abides_note _ old)
  unfold handlePacket
  dsimp only
  split
  · exact note _ rfl
  · next hp =>
    unfold handleResponse InFlight.resolve
    cases waiting : r.inFlight.entries with
    | nil =>
      have none : (r.record (.received g p)).inFlight.entries = [] := waiting
      rw [none]
      exact .passed ((abides_note _ rfl).trans (abides_tell _ fun _ => rfl))
    | cons entry rest =>
      have some : (r.record (.received g p)).inFlight.entries = entry :: rest := waiting
      rw [some]
      obtain ⟨belief, upload, brings⟩ := learns_handleAnswer
        ({ r.record (.received g p) with inFlight := ⟨rest⟩ }.record (.answered g entry p)) entry p
      refine .answered hp waiting belief upload ?_
      have taken : Brings (r.record (.received g p)) [.answered g entry p]
          ({ r.record (.received g p) with inFlight := ⟨rest⟩ }.record (.answered g entry p)) :=
        ⟨[.answered g entry p], rfl, rfl⟩
      exact taken.trans brings
  · next hp =>
    unfold handleInformation
    split
    · exact note _ rfl
    · next information whole =>
      dsimp only
      split
      · next both =>
        obtain ⟨marker, running⟩ := Bool.and_eq_true_iff.1 both
        exact .marked (by simp [Packet.isMarker, hp, whole, marker]) running information.kind rfl
      · exact .passed ((abides_note _ rfl).trans (abides_tell _ fun _ => rfl))

/-! ## Other strides -/

/-- What comes of a channel. -/
inductive Opened (r s : Robot) : Prop
  | late (abides : Abides r s)
  | begun (down : r.session = .down) (belief : s.belief = { r.belief with shadow := {} })
      (upload : s.upload = r.upload.clear)
      (brings : Brings r [.noted (.connected r.address.digits (r.generations + 1))] s)

theorem opened_start (r : Robot) : Opened r (r.takeChannel.2.2.start r.takeChannel.1 r.takeChannel.2.1).2 := by
  unfold start
  dsimp only
  split
  · have counted : Abides r { r.takeChannel.2.2 with generations := r.generations + 1 } := .of_eq rfl rfl rfl rfl
    exact .late (counted.trans (abides_note _ rfl))
  · next absent =>
    have down : r.session = .down := session_of_link?_eq_none (Option.not_isSome_iff_eq_none.1 absent)
    let counted : Robot := { r.takeChannel.2.2 with generations := r.generations + 1 }
    let installed := counted.install (counted.newLink (r.generations + 1) r.takeChannel.1 r.takeChannel.2.1)
    let noted := (installed.launch (r.generations + 1)).note (.connected r.address.digits (r.generations + 1))
    have launched : Abides installed (installed.launch (r.generations + 1)) := lenient_abides.launch _ _
    have told : Abides noted (noted.tellEvent .connected) := abides_tell noted fun _ => rfl
    have connected : Brings (installed.launch (r.generations + 1)) [.noted (.connected _ _)] noted :=
      brings_record _ rfl
    refine .begun down ?_ (told.upload.trans launched.upload) ?_
    · exact told.belief.trans launched.belief
    · obtain ⟨ds, journal, fresh⟩ := (launched.brings.trans connected).trans told.brings
      exact ⟨ds, journal, fresh⟩

/-- The answers that are given up are the only news. -/
theorem giveUpOverdue_news (r : Robot) (g timeout : Nat) :
    (r.giveUpOverdue g timeout).belief = r.belief ∧ (r.giveUpOverdue g timeout).upload = r.upload ∧
      Brings r ((r.inFlight.expire r.clock timeout).1.map (.expired g)) (r.giveUpOverdue g timeout) := by
  let q := { r with inFlight := (r.inFlight.expire r.clock timeout).2 }.recordAll
    ((r.inFlight.expire r.clock timeout).1.map (.expired g))
  have given : Abides q (r.giveUpOverdue g timeout) :=
    lenient_abides.foldl (fun r entry => (abides_note r rfl).trans (abides_tell _ fun _ => rfl)) _ q
  have expired : Brings r ((r.inFlight.expire r.clock timeout).1.map (.expired g)) q := by
    refine ⟨_, rfl, List.filter_eq_self.2 fun d hd => ?_⟩
    obtain ⟨entry, -, rfl⟩ := List.mem_map.1 hd
    rfl
  refine ⟨given.belief, given.upload, ?_⟩
  have all := expired.trans given.brings
  rw [List.append_nil] at all
  exact all

/-- What comes of a macro that the user submits. -/
inductive Played (r : Robot) (m : Macro) : Except MacroError Bool × Robot → Prop
  /-- It is not streamed. -/
  | otherwise {answer : Except MacroError Bool} {s : Robot} (abides : Abides r s)
      (other : m.mode = .streaming → answer ≠ .ok true) : Played r m (answer, s)
  | streamed {upload : Macro.Upload} {progress : Macro.Progress} {notes : List Note} (mode : m.mode = .streaming)
      (accepted : r.upload.submit m.steps = .ok (upload, progress))
      (there : r.link?.isSome = true) (enabled : r.settings.macroStreaming = true)
      (old : ∀ n ∈ notes, (Deed.noted n).isNews = false) :
      Played r m (.ok true, (r.recordAll (notes.map .noted)).progressMacro upload progress)

theorem played_playMacro (r : Robot) (m : Macro) : Played r m (r.playMacro m) := by
  unfold playMacro
  split
  · exact .otherwise (abides_note r rfl) (by simp)
  · next there =>
    split
    · next normal =>
      have stored : Abides r (r.storeMacro m.toBytes).2 := by
        unfold storeMacro
        split
        · exact .refl r
        · exact (lenient_abides.enqueue _ _).trans (lenient_abides.enqueue _ _)
      refine .otherwise (s := (r.storeMacro m.toBytes).2) stored fun streaming => ?_
      rw [normal] at streaming
      cases streaming
    · next streaming =>
      split
      · next enabled =>
        unfold streamMacro
        split
        · exact .otherwise (.refl r) (by simp)
        · next upload progress accepted =>
          have streamed (notes : List Note) (old : ∀ n ∈ notes, (Deed.noted n).isNews = false) :=
            Played.streamed (r := r) streaming accepted (by simpa [Option.isSome_iff_ne_none] using there) enabled old
          dsimp only
          split
          · have both := streamed [.macroAborted r.upload.backlog.length r.upload.outstanding,
              .macroSubmitted m.steps.length] (by simp [Deed.isNews])
            simpa [recordAll, Robot.note, Robot.record, noteAbort] using both
          · exact streamed [.macroSubmitted m.steps.length] (by simp [Deed.isNews])
      · exact .otherwise (abides_note r rfl) (by simp)

theorem abides_stopMacro (r : Robot) : Abides { r with upload := r.upload.abort.1 } r.stopMacro := by
  have noted : Abides { r with upload := r.upload.abort.1 } { r.noteAbort with upload := r.upload.abort.1 } :=
    abides_note _ rfl
  exact noted.trans (lenient_abides.enqueueAll _ _)

end Robot

end RobotDriver
