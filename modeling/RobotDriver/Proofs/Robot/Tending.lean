import RobotDriver.Proofs.Robot.Lives
import RobotDriver.Proofs.Robot.Passing

/-!
# What happens by the way

`Tends` says that between two states of a driver nothing is lost: items may have been offered to the queue of the
connection, alarms and tasks may have been added, reports made, and the driver may have learnt something, but nothing
has been taken away from the connection, the commands in flight, the tasks or the calls. It is finer than `Sends`, and
gentle, so that everything that is done by the way is of this kind.
-/

namespace RobotDriver

/-- A remark or a report by the way: it is no point in the life of a connection, and no time has run out. -/
def Deed.isLight : Deed → Bool
  | noted (.shutdownUnconfirmed _ _) => false
  | noted n => !n.isMilestone
  | reported (.event e) _ => !e.isLifecycle
  | reported _ _ | told _ _ | replied _ _ => true
  | _ => false

/-- The end of a macro is reported. -/
def Deed.tellsDone : Deed → Bool
  | reported (.event .macroDone) _ => true
  | _ => false

/-- A light deed other than the report that a macro is over. -/
def Deed.isSlight (d : Deed) : Bool :=
  d.isLight && !d.tellsDone

theorem Deed.isLight_of_isSlight {d : Deed} (h : d.isSlight = true) : d.isLight = true :=
  (Bool.and_eq_true_iff.1 h).1

theorem Deed.tellsDone_of_isSlight {d : Deed} (h : d.isSlight = true) : d.tellsDone = false :=
  Bool.not_eq_true' _ ▸ (Bool.and_eq_true_iff.1 h).2

/-- The connection is tended, and nothing has changed about its end. -/
inductive Session.Tended : Session → Session → Prop
  | down : Tended down down
  | up {before after : Link} (link : before.Tended after) : Tended (up before) (up after)
  | closing {before after : Link} (closure : Closure) (link : before.Tended after) :
      Tended (closing before closure) (closing after closure)

namespace Session.Tended

theorem refl (s : Session) : s.Tended s := by
  cases s with
  | down => exact .down
  | up link => exact .up (.refl link)
  | closing link closure => exact .closing closure (.refl link)

theorem trans {s t u : Session} (h : s.Tended t) (k : t.Tended u) : s.Tended u := by
  cases h with
  | down => exact k
  | up first =>
    cases k with
    | up second => exact .up (first.trans second)
  | closing closure first =>
    cases k with
    | closing _ second => exact .closing closure (first.trans second)

theorem mapLink (s : Session) {f : Link → Link} (h : ∀ link, s.link? = some link → link.Tended (f link)) :
    s.Tended (s.mapLink f) := by
  cases s with
  | down => exact .down
  | up link => exact .up (h link rfl)
  | closing link closure => exact .closing closure (h link rfl)

theorem link? {s t : Session} (h : s.Tended t) {link : Link} (hl : s.link? = some link) :
    ∃ next, t.link? = some next ∧ link.Tended next := by
  cases h with
  | down => cases hl
  | up tended | closing _ tended =>
    cases hl
    exact ⟨_, rfl, tended⟩

theorem isUp {s t : Session} (h : s.Tended t) : t.isUp = s.isUp := by
  cases h <;> rfl

theorem none {s t : Session} (h : s.Tended t) (hl : s.link? = .none) : t.link? = .none := by
  cases h with
  | down => rfl
  | up | closing => cases hl

end Session.Tended

namespace Robot

/-- `s` is `r` after the deeds `ds`, and nothing is lost on the way. -/
structure Tends (r : Robot) (ds : List Deed) (s : Robot) : Prop where
  session : r.session.Tended s.session
  ready : ∃ tasks, (∀ task ∈ tasks, isCall task = false) ∧ s.ready = r.ready ++ tasks
  journal : s.journal = r.journal ++ ds
  rest : s = { r with
    session := s.session
    shadow := s.shadow
    name := s.name
    audience := s.audience
    ready := s.ready
    schedule := s.schedule
    journal := s.journal }

/-- `Tends` with none but slight deeds. -/
def TendsLightly (r s : Robot) : Prop :=
  ∃ ds, (∀ d ∈ ds, d.isSlight = true) ∧ Tends r ds s

variable {r s t : Robot} {ds es : List Deed} {link : Link}

theorem Tends.refl (r : Robot) : Tends r [] r :=
  ⟨.refl _, ⟨[], by simp, (List.append_nil _).symm⟩, (List.append_nil _).symm, rfl⟩

theorem Tends.trans (h : Tends r ds s) (k : Tends s es t) : Tends r (ds ++ es) t := by
  obtain ⟨tasks, free, hs⟩ := h.ready
  obtain ⟨more, free', ht⟩ := k.ready
  refine ⟨h.session.trans k.session, ⟨tasks ++ more, fun task there => ?_, ?_⟩, ?_, ?_⟩
  · exact (List.mem_append.1 there).elim (free task) (free' task)
  · rw [ht, hs, List.append_assoc]
  · rw [k.journal, h.journal, List.append_assoc]
  · refine k.rest.trans ?_
    rw [h.rest]

theorem Tends.link? (h : Tends r ds s) (hl : r.link? = some link) : ∃ next, s.link? = some next ∧ link.Tended next :=
  h.session.link? hl

theorem TendsLightly.refl (r : Robot) : TendsLightly r r :=
  ⟨[], by simp, .refl r⟩

theorem TendsLightly.trans (h : TendsLightly r s) (k : TendsLightly s t) : TendsLightly r t := by
  obtain ⟨ds, light, hs⟩ := h
  obtain ⟨es, light', ht⟩ := k
  refine ⟨ds ++ es, fun d hd => ?_, hs.trans ht⟩
  exact (List.mem_append.1 hd).elim (light d) (light' d)

theorem Tends.lightly (h : Tends r [] s) : TendsLightly r s :=
  ⟨[], by simp, h⟩

/-- Something that the driver remembers changes, but neither a connection nor a task. -/
theorem TendsLightly.of_eq (session : s.session = r.session) (ready : s.ready = r.ready)
    (journal : s.journal = r.journal)
    (rest : s = { r with shadow := s.shadow, name := s.name, audience := s.audience, schedule := s.schedule }) :
    TendsLightly r s := by
  refine Tends.lightly
    ⟨session ▸ .refl _, ⟨[], by simp, by rw [ready, List.append_nil]⟩, by rw [journal, List.append_nil], ?_⟩
  rw [session, ready, journal]
  exact rest

theorem tends_recordAll (r : Robot) (ds : List Deed) : Tends r ds (r.recordAll ds) :=
  ⟨.refl _, ⟨[], by simp, (List.append_nil _).symm⟩, rfl, rfl⟩

theorem tends_record (r : Robot) {d : Deed} (h : d.isSlight = true) : TendsLightly r (r.record d) :=
  ⟨[d], by simp [h], tends_recordAll r [d]⟩

theorem tends_note (r : Robot) (n : Note) (h : (Deed.noted n).isSlight = true) : TendsLightly r (r.note n) :=
  tends_record r h

theorem tends_mapLink (r : Robot) {f : Link → Link} (h : ∀ link, r.link? = some link → link.Tended (f link)) :
    TendsLightly r (r.mapLink f) :=
  Tends.lightly ⟨.mapLink r.session h, ⟨[], by simp, (List.append_nil _).symm⟩, (List.append_nil _).symm, rfl⟩

theorem tends_spawn (r : Robot) (task : Task) (free : isCall task = false) : TendsLightly r (r.spawn task) :=
  Tends.lightly ⟨.refl _, ⟨[task], by simp [free], rfl⟩, (List.append_nil _).symm, rfl⟩

theorem isSlight_refusalNote (item : Outbox.Item) (e : Outbox.Refusal) :
    (Deed.noted (refusalNote item e)).isSlight = true := by
  cases e <;> rfl

theorem gentle_tends : Gentle TendsLightly where
  refl := .refl
  trans := .trans
  mapLink := tends_mapLink
  spawn := tends_spawn
  reschedule _ _ := .of_eq rfl rfl rfl rfl
  refuse r item e := tends_note r _ (isSlight_refusalNote item e)

/-! ## Reports -/

theorem tends_tellOne (report : Report) (r : Robot) (hearer : Nat × Listener) :
    TendsLightly r (r.tellOne report hearer) := by
  have heard := tends_record r (d := .told hearer.1 report) rfl
  unfold tellOne
  dsimp only
  split
  · exact heard
  · split
    · exact (heard.trans (gentle_tends.send _ _)).trans (tends_record _ rfl)
    · exact heard

/-- A report is heard by the way. -/
theorem tends_tell (r : Robot) (report : Report) : ∃ ds,
    Telling report (r.audience.hearers.map fun hearer => hearer.1) ds ∧
    (∀ d ∈ ds, d = .reported report (r.audience.hearers.map fun hearer => hearer.1) ∨ d.isSlight = true) ∧
    Tends r ds (r.tell report) := by
  obtain ⟨told, telling, sent⟩ := sends_tell r report
  obtain ⟨ds, light, tends⟩ := gentle_tends.foldl (tends_tellOne report) r.audience.hearers
    (r.record (.reported report (r.audience.hearers.map (·.1))))
  have whole : Tends r ([.reported report (r.audience.hearers.map (·.1))] ++ ds) (r.tell report) :=
    (tends_recordAll r _).trans tends
  have same : told = [.reported report (r.audience.hearers.map (·.1))] ++ ds := by
    refine (List.append_right_inj r.journal).1 ?_
    obtain ⟨send, ready, e⟩ := sent
    have journal := whole.journal
    rw [e] at journal
    exact journal
  refine ⟨told, telling, fun d hd => ?_, same ▸ whole⟩
  rw [same] at hd
  rcases List.mem_cons.1 hd with rfl | hd
  · exact .inl rfl
  · exact .inr (light d hd)

section Told

variable {P : Deed → Prop} {report : Report} {hearers : List Nat} {told : List Deed}

/-- What holds of a report and of all that is slight holds of all that comes of telling the report. -/
theorem forall_mem_told (light : ∀ d ∈ told, d = .reported report hearers ∨ d.isSlight = true)
    (reported : P (.reported report hearers)) (slight : ∀ d : Deed, d.isSlight = true → P d) : ∀ d ∈ told, P d :=
  fun d hd => (light d hd).elim (fun same => same ▸ reported) (slight d)

/-- Something is noted, and then a report told. -/
theorem forall_mem_noted {n : Note} {before : List Deed} (earlier : ∀ d ∈ before, P d) (noted : P (.noted n))
    (light : ∀ d ∈ told, d = .reported report hearers ∨ d.isSlight = true) (reported : P (.reported report hearers))
    (slight : ∀ d : Deed, d.isSlight = true → P d) : ∀ d ∈ before ++ .noted n :: told, P d :=
  List.forall_mem_append.2 ⟨earlier, List.forall_mem_cons.2 ⟨noted, forall_mem_told light reported slight⟩⟩

end Told

theorem tends_tell_aside (r : Robot) {report : Report} (h : ∀ hearers, (Deed.reported report hearers).isSlight = true) :
    TendsLightly r (r.tell report) := by
  obtain ⟨ds, -, light, tends⟩ := tends_tell r report
  exact ⟨ds, forall_mem_told light (h _) fun _ slight => slight, tends⟩

/-! ## Macros and answers -/

/-- What a change of the upload asks for is done, and the end of the macro is reported if it is over. -/
structure Progresses (finished : Bool) (r : Robot) (ds : List Deed) (s : Robot) : Prop where
  tends : Tends r ds s
  light : ∀ d ∈ ds, d.isLight = true
  told : (∃ d ∈ ds, d.tellsDone = true) ↔ finished = true

/-- Something slight comes before. -/
theorem Progresses.after {finished : Bool} (h : Progresses finished s ds t) (before : TendsLightly r s) :
    ∃ es, Progresses finished r es t := by
  obtain ⟨es, slight, tends⟩ := before
  refine ⟨es ++ ds, tends.trans h.tends, fun d hd => ?_, ?_⟩
  · exact (List.mem_append.1 hd).elim (fun there => Deed.isLight_of_isSlight (slight d there)) (h.light d)
  · rw [← h.told]
    refine ⟨fun ⟨d, hd, told⟩ => ⟨d, (List.mem_append.1 hd).resolve_left fun there => ?_, told⟩,
      fun ⟨d, hd, told⟩ => ⟨d, List.mem_append_right _ hd, told⟩⟩
    rw [Deed.tellsDone_of_isSlight (slight d there)] at told
    cases told

/-- What follows a change of the upload. -/
theorem progresses_progressMacro (r : Robot) (upload : Macro.Upload) (progress : Macro.Progress) :
    ∃ ds, Progresses progress.finished.isSome { r with upload } ds (r.progressMacro upload progress) := by
  have start : TendsLightly { r with upload } ({ r with upload }.noteFinish progress) := by
    unfold noteFinish
    split
    · exact .refl _
    · exact tends_note _ _ rfl
  have next : TendsLightly { r with upload } (({ r with upload }.noteFinish progress).enqueueProgress progress) :=
    start.trans (gentle_tends.enqueueAll _ _)
  unfold progressMacro
  dsimp only
  split
  · next ended =>
    obtain ⟨ds, telling, light, tends⟩ :=
      tends_tell (({ r with upload }.noteFinish progress).enqueueProgress progress) (.event .macroDone)
    refine Progresses.after ⟨tends, forall_mem_told light rfl fun _ => Deed.isLight_of_isSlight, ?_⟩ next
    obtain ⟨rest, -, -⟩ := telling
    exact iff_of_true ⟨_, List.mem_cons_self, rfl⟩ ended
  · next going =>
    have nothing (q : Robot) : Progresses progress.finished.isSome q [] q := ⟨.refl q, by simp, by simp [going]⟩
    exact (nothing _).after next

/-- What the driver learns from an answer. -/
theorem tends_updateName (r : Robot) (entry : InFlight.Entry) (body : Response.Body) :
    TendsLightly r ((r.updateShadow entry.command).updateName entry body) := by
  have shadowed : TendsLightly r (r.updateShadow entry.command) := .of_eq rfl rfl rfl rfl
  unfold updateName
  split
  · exact (shadowed.trans (tends_note _ _ rfl)).trans (.of_eq rfl rfl rfl rfl)
  · exact shadowed

theorem tends_giveUp (timeout : Nat) (r : Robot) (entry : InFlight.Entry) : TendsLightly r (r.giveUp timeout entry) :=
  (tends_note r _ rfl).trans (tends_tell_aside _ fun _ => rfl)

theorem tends_storeMacro (r : Robot) (bytes : Bytes) : TendsLightly r (r.storeMacro bytes).2 := by
  unfold storeMacro
  split
  · exact .refl r
  · exact (gentle_tends.enqueue _ _).trans (gentle_tends.enqueue _ _)

end Robot

end RobotDriver
