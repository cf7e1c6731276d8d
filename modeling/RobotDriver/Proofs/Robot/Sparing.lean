import RobotDriver.Proofs.Robot.Passing

/-!
# What leaves the writer to itself

Most of what a driver does changes no more about a writer than that someone offers items to its queue. `Spares` says
so of two states of a driver; what has happened in between is then neither the doing of the writer nor an answer, and
marks no point in the life of a connection.
-/

namespace RobotDriver

/-- The deed is neither the writer's nor an answer and marks no point in the life of a connection. -/
def Deed.isMinor : Deed → Bool
  | wrote _ _ | registered _ _ | answered _ _ _ => false
  | noted n => !n.isMilestone
  | _ => true

/-- The connection is spared, and nothing is decided about its end. -/
inductive Session.Spared : Session → Session → Prop
  | down : Spared down down
  | up {before after : Link} (link : before.Spared after) : Spared (up before) (up after)
  | closing {before after : Link} {c d : Closure} (link : before.Spared after) (echoed : d.echoed = c.echoed) :
      Spared (closing before c) (closing after d)

namespace Session.Spared

theorem refl (s : Session) : s.Spared s := by
  cases s with
  | down => exact .down
  | up link => exact .up (.refl link)
  | closing link closure => exact .closing (.refl link) rfl

theorem trans {s t u : Session} (h : s.Spared t) (k : t.Spared u) : s.Spared u := by
  cases h with
  | down => exact k
  | up first =>
    cases k with
    | up second => exact .up (first.trans second)
  | closing first echoed =>
    cases k with
    | closing second echoed' => exact .closing (first.trans second) (echoed'.trans echoed)

theorem mapLink (s : Session) {f : Link → Link} (h : ∀ link, s.link? = some link → link.Spared (f link)) :
    s.Spared (s.mapLink f) := by
  cases s with
  | down => exact .down
  | up link => exact .up (h link rfl)
  | closing link closure => exact .closing (h link rfl) rfl

end Session.Spared

namespace Robot

/-- From `r` to `s` the writers have been left to themselves. -/
structure Spares (r s : Robot) : Prop where
  session : r.session.Spared s.session
  generations : s.generations = r.generations
  nextSink : s.dialler.nextSink = r.dialler.nextSink
  journal : ∃ ds, (∀ d ∈ ds, d.isMinor = true) ∧ s.journal = r.journal ++ ds

variable {r s t : Robot} {link : Link}

theorem Spares.of_eq (session : s.session = r.session) (generations : s.generations = r.generations)
    (nextSink : s.dialler.nextSink = r.dialler.nextSink) (journal : s.journal = r.journal) : Spares r s :=
  ⟨session ▸ .refl r.session, generations, nextSink, [], by simp, by simp [journal]⟩

theorem Spares.refl (r : Robot) : Spares r r :=
  .of_eq rfl rfl rfl rfl

theorem Spares.trans (h : Spares r s) (k : Spares s t) : Spares r t := by
  obtain ⟨ds, minor, hs⟩ := h.journal
  obtain ⟨es, minor', ht⟩ := k.journal
  refine ⟨h.session.trans k.session, k.generations.trans h.generations, k.nextSink.trans h.nextSink, ds ++ es, ?_,
    by rw [ht, hs, List.append_assoc]⟩
  intro d hd
  rcases List.mem_append.1 hd with hd | hd
  · exact minor d hd
  · exact minor' d hd

theorem spares_recordAll (r : Robot) {ds : List Deed} (h : ∀ d ∈ ds, d.isMinor = true) : Spares r (r.recordAll ds) :=
  ⟨.refl r.session, rfl, rfl, ds, h, rfl⟩

theorem spares_record (r : Robot) {d : Deed} (h : d.isMinor = true) : Spares r (r.record d) :=
  spares_recordAll r (List.forall_mem_singleton.2 h)

theorem spares_note (r : Robot) {n : Note} (h : n.isMilestone = false) : Spares r (r.note n) :=
  spares_record r (by simp [Deed.isMinor, h])

theorem spares_mapLink (r : Robot) {f : Link → Link} (h : ∀ link, r.link? = some link → link.Spared (f link)) :
    Spares r (r.mapLink f) :=
  ⟨.mapLink r.session h, rfl, rfl, [], by simp, (List.append_nil _).symm⟩

theorem lenient_spares : Lenient Spares where
  refl := .refl
  trans := .trans
  spare := spares_mapLink
  arrange _ _ _ _ := .of_eq rfl rfl rfl rfl
  note := spares_note

/-! ## Reports -/

theorem spares_tellOne (report : Report) (r : Robot) (hearer : Nat × Listener) :
    Spares r (r.tellOne report hearer) := by
  have heard := spares_record r (d := .told hearer.1 report) rfl
  unfold tellOne
  dsimp only
  split
  · exact heard
  · split
    · exact (heard.trans (lenient_spares.send _ _)).trans (spares_record _ rfl)
    · exact heard

theorem spares_tell (r : Robot) (report : Report) : Spares r (r.tell report) :=
  (spares_record r rfl).trans (lenient_spares.foldl (spares_tellOne report) _ _)

/-! ## Answers, calls and macros -/

theorem spares_abandonCalls (r : Robot) : Spares r r.abandonCalls := by
  refine ⟨?_, rfl, rfl, [], by simp, (List.append_nil _).symm⟩
  show r.session.Spared (forgetWaiter r.session)
  cases r.session with
  | down => exact .down
  | up link => exact .up (.refl link)
  | closing link closure => exact .closing (.refl link) rfl

theorem spares_progressMacro (r : Robot) (upload : Macro.Upload) (progress : Macro.Progress) :
    Spares r (r.progressMacro upload progress) := by
  have start : Spares r ({ r with upload }.noteFinish progress) := by
    have taken : Spares r { r with upload } := .of_eq rfl rfl rfl rfl
    unfold noteFinish
    split
    · exact taken
    · exact taken.trans (spares_note _ rfl)
  have next : Spares r (({ r with upload }.noteFinish progress).enqueueProgress progress) :=
    start.trans (lenient_spares.enqueueAll _ _)
  unfold progressMacro
  dsimp only
  split
  · exact next.trans (spares_tell _ _)
  · exact next

theorem spares_handleInformation (r : Robot) (packet : Packet) : Spares r (r.handleInformation packet) := by
  unfold handleInformation
  split
  · exact spares_note r rfl
  · dsimp only
    split
    · exact (spares_note r rfl).trans (spares_progressMacro _ _ _)
    · exact (spares_note r rfl).trans (spares_tell _ _)

theorem spares_noteDamage (r : Robot) (entry : InFlight.Entry) (body : Response.Body) :
    Spares r (r.noteDamage entry body) := by
  unfold noteDamage
  split
  · exact spares_note r rfl
  · exact .refl r

/-- What the driver learns from an answer. -/
theorem spares_updateName (r : Robot) (entry : InFlight.Entry) (body : Response.Body) :
    Spares r ((r.updateShadow entry.command).updateName entry body) := by
  have shadowed : Spares r (r.updateShadow entry.command) := .of_eq rfl rfl rfl rfl
  unfold updateName
  split
  · exact (shadowed.trans (spares_note _ rfl)).trans (.of_eq rfl rfl rfl rfl)
  · exact shadowed

theorem spares_giveUpOverdue (r : Robot) (g timeout : Nat) : Spares r (r.giveUpOverdue g timeout) := by
  have expired : ∀ d ∈ (r.inFlight.expire r.clock timeout).1.map (Deed.expired g), d.isMinor = true := by
    intro d hd
    obtain ⟨entry, -, rfl⟩ := List.mem_map.1 hd
    rfl
  have taken : Spares r { r with inFlight := (r.inFlight.expire r.clock timeout).2 } := .of_eq rfl rfl rfl rfl
  refine (taken.trans (spares_recordAll _ expired)).trans (lenient_spares.foldl (fun r entry => ?_) _ _)
  exact (spares_note r rfl).trans (spares_tell _ _)

theorem spares_runSweep (hl : r.link? = some link) : Spares r (r.runSweep link) := by
  have looked (sweep : Option Timer) : Spares r (r.withLink { link with sweep }) :=
    lenient_spares.withLink _ hl (.of_eq rfl rfl rfl rfl)
  exact runSweep_cases (.refl r) (fun sweep _ => (looked sweep).trans (lenient_spares.rearm _ _ _)) fun _ _ sweep _ =>
    ((looked sweep).trans (spares_giveUpOverdue _ _ _)).trans (lenient_spares.rearm _ _ _)

theorem spares_playMacro (r : Robot) (m : Macro) : Spares r (r.playMacro m).2 := by
  unfold playMacro
  split
  · exact spares_note r rfl
  · split
    · unfold storeMacro
      split
      · exact .refl r
      · exact (lenient_spares.enqueue _ _).trans (lenient_spares.enqueue _ _)
    · split
      · unfold streamMacro
        split
        · exact .refl r
        · dsimp only
          split
          · exact ((spares_note _ rfl).trans (spares_note _ rfl)).trans (spares_progressMacro _ _ _)
          · exact (spares_note _ rfl).trans (spares_progressMacro _ _ _)
      · exact spares_note r rfl

theorem spares_stopMacro (r : Robot) : Spares r r.stopMacro := by
  have given : Spares r { r.noteAbort with upload := r.upload.abort.1 } :=
    (spares_note r rfl).trans (.of_eq rfl rfl rfl rfl)
  exact given.trans (lenient_spares.enqueueAll _ _)

theorem spares_ask (r : Robot) (request : Request) : Spares r (r.ask request).2 := by
  cases request with
  | connect | disconnect | afterMacro | cancelAfterMacro | addListener | registerAgain | removeListener =>
    exact .of_eq rfl rfl rfl rfl
  | playMacro m =>
    rw [ask_playMacro]
    exact spares_playMacro r m
  | stopMacro => exact spares_stopMacro r
  | _ => exact lenient_spares.ask r rfl

theorem spares_askDropped (r : Robot) (request : Request) : Spares r (r.askDropped request).2 := by
  unfold Robot.askDropped
  split
  · exact .of_eq rfl rfl rfl rfl
  · exact .refl r

end Robot

end RobotDriver
