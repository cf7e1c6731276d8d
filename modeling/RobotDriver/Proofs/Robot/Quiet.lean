import RobotDriver.Proofs.Robot.Chronicle
import RobotDriver.Proofs.Robot.Passing

/-!
# What passes quietly

Much of what a driver does neither touches a connection or a command in flight nor is told to anyone. `Quiet`
says so of two states of a driver. It is lenient, so that it is quiet to send, to schedule and to cancel, to set
alarms, and to do anything to the channel.
-/

namespace RobotDriver

theorem Session.phase_mapLink (s : Session) {f : Link → Link}
    (h : ∀ link, s.link? = some link → (f link).generation = link.generation) : (s.mapLink f).phase = s.phase := by
  cases s with
  | down => rfl
  | up link => exact congrArg Phase.live (h link rfl)
  | closing link closure => exact congrArg Phase.closing (h link rfl)

namespace Robot

variable {r s : Robot} {link : Link}

/-- From `r` to `s` nothing has happened but calm deeds. -/
structure Quiet (r s : Robot) : Prop where
  outline : ∀ owed, s.outline owed = r.outline owed
  journal : ∃ ds, (∀ d ∈ ds, d.isCalm = true) ∧ s.journal = r.journal ++ ds

theorem Quiet.of_eq (outline : s.outline [] = r.outline []) (journal : s.journal = r.journal) : Quiet r s :=
  ⟨fun owed => congrArg (fun o : Outline => { o with owed }) outline, [], by simp, by simp [journal]⟩

theorem Quiet.refl (r : Robot) : Quiet r r :=
  .of_eq rfl rfl

theorem Quiet.trans {t : Robot} (h : Quiet r s) (k : Quiet s t) : Quiet r t := by
  obtain ⟨ds, calm, hs⟩ := h.journal
  obtain ⟨es, calm', ht⟩ := k.journal
  refine ⟨fun owed => (k.outline owed).trans (h.outline owed), ds ++ es, ?_, by rw [ht, hs, List.append_assoc]⟩
  intro d hd
  rcases List.mem_append.1 hd with hd | hd
  · exact calm d hd
  · exact calm' d hd

theorem Quiet.phase (h : Quiet r s) : s.session.phase = r.session.phase :=
  congrArg Outline.phase (h.outline [])

theorem Quiet.dropped (h : Quiet r s) : s.dropped = r.dropped :=
  congrArg Outline.dropped (h.outline [])

theorem quiet_record (r : Robot) {d : Deed} (h : d.isCalm = true) : Quiet r (r.record d) :=
  ⟨fun _ => rfl, [d], by simp [h], rfl⟩

theorem quiet_note (r : Robot) {n : Note} (h : n.isMilestone = false) : Quiet r (r.note n) :=
  quiet_record r (by simp [Deed.isCalm, h])

theorem quiet_mapLink (r : Robot) {f : Link → Link}
    (h : ∀ link, r.link? = some link → (f link).generation = link.generation) : Quiet r (r.mapLink f) :=
  .of_eq (congrArg (fun phase => { r.outline [] with phase }) (r.session.phase_mapLink h)) rfl

theorem quiet_withLink (next : Link) (hl : r.link? = some link) (h : next.generation = link.generation) :
    Quiet r (r.withLink next) := by
  refine quiet_mapLink r fun other ho => ?_
  rw [hl] at ho
  cases ho
  exact h

theorem lenient_quiet : Lenient Quiet where
  refl := .refl
  trans := .trans
  spare r _ h := quiet_mapLink r fun link hl => (h link hl).generation
  arrange _ _ _ _ := .of_eq rfl rfl
  note := quiet_note

theorem Sends.outline {ds : List Deed} (h : Sends r ds s) (owed : List Due) : s.outline owed = r.outline owed := by
  obtain ⟨send, ready, rfl⟩ := h
  have phase := r.session.phase_mapLink (f := fun link => link.withOutbox (send link.outbox)) fun _ _ => rfl
  simp [Robot.outline, phase]

theorem Sends.journal {ds : List Deed} (h : Sends r ds s) : s.journal = r.journal ++ ds := by
  obtain ⟨send, ready, rfl⟩ := h
  rfl

theorem SendsCalmly.quiet (h : SendsCalmly r s) : Quiet r s := by
  obtain ⟨ds, calm, sent⟩ := h
  exact ⟨sent.outline, ds, calm, sent.journal⟩

theorem quiet_abandonCalls (r : Robot) : Quiet r r.abandonCalls := by
  have phase : (forgetWaiter r.session).phase = r.session.phase := by
    cases r.session <;> rfl
  exact .of_eq (congrArg (fun phase => { r.outline [] with phase }) phase) rfl

end Robot

end RobotDriver
