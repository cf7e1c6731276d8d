import RobotDriver.Proofs.Robot.Gating
import RobotDriver.Proofs.Robot.LastWords
import RobotDriver.Proofs.Robot.Origins

/-!
# What the end of a macro means

When a macro is over, the commands that waited for it are offered to the queue and listeners are told. `completed_after`
says of every run that each end that is told has come about like that, once for each macro that was accepted, and that
the commands have entered the queue by then if the connection was in use. `completed_unsent` is a run in which it was
being closed: the end is told all the same, and the command is lost.
-/

namespace RobotDriver

namespace Macro.Upload

theorem running_of_submitted {u v : Upload} {steps : List Step} {progress : Progress}
    (accepted : u.submit steps = .ok (v, progress)) (ended : progress.finished.isSome = true) : v.running = false := by
  unfold submit at accepted
  split at accepted
  · cases accepted
  · cases accepted
    exact running_of_finishIfDone ended

end Macro.Upload

theorem Deed.isNews_of_tellsDone {d : Deed} (done : d.tellsDone = true) : d.isNews = true := by
  unfold tellsDone at done
  split at done
  · rfl
  · cases done

namespace Robot

variable {r s t q start : Robot} {upload : Macro.Upload} {progress : Macro.Progress} {followUps : List Command}
  {before after ds : List Deed} {g : Nat} {p : Packet}

/-- From `r` to `s` the end of no macro is told. -/
def Unfinished (r s : Robot) : Prop :=
  ∃ ds, s.journal = r.journal ++ ds ∧ ∀ d ∈ ds, d.tellsDone = false

theorem Brings.unfinished {fresh : List Deed} (h : Brings r fresh s) (none : ∀ d ∈ fresh, d.tellsDone = false) :
    Unfinished r s := by
  obtain ⟨ds, journal, rfl⟩ := h
  refine ⟨ds, journal, fun d hd => ?_⟩
  cases done : d.tellsDone with
  | false => rfl
  | true => exact done.symm.trans (none d (List.mem_filter.2 ⟨hd, Deed.isNews_of_tellsDone done⟩))

theorem Unfinished.trans (h : Unfinished r s) (k : Unfinished s t) : Unfinished r t := by
  obtain ⟨ds, first, none⟩ := h
  obtain ⟨es, second, none'⟩ := k
  exact ⟨ds ++ es, by rw [second, first, List.append_assoc], List.forall_mem_append.2 ⟨none, none'⟩⟩

/-! ## The end of a macro -/

/-- A macro that has come to its end: at `t` the commands that it hands back have been offered to the queue, which they
enter if the connection is in use, and then the end is told. -/
structure Completed (q : Robot) (progress : Macro.Progress) (followUps : List Command) (t s : Robot) : Prop where
  ended : progress.finished = some followUps
  here : q.link?.isSome = true
  queue : ∀ link, q.link? = some link → queueOf link.generation t =
    queueOf link.generation q ++ if q.isConnected then followUpItems progress.uploads followUps else []
  connected : t.isConnected = q.isConnected
  told : s = t.tellEvent .macroDone

theorem handlePacket_of_marker (marker : p.isMarker = true) (running : r.upload.running = true) :
    ∃ kind, r.handlePacket g p = ((r.record (.received g p)).note (.informationReceived kind)).progressMacro
      r.upload.acknowledge.1 r.upload.acknowledge.2 := by
  unfold Packet.isMarker at marker
  split at marker
  · next information hp whole =>
    refine ⟨information.kind, ?_⟩
    unfold handlePacket handleInformation
    dsimp only
    rw [hp, whole]
    exact if_pos (Bool.and_eq_true_iff.2 ⟨marker, running⟩)
  · cases marker

/-- A macro is carried on after no more than notes. -/
theorem Advance.progresses (h : Advance q upload progress s) : ∃ ds, (∀ d ∈ ds, d.tellsDone = false) ∧
    s = (q.recordAll ds).progressMacro upload progress := by
  cases h with
  | @marked link hl p marker running acknowledged =>
    obtain ⟨kind, same⟩ := handlePacket_of_marker (g := link.generation) marker running
    refine ⟨[.received link.generation p, .noted (.informationReceived kind)], by simp [Deed.tellsDone], ?_⟩
    rw [same, acknowledged]
    simp [Robot.note, Robot.record, recordAll]
  | @played m mode accepted there enabled answer =>
    have played := played_playMacro q m
    generalize q.playMacro m = result at played answer
    cases played with
    | otherwise abides other => exact absurd answer (other mode)
    | @streamed upload' progress' notes _ accepted' =>
      obtain ⟨rfl, rfl⟩ : upload' = upload ∧ progress' = progress := by
        simpa using accepted'.symm.trans accepted
      exact ⟨_, List.forall_mem_map.2 fun _ _ => rfl, rfl⟩

theorem Advance.linked (h : Advance q upload progress s) : q.link?.isSome = true := by
  cases h with
  | marked hl => rw [hl]; rfl
  | played _ _ there => exact there

/-- What becomes of the commands that waited for the end of a macro. -/
theorem Advance.completed (h : Advance q upload progress s) (gated : Gated q)
    (ended : progress.finished = some followUps) : ∃ t, Unfinished q t ∧ Completed q progress followUps t s := by
  obtain ⟨ds, none, same⟩ := h.progresses
  let noted := { q.recordAll ds with upload }.note (.macroFinished followUps.length)
  have known : Gated noted := ⟨⟨gated.watched.rung, gated.watched.session⟩, gated.session⟩
  obtain ⟨es, calm, sent⟩ := sends_enqueueAll (followUpItems progress.uploads followUps) noted
  refine ⟨(q.recordAll ds).wound upload progress.uploads followUps, ?_, ended, h.linked, fun link hl => ?_, ?_, ?_⟩
  · refine ⟨ds ++ .noted (.macroFinished followUps.length) :: es, ?_, ?_⟩
    · refine sent.journal.trans ?_
      simp [noted, Robot.note, Robot.record, recordAll]
    · refine List.forall_mem_append.2 ⟨none, List.forall_mem_cons.2 ⟨rfl, fun d hd => ?_⟩⟩
      have quiet := calm d hd
      cases d <;> first | rfl | cases quiet
  · exact known.queue_enqueueAll hl _
  · exact sent.isConnected
  · rw [same]
    exact progressMacro_of_some ended

/-- The end of a macro is told after all else that belongs to it. -/
theorem Strides.done (h : Strides start r) (gated : Gated start) (new : start.journal = []) {hearers : List Nat}
    (here : r.journal = before ++ .reported (.event .macroDone) hearers :: after) :
    ∃ q upload progress followUps t s, Strides start q ∧ Advance q upload progress s ∧ Unfinished q t ∧
      Completed q progress followUps t s ∧ t.journal = before ∧ Strides s r := by
  obtain ⟨q, s, ds, es, first, source, last, split, grown⟩ := h.source new here rfl
  cases source with
  | @done upload progress followUps advance ended hearers =>
    obtain ⟨t, unfinished, completed⟩ := advance.completed (first.gated gated) ended
    refine ⟨q, upload, progress, followUps, t, s, first, advance, unfinished, completed, ?_, last⟩
    obtain ⟨xs, journal, none⟩ := unfinished
    obtain ⟨told, telling, sent⟩ := sends_tell t (.event .macroDone)
    have whole : q.journal ++ (xs ++ told) = q.journal ++ (ds ++ .reported (.event .macroDone) hearers :: es) := by
      rw [← List.append_assoc, ← journal, ← grown, completed.told]
      exact sent.journal.symm
    rw [journal, split]
    refine congrArg _ ?_
    rcases List.append_eq_append_iff.1 (List.append_cancel_left whole) with ⟨ys, rfl, within⟩ | ⟨ys, rfl, within⟩
    · rw [(telling.split within).1, List.append_nil]
    · cases ys with
      | nil => exact List.append_nil _
      | cons y ys =>
        obtain ⟨rfl, -⟩ := List.cons.inj within
        cases none (.reported (.event .macroDone) hearers) (by simp)

/-! ## Once for each macro -/

/-- On the way from `start` to `r` a macro has been accepted, and since then the end of none has been told until `t`. -/
def Awaits (start r t : Robot) : Prop :=
  ∃ p m, Strides start p ∧ m.mode = .streaming ∧ (p.playMacro m).1 = .ok true ∧ Strides (p.playMacro m).2 r ∧
    Unfinished p t

/-- A macro that runs after a stride has run before, or it has been accepted in it. -/
theorem Stride.unfinished (h : Stride r s) (running : s.upload.running = true) : Unfinished r s ∧
    (r.upload.running = true ∨ ∃ m, m.mode = .streaming ∧ (r.playMacro m).1 = .ok true ∧ s = (r.playMacro m).2) := by
  obtain ⟨fresh, brings, account⟩ := h.account
  have going {dones : List Deed} {upload : Macro.Upload} {progress : Macro.Progress} (carried : s.upload = upload)
      (ends : progress.finished.isSome = true → upload.running = false)
      (done : ∀ d ∈ dones, d.tellsDone = true ∧ progress.finished.isSome = true) :
      ∀ d ∈ dones, d.tellsDone = false := by
    intro d hd
    rw [carried, ends (done d hd).2] at running
    cases running
  cases account with
  | aside _ before => exact ⟨brings.unfinished (List.forall_mem_nil _), .inl (before running)⟩
  | received _ _ _ upload => exact ⟨brings.unfinished (by simp [Deed.tellsDone]), .inl (upload ▸ running)⟩
  | answered _ _ _ _ _ upload => exact ⟨brings.unfinished (by simp [Deed.tellsDone]), .inl (upload ▸ running)⟩
  | marked _ _ before _ _ upload done =>
    have none := going upload Macro.Upload.running_of_finished done
    exact ⟨brings.unfinished (List.forall_mem_cons.2 ⟨rfl, none⟩), .inl before⟩
  | expired _ _ _ upload => exact ⟨brings.unfinished (List.forall_mem_map.2 fun _ _ => rfl), .inl (upload ▸ running)⟩
  | connected _ _ upload =>
    rw [upload] at running
    cases running
  | @played m _ _ _ mode accepted _ _ answer same _ carried done =>
    have none := going carried (Macro.Upload.running_of_submitted accepted) done
    exact ⟨brings.unfinished none, .inr ⟨m, mode, answer, same⟩⟩

theorem Strides.awaits (h : Strides start r) (idle : start.upload.running = false) (running : r.upload.running = true) :
    Awaits start r r := by
  induction h with
  | refl => exact absurd running (by simp [idle])
  | @tail q r first last ih =>
    obtain ⟨unfinished, before | ⟨m, mode, accepted, rfl⟩⟩ := last.unfinished running
    · obtain ⟨p, m, begun, mode, accepted, since, none⟩ := ih before
      exact ⟨p, m, begun, mode, accepted, since.tail last, none.trans unfinished⟩
    · exact ⟨q, m, first, mode, accepted, .refl, unfinished⟩

theorem Advance.awaits (h : Advance q upload progress s) (strides : Strides start q)
    (idle : start.upload.running = false) (unfinished : Unfinished q t) : Awaits start s t := by
  cases h with
  | @marked link hl p marker running acknowledged =>
    obtain ⟨p, m, begun, mode, accepted, since, none⟩ := strides.awaits idle running
    exact ⟨p, m, begun, mode, accepted, since.tail (.handled hl _), none.trans unfinished⟩
  | @played m mode accepted there enabled answer => exact ⟨q, m, strides, mode, answer, .refl, unfinished⟩

/-! ## Runs -/

/-- **Each end of a macro that is told** follows at once on the commands that the macro has handed back and that have
been offered to the queue, in any run. If the connection was in use they have entered it, all of them and in their
order: the last uploads of the driver, then the commands of the user. If it was being closed none has. So it is whenever
a macro comes to its end. And since the end of a macro was last told, another one has been accepted. -/
theorem completed_after {address : String} {settings : Settings} {start : Robot}
    (made : make address settings = .ok start) (moves : List Move) :
    let r := start.after moves
    (∀ before hearers after, r.journal = before ++ .reported (.event .macroDone) hearers :: after →
      (∃ q upload progress followUps t s, Strides start q ∧ Advance q upload progress s ∧
        Completed q progress followUps t s ∧ t.journal = before ∧ Strides s r) ∧
      ∃ p m between, Strides start p ∧ m.mode = .streaming ∧ (p.playMacro m).1 = .ok true ∧
        Strides (p.playMacro m).2 r ∧ before = p.journal ++ between ∧ ∀ d ∈ between, d.tellsDone = false) ∧
    (∀ q upload progress followUps s, Strides start q → Advance q upload progress s →
      progress.finished = some followUps → ∃ t, Completed q progress followUps t s) := by
  intro r
  have strides := strides_after moves start
  have gated := gated_make made
  obtain ⟨address, rfl⟩ := eq_of_make made
  constructor
  · intro before hearers after here
    obtain ⟨q, upload, progress, followUps, t, s, first, advance, unfinished, completed, rfl, last⟩ :=
      strides.done gated rfl here
    refine ⟨⟨q, upload, progress, followUps, t, s, first, advance, completed, rfl, last⟩, ?_⟩
    obtain ⟨p, m, begun, mode, accepted, since, between, grown, none⟩ := advance.awaits first rfl unfinished
    exact ⟨p, m, between, begun, mode, accepted, since.trans last, grown, none⟩
  · intro q upload progress followUps s first advance ended
    obtain ⟨t, -, completed⟩ := advance.completed (first.gated gated) ended
    exact ⟨t, completed⟩

/-- A macro of two steps is streamed, and a command of the user waits for its end. -/
def pingAfterDelays : List Move :=
  [.perform (.ask .connect), settling, acceptances 5, settling, .perform (.ask (.afterMacro .ping)),
    .perform (.ask (.playMacro ⟨.streaming, [.delay 300, .delay 300]⟩)), settling]

/-- The robot reports the marker of the one chunk. -/
def markerReported : List Move :=
  [.perform (.arrive none [.bytes (System.report 1)]), settling]

/-- The end of a macro is told, though there are no listeners. -/
def doneTold : Deed :=
  .reported (.event .macroDone) []

theorem completed_after_markerReported :
    ∃ start, make "00:06:66:AA:BB:CC" {} = .ok start ∧
      (∃ q upload progress followUps t s, Strides start q ∧ Advance q upload progress s ∧
        Completed q progress followUps t s ∧
        t.journal = upTo (· == doneTold) (start.after (pingAfterDelays ++ markerReported)).journal) ∧
      (registeredItems 1 (start.after (pingAfterDelays ++ markerReported)).journal).getLast? = some ⟨.ping, false⟩ := by
  have told := (completed_after System.make_unused (pingAfterDelays ++ markerReported)).1 _ _ _
    (eq_upTo_append_since (d := doneTold) (by decide +kernel))
  obtain ⟨q, upload, progress, followUps, t, s, first, advance, completed, journal, -⟩ := told.1
  exact ⟨_, System.make_unused, ⟨q, upload, progress, followUps, t, s, first, advance, completed, journal⟩,
    by decide +kernel⟩

/-- The marker comes back while the connection is being closed. The end of the macro is told, but the command that
waited for it has neither been registered nor is it in the queue of the connection, which is still there. -/
theorem completed_unsent :
    ∃ start before after, make "00:06:66:AA:BB:CC" {} = .ok start ∧
      (start.after (pingAfterDelays ++ [.perform (.ask .disconnect), settling] ++ markerReported)).journal =
        before ++ doneTold :: after ∧
      .noted (.macroFinished 1) ∈ before ∧
      (∀ item ∈ registeredItems 1
        (start.after (pingAfterDelays ++ [.perform (.ask .disconnect), settling] ++ markerReported)).journal,
        item.system = true) ∧
      ((start.after (pingAfterDelays ++ [.perform (.ask .disconnect), settling] ++ markerReported)).current?
        1).map (fun link => link.outbox.queue) = some [] := by
  exact ⟨_, _, _, System.make_unused, eq_upTo_append_since (d := doneTold) (by decide +kernel), by decide +kernel,
    by decide +kernel, by decide +kernel⟩

end Robot

end RobotDriver
