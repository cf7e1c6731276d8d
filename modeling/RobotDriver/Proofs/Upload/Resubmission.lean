import RobotDriver.Proofs.Upload.Delivery

/-!
# A macro that is submitted starts afresh

Nothing of what an upload has been through passes into a new macro. A macro under way is given up and forgotten first
(`submit_eq_reset`), and what is left without it differs from a new upload only in the commands that wait
(`reset_after`). What comes of a submission is therefore what comes of it in a new upload, but for the command that gives
up the old macro. A submission that is refused changes nothing.
-/

namespace RobotDriver.Macro.Upload

variable {u fresh : Upload} {limits : Limits} {marker : Step} {steps : List Step}

/-! ## New uploads -/

theorem make_eq (made : make limits marker = .ok fresh) : ∃ fits, fresh = { limits, marker, marker_fits := fits } := by
  unfold make at made
  split at made
  · cases made
    exact ⟨_, rfl⟩
  · cases made

/-- Commands that are to wait are all that they change. -/
theorem after_sendAfter (u : Upload) (commands : List Command) :
    u.after (commands.map .sendAfter) = { u with followUps := u.followUps ++ commands } := by
  induction commands generalizing u with
  | nil => simp [after]
  | cons c commands ih =>
    have rest : u.after ((c :: commands).map .sendAfter) = (u.sendAfter c).after (commands.map .sendAfter) := rfl
    rw [rest, ih, sendAfter, List.append_assoc]
    rfl

/-- An upload that has forgotten its macro is a new one in which the same commands wait. -/
theorem reset_after (made : make limits marker = .ok fresh) (before : List Request) :
    (fresh.after before).reset = fresh.after ((fresh.after before).followUps.map .sendAfter) := by
  obtain ⟨limited, marked⟩ := after_fixed fresh before
  rw [after_sendAfter]
  obtain ⟨fits, rfl⟩ := make_eq made
  generalize after _ before = u at limited marked
  obtain ⟨limits', marker', fits', backlog, chunks, outstanding, running, followUps⟩ := u
  subst limited marked
  rfl

/-! ## Submission -/

/-- A step is too long just if it exceeds what the marker leaves of a chunk. -/
theorem oversized?_eq (u : Upload) (steps : List Step) :
    u.oversized? steps = steps.find? fun step => u.limits.maxChunk - u.marker.length < step.length := by
  have fits := u.marker_fits
  unfold oversized?
  congr 1
  funext step
  apply decide_eq_decide.2
  omega

theorem submit_of_oversized {step : Step} (large : u.oversized? steps = some step) :
    u.submit steps = .error (.commandTooLarge step.length u.limits.maxChunk) := by
  rw [submit, large]

/-- There is a macro to give up just if one runs. -/
theorem Sound.isBusy_eq (sound : u.Sound) : u.isBusy = u.running := by
  cases running : u.running with
  | true => simp [isBusy, running]
  | false =>
    obtain ⟨backlog, chunks⟩ := sound.idle running
    simp [isBusy, running, backlog, chunks]

/-- What comes of a submission that is accepted. -/
theorem submit_of_fitting (sound : u.Sound) (fitting : u.oversized? steps = none) :
    u.submit steps = .ok ((u.started steps).fill.1.finishIfDone.1,
      { uploads := (if u.running then [.abortMacro] else []) ++ (u.started steps).fill.2
        finished := (u.started steps).fill.1.finishIfDone.2 }) := by
  obtain ⟨v, progress, accepted⟩ : ∃ v progress, u.submit steps = .ok (v, progress) := by
    rw [submit, fitting]
    exact ⟨_, _, rfl⟩
  obtain ⟨-, next, uploads, finished⟩ := submit_eq sound accepted
  rw [accepted, next, ← sound.isBusy_eq, ← uploads, ← finished]

/-- A submission is refused for the first step that is too long. -/
theorem oversized_of_error (sound : u.Sound) {e : MacroError} (refused : u.submit steps = .error e) :
    ∃ step, u.oversized? steps = some step ∧ e = .commandTooLarge step.length u.limits.maxChunk := by
  cases large : u.oversized? steps with
  | none =>
    rw [submit_of_fitting sound large] at refused
    cases refused
  | some step =>
    rw [submit_of_oversized large] at refused
    cases refused
    exact ⟨step, rfl, rfl⟩

/-- To submit a macro is to give up the one that runs, to forget it and to submit the macro then. -/
theorem submit_eq_reset (sound : u.Sound) (fitting : u.oversized? steps = none) :
    ∃ v progress, u.reset.submit steps = .ok (v, progress) ∧
      u.submit steps =
        .ok (v, { progress with uploads := (if u.running then [.abortMacro] else []) ++ progress.uploads }) := by
  have same : u.reset.started steps = u.started steps := rfl
  have fresh := submit_of_fitting (sound_reset u) (fitting : u.reset.oversized? steps = none)
  rw [same] at fresh
  exact ⟨_, _, fresh, submit_of_fitting sound fitting⟩

/-- **A macro is submitted as to a new upload.** Whatever has been asked of an upload, it refuses a macro just if a step
exceeds what the marker leaves of a chunk, with the length of the first such step, and is then as it was. It accepts
every other macro: if no macro runs, with the answer and the state of a new upload with the same limits, the same marker
and the same commands waiting; and if one runs, with the same state and the same answer but for one command in front
that gives up the old macro. -/
theorem submit_afresh (made : make limits marker = .ok fresh) (before : List Request) (steps : List Step) :
    let u := fresh.after before
    let new := fresh.after (u.followUps.map .sendAfter)
    ((∃ e, u.submit steps = .error e) ↔ ∃ step ∈ steps, limits.maxChunk - marker.length < step.length) ∧
    (∀ e, u.submit steps = .error e → u.step (.submit steps) = (.refused e, u) ∧
      ∃ step, steps.find? (fun step => limits.maxChunk - marker.length < step.length) = some step ∧
        e = .commandTooLarge step.length limits.maxChunk) ∧
    ((∀ step ∈ steps, step.length ≤ limits.maxChunk - marker.length) →
      ∃ v progress, new.submit steps = .ok (v, progress) ∧
        (u.running = false → u.submit steps = .ok (v, progress)) ∧
        (u.running = true →
          u.submit steps = .ok (v, { progress with uploads := .abortMacro :: progress.uploads }))) := by
  intro u new
  obtain ⟨start, limited, marked⟩ := sound_make made
  have sound : u.Sound := sound_after start before
  have fixed : u.limits = limits ∧ u.marker = marker :=
    ⟨(after_fixed fresh before).1.trans limited, (after_fixed fresh before).2.trans marked⟩
  have oversized := oversized?_eq u steps
  rw [fixed.1, fixed.2] at oversized
  refine ⟨?_, ?_, ?_⟩
  · constructor
    · rintro ⟨e, refused⟩
      obtain ⟨step, large, -⟩ := oversized_of_error sound refused
      rw [oversized] at large
      exact ⟨step, List.mem_of_find?_eq_some large, by simpa using List.find?_some large⟩
    · rintro ⟨step, member, large⟩
      obtain ⟨first, found⟩ : ∃ first, u.oversized? steps = some first := by
        rw [oversized, ← Option.isSome_iff_exists, List.find?_isSome]
        exact ⟨step, member, decide_eq_true large⟩
      exact ⟨_, submit_of_oversized found⟩
  · intro e refused
    obtain ⟨step, large, why⟩ := oversized_of_error sound refused
    rw [oversized] at large
    rw [fixed.1] at why
    refine ⟨?_, step, large, why⟩
    simp only [Upload.step, refused]
  · intro small
    have fitting : u.oversized? steps = none := by
      rw [oversized, List.find?_eq_none]
      intro step member
      have := small step member
      simp only [decide_eq_true_eq]
      omega
    obtain ⟨v, progress, first, again⟩ := submit_eq_reset sound fitting
    rw [show u.reset = new from reset_after made before] at first
    refine ⟨v, progress, first, ?_, ?_⟩
    · intro quiet
      rw [again, quiet]
      rfl
    · intro running
      rw [again, running]
      rfl

/-- A macro of one step replaces one of which a chunk has been acknowledged and steps are left. -/
theorem submit_afresh_running :
    ∃ fresh, make ⟨20, 10, 4, by decide, by decide, by decide⟩ (.emit 1) = .ok fresh ∧
      let u := fresh.after [.sendAfter .ping, .submit sevenSteps, .acknowledge]
      u.running = true ∧ u.chunks = [8, 7] ∧
      ∃ v progress, (fresh.after [.sendAfter .ping]).submit [.delay 300] = .ok (v, progress) ∧
        u.submit [.delay 300] = .ok (v, { progress with uploads := .abortMacro :: progress.uploads }) := by
  have made : make ⟨20, 10, 4, by decide, by decide, by decide⟩ (.emit 1) = .ok _ := rfl
  refine ⟨_, made, by decide +kernel, by decide +kernel, ?_⟩
  obtain ⟨-, -, accepted⟩ := submit_afresh made [.sendAfter .ping, .submit sevenSteps, .acknowledge] [.delay 300]
  obtain ⟨v, progress, fresh, -, running⟩ := accepted (by decide)
  rw [show (after _ [.sendAfter .ping, .submit sevenSteps, .acknowledge]).followUps = [.ping]
    by decide +kernel] at fresh
  exact ⟨v, progress, fresh, running (by decide +kernel)⟩

end RobotDriver.Macro.Upload
