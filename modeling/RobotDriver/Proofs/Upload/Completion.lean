import RobotDriver.Proofs.Upload.Delivery

/-!
# A streamed macro comes to its end

A macro that runs has a marker out, so that there is always an acknowledgement to come, and each one leaves fewer
chunks and steps to go than before. The macro is over with the acknowledgement of its last chunk.
-/

namespace RobotDriver.Macro.Upload

variable {u : Upload}

/-- What is left to do: the chunks that the robot holds and the steps that it does not have yet. -/
def remaining (u : Upload) : Nat :=
  u.chunks.length + u.backlog.length

theorem length_le_of_solid {runs : List (List Step)} (solid : ∀ run ∈ runs, stepBytes run ≠ []) :
    runs.length ≤ runs.flatten.length := by
  induction runs with
  | nil => exact Nat.le_refl _
  | cons run runs ih =>
    have first : run ≠ [] := by
      rintro rfl
      exact solid [] (by simp) rfl
    have := List.length_pos_iff.2 first
    have := ih fun r member => solid r (by simp [member])
    simp only [List.length_cons, List.flatten_cons, List.length_append]
    omega

/-- Filling moves steps into chunks, and no more chunks than steps. -/
theorem Stores.remaining_le {runs : List (List Step)} {rest : List Step} (h : Stores u runs rest) :
    u.fill.1.remaining ≤ u.remaining := by
  have few := length_le_of_solid h.solid
  have whole := congrArg List.length h.whole
  rw [List.length_append] at whole
  rw [h.filled]
  simp only [remaining, filled_chunks, filled_backlog, List.length_append, sizes, List.length_map]
  omega

/-- An acknowledgement ends the macro, or there is less to do than before. -/
theorem acknowledge_cases (sound : u.Sound) (running : u.running = true) (trimmed : Trimmed u.backlog) :
    (u.acknowledge.2.finished.isSome = true ∧ u.acknowledge.1.running = false) ∨
      (u.acknowledge.2.finished = none ∧ u.acknowledge.1.running = true ∧ Trimmed u.acknowledge.1.backlog ∧
        u.acknowledge.1.remaining < u.remaining) := by
  obtain ⟨runs, rest, stores⟩ := fill_stores u.released trimmed
  rw [acknowledge_eq running]
  unfold finishIfDone
  split
  · exact .inl ⟨rfl, rfl⟩
  · right
    refine ⟨rfl, ?_, ?_, ?_⟩
    · rw [stores.filled]
      exact running
    · rw [stores.filled]
      exact stores.trimmed
    · have held := List.length_pos_iff.2 (sound.pending running)
      have fewer := stores.remaining_le
      simp only [remaining, released_chunks, List.length_tail] at fewer ⊢
      have same : u.released.backlog = u.backlog := rfl
      rw [same] at fewer
      omega

/-- Acknowledgements alone. -/
def acknowledgements (n : Nat) : List Request :=
  .replicate n .acknowledge

/-- A macro that runs is over after some acknowledgements: each frees a chunk, and the last one ends it. -/
theorem finishes_after (sound : u.Sound) (running : u.running = true) (trimmed : Trimmed u.backlog) :
    ∃ n, 0 < n ∧ (u.freed (acknowledgements n)).length = n ∧
      (∀ i < n, (u.after (acknowledgements i)).acknowledge.2.finished.isSome = true ↔ i + 1 = n) ∧
      (u.after (acknowledgements n)).running = false := by
  induction left : u.remaining using Nat.strongRecOn generalizing u with | _ m ih
  obtain ⟨size, others, chunks⟩ := List.exists_cons_of_ne_nil (sound.pending running)
  have one : (u.frees .acknowledge).length = 1 := by simp [frees, running, chunks]
  rcases acknowledge_cases sound running trimmed with ⟨finished, idle⟩ | ⟨unfinished, runs, next, less⟩
  · refine ⟨1, Nat.one_pos, ?_, ?_, idle⟩
    · simp [acknowledgements, freed, one]
    · intro i small
      obtain rfl : i = 0 := by omega
      simp only [acknowledgements, List.replicate_zero, after, List.foldl_nil, finished]
  · obtain ⟨n, positive, count, last, idle⟩ := ih _ (left ▸ less) sound.acknowledge runs next rfl
    refine ⟨n + 1, Nat.succ_pos n, ?_, ?_, idle⟩
    · have rest : (u.freed (acknowledgements (n + 1))) =
          u.frees .acknowledge ++ u.acknowledge.1.freed (acknowledgements n) := rfl
      rw [rest, List.length_append, one, count, Nat.add_comm]
    · intro i small
      cases i with
      | zero =>
        simp only [acknowledgements, List.replicate_zero, after, List.foldl_nil, unfinished]
        simp only [Option.isSome_none, Bool.false_eq_true, false_iff]
        omega
      | succ i =>
        have later : u.after (acknowledgements (i + 1)) = u.acknowledge.1.after (acknowledgements i) := rfl
        rw [later, last i (by omega)]
        omega

/-- **A streamed macro never gets stuck.** Whatever was asked of an upload, a marker is out as long as a macro runs
or steps are left of one; and a macro that is accepted is over after exactly as many acknowledgements as blocks are
sent for it, with the last of them, or with its submission if there is nothing to send. -/
theorem macro_finishes {limits : Limits} {marker : Step} {fresh : Upload} (made : make limits marker = .ok fresh)
    (before : List Request) :
    let u := fresh.after before
    (u.running = true → 1 ≤ u.outstanding) ∧ (u.backlog ≠ [] → 1 ≤ u.outstanding) ∧
    ∀ steps v progress, u.submit steps = .ok (v, progress) →
      ∃ n, (blocks (progress.uploads ++ v.uploads (acknowledgements n))).length = n ∧
        (n = 0 ↔ stepBytes steps = []) ∧
        (progress.finished.isSome = true ↔ n = 0) ∧
        (∀ i < n, (v.after (acknowledgements i)).acknowledge.2.finished.isSome = true ↔ i + 1 = n) ∧
        (v.after (acknowledgements n)).running = false := by
  intro u
  have sound : u.Sound := sound_after (sound_make made).1 before
  have pending (running : u.running = true) : 1 ≤ u.outstanding := by
    rw [sound.counted]
    exact List.length_pos_iff.2 (sound.pending running)
  refine ⟨pending, ?_, ?_⟩
  · intro left
    cases running : u.running with
    | true => exact pending running
    | false => exact absurd (sound.idle running).1 left
  · intro steps v progress submitted
    have later := sound.submit submitted
    obtain ⟨fitting, rfl, uploads, finished⟩ := submit_eq sound submitted
    have ready := tracked_started fitting
    by_cases bytes : stepBytes steps = []
    · obtain ⟨nothing, idle, told⟩ := finish_started ready bytes
      refine ⟨0, ?_, by simp [bytes], by simp [finished, told], by simp, idle⟩
      simp [uploads, nothing, blocks_aborts, acknowledgements, Upload.uploads]
    · obtain ⟨run, runs, delivered, unfinished⟩ := delivered_started ready bytes
      have running : ((u.started steps).fill.1.finishIfDone.1).running = true := by
        cases idle : ((u.started steps).fill.1.finishIfDone.1).running with
        | true => rfl
        | false =>
          have tracked := delivered.tracked
          rw [(later.idle idle).2] at tracked
          cases tracked
      obtain ⟨n, positive, count, last, idle⟩ := finishes_after later running delivered.trimmed
      have kept : ∀ request ∈ acknowledgements n, request.keepsMacro = true := by
        intro request member
        rw [List.eq_of_mem_replicate member]
        rfl
      obtain ⟨more, all⟩ := delivered.after later kept
      obtain ⟨-, stored, freed⟩ := all.ended (sound_after later _) idle
      have sent : (run :: runs ++ more).length = n := by
        rw [List.nil_append] at freed
        rw [freed, sizes, List.length_map] at count
        exact count
      have some : n ≠ 0 := by omega
      refine ⟨n, ?_, by simp [bytes, some], by simp [finished, unfinished, some], last, idle⟩
      rw [uploads, List.append_assoc, blocks_append, blocks_aborts, List.nil_append, stored, length_blocks_storing,
        sent]

/-- Behind the second of three acknowledgements the macro still runs. -/
theorem macro_finishes_threeBlocks :
    ∃ fresh v progress, make ⟨20, 10, 4, by decide, by decide, by decide⟩ (.emit 1) = .ok fresh ∧
      (fresh.after [.sendAfter .ping]).submit sevenSteps = .ok (v, progress) ∧
      (v.after (acknowledgements 2)).running = true ∧
      ∃ n, n ≠ 0 ∧ (blocks (progress.uploads ++ v.uploads (acknowledgements n))).length = n ∧
        (∀ i < n, (v.after (acknowledgements i)).acknowledge.2.finished.isSome = true ↔ i + 1 = n) ∧
        (v.after (acknowledgements n)).running = false := by
  have made : make ⟨20, 10, 4, by decide, by decide, by decide⟩ (.emit 1) = .ok _ := rfl
  refine ⟨_, _, _, made, rfl, by decide +kernel, ?_⟩
  obtain ⟨n, sent, none, -, last, idle⟩ := (macro_finishes made [.sendAfter .ping]).2.2 sevenSteps _ _ rfl
  have bytes : stepBytes sevenSteps ≠ [] := by decide +kernel
  exact ⟨n, fun zero => bytes (none.1 zero), sent, last, idle⟩

end RobotDriver.Macro.Upload
