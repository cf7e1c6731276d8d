import RobotDriver.Macro.Upload.Request

/-!
# What the robot's memory holds

`Sound` is what every request keeps of an upload: the tracked chunks fit the memory, the markers that are out
are counted right, and a macro that runs has a marker out. Chunks come from `fill` alone, so `Fills` says
once what filling does (`fill_eq`), and each request is followed from there.
-/

namespace RobotDriver.Macro

/-! ## Cutting a chunk -/

@[simp] theorem stepsLength_nil : stepsLength [] = 0 := rfl

@[simp] theorem stepsLength_cons (step : Step) (steps : List Step) :
    stepsLength (step :: steps) = step.length + stepsLength steps := rfl

/-- What is cut off fits, unless it is nothing. -/
theorem splitFitting_fits (cap size : Nat) (steps : List Step) (h : (splitFitting cap size steps).1 ≠ []) :
    size + stepsLength (splitFitting cap size steps).1 ≤ cap := by
  induction steps generalizing size with
  | nil => exact absurd rfl h
  | cons step steps ih =>
    unfold splitFitting at h ⊢
    split
    · next fits =>
      by_cases more : (splitFitting cap (size + step.length) steps).1 = []
      · simpa [more] using fits
      · have := ih (size + step.length) more
        simp only [stepsLength_cons]
        omega
    · next full => simp [full] at h

/-- The first step that is left would not have fitted. -/
theorem splitFitting_maximal {cap size : Nat} {steps others : List Step} {next : Step}
    (h : (splitFitting cap size steps).2 = next :: others) :
    cap < size + stepsLength (splitFitting cap size steps).1 + next.length := by
  induction steps generalizing size with
  | nil => simp [splitFitting] at h
  | cons step steps ih =>
    unfold splitFitting at h ⊢
    split
    · next fits =>
      rw [if_pos fits] at h
      have := ih h
      simp only [stepsLength_cons]
      omega
    · next full =>
      rw [if_neg full] at h
      cases h
      simp only [stepsLength_nil]
      omega

namespace Upload

variable {u : Upload} {rest : List Step} {sizes : List Nat}

/-! ## Filling -/

/-- The upload when chunks of these sizes have gone out and these steps are left. -/
def filled (u : Upload) (rest : List Step) (sizes : List Nat) : Upload :=
  { u with backlog := rest, chunks := u.chunks ++ sizes, outstanding := u.outstanding + sizes.length }

@[simp] theorem filled_limits : (u.filled rest sizes).limits = u.limits := rfl

@[simp] theorem filled_marker : (u.filled rest sizes).marker = u.marker := rfl

@[simp] theorem filled_backlog : (u.filled rest sizes).backlog = rest := rfl

@[simp] theorem filled_chunks : (u.filled rest sizes).chunks = u.chunks ++ sizes := rfl

@[simp] theorem filled_outstanding : (u.filled rest sizes).outstanding = u.outstanding + sizes.length := rfl

@[simp] theorem filled_running : (u.filled rest sizes).running = u.running := rfl

@[simp] theorem used_filled : (u.filled rest sizes).used = u.used + total sizes :=
  total_append u.chunks sizes

theorem filled_filled (rest later : List Step) (sizes more : List Nat) :
    (u.filled rest sizes).filled later more = u.filled later (sizes ++ more) := by
  simp [filled, Nat.add_assoc]

/-- From the front of the backlog chunks of these sizes can be uploaded and leave these steps. -/
structure Fills (u : Upload) (rest : List Step) (sizes : List Nat) : Prop where
  suffix : rest <:+ u.backlog
  sized : ∀ size ∈ sizes, u.marker.length < size ∧ size ≤ u.limits.maxChunk
  fits : u.used ≤ u.limits.budget → u.used + total sizes ≤ u.limits.budget

theorem Fills.trans {later : List Step} {more : List Nat} (h : Fills u rest sizes)
    (next : Fills (u.filled rest sizes) later more) : Fills u later (sizes ++ more) where
  suffix := next.suffix.trans h.suffix
  sized size member := by
    rcases List.mem_append.1 member with first | second
    · exact h.sized size first
    · exact next.sized size second
  fits within := by
    have := next.fits
    rw [used_filled] at this
    rw [total_append, ← Nat.add_assoc]
    exact this (h.fits within)

/-- Nothing is uploaded when no step with bytes fits; those without bytes before it are passed over. -/
theorem fillOnce_of_none {v : Upload} (h : u.fillOnce = (v, none)) :
    ∃ rest, v = u.filled rest [] ∧ Fills u rest [] := by
  have whole := splitFitting_append u.cap u.marker.length u.backlog
  rcases fillOnce_eq_none h with ⟨rfl, -⟩ | ⟨-, rfl⟩
  · exact ⟨v.backlog, by simp [filled], List.suffix_rfl, by simp, by simp⟩
  · exact ⟨_, by simp [filled], ⟨_, whole⟩, by simp, by simp⟩

/-- One chunk is uploaded. -/
theorem fillOnce_of_some {v : Upload} {c : Command} (h : u.fillOnce = (v, some c)) :
    ∃ rest size, v = u.filled rest [size] ∧ Fills u rest [size] := by
  have whole := splitFitting_append u.cap u.marker.length u.backlog
  obtain ⟨-, bytes, -, rfl⟩ := fillOnce_eq_some h
  have small := splitFitting_fits u.cap u.marker.length u.backlog (ne_nil_of_stepsLength bytes)
  generalize splitFitting u.cap u.marker.length u.backlog = cut at bytes whole small
  have : u.cap ≤ u.free := Nat.min_le_left _ _
  have : u.cap ≤ u.limits.maxChunk := Nat.min_le_right _ _
  refine ⟨cut.2, stepsLength cut.1 + u.marker.length, rfl, ⟨_, whole⟩, ?_, fun within => ?_⟩
  · intro size member
    rw [List.mem_singleton] at member
    omega
  · simp only [total_cons, total_nil, free] at *
    omega

/-- What `fill` does. -/
theorem fill_eq (u : Upload) : ∃ rest sizes, u.fill.1 = u.filled rest sizes ∧ Fills u rest sizes := by
  induction u using fill.induct with
  | case1 u v none =>
    obtain ⟨rest, rfl, fills⟩ := fillOnce_of_none none
    refine ⟨rest, [], ?_, fills⟩
    rw [fill]
    split <;> simp_all
  | case2 u v c some _ _ _ ih =>
    obtain ⟨rest, size, rfl, first⟩ := fillOnce_of_some some
    obtain ⟨later, sizes, result, more⟩ := ih
    refine ⟨later, [size] ++ sizes, ?_, first.trans more⟩
    rw [← filled_filled, ← result, fill]
    split <;> simp_all

/-! ## Progress -/

/-- Every step of the backlog fits a chunk of its own. -/
def Uploadable (u : Upload) : Prop :=
  ∀ step ∈ u.backlog, step.length + u.marker.length ≤ u.limits.maxChunk

/-- With the memory empty, steps are left over only behind a chunk. -/
theorem fillOnce_progress {v : Upload} (ready : u.Uploadable) (empty : u.chunks = [])
    (h : u.fillOnce = (v, none)) : v.backlog = [] := by
  have whole := splitFitting_append u.cap u.marker.length u.backlog
  have free : u.free = u.limits.budget := by simp [free, used, empty]
  have cap : u.cap = u.limits.maxChunk := by
    rw [Upload.cap, free]
    exact Nat.min_eq_right u.limits.chunk_le_budget
  rcases fillOnce_eq_none h with ⟨same, none | low⟩ | ⟨nothing, rfl⟩
  · rw [same, none]
  · have := u.limits.threshold_lt_budget
    omega
  · cases left : (splitFitting u.cap u.marker.length u.backlog).2 with
    | nil => rfl
    | cons step others =>
      have full := splitFitting_maximal left
      have := ready step (by rw [← whole, left]; simp)
      omega

/-- Filling the empty memory leaves a marker out or nothing to do. -/
theorem fill_progress (ready : u.Uploadable) (empty : u.chunks = []) :
    u.fill.1.chunks ≠ [] ∨ u.fill.1.backlog = [] := by
  rw [fill]
  split
  · next v none => exact .inr (fillOnce_progress ready empty none)
  · next v c some =>
    obtain ⟨rest, size, rfl, -⟩ := fillOnce_of_some some
    obtain ⟨later, sizes, result, -⟩ := fill_eq (u.filled rest [size])
    left
    simp [result]

theorem fill_of_backlog_nil (h : u.backlog = []) : u.fill = (u, []) := by
  rw [fill]
  split <;> simp_all [fillOnce]

/-! ## The invariant -/

/-- The chunks fit the memory and are counted right, and what is left of the macro can be uploaded. -/
structure Tracked (u : Upload) : Prop where
  fits : u.used ≤ u.limits.budget
  counted : u.outstanding = u.chunks.length
  sized : ∀ size ∈ u.chunks, u.marker.length < size ∧ size ≤ u.limits.maxChunk
  uploadable : u.Uploadable

/-- What every request keeps. -/
structure Sound (u : Upload) : Prop extends Tracked u where
  /-- Without a macro nothing is left of one. -/
  idle : u.running = false → u.backlog = [] ∧ u.chunks = []
  /-- A macro that runs has a marker out. -/
  pending : u.running = true → u.chunks ≠ []

theorem Tracked.filled (h : u.Tracked) (fills : Fills u rest sizes) : (u.filled rest sizes).Tracked where
  fits := by
    rw [used_filled]
    exact fills.fits h.fits
  counted := by simp [h.counted]
  sized size member := by
    rcases List.mem_append.1 member with old | new
    · exact h.sized size old
    · exact fills.sized size new
  uploadable step member := h.uploadable step (fills.suffix.subset member)

theorem Tracked.fill (h : u.Tracked) : u.fill.1.Tracked := by
  obtain ⟨rest, sizes, result, fills⟩ := fill_eq u
  rw [result]
  exact h.filled fills

/-- The upload without its oldest chunk. -/
def released (u : Upload) : Upload :=
  { u with outstanding := u.outstanding - 1, chunks := u.chunks.tail }

@[simp] theorem released_chunks : u.released.chunks = u.chunks.tail := rfl

theorem acknowledge_of_running (running : u.running = true) :
    u.acknowledge.1 = u.released.fill.1.finishIfDone.1 := by
  unfold acknowledge
  rw [if_pos running]
  rfl

theorem Tracked.released (h : u.Tracked) : u.released.Tracked where
  fits := by
    have := h.fits
    simp only [used, released_chunks]
    cases chunks : u.chunks with
    | nil => exact Nat.zero_le _
    | cons oldest others =>
      simp only [used, chunks, total_cons] at this
      exact Nat.le_trans (Nat.le_add_left _ oldest) this
  counted := by
    simp [Upload.released, h.counted]
  sized size member := h.sized size (List.mem_of_mem_tail member)
  uploadable := h.uploadable

/-- The upload without its macro. -/
theorem sound_reset (u : Upload) : u.reset.Sound where
  fits := Nat.zero_le _
  counted := rfl
  sized := by simp [reset]
  uploadable := by simp [Uploadable, reset]
  idle _ := ⟨rfl, rfl⟩
  pending running := by simp [reset] at running

/-- The commands that wait for the end of the macro play no part. -/
theorem Sound.withFollowUps (h : u.Sound) (followUps : List Command) : Sound { u with followUps } :=
  ⟨⟨h.fits, h.counted, h.sized, h.uploadable⟩, h.idle, h.pending⟩

/-- What becomes of a macro that runs when its end is looked for. -/
theorem Tracked.finishIfDone (h : u.Tracked) (running : u.running = true)
    (progress : u.chunks ≠ [] ∨ u.backlog = []) : u.finishIfDone.1.Sound := by
  unfold Upload.finishIfDone
  split
  · exact (sound_reset u).withFollowUps []
  · next unfinished =>
    refine ⟨h, fun idle => ?_, fun _ => ?_⟩
    · rw [running] at idle
      cases idle
    rcases progress with out | done
    · exact out
    · intro (empty : u.chunks = [])
      apply unfinished
      simp [isComplete, running, done, h.counted, empty]

/-! ## Requests -/

theorem Sound.fill (h : u.Sound) : u.fill.1.Sound := by
  cases running : u.running with
  | false =>
    rw [fill_of_backlog_nil (h.idle running).1]
    exact h
  | true =>
    obtain ⟨rest, sizes, result, fills⟩ := fill_eq u
    rw [result]
    refine ⟨h.toTracked.filled fills, fun idle => ?_, fun _ => ?_⟩
    · rw [filled_running, running] at idle
      cases idle
    · simp [h.pending running]

/-- A new macro finds the memory empty. -/
theorem Sound.submit (h : u.Sound) {steps : List Step} {progress : Progress} {v : Upload}
    (accepted : u.submit steps = .ok (v, progress)) : v.Sound := by
  unfold Upload.submit at accepted
  split at accepted
  · cases accepted
  · next fitting =>
    have start : ∃ idle : Upload, (if u.isBusy then u.abort else (u, [])).1 = idle ∧ idle.limits = u.limits ∧
        idle.marker = u.marker ∧ idle.chunks = [] ∧ idle.outstanding = 0 := by
      refine ⟨_, rfl, ?_⟩
      split
      · exact ⟨rfl, rfl, rfl, rfl⟩
      · next quiet =>
        have none : u.chunks = [] := by simp_all [isBusy]
        exact ⟨rfl, rfl, none, by rw [h.counted, none]; rfl⟩
    obtain ⟨idle, same, limits, marker, chunks, outstanding⟩ := start
    simp only [same] at accepted
    have ready : Uploadable { idle with backlog := steps, running := true } := by
      intro step member
      have := List.find?_eq_none.1 fitting step member
      simp only [decide_eq_true_eq] at this
      simp only [limits, marker]
      omega
    have tracked : Tracked { idle with backlog := steps, running := true } :=
      ⟨by simp [used, chunks], by simp [chunks, outstanding], by simp [chunks], ready⟩
    obtain ⟨rest, sizes, result, -⟩ := fill_eq { idle with backlog := steps, running := true }
    have sound := tracked.fill.finishIfDone (by rw [result]; rfl) (fill_progress ready chunks)
    cases accepted
    exact sound

/-- A marker that comes back makes room for the next chunk. -/
theorem Sound.acknowledge (h : u.Sound) : u.acknowledge.1.Sound := by
  by_cases running : u.running = true
  · rw [acknowledge_of_running running]
    obtain ⟨rest, sizes, result, -⟩ := fill_eq u.released
    refine h.released.fill.finishIfDone (by rw [result]; exact running) ?_
    by_cases last : u.released.chunks = []
    · exact fill_progress h.uploadable last
    · left
      rw [result, filled_chunks]
      exact List.append_ne_nil_of_left_ne_nil last sizes
  · rw [Upload.acknowledge, if_neg running]
    exact h

theorem sound_step (h : u.Sound) (request : Request) : (u.step request).2.Sound := by
  cases request with
  | submit steps =>
    simp only [step]
    split
    · next accepted => exact h.submit accepted
    · exact h
  | acknowledge => exact h.acknowledge
  | fill => exact h.fill
  | abort => exact sound_reset u
  | sendAfter command => exact h.withFollowUps (u.followUps ++ [command])
  | clearAfter => exact h.withFollowUps []
  | clear => exact (sound_reset u).withFollowUps []

theorem sound_make {limits : Limits} {marker : Step} (made : make limits marker = .ok u) :
    u.Sound ∧ u.limits = limits ∧ u.marker = marker := by
  unfold make at made
  split at made
  · cases made
    refine ⟨⟨⟨Nat.zero_le _, rfl, by simp, by simp [Uploadable]⟩, fun _ => ⟨rfl, rfl⟩, ?_⟩, rfl, rfl⟩
    intro running
    cases running
  · cases made

theorem sound_after (h : u.Sound) (requests : List Request) : (u.after requests).Sound := by
  induction requests generalizing u with
  | nil => exact h
  | cons request requests ih => exact ih (sound_step h request)

/-! ## What is fixed -/

theorem finishIfDone_fixed (u : Upload) :
    u.finishIfDone.1.limits = u.limits ∧ u.finishIfDone.1.marker = u.marker := by
  unfold finishIfDone
  split <;> exact ⟨rfl, rfl⟩

theorem fill_fixed (u : Upload) : u.fill.1.limits = u.limits ∧ u.fill.1.marker = u.marker := by
  obtain ⟨rest, sizes, result, -⟩ := fill_eq u
  rw [result]
  exact ⟨rfl, rfl⟩

theorem step_fixed (u : Upload) (request : Request) :
    (u.step request).2.limits = u.limits ∧ (u.step request).2.marker = u.marker := by
  have finished (v : Upload) :
      v.fill.1.finishIfDone.1.limits = v.limits ∧ v.fill.1.finishIfDone.1.marker = v.marker :=
    ⟨(finishIfDone_fixed _).1.trans (fill_fixed v).1, (finishIfDone_fixed _).2.trans (fill_fixed v).2⟩
  cases request with
  | submit steps =>
    simp only [step]
    split
    · next next progress accepted =>
      unfold submit at accepted
      split at accepted
      · cases accepted
      · cases accepted
        have := finished { (if u.isBusy then u.abort else (u, [])).1 with backlog := steps, running := true }
        refine ⟨this.1.trans ?_, this.2.trans ?_⟩ <;> simp only <;> split <;> rfl
    · exact ⟨rfl, rfl⟩
  | acknowledge =>
    simp only [step, acknowledge]
    split
    · exact finished u.released
    · exact ⟨rfl, rfl⟩
  | fill => exact fill_fixed u
  | abort | sendAfter _ | clearAfter | clear => exact ⟨rfl, rfl⟩

theorem after_fixed (u : Upload) (requests : List Request) :
    (u.after requests).limits = u.limits ∧ (u.after requests).marker = u.marker := by
  induction requests generalizing u with
  | nil => exact ⟨rfl, rfl⟩
  | cons request requests ih =>
    have first := step_fixed u request
    have later := ih (u.step request).2
    exact ⟨later.1.trans first.1, later.2.trans first.2⟩

/-! ## The memory -/

/-- A marker frees the oldest chunk, and new ones come behind the others. -/
theorem Sound.chunks_acknowledge (h : u.Sound) (running : u.running = true) :
    ∃ oldest others new, u.chunks = oldest :: others ∧ u.acknowledge.1.chunks = others ++ new := by
  obtain ⟨oldest, others, chunks⟩ := List.exists_cons_of_ne_nil (h.pending running)
  obtain ⟨rest, sizes, result, -⟩ := fill_eq u.released
  refine ⟨oldest, others, ?_⟩
  rw [acknowledge_of_running running]
  unfold Upload.finishIfDone
  split
  · next complete =>
    have done : u.released.fill.1.chunks = [] := by
      have counted := h.toTracked.released.fill.counted
      simp only [isComplete, Bool.and_eq_true, beq_iff_eq] at complete
      exact List.length_eq_zero_iff.1 (counted.symm.trans complete.2)
    rw [result, filled_chunks, released_chunks, chunks, List.tail_cons, List.append_eq_nil_iff] at done
    exact ⟨[], chunks, by simp [reset, done.1]⟩
  · refine ⟨sizes, chunks, ?_⟩
    rw [result, filled_chunks, released_chunks, chunks, List.tail_cons]

/-- **The driver never overfills the robot's memory.** Whatever is asked of an upload, the tracked chunks fit
the budget and are counted by the outstanding markers, each holds more than its marker and no more than the
largest chunk, and nothing is tracked without a macro. A marker that comes back frees exactly the oldest
chunk of the macro that runs, and changes nothing when none runs. -/
theorem memory_tracked {budget maxChunk minThreshold : Nat} {limits : Limits} {marker : Step} {fresh : Upload}
    (accepted : Limits.make budget maxChunk minThreshold = .ok limits) (made : make limits marker = .ok fresh)
    (requests : List Request) :
    let u := fresh.after requests
    total u.chunks ≤ budget ∧
    u.outstanding = u.chunks.length ∧
    (∀ size ∈ u.chunks, marker.length < size ∧ size ≤ maxChunk) ∧
    (u.running = false → u.backlog = [] ∧ u.chunks = [] ∧ u.outstanding = 0) ∧
    (u.running = true →
      ∃ oldest others new, u.chunks = oldest :: others ∧ u.acknowledge.1.chunks = others ++ new) ∧
    (u.running = false → u.acknowledge = (u, {})) := by
  intro u
  obtain ⟨budget_eq, maxChunk_eq, -⟩ := Limits.eq_of_make accepted
  obtain ⟨start, limited, marked⟩ := sound_make made
  have sound : u.Sound := sound_after start requests
  have fixed : u.limits = limits ∧ u.marker = marker :=
    ⟨(after_fixed fresh requests).1.trans limited, (after_fixed fresh requests).2.trans marked⟩
  have fits := sound.fits
  have sized := sound.sized
  rw [fixed.1, budget_eq] at fits
  rw [fixed.1, fixed.2, maxChunk_eq] at sized
  refine ⟨fits, sound.counted, sized, fun idle => ?_, sound.chunks_acknowledge, fun idle => ?_⟩
  · obtain ⟨backlog, chunks⟩ := sound.idle idle
    exact ⟨backlog, chunks, by rw [sound.counted, chunks]; rfl⟩
  · simp [acknowledge, idle]

/-- Three steps in a memory for one of them: behind the first marker the second step is out, and the third
waits for room. -/
theorem memory_tracked_waiting :
    ∃ limits fresh, Limits.make 160 100 50 = .ok limits ∧ make limits (.raw (.replicate 5 0x42)) = .ok fresh ∧
      let u := fresh.after [.submit (.replicate 3 (.raw (.replicate 90 0x42))), .acknowledge, .fill]
      u.running = true ∧ u.chunks = [95] ∧ total u.chunks ≤ 160 ∧ u.outstanding = u.chunks.length ∧
      ∃ oldest others new, u.chunks = oldest :: others ∧ u.acknowledge.1.chunks = others ++ new := by
  refine ⟨_, _, rfl, rfl, ?_⟩
  have accepted : Limits.make 160 100 50 = .ok ⟨160, 100, 50, by decide, by decide, by decide⟩ := rfl
  have made : make ⟨160, 100, 50, by decide, by decide, by decide⟩ (.raw (.replicate 5 0x42)) = .ok _ := rfl
  have tracked := memory_tracked accepted made
    [.submit (.replicate 3 (.raw (.replicate 90 0x42))), .acknowledge, .fill]
  exact ⟨by decide +kernel, by decide +kernel, tracked.1, tracked.2.1, tracked.2.2.2.2.1 (by decide +kernel)⟩

end Upload

end RobotDriver.Macro
