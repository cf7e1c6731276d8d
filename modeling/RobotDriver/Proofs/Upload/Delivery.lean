import RobotDriver.Proofs.Upload.Memory

/-!
# What a streamed macro brings to the robot

A macro is cut into runs of whole steps, and each run is stored behind the others with its marker. `Stores` says
what filling takes off the backlog, and `Delivered` what all commands since the macro was submitted have in
common: their runs and the backlog are the macro, and the tracked sizes are those of the runs.
-/

namespace RobotDriver.Macro

/-- A run of steps as it is stored, with the marker that ends it. -/
def block (marker : Step) (run : List Step) : Bytes :=
  stepBytes run ++ marker.toBytes

/-- The command that stores a run of steps in front of the rest of the macro. -/
def store (marker : Step) (run rest : List Step) : Command :=
  .saveMacro Command.streamingMacroId Command.motorControlFlag
    (block marker run ++ if rest.isEmpty then [macroEnd] else [])

/-- The commands that store runs of steps one after the other, in front of the rest of the macro. -/
def storing (marker : Step) (rest : List Step) : List (List Step) → List Command
  | [] => []
  | run :: runs => store marker run (runs.flatten ++ rest) :: storing marker rest runs

/-- The tracked sizes of runs of steps. -/
def sizes (marker : Step) (runs : List (List Step)) : List Nat :=
  runs.map fun run => (block marker run).length

/-- No step without bytes stands in front. -/
def Trimmed : List Step → Prop
  | [] => True
  | step :: _ => step.length ≠ 0

/-- Runs of whole steps, none without bytes, are cut off the front, and what is left has bytes in front. -/
structure Cut (steps : List Step) (runs : List (List Step)) (rest : List Step) : Prop where
  whole : runs.flatten ++ rest = steps
  solid : ∀ run ∈ runs, stepBytes run ≠ []
  trimmed : Trimmed rest

variable {steps rest later : List Step} {runs more : List (List Step)} {marker : Step}

/-! ## Runs of steps -/

theorem length_stepBytes (steps : List Step) : (stepBytes steps).length = stepsLength steps := by
  induction steps with
  | nil => rfl
  | cons step steps ih =>
    rw [stepsLength_cons, ← ih, ← step.length_toBytes]
    simp [stepBytes]

theorem stepBytes_eq_nil_iff (steps : List Step) : stepBytes steps = [] ↔ stepsLength steps = 0 := by
  rw [← List.length_eq_zero_iff, length_stepBytes]

theorem length_block (marker : Step) (run : List Step) :
    (block marker run).length = stepsLength run + marker.length := by
  rw [block, List.length_append, length_stepBytes, marker.length_toBytes]

theorem storing_append (marker : Step) (rest : List Step) (runs more : List (List Step)) :
    storing marker rest (runs ++ more) = storing marker (more.flatten ++ rest) runs ++ storing marker rest more := by
  induction runs with
  | nil => rfl
  | cons run runs ih => simp [storing, ih]

theorem sizes_append (marker : Step) (runs more : List (List Step)) :
    sizes marker (runs ++ more) = sizes marker runs ++ sizes marker more :=
  List.map_append

theorem Cut.append (h : Cut steps runs rest) (next : Cut rest more later) : Cut steps (runs ++ more) later where
  whole := by rw [List.flatten_append, List.append_assoc, next.whole, h.whole]
  solid run member := by
    rcases List.mem_append.1 member with first | second
    · exact h.solid run first
    · exact next.solid run second
  trimmed := next.trimmed

/-- Runs cut off first and runs cut off what was left are stored one after the other. -/
theorem Cut.storing_append (next : Cut rest more later) (marker : Step) (runs : List (List Step)) :
    storing marker later (runs ++ more) = storing marker rest runs ++ storing marker later more := by
  rw [Macro.storing_append, next.whole]

theorem stepBytes_append (first second : List Step) :
    stepBytes (first ++ second) = stepBytes first ++ stepBytes second :=
  List.flatMap_append

/-- Steps off which runs are cut have bytes. -/
theorem Cut.bytes {run : List Step} (h : Cut steps (run :: runs) rest) : stepBytes steps ≠ [] := by
  rw [← h.whole, List.flatten_cons, stepBytes_append, stepBytes_append]
  intro none
  simp only [List.append_eq_nil_iff] at none
  exact h.solid run (by simp) none.1.1

/-- What does not fit behind a chunk has bytes. -/
theorem trimmed_splitFitting {cap size : Nat} (h : (splitFitting cap size steps).1 ≠ []) :
    Trimmed (splitFitting cap size steps).2 := by
  cases left : (splitFitting cap size steps).2 with
  | nil => trivial
  | cons step others =>
    have fits := splitFitting_fits cap size steps h
    have full := splitFitting_maximal left
    show step.length ≠ 0
    omega

/-- With bytes in front, only a chunk takes steps off. -/
theorem splitFitting_of_trimmed {cap size : Nat} (trimmed : Trimmed steps)
    (h : stepsLength (splitFitting cap size steps).1 = 0) : (splitFitting cap size steps).2 = steps := by
  cases steps with
  | nil => rfl
  | cons step steps =>
    unfold splitFitting at h ⊢
    split
    · next fits =>
      rw [if_pos fits] at h
      simp only [stepsLength_cons, Nat.add_eq_zero_iff] at h
      exact absurd h.1 trimmed
    · rfl

namespace Upload

variable {u v : Upload}

/-! ## Filling -/

/-- Filling stores these runs and leaves the rest. -/
structure Stores (u : Upload) (runs : List (List Step)) (rest : List Step) : Prop extends
    Cut u.backlog runs rest where
  filled : u.fill = (u.filled rest (sizes u.marker runs), storing u.marker rest runs)

theorem fill_of_none (h : u.fillOnce = (v, none)) : u.fill = (v, []) := by
  rw [fill]
  split <;> simp_all

theorem fill_of_some {c : Command} (h : u.fillOnce = (v, some c)) : u.fill = (v.fill.1, c :: v.fill.2) := by
  rw [fill]
  split <;> simp_all

/-- One chunk is cut off. -/
theorem cut_of_some {c : Command} (h : u.fillOnce = (v, some c)) :
    ∃ run rest, Cut u.backlog [run] rest ∧ v = u.filled rest (sizes u.marker [run]) ∧
      c = store u.marker run rest := by
  have whole := splitFitting_append u.cap u.marker.length u.backlog
  obtain ⟨-, bytes, rfl, rfl⟩ := fillOnce_eq_some h
  have trimmed := trimmed_splitFitting (ne_nil_of_stepsLength bytes)
  refine ⟨_, _, ⟨by simpa using whole, ?_, trimmed⟩, ?_, rfl⟩
  · simpa [stepBytes_eq_nil_iff] using bytes
  · simp [filled, sizes, length_block]

/-- A chunk, and then all that follows it. -/
theorem Stores.cons {run left : List Step} (first : Cut u.backlog [run] left)
    (some : u.fillOnce = (u.filled left (sizes u.marker [run]), some (store u.marker run left)))
    (next : Stores (u.filled left (sizes u.marker [run])) runs rest) : Stores u (run :: runs) rest where
  toCut := first.append next.toCut
  filled := by
    have behind : runs.flatten ++ rest = left := next.whole
    rw [fill_of_some some, next.filled, filled_filled, storing, behind]
    rfl

/-- With bytes in front of the backlog, nothing changes when no chunk is cut off. -/
theorem eq_of_none (trimmed : Trimmed u.backlog) (h : u.fillOnce = (v, none)) : v = u := by
  rcases fillOnce_eq_none h with ⟨same, -⟩ | ⟨nothing, rfl⟩
  · exact same
  · rw [splitFitting_of_trimmed trimmed nothing]

/-- The runs of steps that filling cuts off the backlog. -/
def fillRuns (u : Upload) : List (List Step) :=
  match _cut : u.fillOnce with
  | (_, none) => []
  | (v, some _) => u.backlog.take (u.backlog.length - v.backlog.length) :: v.fillRuns
termination_by u.backlog.length
decreasing_by exact backlog_fillOnce_lt _cut

theorem fillRuns_of_none (h : u.fillOnce = (v, none)) : u.fillRuns = [] := by
  rw [fillRuns]
  split <;> simp_all

theorem fillRuns_of_some {c : Command} (h : u.fillOnce = (v, some c)) :
    u.fillRuns = u.backlog.take (u.backlog.length - v.backlog.length) :: v.fillRuns := by
  rw [fillRuns]
  split <;> simp_all

/-- Filling cuts runs off a backlog with bytes in front, or off one that a chunk can be made of. -/
theorem stores_fillRuns (u : Upload) (first : Trimmed u.backlog ∨ ∃ v c, u.fillOnce = (v, some c)) :
    Stores u u.fillRuns u.fill.1.backlog := by
  induction u using fill.induct with
  | case1 u v none =>
    have trimmed : Trimmed u.backlog := by
      refine first.resolve_right ?_
      rintro ⟨v, c, made⟩
      simp [none] at made
    obtain rfl := eq_of_none trimmed none
    rw [fillRuns_of_none none, fill_of_none none]
    refine ⟨⟨rfl, by simp, trimmed⟩, ?_⟩
    rw [fill_of_none none]
    simp [sizes, storing, filled]
  | case2 u v c some _ _ _ ih =>
    obtain ⟨run, left, cut, rfl, rfl⟩ := cut_of_some some
    have next := ih (.inl cut.trimmed)
    have taken : u.backlog.take (u.backlog.length - (u.filled left (sizes u.marker [run])).backlog.length) = run := by
      have whole : run ++ left = u.backlog := by simpa using cut.whole
      rw [← whole, filled_backlog, List.length_append, Nat.add_sub_cancel, List.take_left]
    rw [fillRuns_of_some some, fill_of_some some, taken]
    exact .cons cut some next

/-- Filling a backlog with bytes in front cuts runs off it. -/
theorem fill_stores (u : Upload) (trimmed : Trimmed u.backlog) : ∃ runs rest, Stores u runs rest :=
  ⟨_, _, stores_fillRuns u (.inl trimmed)⟩

/-- A macro of which nothing is stored and nothing left has no bytes. -/
theorem stepBytes_of_none (h : u.fillOnce = (v, none)) (left : v.backlog = []) : stepBytes u.backlog = [] := by
  have whole := splitFitting_append u.cap u.marker.length u.backlog
  rcases fillOnce_eq_none h with ⟨rfl, -⟩ | ⟨nothing, rfl⟩
  · rw [left]
    rfl
  · have rest : (splitFitting u.cap u.marker.length u.backlog).2 = [] := left
    rw [← whole, rest, List.append_nil, stepBytes_eq_nil_iff]
    exact nothing

/-- A macro that finds the memory empty is cut into runs, unless it has no bytes. -/
theorem fill_of_empty (ready : u.Uploadable) (empty : u.chunks = []) :
    (stepBytes u.backlog = [] ∧ u.fill = (u.filled [] [], [])) ∨
      ∃ run runs rest, Stores u (run :: runs) rest := by
  cases cut : u.fillOnce with
  | mk v command =>
    cases command with
    | none =>
      left
      have nothing := fillOnce_progress ready empty cut
      obtain ⟨rest, same, -⟩ := fillOnce_of_none cut
      rw [same, filled_backlog] at nothing
      rw [nothing] at same
      exact ⟨stepBytes_of_none cut (by rw [same]; rfl), by rw [fill_of_none cut, same]⟩
    | some c =>
      right
      obtain ⟨run, left, first, rfl, rfl⟩ := cut_of_some cut
      obtain ⟨runs, rest, next⟩ := fill_stores (u.filled left (sizes u.marker [run])) first.trimmed
      exact ⟨run, runs, rest, .cons first cut next⟩

/-! ## Requests -/

/-- The request neither starts a macro nor gives one up. -/
def Request.keepsMacro : Request → Bool
  | acknowledge | fill | sendAfter _ | clearAfter => true
  | submit _ | abort | clear => false

/-- The commands that a reply asks the driver to send now. -/
def Reply.uploads : Reply → List Command
  | progress change => change.uploads
  | commands now => now
  | done | refused _ => []

/-- The size of the chunk that a request frees. -/
def frees (u : Upload) : Request → List Nat
  | .acknowledge => if u.running then u.chunks.take 1 else []
  | _ => []

/-- The commands that come of requests one after the other. -/
def uploads (u : Upload) : List Request → List Command
  | [] => []
  | request :: requests => (u.step request).1.uploads ++ (u.step request).2.uploads requests

/-- The sizes of the chunks that requests free, one after the other. -/
def freed (u : Upload) : List Request → List Nat
  | [] => []
  | request :: requests => u.frees request ++ (u.step request).2.freed requests

theorem after_append (u : Upload) (first later : List Request) :
    u.after (first ++ later) = (u.after first).after later :=
  List.foldl_append

theorem freed_append (u : Upload) (first later : List Request) :
    u.freed (first ++ later) = u.freed first ++ (u.after first).freed later := by
  induction first generalizing u with
  | nil => rfl
  | cons request first ih => simp [freed, ih, after]

/-- What the commands sent since a macro was submitted, and the chunks freed since, have to do with it. -/
structure Delivered (steps : List Step) (runs : List (List Step)) (sent : List Command) (freed : List Nat)
    (u : Upload) : Prop extends Cut steps runs u.backlog where
  stored : sent = storing u.marker u.backlog runs
  tracked : freed ++ u.chunks = sizes u.marker runs

section

variable {sent : List Command} {freed : List Nat}

theorem Delivered.fill (h : Delivered steps runs sent freed u) :
    Delivered steps (runs ++ u.fillRuns) (sent ++ u.fill.2) freed u.fill.1 := by
  have next := stores_fillRuns u (.inl h.trimmed)
  generalize u.fill.1.backlog = rest at next
  rw [next.filled]
  refine ⟨h.toCut.append next.toCut, ?_, ?_⟩
  · rw [h.stored, filled_marker, filled_backlog, next.storing_append]
  · rw [filled_chunks, filled_marker, ← List.append_assoc, h.tracked, sizes_append]

theorem Delivered.finishIfDone (h : Delivered steps runs sent freed u) (counted : u.outstanding = u.chunks.length) :
    Delivered steps runs sent freed u.finishIfDone.1 := by
  unfold Upload.finishIfDone
  split
  · next complete =>
    simp only [isComplete, Bool.and_eq_true, List.isEmpty_iff, beq_iff_eq] at complete
    have backlog : u.backlog = [] := complete.1.2
    have chunks : u.chunks = [] := List.length_eq_zero_iff.1 (counted.symm.trans complete.2)
    have cut := h.toCut
    have stored := h.stored
    have tracked := h.tracked
    rw [backlog] at cut stored
    rw [chunks] at tracked
    exact ⟨cut, stored, tracked⟩
  · exact h

theorem acknowledge_eq (running : u.running = true) :
    u.acknowledge = (u.released.fill.1.finishIfDone.1,
      { uploads := u.released.fill.2, finished := u.released.fill.1.finishIfDone.2 }) := by
  unfold Upload.acknowledge
  rw [if_pos running]
  rfl

/-- A marker that comes back moves the oldest size from the tracked ones to those that are freed. -/
theorem Delivered.acknowledge (h : Delivered steps runs sent freed u) (sound : u.Tracked)
    (running : u.running = true) :
    Delivered steps (runs ++ u.released.fillRuns) (sent ++ u.acknowledge.2.uploads) (freed ++ u.chunks.take 1)
      u.acknowledge.1 := by
  have released : Delivered steps runs sent (freed ++ u.chunks.take 1) u.released := by
    refine ⟨h.toCut, h.stored, ?_⟩
    rw [released_chunks, List.append_assoc, ← List.drop_one, List.take_append_drop]
    exact h.tracked
  have finished := released.fill.finishIfDone sound.released.fill.counted
  rw [acknowledge_eq running]
  exact finished

/-- Whatever is asked of an upload, as long as no macro begins or is given up, the runs follow one another. -/
theorem Delivered.step (h : Delivered steps runs sent freed u) (sound : u.Tracked) {request : Request}
    (kept : request.keepsMacro = true) :
    ∃ more, Delivered steps (runs ++ more) (sent ++ (u.step request).1.uploads) (freed ++ u.frees request)
      (u.step request).2 := by
  have still (followUps : List Command) :
      ∃ more, Delivered steps (runs ++ more) (sent ++ []) (freed ++ []) { u with followUps } := by
    refine ⟨[], ?_⟩
    simp only [List.append_nil]
    exact ⟨h.toCut, h.stored, h.tracked⟩
  cases request with
  | submit | abort | clear => cases kept
  | sendAfter command => exact still (u.followUps ++ [command])
  | clearAfter => exact still []
  | fill =>
    simp only [frees, List.append_nil]
    exact ⟨_, h.fill⟩
  | acknowledge =>
    cases running : u.running with
    | false =>
      have idle : u.acknowledge = (u, {}) := by simp [Upload.acknowledge, running]
      simp only [Upload.step, idle, frees, running]
      exact still u.followUps
    | true =>
      simp only [frees, running, if_true]
      exact ⟨_, h.acknowledge sound running⟩

theorem Delivered.after {requests : List Request} (h : Delivered steps runs sent freed u) (sound : u.Sound)
    (kept : ∀ request ∈ requests, request.keepsMacro = true) :
    ∃ more, Delivered steps (runs ++ more) (sent ++ u.uploads requests) (freed ++ u.freed requests)
      (u.after requests) := by
  induction requests generalizing u runs sent freed with
  | nil =>
    refine ⟨[], ?_⟩
    simp only [uploads, Upload.freed, List.append_nil]
    exact h
  | cons request requests ih =>
    obtain ⟨first, next⟩ := h.step sound.toTracked (kept request (by simp))
    obtain ⟨more, all⟩ := ih next (sound_step sound request) fun r member => kept r (by simp [member])
    refine ⟨first ++ more, ?_⟩
    simp only [uploads, Upload.freed, ← List.append_assoc] at all ⊢
    exact all

end

/-! ## Submission -/

/-- The upload at the start of a macro: the memory is empty. -/
def started (u : Upload) (steps : List Step) : Upload :=
  { u.reset with backlog := steps, running := true }

theorem tracked_started (fitting : u.oversized? steps = none) : (u.started steps).Tracked where
  fits := Nat.zero_le _
  counted := rfl
  sized := by simp [started, reset]
  uploadable step member := by
    have := List.find?_eq_none.1 fitting step member
    simp only [decide_eq_true_eq] at this
    show step.length + u.marker.length ≤ u.limits.maxChunk
    omega

/-- What a macro that is accepted starts with; the one that is under way is given up. -/
theorem submit_eq (h : u.Sound) {progress : Progress} (accepted : u.submit steps = .ok (v, progress)) :
    u.oversized? steps = none ∧ v = (u.started steps).fill.1.finishIfDone.1 ∧
      progress.uploads = (if u.isBusy then [.abortMacro] else []) ++ (u.started steps).fill.2 ∧
      progress.finished = (u.started steps).fill.1.finishIfDone.2 := by
  unfold submit at accepted
  split at accepted
  · cases accepted
  · next fitting =>
    have idle : { (if u.isBusy then u.abort else (u, [])).1 with backlog := steps, running := true } =
        u.started steps := by
      split
      · rfl
      · next quiet =>
        have chunks : u.chunks = [] := by simp_all [isBusy]
        have outstanding : u.outstanding = 0 := by rw [h.counted, chunks]; rfl
        simp [started, reset, chunks, outstanding]
    dsimp only at accepted
    rw [idle] at accepted
    cases accepted
    refine ⟨fitting, rfl, ?_, rfl⟩
    split <;> rfl

/-- A macro with bytes does not end with its submission: runs of it are stored. -/
theorem delivered_started (ready : (u.started steps).Tracked) (bytes : stepBytes steps ≠ []) :
    ∃ run runs, Delivered steps (run :: runs) (u.started steps).fill.2 [] (u.started steps).fill.1.finishIfDone.1 ∧
      (u.started steps).fill.1.finishIfDone.2 = none := by
  rcases fill_of_empty ready.uploadable rfl with ⟨none, -⟩ | ⟨run, runs, rest, stores⟩
  · exact absurd none bytes
  · have counted := ready.fill.counted
    have stored : Delivered steps (run :: runs) (u.started steps).fill.2 [] (u.started steps).fill.1 := by
      rw [stores.filled]
      exact ⟨stores.toCut, rfl, rfl⟩
    refine ⟨run, runs, stored.finishIfDone counted, ?_⟩
    have out : (u.started steps).fill.1.outstanding ≠ 0 := by
      rw [stores.filled]
      simp [sizes]
    simp [finishIfDone, isComplete, out]

/-- A macro without bytes is over at once. -/
theorem finish_started (ready : (u.started steps).Tracked) (none : stepBytes steps = []) :
    (u.started steps).fill.2 = [] ∧ (u.started steps).fill.1.finishIfDone.1.running = false ∧
      (u.started steps).fill.1.finishIfDone.2.isSome = true := by
  rcases fill_of_empty ready.uploadable rfl with ⟨-, filled⟩ | ⟨run, runs, rest, stores⟩
  · rw [filled]
    exact ⟨rfl, rfl, rfl⟩
  · exact absurd none stores.bytes

/-- Without a macro, nothing comes of requests. -/
theorem uploads_of_idle {requests : List Request} (sound : u.Sound) (idle : u.running = false)
    (kept : ∀ request ∈ requests, request.keepsMacro = true) : u.uploads requests = [] := by
  obtain ⟨backlog, chunks⟩ := sound.idle idle
  have nothing : Delivered [] [] [] [] u := by
    refine ⟨⟨?_, by simp, ?_⟩, rfl, ?_⟩
    · rw [backlog]
      rfl
    · rw [backlog]
      trivial
    · rw [chunks]
      rfl
  obtain ⟨more, later⟩ := nothing.after sound kept
  have none : more = [] := by
    cases more with
    | nil => rfl
    | cons run more => exact absurd rfl later.toCut.bytes
  have stored := later.stored
  rw [none] at stored
  exact stored

end Upload

/-! ## Blocks -/

/-- The block that a command stores under a macro id. -/
def block? : Command → Option Bytes
  | .saveMacro _ _ steps => some steps
  | _ => none

/-- The blocks that commands store, in order. -/
def blocks (commands : List Command) : List Bytes :=
  commands.filterMap block?

theorem blocks_append (first second : List Command) : blocks (first ++ second) = blocks first ++ blocks second :=
  List.filterMap_append

theorem block?_store (marker : Step) (run rest : List Step) :
    block? (store marker run rest) = some (block marker run ++ if rest.isEmpty then [macroEnd] else []) := rfl

theorem length_blocks_storing (marker : Step) (rest : List Step) (runs : List (List Step)) :
    (blocks (storing marker rest runs)).length = runs.length := by
  induction runs with
  | nil => rfl
  | cons run runs ih =>
    rw [storing, blocks, List.filterMap_cons_some (block?_store _ _ _)]
    exact congrArg (· + 1) ih

theorem blocks_storing_of_rest (left : rest ≠ []) (runs : List (List Step)) :
    blocks (storing marker rest runs) = runs.map (block marker) := by
  induction runs with
  | nil => rfl
  | cons run runs ih =>
    have more : (runs.flatten ++ rest).isEmpty = false := by simp [left]
    have first := block?_store marker run (runs.flatten ++ rest)
    rw [more] at first
    simp only [Bool.false_eq_true, if_false, List.append_nil] at first
    rw [storing, blocks, List.filterMap_cons_some first, List.map_cons]
    exact congrArg _ ih

/-- The end byte stands behind the last block and behind no other. -/
theorem blocks_storing {last : List Step} (solid : stepBytes last ≠ []) (runs : List (List Step)) :
    blocks (storing marker [] (runs ++ [last])) = runs.map (block marker) ++ [block marker last ++ [macroEnd]] := by
  have left : [last].flatten ++ [] ≠ [] := by
    intro none
    simp only [List.flatten_singleton, List.append_nil] at none
    exact solid (by rw [none]; rfl)
  rw [Macro.storing_append, blocks_append, blocks_storing_of_rest left]
  rfl

namespace Upload

variable {u : Upload}

/-- When a macro is over, its runs are the whole macro, and the sizes that were freed are those of the runs. -/
theorem Delivered.ended {sent : List Command} {freed : List Nat} (h : Delivered steps runs sent freed u)
    (sound : u.Sound) (idle : u.running = false) :
    runs.flatten = steps ∧ sent = storing u.marker [] runs ∧ freed = sizes u.marker runs := by
  obtain ⟨backlog, chunks⟩ := sound.idle idle
  have whole := h.whole
  have stored := h.stored
  have tracked := h.tracked
  rw [backlog] at whole stored
  rw [chunks] at tracked
  simp only [List.append_nil] at whole tracked
  exact ⟨whole, stored, tracked⟩

/-- At any time the sizes freed and tracked since a macro was submitted are those of the blocks sent since. -/
theorem Delivered.tracked_eq_take {sent : List Command} {freed : List Nat} (h : Delivered steps runs sent freed u)
    (sound : u.Sound) {requests : List Request} (kept : ∀ request ∈ requests, request.keepsMacro = true)
    (idle : (u.after requests).running = false) :
    freed ++ u.chunks = (freed ++ u.freed requests).take (blocks sent).length := by
  obtain ⟨more, later⟩ := h.after sound kept
  have fixed := (after_fixed u requests).2
  have all := (later.ended (sound_after sound requests) idle).2.2
  rw [h.tracked, h.stored, length_blocks_storing, all, fixed, sizes_append]
  exact (List.take_left' (by simp [sizes])).symm

theorem blocks_aborts (busy : Bool) : blocks (if busy then [.abortMacro] else []) = [] := by
  cases busy <;> rfl

/-- **A streamed macro reaches the robot whole and in order.** When it is over, the blocks that were sent for it
are runs of its steps, one behind the other, each with the marker, and the end byte stands behind the last block
alone; what is tracked at any time is the size of each block that was sent and not yet freed, the end byte apart.
Of a macro without bytes nothing is sent, and it is over at once. -/
theorem macro_delivered {limits : Limits} {marker : Step} {fresh : Upload} (made : make limits marker = .ok fresh)
    (before : List Request) {steps : List Step} {u : Upload} {progress : Progress}
    (submitted : (fresh.after before).submit steps = .ok (u, progress)) (requests : List Request)
    (kept : ∀ request ∈ requests, request.keepsMacro = true) (ended : (u.after requests).running = false) :
    let sent := fun requests => blocks (progress.uploads ++ u.uploads requests)
    (stepBytes steps = [] → sent requests = [] ∧ progress.finished.isSome = true) ∧
    (stepBytes steps ≠ [] → ∃ runs last,
      (runs ++ [last]).flatten = steps ∧
      (∀ run ∈ runs ++ [last], stepBytes run ≠ []) ∧
      sent requests = runs.map (block marker) ++ [block marker last ++ [macroEnd]] ∧
      u.freed requests = (runs ++ [last]).map (fun run => (block marker run).length) ∧
      ∀ earlier, earlier <+: requests →
        u.freed earlier ++ (u.after earlier).chunks = (u.freed requests).take (sent earlier).length) := by
  intro sent
  obtain ⟨start, -, same⟩ := sound_make made
  have reached := sound_after start before
  have sound := reached.submit submitted
  have fixed : (fresh.after before).marker = marker := (after_fixed fresh before).2.trans same
  obtain ⟨fitting, rfl, uploads, finished⟩ := submit_eq reached submitted
  have ready := tracked_started fitting
  constructor
  · intro none
    obtain ⟨nothing, idle, told⟩ := finish_started ready none
    have later := uploads_of_idle sound idle kept
    refine ⟨?_, by rw [finished]; exact told⟩
    simp only [sent, uploads, nothing, later, List.append_nil, blocks_aborts]
  · intro bytes
    obtain ⟨run, runs, delivered, -⟩ := delivered_started ready bytes
    have same : ((fresh.after before).started steps).fill.1.finishIfDone.1.marker = marker :=
      (finishIfDone_fixed _).2.trans ((fill_fixed _).2.trans fixed)
    obtain ⟨more, later⟩ := delivered.after sound kept
    obtain ⟨whole, stored, freed⟩ := later.ended (sound_after sound requests) ended
    rw [(after_fixed _ requests).2, same] at stored freed
    obtain ⟨init, last, split⟩ : ∃ init last, run :: runs ++ more = init ++ [last] :=
      ⟨_, _, (List.dropLast_concat_getLast (by simp)).symm⟩
    have solid := later.solid
    rw [split] at whole stored freed solid
    refine ⟨init, last, whole, solid, ?_, freed, ?_⟩
    · simp only [sent, uploads]
      rw [List.append_assoc, blocks_append, blocks_aborts, List.nil_append, stored,
        blocks_storing (solid last (by simp))]
    · intro earlier part
      obtain ⟨rest, rfl⟩ := part
      have first (request : Request) (member : request ∈ earlier) : request.keepsMacro = true :=
        kept request (List.mem_append_left _ member)
      have second (request : Request) (member : request ∈ rest) : request.keepsMacro = true :=
        kept request (List.mem_append_right _ member)
      obtain ⟨_, there⟩ := delivered.after sound first
      rw [after_append] at ended
      have tracked := there.tracked_eq_take (sound_after sound earlier) second ended
      simp only [sent, uploads]
      rw [List.append_assoc, blocks_append, blocks_aborts, List.nil_append, freed_append]
      exact tracked

/-- Seven steps, three of them without bytes, in a memory for two chunks of ten bytes. -/
def sevenSteps : List Step :=
  [.raw [], .raw (.replicate 8 0x42), .delay 300, .stabilization true, .raw [], .rgb 1 2 3 0, .raw []]

theorem macro_delivered_threeBlocks :
    ∃ fresh u progress, make ⟨20, 10, 4, by decide, by decide, by decide⟩ (.emit 1) = .ok fresh ∧
      (fresh.after [.sendAfter .ping]).submit sevenSteps = .ok (u, progress) ∧
      (u.after [.fill, .acknowledge, .fill, .acknowledge, .acknowledge]).running = false ∧
      stepBytes sevenSteps ≠ [] ∧
      u.freed [.fill, .acknowledge, .fill, .acknowledge, .acknowledge] = [10, 8, 7] ∧
      ∃ runs last, (runs ++ [last]).flatten = sevenSteps ∧
        blocks (progress.uploads ++ u.uploads [.fill, .acknowledge, .fill, .acknowledge, .acknowledge]) =
          runs.map (block (.emit 1)) ++ [block (.emit 1) last ++ [macroEnd]] := by
  have made : make ⟨20, 10, 4, by decide, by decide, by decide⟩ (.emit 1) = .ok _ := rfl
  refine ⟨_, _, _, made, rfl, by decide +kernel, by decide +kernel, by decide +kernel, ?_⟩
  have delivered := macro_delivered made [.sendAfter .ping] (rfl : Upload.submit _ sevenSteps = .ok _)
    [.fill, .acknowledge, .fill, .acknowledge, .acknowledge] (by decide) (by decide +kernel)
  obtain ⟨runs, last, whole, -, stored, -⟩ := delivered.2 (by decide +kernel)
  exact ⟨runs, last, whole, stored⟩

end Upload

end RobotDriver.Macro
