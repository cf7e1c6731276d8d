import RobotDriver.Proofs.Upload.Completion

/-!
# The robot that plays a macro

A `Player` is as much of a robot as plays a macro: it stores the chunks that it is sent, executes their steps in order
and reports what they tell it to report. `Plays` says how far it has come, and `delivered_acknowledgements` what the
upload makes of its reports, when no more come than chunks are tracked.
-/

namespace RobotDriver.Macro

/-- A chunk in the robot's memory: the room that it takes, and its steps that are not executed yet. -/
structure Player.Chunk where
  size : Nat
  steps : List Step
  deriving DecidableEq

/-- The robot that plays a macro. -/
structure Player where
  /-- The chunks that are not executed in full, oldest first. -/
  chunks : List Player.Chunk := []
  /-- All steps that have been executed, in order. -/
  executed : List Step := []
  deriving DecidableEq

namespace Player

/-- The chunk that a run of steps becomes; it ends in the marker. -/
def chunk (marker : Step) (run : List Step) : Chunk :=
  { size := (block marker run).length, steps := run ++ [marker] }

/-- Stores chunks behind the others. -/
def store (p : Player) (marker : Step) (runs : List (List Step)) : Player :=
  { p with chunks := p.chunks ++ runs.map (chunk marker) }

/-- Executes one step. A chunk that is executed in full makes room. -/
def execute (p : Player) : Player :=
  match p.chunks with
  | { size, steps := step :: steps } :: others =>
    { chunks := if steps.isEmpty then others else { size, steps } :: others
      executed := p.executed ++ [step] }
  | _ => p

/-- The room that is taken. -/
def used (p : Player) : Nat :=
  total (p.chunks.map Chunk.size)

/-- The payloads of the reports that have been sent; executing a step sends those that `reports` lists. -/
def sent (reports : Step → List UInt8) (p : Player) : List Bytes :=
  (p.executed.flatMap reports).map fun id => [id]

/-- The runs of `finished` are executed, and of those of `left` no more than the beginning of the first. -/
inductive Plays (marker : Step) (finished : List (List Step)) : List (List Step) → Player → Prop
  | rests : Plays marker finished [] { chunks := [], executed := finished.flatMap (· ++ [marker]) }
  | plays {run : List Step} {gone rest : List Step} (left : List (List Step)) (whole : gone ++ rest = run) :
      Plays marker finished (run :: left)
        { chunks := { size := (block marker run).length, steps := rest ++ [marker] } :: left.map (chunk marker)
          executed := finished.flatMap (· ++ [marker]) ++ gone }

variable {marker : Step} {finished left : List (List Step)} {p : Player}

theorem Plays.store (h : Plays marker finished left p) (runs : List (List Step)) :
    Plays marker finished (left ++ runs) (p.store marker runs) := by
  cases h with
  | rests =>
    cases runs with
    | nil => exact .rests
    | cons run runs =>
      have start := @Plays.plays marker finished run [] run runs (List.nil_append run)
      rw [List.append_nil] at start
      exact start
  | plays left whole =>
    have more := @Plays.plays marker finished _ _ _ (left ++ runs) whole
    rw [List.map_append] at more
    exact more

theorem Plays.execute (h : Plays marker finished left p) : ∃ finished' left',
    finished' ++ left' = finished ++ left ∧ Plays marker finished' left' p.execute := by
  cases h with
  | rests => exact ⟨finished, [], rfl, .rests⟩
  | @plays run gone rest left whole =>
    cases rest with
    | cons step rest =>
      refine ⟨finished, run :: left, rfl, ?_⟩
      have whole : (gone ++ [step]) ++ rest = run := by rw [← whole, List.append_assoc]; rfl
      have next := @Plays.plays marker finished _ _ _ left whole
      have busy : (rest ++ [marker]).isEmpty = false := by simp
      rw [Player.execute]
      simpa [busy] using next
    | nil =>
      -- The marker comes next, and the chunk is executed in full.
      rw [List.append_nil] at whole
      subst whole
      refine ⟨finished ++ [gone], left, by simp, ?_⟩
      have executed : finished.flatMap (· ++ [marker]) ++ gone ++ [marker] =
          (finished ++ [gone]).flatMap (· ++ [marker]) := by simp
      rw [Player.execute]
      simp only [List.nil_append, List.isEmpty_nil, if_true, executed]
      cases left with
      | nil => exact .rests
      | cons run left =>
        have start := @Plays.plays marker (finished ++ [gone]) run [] run left (List.nil_append run)
        rw [List.append_nil] at start
        exact start

theorem Plays.size (h : Plays marker finished left p) : p.chunks.map Chunk.size = sizes marker left := by
  cases h with
  | rests => rfl
  | plays left => simp [sizes, chunk]

theorem Plays.executed (h : Plays marker finished [] p) : p.executed = finished.flatMap (· ++ [marker]) := by
  cases h
  rfl

/-- If only markers are reported, as many reports have been sent as chunks are executed. -/
theorem Plays.sent (h : Plays marker finished left p) {reports : Step → List UInt8} {id : UInt8}
    (own : reports marker = [id]) (silent : ∀ run ∈ finished ++ left, ∀ step ∈ run, reports step = []) :
    p.sent reports = List.replicate finished.length [id] := by
  have quiet (steps : List Step) (none : ∀ step ∈ steps, reports step = []) : steps.flatMap reports = [] :=
    List.flatMap_eq_nil_iff.2 none
  have all (runs : List (List Step)) (none : ∀ run ∈ runs, ∀ step ∈ run, reports step = []) :
      (runs.flatMap (· ++ [marker])).flatMap reports = List.replicate runs.length id := by
    induction runs with
    | nil => rfl
    | cons run runs ih =>
      rw [List.flatMap_cons, List.flatMap_append, List.flatMap_append, quiet run (none run List.mem_cons_self),
        ih fun other there => none other (List.mem_cons_of_mem run there)]
      simp [own, List.replicate_succ]
  have before := all finished fun run there => silent run (List.mem_append_left left there)
  have reported : p.executed.flatMap reports = List.replicate finished.length id := by
    cases h with
    | rests => exact before
    | @plays run gone rest left whole =>
      rw [List.flatMap_append, before, quiet gone fun step there => silent run (by simp) step ?_, List.append_nil]
      rw [← whole]
      exact List.mem_append_left rest there
  rw [Player.sent, reported, List.map_replicate]

/-- A step that is executed adds its reports. -/
theorem sent_execute (reports : Step → List UInt8) (p : Player) : p.sent reports <+: p.execute.sent reports := by
  unfold Player.execute
  split
  · rw [Player.sent, Player.sent, List.flatMap_append, List.map_append]
    exact List.prefix_append _ _
  · exact List.prefix_refl _

end Player

namespace Upload

variable {u v : Upload} {steps : List Step} {runs : List (List Step)} {sent : List Command} {freed : List Nat}

/-- The runs of steps that go out with so many acknowledgements. -/
def runsAfter (u : Upload) : Nat → List (List Step)
  | 0 => []
  | n + 1 => (if u.running then u.released.fillRuns else []) ++ u.acknowledge.1.runsAfter n

/-- Each report of a chunk that is tracked frees the oldest one. -/
theorem Delivered.acknowledgements (h : Delivered steps runs sent freed u) (sound : u.Sound) {n : Nat}
    (few : n ≤ u.chunks.length) : ∃ gone, gone.length = n ∧
      Delivered steps (runs ++ u.runsAfter n) (sent ++ u.uploads (Upload.acknowledgements n)) (freed ++ gone)
        (u.after (Upload.acknowledgements n)) := by
  induction n generalizing u runs sent freed with
  | zero =>
    refine ⟨[], rfl, ?_⟩
    simp only [runsAfter, List.append_nil]
    have same : sent ++ u.uploads (Upload.acknowledgements 0) = sent := List.append_nil sent
    rw [same]
    exact h
  | succ n ih =>
    have running : u.running = true := by
      cases idle : u.running with
      | true => rfl
      | false =>
        rw [(sound.idle idle).2] at few
        cases few
    have first := h.acknowledge sound.toTracked running
    obtain ⟨oldest, others, new, chunks, next⟩ := sound.chunks_acknowledge running
    have enough : n ≤ u.acknowledge.1.chunks.length := by
      rw [chunks, List.length_cons] at few
      rw [next, List.length_append]
      omega
    obtain ⟨gone, count, all⟩ := ih first sound.acknowledge enough
    refine ⟨u.chunks.take 1 ++ gone, by simp [chunks, count], ?_⟩
    have out : u.runsAfter (n + 1) = u.released.fillRuns ++ u.acknowledge.1.runsAfter n := by
      rw [runsAfter, if_pos running]
    have commands : u.uploads (Upload.acknowledgements (n + 1)) =
        u.acknowledge.2.uploads ++ u.acknowledge.1.uploads (Upload.acknowledgements n) := rfl
    rw [out, commands, ← List.append_assoc, ← List.append_assoc, ← List.append_assoc]
    exact all

/-- The commands that come of acknowledgements store these runs, in this order. -/
theorem Delivered.uploads_acknowledgements (h : Delivered steps runs sent freed u) (sound : u.Sound) {n : Nat}
    (few : n ≤ u.chunks.length) : u.uploads (Upload.acknowledgements n) =
      storing u.marker (u.after (Upload.acknowledgements n)).backlog (u.runsAfter n) := by
  obtain ⟨gone, -, later⟩ := h.acknowledgements sound few
  have marker : (u.after (Upload.acknowledgements n)).marker = u.marker := (after_fixed u _).2
  have left : (u.runsAfter n).flatten ++ (u.after (Upload.acknowledgements n)).backlog = u.backlog := by
    have whole := later.whole
    rw [List.flatten_append, List.append_assoc] at whole
    exact List.append_cancel_left (whole.trans h.whole.symm)
  have stored := later.stored
  rw [marker, Macro.storing_append, left, ← h.stored] at stored
  exact List.append_cancel_left stored

/-- What is delivered at the start of a macro: one without bytes is as good as one without steps. -/
theorem delivered_submit (sound : u.Sound) {progress : Progress} (accepted : u.submit steps = .ok (v, progress)) :
    ∃ whole, (whole = steps ∨ whole = [] ∧ stepBytes steps = []) ∧
      Delivered whole (u.started steps).fillRuns (u.started steps).fill.2 [] v := by
  obtain ⟨fitting, rfl, -, -⟩ := submit_eq sound accepted
  have ready := tracked_started fitting
  cases cut : (u.started steps).fillOnce with
  | mk first command =>
    cases command with
    | none =>
      have nothing := fillOnce_progress ready.uploadable rfl cut
      have bytes : stepBytes steps = [] := stepBytes_of_none cut nothing
      obtain ⟨sent, idle, -⟩ := finish_started ready bytes
      have ended := (sound.submit accepted).idle idle
      refine ⟨[], .inr ⟨rfl, bytes⟩, ?_⟩
      rw [fillRuns_of_none cut, sent]
      refine ⟨⟨?_, by simp, ?_⟩, rfl, ?_⟩
      · rw [ended.1]
        rfl
      · rw [ended.1]
        trivial
      · rw [ended.2]
        rfl
    | some c =>
      have stores := stores_fillRuns (u.started steps) (.inr ⟨first, c, cut⟩)
      have stored :
          Delivered steps (u.started steps).fillRuns (u.started steps).fill.2 [] (u.started steps).fill.1 := by
        rw [stores.filled]
        exact ⟨stores.toCut, rfl, rfl⟩
      exact ⟨steps, .inl rfl, stored.finishIfDone ready.fill.counted⟩

/-! ## The commands that wait play no part -/

/-- The uploads are the same but for the commands that wait for the end of the macro. -/
def SameMacro (u v : Upload) : Prop :=
  ∃ followUps, v = { u with followUps }

theorem SameMacro.refl (u : Upload) : SameMacro u u :=
  ⟨u.followUps, rfl⟩

theorem SameMacro.trans {w : Upload} (h : SameMacro u v) (k : SameMacro v w) : SameMacro u w := by
  obtain ⟨first, rfl⟩ := h
  obtain ⟨second, rfl⟩ := k
  exact ⟨second, rfl⟩

theorem SameMacro.running (h : SameMacro u v) : v.running = u.running := by
  obtain ⟨followUps, rfl⟩ := h
  rfl

theorem SameMacro.fillOnce (h : SameMacro u v) : SameMacro u.fillOnce.1 v.fillOnce.1 ∧ v.fillOnce.2 = u.fillOnce.2 := by
  obtain ⟨followUps, rfl⟩ := h
  have same : { u with followUps }.fillOnce = ({ u.fillOnce.1 with followUps }, u.fillOnce.2) := by
    unfold Upload.fillOnce
    show (if u.backlog.isEmpty || u.free ≤ u.limits.minThreshold then _ else _) = _
    split
    · rfl
    · show (if stepsLength (splitFitting u.cap u.marker.length u.backlog).1 = 0 then _ else _) = _
      dsimp only
      split <;> rfl
  rw [same]
  exact ⟨⟨followUps, rfl⟩, rfl⟩

theorem SameMacro.fill (h : SameMacro u v) : SameMacro u.fill.1 v.fill.1 ∧ v.fillRuns = u.fillRuns := by
  induction u using fill.induct generalizing v with
  | case1 u next none =>
    obtain ⟨first, second⟩ := h.fillOnce
    rw [none] at first second
    have stops : v.fillOnce = (v.fillOnce.1, Option.none) := Prod.ext rfl second
    rw [fill_of_none none, fill_of_none stops, fillRuns_of_none none, fillRuns_of_none stops]
    exact ⟨first, rfl⟩
  | case2 u next c some _ _ _ ih =>
    obtain ⟨first, second⟩ := h.fillOnce
    rw [some] at first second
    have goes : v.fillOnce = (v.fillOnce.1, Option.some c) := Prod.ext rfl second
    rw [fill_of_some some, fill_of_some goes, fillRuns_of_some some, fillRuns_of_some goes, (ih first).2]
    obtain ⟨followUps, rfl⟩ := h
    obtain ⟨followUps', same⟩ := first
    rw [same]
    exact ⟨(same ▸ ih ⟨followUps', same⟩).1, rfl⟩

theorem SameMacro.acknowledge (h : SameMacro u v) : SameMacro u.acknowledge.1 v.acknowledge.1 := by
  cases running : u.running with
  | false =>
    have idle {w : Upload} (off : w.running = false) : w.acknowledge.1 = w := by simp [Upload.acknowledge, off]
    rw [idle running, idle (h.running.trans running)]
    exact h
  | true =>
    have released : SameMacro u.released v.released := by
      obtain ⟨followUps, rfl⟩ := h
      exact ⟨followUps, rfl⟩
    rw [acknowledge_eq running, acknowledge_eq (h.running.trans running)]
    obtain ⟨followUps, filled⟩ := released.fill.1
    have complete : v.released.fill.1.isComplete = u.released.fill.1.isComplete := by rw [filled]; rfl
    unfold finishIfDone
    rw [complete, filled]
    split
    · exact ⟨[], rfl⟩
    · exact ⟨followUps, rfl⟩

theorem SameMacro.after (h : SameMacro u v) (n : Nat) :
    SameMacro (u.after (Upload.acknowledgements n)) (v.after (Upload.acknowledgements n)) := by
  induction n generalizing u v with
  | zero => exact h
  | succ n ih => exact ih h.acknowledge

theorem SameMacro.sound (h : SameMacro u v) (sound : u.Sound) : v.Sound := by
  obtain ⟨followUps, rfl⟩ := h
  exact ⟨⟨sound.fits, sound.counted, sound.sized, sound.uploadable⟩, sound.idle, sound.pending⟩

theorem SameMacro.delivered (h : SameMacro u v) (delivered : Delivered steps runs sent freed u) :
    Delivered steps runs sent freed v := by
  obtain ⟨followUps, rfl⟩ := h
  exact ⟨delivered.toCut, delivered.stored, delivered.tracked⟩

/-- The end of the macro is told only when it is over. -/
theorem running_of_finishIfDone (h : u.finishIfDone.2.isSome = true) : u.finishIfDone.1.running = false := by
  unfold finishIfDone at h ⊢
  split at h
  · next ended => rw [if_pos ended]; rfl
  · cases h

theorem running_of_finished (h : u.acknowledge.2.finished.isSome = true) : u.acknowledge.1.running = false := by
  cases running : u.running with
  | false => simp [acknowledge, running]
  | true =>
    rw [acknowledge_eq running] at h ⊢
    exact running_of_finishIfDone h

theorem after_acknowledgements_of_idle (idle : u.running = false) (n : Nat) : u.after (acknowledgements n) = u := by
  induction n with
  | zero => rfl
  | succ n ih =>
    have same : u.acknowledge.1 = u := by simp [acknowledge, idle]
    show u.acknowledge.1.after (acknowledgements n) = u
    rw [same, ih]

/-- Acknowledgements may come in parts. -/
theorem after_acknowledgements_add (u : Upload) (m n : Nat) : u.after (Upload.acknowledgements (m + n)) =
    (u.after (Upload.acknowledgements m)).after (Upload.acknowledgements n) := by
  rw [Upload.acknowledgements, ← List.replicate_append_replicate, after_append]
  rfl

end Upload

end RobotDriver.Macro
