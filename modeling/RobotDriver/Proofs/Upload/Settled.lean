import RobotDriver.Proofs.Upload.Resubmission

/-!
# Nothing that could be uploaded waits

Filling stops for one of three reasons, and `Settled` says that one of them holds. It is all that filling looks at
before it cuts a chunk off, so an upload that is settled stays as it is (`Settled.fill`); and filling leaves one behind
that is settled, even where it only passes over steps without bytes (`settled_fill`). Every request keeps an upload
settled, because each one that could make room fills again.

`cuts` pairs each chunk with the upload that it is cut off, so that it can be said of the chunk that it was the longest
one at the time (`Longest`).
-/

namespace RobotDriver.Macro.Upload

variable {u v : Upload} {c : Command}

/-! ## Why filling stops -/

/-- No chunk can be cut off: nothing is left, there is too little room for a chunk, or the next step does not fit into
one. -/
inductive Settled (u : Upload) : Prop
  | drained (none : u.backlog = [])
  | low (full : u.free ≤ u.limits.minThreshold)
  | wide {next : Step} {others : List Step} (left : u.backlog = next :: others)
      (large : min u.free u.limits.maxChunk < next.length + u.marker.length)

theorem Settled.fillOnce (h : u.Settled) : u.fillOnce = (u, none) := by
  unfold Upload.fillOnce
  cases h with
  | drained none => simp [none]
  | low full => simp [full]
  | @wide next others left large =>
    split
    · rfl
    · have stop : splitFitting u.cap u.marker.length u.backlog = ([], u.backlog) := by
        rw [left, splitFitting, if_neg]
        rw [Nat.add_comm]
        exact Nat.not_le.2 large
      rw [stop]
      rfl

/-- Filling again uploads nothing and changes nothing. -/
theorem Settled.fill (h : u.Settled) : u.fill = (u, []) :=
  fill_of_none h.fillOnce

/-- When no chunk can be cut off, none can be cut off what is then left either. -/
theorem settled_of_none (h : u.fillOnce = (v, none)) : v.Settled := by
  rcases fillOnce_eq_none h with ⟨rfl, none | full⟩ | ⟨nothing, rfl⟩
  · exact .drained none
  · exact .low full
  · -- Steps without bytes may have been passed over, but the room is still the same.
    cases left : (splitFitting u.cap u.marker.length u.backlog).2 with
    | nil => exact .drained rfl
    | cons next others =>
      have full := splitFitting_maximal left
      rw [nothing, Nat.add_zero, Nat.add_comm] at full
      exact .wide rfl full

theorem settled_fill (u : Upload) : u.fill.1.Settled := by
  induction u using fill.induct with
  | case1 u v none =>
    rw [fill_of_none none]
    exact settled_of_none none
  | case2 u v c some _ _ _ ih =>
    rw [fill_of_some some]
    exact ih

/-! ## Requests -/

theorem Settled.withFollowUps (h : u.Settled) (followUps : List Command) : Settled { u with followUps } := by
  cases h with
  | drained none => exact .drained none
  | low full => exact .low full
  | wide left large => exact .wide left large

theorem Settled.finishIfDone (h : u.Settled) : u.finishIfDone.1.Settled := by
  unfold Upload.finishIfDone
  split
  · exact .drained rfl
  · exact h

theorem settled_step (sound : u.Sound) (h : u.Settled) (request : Request) : (u.step request).2.Settled := by
  cases request with
  | submit steps =>
    cases fitting : u.oversized? steps with
    | none =>
      simp only [step, submit_of_fitting sound fitting]
      exact (settled_fill _).finishIfDone
    | some large =>
      simp only [step, submit_of_oversized fitting]
      exact h
  | acknowledge =>
    cases running : u.running with
    | true =>
      show u.acknowledge.1.Settled
      rw [acknowledge_of_running running]
      exact (settled_fill _).finishIfDone
    | false =>
      have same : u.acknowledge = (u, {}) := by simp [acknowledge, running]
      show u.acknowledge.1.Settled
      rw [same]
      exact h
  | fill => exact settled_fill u
  | abort => exact .drained rfl
  | sendAfter command => exact h.withFollowUps _
  | clearAfter => exact h.withFollowUps []
  | clear => exact .drained rfl

theorem settled_after (sound : u.Sound) (h : u.Settled) (requests : List Request) : (u.after requests).Settled := by
  induction requests generalizing u with
  | nil => exact h
  | cons request requests ih => exact ih (sound_step sound request) (settled_step sound h request)

/-- A run leads to the same state and uploads the same without the requests to fill. -/
theorem Settled.withoutFills (h : u.Settled) (sound : u.Sound) (requests : List Request) :
    u.after (requests.filter (· ≠ .fill)) = u.after requests ∧
      u.uploads (requests.filter (· ≠ .fill)) = u.uploads requests := by
  induction requests generalizing u with
  | nil => exact ⟨rfl, rfl⟩
  | cons request requests ih =>
    obtain ⟨state, uploads⟩ := ih (settled_step sound h request) (sound_step sound request)
    by_cases fill : request = .fill
    · subst fill
      have idle : u.step .fill = (.commands [], u) := by simp only [step, h.fill]
      rw [idle] at state uploads
      rw [List.filter_cons_of_neg (by simp)]
      constructor
      · show u.after _ = (u.step .fill).2.after requests
        rw [state, idle]
      · rw [uploads, Upload.uploads, idle]
        rfl
    · rw [List.filter_cons_of_pos (by simpa using fill)]
      constructor
      · exact state
      · rw [Upload.uploads, Upload.uploads, uploads]

/-! ## Chunks -/

/-- The chunks that filling cuts off, each with the upload that it is cut off. -/
def cuts (u : Upload) : List (Upload × Command) :=
  match _cut : u.fillOnce with
  | (_, none) => []
  | (v, some c) => (u, c) :: v.cuts
termination_by u.backlog.length
decreasing_by exact backlog_fillOnce_lt _cut

theorem cuts_of_none (h : u.fillOnce = (v, none)) : u.cuts = [] := by
  rw [cuts]
  split <;> simp_all

theorem cuts_of_some (h : u.fillOnce = (v, some c)) : u.cuts = (u, c) :: v.cuts := by
  rw [cuts]
  split <;> simp_all

theorem cuts_map (u : Upload) : u.cuts.map (·.2) = u.fill.2 := by
  induction u using fill.induct with
  | case1 u v none => rw [cuts_of_none none, fill_of_none none, List.map_nil]
  | case2 u v c some _ _ _ ih => rw [cuts_of_some some, fill_of_some some, List.map_cons, ih]

/-- The command stores the longest run of steps that can be cut off the upload: it fits with its marker, and nothing is
left or the next step would have been too much. -/
def Longest (u : Upload) (c : Command) : Prop :=
  ∃ run rest, u.backlog = run ++ rest ∧ c = store u.marker run rest ∧ stepBytes run ≠ [] ∧
    stepsLength run + u.marker.length ≤ min u.free u.limits.maxChunk ∧
    (rest = [] ∨ ∃ next others, rest = next :: others ∧
      min u.free u.limits.maxChunk < stepsLength run + next.length + u.marker.length)

theorem longest_of_some (h : u.fillOnce = (v, some c)) : u.Longest c := by
  have whole := splitFitting_append u.cap u.marker.length u.backlog
  obtain ⟨-, bytes, rfl, -⟩ := fillOnce_eq_some h
  have fits := splitFitting_fits u.cap u.marker.length u.backlog (ne_nil_of_stepsLength bytes)
  refine ⟨_, _, whole.symm, rfl, ?_, ?_, ?_⟩
  · rwa [Ne, stepBytes_eq_nil_iff]
  · rw [Nat.add_comm]
    exact fits
  · cases left : (splitFitting u.cap u.marker.length u.backlog).2 with
    | nil => exact .inl rfl
    | cons next others =>
      refine .inr ⟨next, others, rfl, ?_⟩
      have full := splitFitting_maximal left
      rw [Upload.cap] at full ⊢
      omega

/-- The chunks are cut off uploads with the same limits and the same marker, and each is as long as it can be. -/
theorem mem_cuts {cut : Upload × Command} (h : cut ∈ u.cuts) :
    cut.1.limits = u.limits ∧ cut.1.marker = u.marker ∧ cut.1.Longest cut.2 := by
  induction u using fill.induct with
  | case1 u v none =>
    rw [cuts_of_none none] at h
    cases h
  | case2 u v c some _ _ _ ih =>
    rw [cuts_of_some some] at h
    rcases List.mem_cons.1 h with rfl | later
    · exact ⟨rfl, rfl, longest_of_some some⟩
    · obtain ⟨rest, size, rfl, -⟩ := fillOnce_of_some some
      exact ih later

/-- The chunks that come of a request, each with the upload that it is cut off. -/
def cutsOf (u : Upload) : Request → List (Upload × Command)
  | .submit steps => if u.oversized? steps = none then (u.started steps).cuts else []
  | .acknowledge => if u.running then u.released.cuts else []
  | .fill => u.cuts
  | .abort | .sendAfter _ | .clearAfter | .clear => []

/-- The chunks that come of requests one after the other. -/
def cutsAfter (u : Upload) : List Request → List (Upload × Command)
  | [] => []
  | request :: requests => u.cutsOf request ++ (u.step request).2.cutsAfter requests

theorem mem_cutsOf {cut : Upload × Command} {request : Request} (h : cut ∈ u.cutsOf request) :
    cut.1.limits = u.limits ∧ cut.1.marker = u.marker ∧ cut.1.Longest cut.2 := by
  cases request with
  | submit steps =>
    rw [cutsOf] at h
    split at h
    · exact @mem_cuts (u.started steps) cut h
    · cases h
  | acknowledge =>
    rw [cutsOf] at h
    split at h
    · exact @mem_cuts u.released cut h
    · cases h
  | fill => exact mem_cuts h
  | abort | sendAfter _ | clearAfter | clear => cases h

theorem mem_cutsAfter {cut : Upload × Command} {requests : List Request} (h : cut ∈ u.cutsAfter requests) :
    cut.1.limits = u.limits ∧ cut.1.marker = u.marker ∧ cut.1.Longest cut.2 := by
  induction requests generalizing u with
  | nil => cases h
  | cons request requests ih =>
    rcases List.mem_append.1 h with first | later
    · exact mem_cutsOf first
    · obtain ⟨limits, marker, longest⟩ := ih later
      exact ⟨limits.trans (step_fixed u request).1, marker.trans (step_fixed u request).2, longest⟩

/-- Filling gives up no macro. -/
theorem filter_fill (u : Upload) : u.fill.2.filter (· ≠ .abortMacro) = u.fill.2 := by
  rw [List.filter_eq_self, ← cuts_map]
  intro c member
  obtain ⟨cut, made, rfl⟩ := List.mem_map.1 member
  obtain ⟨-, -, run, rest, -, stored, -⟩ := mem_cuts made
  rw [stored]
  rfl

/-- But for the commands that give up a macro, a request sends the chunks that come of it. -/
theorem uploads_step (sound : u.Sound) (request : Request) :
    (u.step request).1.uploads.filter (· ≠ .abortMacro) = (u.cutsOf request).map (·.2) := by
  cases request with
  | submit steps =>
    cases fitting : u.oversized? steps with
    | none =>
      have aborts : (if u.running then [.abortMacro] else []).filter (· ≠ Command.abortMacro) = [] := by
        split <;> rfl
      simp only [step, submit_of_fitting sound fitting, Reply.uploads, cutsOf, if_pos fitting]
      rw [List.filter_append, aborts, filter_fill, cuts_map, List.nil_append]
    | some large =>
      simp only [step, submit_of_oversized fitting, Reply.uploads, cutsOf, fitting]
      rfl
  | acknowledge =>
    cases running : u.running with
    | true =>
      show u.acknowledge.2.uploads.filter (· ≠ .abortMacro) = _
      rw [acknowledge_eq running, cutsOf, if_pos running, cuts_map]
      exact filter_fill _
    | false => simp [step, acknowledge, running, cutsOf, Reply.uploads]
  | fill =>
    show u.fill.2.filter (· ≠ .abortMacro) = _
    rw [filter_fill, cutsOf, cuts_map]
  | abort | sendAfter _ | clearAfter | clear => rfl

theorem uploads_cutsAfter (sound : u.Sound) (requests : List Request) :
    (u.uploads requests).filter (· ≠ .abortMacro) = (u.cutsAfter requests).map (·.2) := by
  induction requests generalizing u with
  | nil => rfl
  | cons request requests ih =>
    rw [uploads, cutsAfter, List.filter_append, List.map_append, uploads_step sound, ih (sound_step sound request)]

/-! ## Runs -/

/-- **Nothing that could be uploaded is left waiting.** Whatever has been asked of an upload, filling it uploads nothing
and changes nothing, since nothing is left, or too little room, or the next step does not fit into what there is of it.
Requests to fill can therefore be put into a run or left out, wherever they stand: it uploads the same and comes to the
same state. But for the commands that give up a macro, a run uploads nothing but chunks, and each was the longest at the
time: behind it nothing was left, or the next step would have been more than the room or the largest chunk. -/
theorem nothing_waits {limits : Limits} {marker : Step} {fresh : Upload} (made : make limits marker = .ok fresh)
    (requests : List Request) :
    let u := fresh.after requests
    (u.limits = limits ∧ u.marker = marker ∧ u.Settled ∧ u.fill = (u, [])) ∧
    (∀ others : List Request, others.filter (· ≠ .fill) = requests.filter (· ≠ .fill) →
      fresh.after others = u ∧ fresh.uploads others = fresh.uploads requests) ∧
    (fresh.uploads requests).filter (· ≠ .abortMacro) = (fresh.cutsAfter requests).map (·.2) ∧
    ∀ cut ∈ fresh.cutsAfter requests, cut.1.limits = limits ∧ cut.1.marker = marker ∧ cut.1.Longest cut.2 := by
  intro u
  obtain ⟨sound, limited, marked⟩ := sound_make made
  have settled : fresh.Settled := by
    obtain ⟨fits, rfl⟩ := make_eq made
    exact .drained rfl
  have still := settled_after sound settled requests
  refine ⟨⟨?_, ?_, still, still.fill⟩, ?_, uploads_cutsAfter sound requests, ?_⟩
  · exact (after_fixed fresh requests).1.trans limited
  · exact (after_fixed fresh requests).2.trans marked
  · intro others same
    obtain ⟨state, uploads⟩ := settled.withoutFills sound requests
    obtain ⟨state', uploads'⟩ := settled.withoutFills sound others
    rw [same] at state' uploads'
    constructor
    · exact state'.symm.trans state
    · exact uploads'.symm.trans uploads
  · intro cut member
    obtain ⟨fixed, ending, longest⟩ := mem_cutsAfter member
    exact ⟨fixed.trans limited, ending.trans marked, longest⟩

/-- Two chunks are out and there is room for five bytes, which is enough for a chunk but not for the step that is
left. -/
theorem nothing_waits_wide :
    let steps : List Step := [.delay 300, .raw (.replicate 8 0x42), .raw [], .raw (.replicate 6 0x42)]
    ∃ fresh, make ⟨20, 10, 4, by decide, by decide, by decide⟩ (.emit 1) = .ok fresh ∧
      let u := fresh.after [.submit steps]
      u.chunks = [5, 10] ∧ u.backlog = [.raw (.replicate 6 0x42)] ∧ u.free = 5 ∧ u.fill = (u, []) ∧
      fresh.after [.fill, .submit steps, .fill, .fill] = u ∧
      fresh.uploads [.fill, .submit steps, .fill, .fill] = fresh.uploads [.submit steps] ∧
      ∀ cut ∈ fresh.cutsAfter [.submit steps], cut.1.Longest cut.2 := by
  intro steps
  have made : make ⟨20, 10, 4, by decide, by decide, by decide⟩ (.emit 1) = .ok _ := rfl
  obtain ⟨⟨-, -, -, fill⟩, insert, -, longest⟩ := nothing_waits made [.submit steps]
  obtain ⟨state, uploads⟩ := insert [.fill, .submit steps, .fill, .fill] (by decide)
  refine ⟨_, made, by decide +kernel, by decide +kernel, by decide +kernel, fill, state, uploads, ?_⟩
  intro cut member
  exact (longest cut member).2.2

end RobotDriver.Macro.Upload
