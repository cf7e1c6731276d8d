import RobotDriver.Command
import RobotDriver.Macro.Limits

/-!
# Streaming a macro into bounded memory

An `Upload` keeps the steps that the robot does not have yet and the sizes of the chunks that it
has. `fill` cuts chunks off the backlog as long as there is room; every chunk ends in a marker,
which the robot reports when it gets there. `acknowledge` then frees the oldest chunk and fills
again. The macro is over when the backlog is empty and every marker has come back; the commands
that were waiting for that are handed out once.
-/

namespace RobotDriver.Macro

/-- The steps at the front of a list that fit into `cap` bytes of which `size` are taken, and the
rest. The first step that does not fit ends the chunk. -/
def splitFitting (cap size : Nat) : List Step → List Step × List Step
  | [] => ([], [])
  | step :: steps =>
    if size + step.length ≤ cap then
      let (taken, rest) := splitFitting cap (size + step.length) steps
      (step :: taken, rest)
    else ([], step :: steps)

theorem splitFitting_append (cap size : Nat) (steps : List Step) :
    (splitFitting cap size steps).1 ++ (splitFitting cap size steps).2 = steps := by
  induction steps generalizing size with
  | nil => rfl
  | cons step steps ih =>
    unfold splitFitting
    split
    · exact congrArg (step :: ·) (ih (size + step.length))
    · rfl

/-- What a streamed macro still has to do. -/
structure Upload where
  limits : Limits
  /-- The step that ends every chunk. -/
  marker : Step
  marker_fits : marker.length < limits.maxChunk
  /-- Steps that are not uploaded yet. -/
  backlog : List Step := []
  /-- Sizes of the chunks whose marker has not come back, oldest first. -/
  chunks : List Nat := []
  /-- Markers that have not come back. -/
  outstanding : Nat := 0
  running : Bool := false
  /-- User commands to send when the macro is over. -/
  followUps : List Command := []
  deriving DecidableEq

/-- What a change of an upload asks the driver to do. -/
structure Progress where
  /-- Commands to send now, in order. -/
  uploads : List Command := []
  /-- The macro is over: the commands that waited for it. -/
  finished : Option (List Command) := none
  deriving DecidableEq

namespace Upload

/-- An idle upload. A marker that fills a chunk leaves no room for a step and is refused. -/
def make (limits : Limits) (marker : Step) : Except MacroError Upload :=
  if marker_fits : marker.length < limits.maxChunk then .ok { limits, marker, marker_fits }
  else .error (.commandTooLarge marker.length limits.maxChunk)

/-- Bytes that the robot holds. -/
def used (u : Upload) : Nat :=
  total u.chunks

/-- Bytes that the robot has room for. -/
def free (u : Upload) : Nat :=
  u.limits.budget - u.used

/-- The largest chunk that may be made now. -/
def cap (u : Upload) : Nat :=
  min u.free u.limits.maxChunk

/-- The command that stores a chunk; the end byte follows the last one. -/
def chunkCommand (u : Upload) (steps rest : List Step) : Command :=
  .saveMacro Command.streamingMacroId Command.motorControlFlag
    (stepBytes steps ++ u.marker.toBytes ++ if rest.isEmpty then [macroEnd] else [])

/-- Cuts one chunk off the backlog if there is room for one. Steps without bytes are passed over
even when nothing follows them into the chunk; a chunk of the marker alone is never made. -/
def fillOnce (u : Upload) : Upload × Option Command :=
  if u.backlog.isEmpty || u.free ≤ u.limits.minThreshold then (u, none)
  else
    let (steps, rest) := splitFitting u.cap u.marker.length u.backlog
    if stepsLength steps = 0 then ({ u with backlog := rest }, none)
    else
      ({ u with
          backlog := rest
          chunks := u.chunks ++ [stepsLength steps + u.marker.length]
          outstanding := u.outstanding + 1 },
        some (u.chunkCommand steps rest))

theorem fillOnce_eq_some {u v : Upload} {c : Command} (h : u.fillOnce = (v, some c)) :
    let cut := splitFitting u.cap u.marker.length u.backlog
    u.limits.minThreshold < u.free ∧ stepsLength cut.1 ≠ 0 ∧ c = u.chunkCommand cut.1 cut.2 ∧
      v = { u with
        backlog := cut.2
        chunks := u.chunks ++ [stepsLength cut.1 + u.marker.length]
        outstanding := u.outstanding + 1 } := by
  unfold fillOnce at h
  split at h
  · cases h
  · next going =>
    dsimp only at h
    split at h
    · cases h
    · next bytes =>
      cases h
      simp only [Bool.or_eq_true, decide_eq_true_eq, not_or, Nat.not_le] at going
      exact ⟨going.2, bytes, rfl, rfl⟩

/-- No chunk is cut off if nothing is left or the room is too little, or if no step that fits has bytes. -/
theorem fillOnce_eq_none {u v : Upload} (h : u.fillOnce = (v, none)) :
    let cut := splitFitting u.cap u.marker.length u.backlog
    v = u ∧ (u.backlog = [] ∨ u.free ≤ u.limits.minThreshold) ∨
      stepsLength cut.1 = 0 ∧ v = { u with backlog := cut.2 } := by
  unfold fillOnce at h
  split at h
  · next stop =>
    cases h
    simp only [Bool.or_eq_true, List.isEmpty_iff, decide_eq_true_eq] at stop
    exact .inl ⟨rfl, stop⟩
  · dsimp only at h
    split at h
    · next nothing =>
      cases h
      exact .inr ⟨nothing, rfl⟩
    · cases h

theorem ne_nil_of_stepsLength {steps : List Step} (bytes : stepsLength steps ≠ 0) : steps ≠ [] :=
  fun none => bytes (congrArg stepsLength none)

theorem backlog_fillOnce_lt {u v : Upload} {c : Command} (h : u.fillOnce = (v, some c)) :
    v.backlog.length < u.backlog.length := by
  obtain ⟨-, bytes, -, rfl⟩ := fillOnce_eq_some h
  have whole := congrArg List.length (splitFitting_append u.cap u.marker.length u.backlog)
  have some := List.length_pos_iff.2 (ne_nil_of_stepsLength bytes)
  rw [List.length_append] at whole
  dsimp only
  omega

/-- Uploads as many chunks as there is room for. -/
def fill (u : Upload) : Upload × List Command :=
  match _cut : u.fillOnce with
  | (v, none) => (v, [])
  | (v, some c) =>
    let (last, cs) := v.fill
    (last, c :: cs)
termination_by u.backlog.length
decreasing_by exact backlog_fillOnce_lt _cut

/-- Forgets the macro, but not the commands that wait for its end. -/
def reset (u : Upload) : Upload :=
  { u with backlog := [], chunks := [], outstanding := 0, running := false }

/-- The macro has nothing left to upload and every marker has come back. -/
def isComplete (u : Upload) : Bool :=
  u.running && u.backlog.isEmpty && u.outstanding == 0

/-- Ends a complete macro and hands out the commands that waited for it. -/
def finishIfDone (u : Upload) : Upload × Option (List Command) :=
  if u.isComplete then ({ u.reset with followUps := [] }, some u.followUps) else (u, none)

/-- Gives up the macro: the robot drops its chunks when it gets the command. -/
def abort (u : Upload) : Upload × List Command :=
  (u.reset, [.abortMacro])

/-- There is a macro that a new one has to replace. -/
def isBusy (u : Upload) : Bool :=
  u.running || !u.backlog.isEmpty || !u.chunks.isEmpty

/-- The first step that leaves no room for the marker. -/
def oversized? (u : Upload) (steps : List Step) : Option Step :=
  steps.find? fun step => step.length + u.marker.length > u.limits.maxChunk

/-- Starts a macro, in place of one that is under way. If a step is too large nothing changes. -/
def submit (u : Upload) (steps : List Step) : Except MacroError (Upload × Progress) :=
  match u.oversized? steps with
  | some step => .error (.commandTooLarge step.length u.limits.maxChunk)
  | none =>
    let (idle, aborts) := if u.isBusy then u.abort else (u, [])
    let (filled, uploads) := { idle with backlog := steps, running := true }.fill
    let (last, finished) := filled.finishIfDone
    .ok (last, { uploads := aborts ++ uploads, finished })

/-- The robot has reached the marker of the oldest chunk. -/
def acknowledge (u : Upload) : Upload × Progress :=
  if u.running then
    let (filled, uploads) := { u with outstanding := u.outstanding - 1, chunks := u.chunks.tail }.fill
    let (last, finished) := filled.finishIfDone
    (last, { uploads, finished })
  else (u, {})

/-- Adds a command to send when the macro is over. -/
def sendAfter (u : Upload) (c : Command) : Upload :=
  { u with followUps := u.followUps ++ [c] }

/-- Forgets the commands that wait for the end of the macro. -/
def clearAfter (u : Upload) : Upload :=
  { u with followUps := [] }

/-- Forgets everything. -/
def clear (u : Upload) : Upload :=
  u.reset.clearAfter

end Upload

end RobotDriver.Macro
