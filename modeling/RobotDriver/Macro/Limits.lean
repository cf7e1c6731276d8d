import RobotDriver.Macro

/-!
# The robot's macro memory

`Limits` are the bounds under which a macro is streamed: the whole storage, the largest chunk and a
low-water mark of free space below which no chunk is started. Limits that could not produce a chunk
are refused when they are made. `MacroError` lists what else can be wrong with an upload.
-/

namespace RobotDriver

/-- Why limits cannot produce a chunk. -/
inductive Macro.LimitFault where
  | emptyChunk
  | chunkOverBudget
  | thresholdOverBudget
  deriving DecidableEq

def Macro.LimitFault.reason : Macro.LimitFault → String
  | emptyChunk => "chunk size must be positive"
  | chunkOverBudget => "chunk size exceeds budget"
  | thresholdOverBudget => "threshold must be below budget"

/-- Why a macro cannot be uploaded. -/
inductive MacroError where
  /-- A step of this length leaves no room for the marker in a chunk. -/
  | commandTooLarge (length maxChunk : Nat)
  /-- A macro to be stored in one piece does not fit one command. -/
  | macroTooLong (length max : Nat)
  | invalidLimits (fault : Macro.LimitFault)
  deriving DecidableEq

def MacroError.message : MacroError → String
  | commandTooLarge length maxChunk =>
    "macro step of " ++ toString length ++ " bytes cannot fit a " ++ toString maxChunk ++
      "-byte chunk with its marker"
  | macroTooLong length max =>
    "macro of " ++ toString length ++ " bytes exceeds the " ++ toString max ++
      "-byte limit for a stored macro"
  | invalidLimits fault => "invalid macro limits: " ++ fault.reason

/-- The bounds of a streamed macro, in bytes. -/
structure Macro.Limits where
  /-- The robot's whole macro storage. -/
  budget : Nat
  /-- The largest chunk, its marker included. -/
  maxChunk : Nat
  /-- Free space at or below which no chunk is started. -/
  minThreshold : Nat
  chunk_pos : 0 < maxChunk
  chunk_le_budget : maxChunk ≤ budget
  threshold_lt_budget : minThreshold < budget
  deriving DecidableEq

namespace Macro.Limits

def make (budget maxChunk minThreshold : Nat) : Except MacroError Limits :=
  if chunk_pos : 0 < maxChunk then
    if chunk_le_budget : maxChunk ≤ budget then
      if threshold_lt_budget : minThreshold < budget then
        .ok { budget, maxChunk, minThreshold, chunk_pos, chunk_le_budget, threshold_lt_budget }
      else .error (.invalidLimits .thresholdOverBudget)
    else .error (.invalidLimits .chunkOverBudget)
  else .error (.invalidLimits .emptyChunk)

theorem eq_of_make {budget maxChunk minThreshold : Nat} {limits : Limits}
    (accepted : make budget maxChunk minThreshold = .ok limits) :
    limits.budget = budget ∧ limits.maxChunk = maxChunk ∧ limits.minThreshold = minThreshold := by
  unfold make at accepted
  split at accepted
  · split at accepted
    · split at accepted
      · cases accepted
        exact ⟨rfl, rfl, rfl⟩
      · cases accepted
    · cases accepted
  · cases accepted

/-- The limits of the robot's own memory. -/
def standard : Limits :=
  ⟨900, 100, 50, by decide, by decide, by decide⟩

end Macro.Limits

end RobotDriver
