import Mathlib.Data.List.DropRight
import RobotDriver.Proofs.Upload.Resubmission

/-!
# Commands that wait for the end of a macro

A command that is to follow a macro is handed back by the completion that comes next, whichever macro that is of, unless
it is cleared before. Two things are followed through a run. `waiting` reads off what was asked and answered which
commands have to be waiting: those added since the last completion or clear. `departed` lists the commands that left the
upload, and every command that was added has left it once or still waits (`conserved`).
-/

namespace RobotDriver.Macro.Upload

variable {u fresh : Upload} {limits : Limits} {marker : Step} {request : Request} {requests : List Request}

/-! ## What is asked and answered -/

/-- What has been asked of an upload and what it answered, oldest first. -/
def history (u : Upload) : List Request → List (Request × Reply)
  | [] => []
  | request :: requests => (request, (u.step request).1) :: (u.step request).2.history requests

/-- The commands that a reply hands back if a macro is over with it. -/
def Reply.finished : Reply → Option (List Command)
  | progress change => change.finished
  | done | commands _ | refused _ => none

/-- The commands that a request adds to those that wait. -/
def Request.added : Request → List Command
  | sendAfter command => [command]
  | submit _ | acknowledge | fill | abort | clearAfter | clear => []

/-- The request drops the commands that wait. -/
def Request.drops : Request → Bool
  | clearAfter | clear => true
  | submit _ | acknowledge | fill | abort | sendAfter _ => false

/-- Nothing waits behind a completion, nor behind a request that drops what waits. -/
def empties (exchange : Request × Reply) : Bool :=
  exchange.1.drops || exchange.2.finished.isSome

/-- The commands added since the last completion or clear. -/
def waiting (past : List (Request × Reply)) : List Command :=
  (past.rtakeWhile fun exchange => !empties exchange).flatMap fun exchange => exchange.1.added

/-- The commands that leave the upload with a request. -/
def departs (u : Upload) (request : Request) : List Command :=
  if request.drops then u.followUps else (u.step request).1.finished.getD []

/-- The commands that have left the upload in the course of requests. -/
def departed (u : Upload) : List Request → List Command
  | [] => []
  | request :: requests => u.departs request ++ (u.step request).2.departed requests

theorem history_concat (u : Upload) (requests : List Request) (request : Request) :
    u.history (requests ++ [request]) =
      u.history requests ++ [(request, ((u.after requests).step request).1)] := by
  induction requests generalizing u with
  | nil => rfl
  | cons first requests ih => exact congrArg (_ :: ·) (ih (u.step first).2)

theorem waiting_concat (past : List (Request × Reply)) (exchange : Request × Reply) :
    waiting (past ++ [exchange]) = if empties exchange then [] else waiting past ++ exchange.1.added := by
  unfold waiting
  rw [List.rtakeWhile_concat]
  cases empties exchange with
  | true => rfl
  | false => simp

/-! ## One request -/

/-- Behind filling, the end of the macro is looked for: all commands that wait are handed back, or none is. -/
theorem finishIfDone_fill (u : Upload) :
    (u.fill.1.finishIfDone.2 = some u.followUps ∧ u.fill.1.finishIfDone.1.followUps = []) ∨
      (u.fill.1.finishIfDone.2 = none ∧ u.fill.1.finishIfDone.1.followUps = u.followUps) := by
  obtain ⟨rest, sizes, result, -⟩ := fill_eq u
  rw [result]
  unfold finishIfDone
  split
  · left
    constructor <;> rfl
  · right
    constructor <;> rfl

/-- What a request can do to the commands that wait. A completion hands back all of them; it comes of an accepted
submission or of the acknowledgement of a macro that runs. Without one they stay, with the one that is added behind
them, unless the request drops them. -/
theorem step_followUps (sound : u.Sound) (request : Request) :
    (((∃ steps, request = .submit steps ∧ u.oversized? steps = none) ∨ (request = .acknowledge ∧ u.running = true)) ∧
        (u.step request).1.finished = some u.followUps ∧ (u.step request).2.followUps = []) ∨
      ((u.step request).1.finished = none ∧
        (u.step request).2.followUps = if request.drops then [] else u.followUps ++ request.added) := by
  have stay : u.followUps = u.followUps ++ [] := (List.append_nil _).symm
  cases request with
  | submit steps =>
    cases fitting : u.oversized? steps with
    | none =>
      simp only [step, submit_of_fitting sound fitting]
      rcases finishIfDone_fill (u.started steps) with ⟨ended, empty⟩ | ⟨unfinished, still⟩
      · exact .inl ⟨.inl ⟨steps, rfl, fitting⟩, ended, empty⟩
      · exact .inr ⟨unfinished, still.trans stay⟩
    | some large =>
      simp only [step, submit_of_oversized fitting]
      exact .inr ⟨rfl, stay⟩
  | acknowledge =>
    by_cases running : u.running = true
    · have answer : u.step .acknowledge = (.progress u.acknowledge.2, u.acknowledge.1) := rfl
      rw [answer, acknowledge_eq running]
      rcases finishIfDone_fill u.released with ⟨ended, empty⟩ | ⟨unfinished, still⟩
      · exact .inl ⟨.inr ⟨rfl, running⟩, ended, empty⟩
      · exact .inr ⟨unfinished, still.trans stay⟩
    · simp only [step, acknowledge, if_neg running]
      exact .inr ⟨rfl, stay⟩
  | fill =>
    obtain ⟨rest, sizes, result, -⟩ := fill_eq u
    have same : u.fill.1.followUps = u.followUps := by rw [result]; rfl
    exact .inr ⟨rfl, same.trans stay⟩
  | abort => exact .inr ⟨rfl, stay⟩
  | sendAfter _ | clearAfter | clear => exact .inr ⟨rfl, rfl⟩

/-- What waited and what is added leaves with the request or waits afterwards. -/
theorem departs_append (sound : u.Sound) (request : Request) :
    u.departs request ++ (u.step request).2.followUps = u.followUps ++ request.added := by
  unfold departs
  rcases step_followUps sound request with ⟨cause, ended, none⟩ | ⟨unfinished, still⟩
  · have added : request.added = [] ∧ request.drops = false := by
      rcases cause with ⟨steps, rfl, -⟩ | ⟨rfl, -⟩ <;> exact ⟨rfl, rfl⟩
    simp [added.1, added.2, ended, none]
  · rw [unfinished, still]
    cases dropping : request.drops with
    | false => rfl
    | true =>
      have added : request.added = [] := by
        cases request <;> first | rfl | cases dropping
      simp [added]

/-! ## Runs -/

/-- Whatever is asked of an upload, the commands that wait are those that its history says. -/
theorem followUps_after (sound : u.Sound) (none : u.followUps = []) (requests : List Request) :
    (u.after requests).followUps = waiting (u.history requests) := by
  induction requests using List.reverseRecOn with
  | nil => exact none
  | append_singleton requests request ih =>
    have last : u.after (requests ++ [request]) = ((u.after requests).step request).2 := by
      rw [after_append]
      rfl
    rw [last, history_concat, waiting_concat, ← ih]
    rcases step_followUps (sound_after sound requests) request with ⟨-, ended, left⟩ | ⟨unfinished, still⟩
    · rw [left, empties, ended]
      simp
    · rw [still, empties, unfinished]
      simp

/-- Every command that waited or was added has left or still waits, in order. -/
theorem conserved (sound : u.Sound) (requests : List Request) :
    u.departed requests ++ (u.after requests).followUps = u.followUps ++ requests.flatMap Request.added := by
  induction requests generalizing u with
  | nil => simp [departed, after]
  | cons request requests ih =>
    have later : u.after (request :: requests) = (u.step request).2.after requests := rfl
    rw [later, departed, List.append_assoc, ih (sound_step sound request), ← List.append_assoc, departs_append sound,
      List.flatMap_cons, List.append_assoc]

/-- **Commands that are to follow a macro are handed back exactly once.** Whatever is asked of an upload, a completion
hands back the commands that were added since the last completion or clear, in that order, and leaves none of them; it
comes of a submission that is accepted, or of the acknowledgement of a macro that runs. Every other request leaves the
commands that wait as they are, but for one that is added behind them and for those that a clear drops. In all, each
command that was added has left the upload once, handed back or dropped, in its turn, or it still waits. -/
theorem followUps_handed_back (made : make limits marker = .ok fresh) (requests : List Request) :
    let u := fresh.after requests
    let left := waiting (fresh.history requests)
    u.followUps = left ∧
    (∀ request commands, (u.step request).1.finished = some commands →
      commands = left ∧ (u.step request).2.followUps = [] ∧
        ((∃ steps v progress, request = .submit steps ∧ u.submit steps = .ok (v, progress)) ∨
          (request = .acknowledge ∧ u.running = true))) ∧
    (∀ request, (u.step request).1.finished = none →
      (u.step request).2.followUps = if request.drops then [] else left ++ request.added) ∧
    fresh.departed requests ++ left = requests.flatMap Request.added := by
  intro u left
  have start : fresh.Sound := (sound_make made).1
  have sound : u.Sound := sound_after start requests
  have none : fresh.followUps = [] := by
    obtain ⟨fits, rfl⟩ := make_eq made
    rfl
  have now : u.followUps = left := followUps_after start none requests
  refine ⟨now, ?_, ?_, ?_⟩
  · intro request commands finished
    rcases step_followUps sound request with ⟨cause, ended, empty⟩ | ⟨unfinished, -⟩
    · rw [ended] at finished
      cases finished
      refine ⟨now, empty, ?_⟩
      rcases cause with ⟨steps, rfl, fitting⟩ | acknowledged
      · exact .inl ⟨steps, _, _, rfl, submit_of_fitting sound fitting⟩
      · exact .inr acknowledged
    · rw [unfinished] at finished
      cases finished
  · intro request unfinished
    rcases step_followUps sound request with ⟨-, ended, -⟩ | ⟨-, still⟩
    · rw [ended] at unfinished
      cases unfinished
    · rw [still, now]
  · have whole := conserved start requests
    rw [none, List.nil_append] at whole
    rw [← now]
    exact whole

/-- A command that was cleared and two that were not: these outlast a macro that is given up, a submission that is
refused and one that replaces a macro under way, and are handed back by the acknowledgement that ends the third. -/
theorem followUps_handed_back_thirdMacro :
    let requests : List Request :=
      [.sendAfter .abortMacro, .clearAfter, .sendAfter .ping, .submit sevenSteps, .abort, .acknowledge,
        .submit sevenSteps, .sendAfter .getBluetoothInfo, .submit [.raw (.replicate 20 0x42)], .acknowledge,
        .submit [.delay 300]]
    ∃ fresh, make ⟨20, 10, 4, by decide, by decide, by decide⟩ (.emit 1) = .ok fresh ∧
      let u := fresh.after requests
      (u.step .acknowledge).1.finished = some [.ping, .getBluetoothInfo] ∧
      [.ping, .getBluetoothInfo] = waiting (fresh.history requests) ∧
      (u.step .acknowledge).2.followUps = [] ∧
      fresh.departed requests ++ waiting (fresh.history requests) = [.abortMacro, .ping, .getBluetoothInfo] := by
  intro requests
  have made : make ⟨20, 10, 4, by decide, by decide, by decide⟩ (.emit 1) = .ok _ := rfl
  refine ⟨_, made, ?_⟩
  intro u
  obtain ⟨-, completion, -, whole⟩ := followUps_handed_back made requests
  have finished : (u.step .acknowledge).1.finished = some [.ping, .getBluetoothInfo] := by
    decide +kernel
  obtain ⟨handed, empty, -⟩ := completion .acknowledge _ finished
  exact ⟨finished, handed, empty, whole⟩

end RobotDriver.Macro.Upload
