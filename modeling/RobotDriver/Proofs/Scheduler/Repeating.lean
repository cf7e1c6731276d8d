import RobotDriver.Proofs.Scheduler.Ticking

/-!
# Repeating tasks never run ahead

A task that repeats has a beat of deadlines, the first one its initial delay after it was asked for. By any time it has
sent at most once for each deadline of the beat that has passed (`repeating_run`). A jump that finds it late makes it
send once and begin a new beat; any other jump makes it send once for each deadline that has passed, and keeps the beat
(`repeating_step`). So a task that is never found late has sent exactly as often as it was due.
-/

namespace RobotDriver.Clockwork

variable {c : Clockwork} {i deadline : Nat} {item : Outbox.Item} {period : Period}

/-- The deadline of a task that waits. -/
def deadline? (c : Clockwork) (i : Nat) : Option Nat :=
  (c.scheduler.tasks[i]?.bind (·.timer)).map (·.deadline)

theorem deadline?_of_holds {timer : Timer} (holds : c.scheduler.Holds i item (some timer)) :
    c.deadline? i = some timer.deadline := by
  rw [deadline?, holds.here]
  rfl

/-- In the course of requests the task is never found late. -/
def Punctual (c : Clockwork) (i : Nat) : List Request → Prop
  | [] => True
  | request :: requests =>
    (∀ deadline ∈ c.deadline? i, (c.step request).2.2.now ≤ deadline + Timer.tolerance) ∧
      (c.step request).2.2.Punctual i requests

instance : ∀ (c : Clockwork) (i : Nat) (requests : List Request), Decidable (c.Punctual i requests)
  | _, _, [] => .isTrue trivial
  | c, i, request :: requests =>
    have : Decidable ((c.step request).2.2.Punctual i requests) := instDecidablePunctual _ i requests
    inferInstanceAs (Decidable (_ ∧ _))

theorem punctual_concat {requests : List Request} {request : Request} :
    c.Punctual i (requests ++ [request]) ↔
      c.Punctual i requests ∧ ∀ deadline ∈ (c.after requests).deadline? i,
        (c.after (requests ++ [request])).now ≤ deadline + Timer.tolerance := by
  induction requests generalizing c with
  | nil => exact and_comm
  | cons first requests ih =>
    rw [List.cons_append, Punctual, ih, Punctual, and_assoc]
    rfl

/-- To look at a timer that repeats is to let it catch up. -/
theorem fireLeft_repeating (deadline now : Nat) (period : Period) :
    Timer.fireLeft (some ⟨deadline, some period⟩) now =
      ((Timer.catchUp now now period deadline).1, some ⟨(Timer.catchUp now now period deadline).2, some period⟩) := rfl

/-- A repeating task that is not cancelled waits for a deadline that lies ahead. It has sent at most as often as it was
due, and just as often if it has never been found late. -/
theorem Wound.repeating_run (h : Wound c []) (item : Outbox.Item) (initial ms : Nat) (later : List Request)
    (going : (c.after (.periodic item initial ms :: later)).scheduler.isCancelled c.scheduler.tasks.length = false) :
    let start := Timer.deadlineAfter c.now initial
    let period := Timer.clampPeriod ms
    let d := c.after (.periodic item initial ms :: later)
    let count := ((c.firings (.periodic item initial ms :: later)).filter (·.task == c.scheduler.tasks.length)).length
    count ≤ Timer.met d.now start period ∧
    ((c.step (.periodic item initial ms)).2.2.Punctual c.scheduler.tasks.length later →
      count = Timer.met d.now start period) ∧
    ∃ deadline, d.now < deadline ∧ d.scheduler.Holds c.scheduler.tasks.length item (some ⟨deadline, some period⟩) := by
  intro start period d count
  let P (later : List Request) (count : Nat) (left : Option Timer) : Prop :=
    let now := (c.after (.periodic item initial ms :: later)).now
    ∃ deadline, left = some ⟨deadline, some period⟩ ∧ now < deadline ∧ Timer.Paced start period now count deadline ∧
      ((c.step (.periodic item initial ms)).2.2.Punctual c.scheduler.tasks.length later →
        deadline = start + count * period.ms)
  have first : P [] (Timer.fireLeft (some (.repeating c.now initial ms)) c.now).1
      (Timer.fireLeft (some (.repeating c.now initial ms)) c.now).2 := by
    have onTime : c.now ≤ start + Timer.tolerance := by
      show c.now ≤ c.now + min initial Timer.maxDelay + Timer.tolerance
      omega
    have paced := (Timer.Paced.first start period c.now).look (Nat.le_refl _)
    have origin : start = start + 0 * period.ms := by simp
    have beat := Timer.deadline_of_onTime origin onTime
    rw [Nat.zero_add] at paced beat
    exact ⟨_, rfl, Timer.lt_catchUp _ _ _, paced, fun _ => beat⟩
  have next : ∀ later request count left, P later count left →
      (c.after (.periodic item initial ms :: later)).scheduler.Holds c.scheduler.tasks.length item left →
      let looked := Timer.fireLeft left (c.after (.periodic item initial ms :: later ++ [request])).now
      P (later ++ [request]) (count + looked.1) looked.2 := by
    rintro later request count left ⟨deadline, rfl, -, paced, beat⟩ holds looked
    have goes : (c.after (.periodic item initial ms :: later)).now ≤
        (c.after (.periodic item initial ms :: later ++ [request])).now := by
      rw [now_concat]
      exact Nat.le_add_right _ _
    refine ⟨_, rfl, Timer.lt_catchUp _ _ _, paced.look goes, ?_⟩
    intro punctual
    obtain ⟨before, onTime⟩ := punctual_concat.1 punctual
    exact Timer.deadline_of_onTime (beat before) (onTime _ (deadline?_of_holds holds))
  obtain ⟨left, holds, deadline, rfl, waits, paced, beat⟩ := h.run_induction (P := P) rfl first next later going
  exact ⟨paced.bounded, fun punctual => paced.count_eq (beat punctual) waits, deadline, waits, holds⟩

/-- What one request makes of a repeating task that is not cancelled by it: found late, it sends once and is due a period
from then; else it sends once for each of its deadlines that has passed, and is due at the next one. -/
theorem Wound.repeating_step (h : Wound c []) (holds : c.scheduler.Holds i item (some ⟨deadline, some period⟩))
    {request : Request} (going : (c.step request).2.2.scheduler.isCancelled i = false) :
    let now := (c.step request).2.2.now
    ∃ n next, (c.fired request).filter (·.task == i) = List.replicate n ⟨now, i, item⟩ ∧
      (c.step request).2.2.deadline? i = some next ∧ now < next ∧
      (deadline + Timer.tolerance < now → n = 1 ∧ next = now + period.ms) ∧
      (now ≤ deadline + Timer.tolerance →
        next = deadline + n * period.ms ∧ ∀ k, k < n ↔ deadline + k * period.ms ≤ now) := by
  intro now
  obtain ⟨after, sends⟩ := h.step_task holds going
  refine ⟨_, _, sends, deadline?_of_holds after, Timer.lt_catchUp _ _ _, ?_, ?_⟩
  · intro late
    rw [fireLeft_repeating, Timer.catchUp_of_late late]
    exact ⟨rfl, rfl⟩
  · intro onTime
    rw [fireLeft_repeating, Timer.catchUp_of_onTime onTime]
    exact ⟨rfl, fun k => Timer.lt_met_iff⟩

/-- **Repeating commands keep their beat, never run ahead of it, and catch up on little.** Whatever was asked before and
whatever is asked afterwards, let `p` be the period, brought between one millisecond and thirty years, and `start` the
time of the call plus the initial delay, which counts for thirty years at most. As long as the task is not cancelled, it
has sent nothing before `start` and at most `(now - start) / p + 1` items by any time `now` from then on, and just as
many if no jump has found it more than five milliseconds late. It is always due next at a time that lies ahead. A
request that finds it late by more than that makes it send one item, and it is due next a period from then; any other
makes it send one for each of its deadlines that has passed. The queue gets them while its gate is open and its reader
there. -/
theorem repeating_on_beat (before : List Request) (item : Outbox.Item) (initial period : Nat) (later : List Request) :
    let c := ({} : Clockwork).after before
    let i := before.countP Request.adds
    let p := max (min period Timer.maxDelay) 1
    let start := elapsed before + min initial Timer.maxDelay
    let call : Request := .periodic item initial period
    let d := c.after (call :: later)
    let now := elapsed (before ++ call :: later)
    (c.step call).1 = .task i ∧
    (d.scheduler.flags[i]? = some false →
      let count := ((c.firings (call :: later)).filter (·.task == i)).length
      count ≤ (if now < start then 0 else (now - start) / p + 1) ∧
      ((c.step call).2.2.Punctual i later → count = if now < start then 0 else (now - start) / p + 1) ∧
      ∃ deadline, d.deadline? i = some deadline ∧ now < deadline ∧
        ∀ request, (d.step request).2.2.scheduler.flags[i]? = some false →
          let moment := elapsed (before ++ call :: later ++ [request])
          ∃ n next, (d.fired request).filter (·.task == i) = List.replicate n ⟨moment, i, item⟩ ∧
            (d.step request).2.2.deadline? i = some next ∧ moment < next ∧
            (deadline + 5 < moment → n = 1 ∧ next = moment + p) ∧
            (moment ≤ deadline + 5 → next = deadline + n * p ∧ ∀ k, k < n ↔ deadline + k * p ≤ moment)) ∧
    (.closeGate ∉ before ++ call :: later → .abandonQueue ∉ before ++ call :: later → ∀ request,
      (d.step request).2.1 = d.sent request ++ (d.fired request).map (·.item)) := by
  intro c i p start call d now
  have wound : Wound c [] := wound_initial.after before
  have number : c.scheduler.tasks.length = i := length_after_initial before
  have whole : d = ({} : Clockwork).after (before ++ call :: later) := (after_append _ _ _).symm
  have clock : c.now = elapsed before := now_after_initial before
  have ends : ∀ run, (c.after run).now = elapsed (before ++ run) := by
    intro run
    rw [← after_append, now_after_initial]
  have first : Timer.deadlineAfter c.now initial = start := by rw [Timer.deadlineAfter, clock]
  refine ⟨congrArg Reply.task number, ?_, ?_⟩
  · intro set count
    have going := isCancelled_of_flags set
    rw [← number] at going
    obtain ⟨bound, often, deadline, waits, holds⟩ := wound.repeating_run item initial period later going
    rw [first, ends, number] at bound often
    rw [number] at holds
    rw [ends] at waits
    refine ⟨bound, often, deadline, deadline?_of_holds holds, waits, ?_⟩
    intro request set moment
    have stepped : (d.step request).2.2.now = moment := by
      have run := ends (call :: later ++ [request])
      rw [after_append, ← List.append_assoc] at run
      exact run
    have looked := (wound.after (call :: later)).repeating_step holds (isCancelled_of_flags set)
    rw [stepped] at looked
    exact looked
  · intro opened read request
    have shut : ¬(.closeGate ∈ before ++ call :: later ∨ .abandonQueue ∈ before ++ call :: later) :=
      not_or.2 ⟨opened, read⟩
    rw [whole]
    exact (queued_after _ request).trans (if_neg shut)

/-- Found five milliseconds late, the task catches up on two deadlines and has sent as often as it was due; found nine
milliseconds late, it sends once and begins a new beat. -/
theorem repeating_on_beat_fiveLate :
    let before : List Request := [.after ⟨.ping, true⟩ 20, .advance 3]
    let c := ({} : Clockwork).after before
    let item : Outbox.Item := ⟨.abortMacro, false⟩
    let call : Request := .periodic item 6 3
    let later : List Request := [.advance 4, .advance 7]
    let d := c.after (call :: later)
    d.scheduler.flags[1]? = some false ∧ (c.step call).2.2.Punctual 1 later ∧
    ((c.firings (call :: later)).filter (·.task == 1)).length = (14 - 9) / 3 + 1 ∧
    (d.step (.advance 10)).2.2.scheduler.flags[1]? = some false ∧ d.deadline? 1 = some 15 ∧
    (d.fired (.advance 10)).filter (·.task == 1) = [⟨24, 1, item⟩] ∧
    (d.step (.advance 10)).2.2.deadline? 1 = some 27 := by
  intro before c item call later d
  have set : d.scheduler.flags[1]? = some false := by decide +kernel
  have still : (d.step (.advance 10)).2.2.scheduler.flags[1]? = some false := by decide +kernel
  have punctual : (c.step call).2.2.Punctual 1 later := by decide +kernel
  have number : before.countP Request.adds = 1 := by decide
  have run := repeating_on_beat before item 6 3 later
  rw [number] at run
  obtain ⟨-, going, -⟩ := run
  obtain ⟨-, count, deadline, due, -, next⟩ := going set
  have armed : d.deadline? 1 = some 15 := by decide +kernel
  obtain rfl : deadline = 15 := Option.some.inj (due.symm.trans armed)
  have time : elapsed (before ++ call :: later ++ [.advance 10]) = 24 := by decide
  have found := next (.advance 10) still
  rw [time] at found
  obtain ⟨n, following, sends, rearmed, -, late, -⟩ := found
  obtain ⟨rfl, rfl⟩ := late (by decide)
  have often := count punctual
  have now : elapsed (before ++ call :: later) = 14 := by decide
  rw [now] at often
  refine ⟨set, punctual, ?_, still, armed, sends, ?_⟩
  · rw [often]
    decide
  · rw [rearmed]
    decide

end RobotDriver.Clockwork
