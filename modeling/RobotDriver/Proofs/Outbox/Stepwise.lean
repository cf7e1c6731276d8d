import Mathlib.Logic.Relation
import RobotDriver.Outbox.Shift

/-!
# Work is made of single steps

`Writer.work` computes in one go what a writer does until it has to wait. `Shift.works_work` takes it apart into
single steps of the writer: batches taken, calls to the sink and, when no one is left to add items, the end. What
each of these keeps, `Writer.work` keeps.
-/

namespace RobotDriver.Outbox

/-- The writer when it has offered bytes to the sink, and what it has done. -/
def Writer.offered (w : Writer) (result : List Bytes × Sink.Outcome × Sink) : Writer × List Emission :=
  (match result.2.1 with
    | .done => { w with sink := result.2.2, activity := .writing [] }
    | .stalled rest => { w with sink := result.2.2, activity := .writing rest }
    | .failed fault => { w with sink := result.2.2 }.finish (some fault),
  result.1.map .wrote)

/-! ## Rest -/

/-- A writer that waits for an item has taken all there were, and one that waits for the sink has something left. -/
def Stint.AtRest (stint : Stint) : Prop :=
  match stint.pause with
  | .starved => stint.queue = []
  | .stalled rest => rest ≠ []
  | .failed _ => True

theorem ne_nil_of_stalled {sink last : Sink} {bytes rest : Bytes} {writes : List Bytes}
    (stalled : sink.writeAll bytes = (writes, .stalled rest, last)) : rest ≠ [] := by
  induction size : bytes.length using Nat.strongRecOn generalizing bytes sink writes with | _ n ih
  cases bytes with
  | nil => simp [Sink.writeAll] at stalled
  | cons b bs =>
    rw [Sink.writeAll] at stalled
    split at stalled
    · cases stalled
      exact List.cons_ne_nil b bs
    · cases stalled
    · cases stalled
    · next count _ =>
      have shorter : (bs.drop count).length < n := by
        rw [← size, List.length_drop, List.length_cons]
        omega
      rcases more : sink.afterCall.writeAll (bs.drop count) with ⟨later, outcome, _⟩
      rw [more] at stalled
      cases stalled
      exact ih _ shorter more rfl

theorem atRest_writeOut {onDone : Sink → Stint} (next : ∀ sink, (onDone sink).AtRest) (sink : Sink)
    (bytes : Bytes) (queue : List Item) : (writeOut sink bytes queue onDone).AtRest := by
  unfold writeOut
  rcases all : sink.writeAll bytes with ⟨writes, _ | rest | fault, written⟩
  · rcases flushed : written.flush with ⟨_ | fault, last⟩
    · simp only [flushed]
      exact next last
    · simp [flushed, Stint.AtRest]
  · exact ne_nil_of_stalled all
  · simp [Stint.AtRest]

theorem atRest_run (max : Nat) (sink : Sink) (queue : List Item) : (run max sink queue).AtRest := by
  induction sink, queue using run.induct max with
  | case1 sink => simp [run, Stint.AtRest]
  | case2 sink first others split here next =>
    have rests := atRest_writeOut next sink (batchBytes (first :: split.1)) split.2
    rw [run]
    dsimp only
    split
    · exact here
    · exact rests

/-! ## Single steps -/

namespace Shift

variable {s t u : Shift}

/-- A single step of a writer that is not cancelled. -/
inductive Step : Shift → Shift → Prop
  | batch (s : Shift) : Step s (s.move .batch)
  | call (s : Shift) : Step s (s.move .call)
  | leave (s : Shift) : Step s (s.move .leave)

/-- Steps lead from one shift to another. -/
def Works : Shift → Shift → Prop :=
  Relation.ReflTransGen Step

theorem Works.refl (s : Shift) : Works s s :=
  Relation.ReflTransGen.refl

theorem Works.trans (first : Works s t) (later : Works t u) : Works s u :=
  Relation.ReflTransGen.trans first later

theorem Step.works (step : Step s t) : Works s t :=
  Relation.ReflTransGen.single step

/-- What every step keeps is kept. -/
theorem Works.keeps {P : Shift → Prop} (step : ∀ {s t}, Step s t → P s → P t) (works : Works s t) (h : P s) :
    P t := by
  induction works with
  | refl => exact h
  | tail _ last ih => exact step last ih

@[simp]
theorem act_act (s : Shift) (w v : Writer) (es fs : List Emission) :
    (s.act (w, es)).act (v, fs) = s.act (v, es ++ fs) := by
  simp [act]

/-- A writer that does nothing leaves the shift as it is. -/
theorem act_self (s : Shift) : s.act (s.writer, []) = s := by
  simp [act]

/-- Offering bytes until the sink has taken them, fails or stalls is a number of calls. -/
theorem works_writeAll (bytes : Bytes) (s : Shift) (writing : s.writer.activity = .writing bytes) :
    Works s (s.act (s.writer.offered (s.writer.sink.writeAll bytes))) := by
  induction size : bytes.length using Nat.strongRecOn generalizing bytes s with | _ n ih
  cases bytes with
  | nil =>
    have same : s.act (s.writer.offered ([], .done, s.writer.sink)) = s := by
      simp [act, Writer.offered, ← writing]
    rw [Sink.writeAll, same]
    exact .refl s
  | cons b bs =>
    have called : Works s (s.act s.writer.callSink) := (Step.call s).works
    simp only [Writer.callSink, writing] at called
    cases answer : s.writer.sink.call (bs.length + 1) with
    | waits =>
      have same : s.act (s.writer.offered ([], .stalled (b :: bs), s.writer.sink)) = s := by
        simp [act, Writer.offered, ← writing]
      rw [Sink.writeAll, answer, same]
      exact .refl s
    | fails fault =>
      rw [answer] at called
      rw [Sink.writeAll, answer]
      exact called
    | takes count =>
      rw [answer] at called
      rw [Sink.writeAll, answer]
      cases count with
      | zero => exact called
      | succ count =>
        refine called.trans ?_
        have shorter : (bs.drop count).length < n := by
          rw [← size, List.length_drop, List.length_cons]
          omega
        have next := ih _ shorter (bs.drop count) (s.act (Writer.mk s.writer.maxBatch s.writer.sink.afterCall
          s.writer.outbox (.writing (bs.drop count)), [.wrote (b :: bs.take count)])) rfl rfl
        rw [act_act] at next
        exact next

/-- The writer comes to rest after a stint by steps of its own, if it waits or has failed where the stint ends. -/
theorem works_writeOut {bytes : Bytes} (onDone : Sink → Stint) (writing : s.writer.activity = .writing bytes)
    (next : ∀ t : Shift, t.writer.activity = .waiting → t.writer.maxBatch = s.writer.maxBatch →
      t.writer.outbox = s.writer.outbox → Works t (t.act (t.writer.settle false (onDone t.writer.sink)))) :
    Works s (s.act (s.writer.settle false (writeOut s.writer.sink bytes s.writer.outbox.queue onDone))) := by
  have offered := works_writeAll bytes s writing
  unfold writeOut
  generalize s.writer.sink.writeAll bytes = result at offered
  obtain ⟨writes, outcome, written⟩ := result
  cases outcome with
  | stalled rest => exact offered
  | failed fault => exact offered
  | done =>
    refine offered.trans ?_
    refine (Step.call (s.act (s.writer.offered (writes, .done, written)))).works.trans ?_
    rcases flushed : written.flush with ⟨_ | fault, sink⟩
    · have flush : (s.act (s.writer.offered (writes, .done, written))).move .call =
          s.act ({ s.writer with sink, activity := .waiting }, writes.map .wrote) := by
        simp [move, act, Writer.offered, Writer.callSink, flushed]
      have rest := next (s.act ({ s.writer with sink, activity := .waiting }, writes.map .wrote)) rfl rfl rfl
      rw [act_act] at rest
      rw [flush]
      simp only [flushed]
      exact rest
    · have flush : (s.act (s.writer.offered (writes, .done, written))).move .call =
          s.act ({ s.writer with sink }.finish (some fault), writes.map .wrote) := by
        simp [move, act, Writer.offered, Writer.callSink, Writer.finish, flushed]
      rw [flush]
      simp only [flushed]
      exact .refl _

/-- What was done before a stint counts as its beginning. -/
theorem act_settle (s : Shift) (w v : Writer) (es : List Emission) (hungUp : Bool) (stint : Stint) :
    (s.act (v, es)).act (w.settle hungUp stint) =
      s.act (w.settle hungUp { stint with emissions := es ++ stint.emissions }) := by
  simp [act, Writer.settle]

/-- Writing batch by batch from a queue is a number of steps. -/
theorem works_run (s : Shift) (waiting : s.writer.activity = .waiting) :
    Works s (s.act (s.writer.settle false (run s.writer.maxBatch s.writer.sink s.writer.outbox.queue))) := by
  induction size : s.writer.outbox.queue.length using Nat.strongRecOn generalizing s with | _ n ih
  cases queued : s.writer.outbox.queue with
  | nil =>
    have same : s.act (s.writer.settle false ⟨[], s.writer.sink, [], .starved⟩) = s := by
      simp [act, Writer.settle, ← waiting, ← queued]
    rw [run, same]
    exact .refl s
  | cons first others =>
    have taken : Works s (s.act s.writer.takeBatch) := (Step.batch s).works
    refine taken.trans ?_
    have cut := congrArg List.length (splitBatch_append s.writer.maxBatch first.command.packetLength others)
    rw [run]
    simp only [Writer.takeBatch, waiting, queued]
    rw [List.length_append] at cut
    rw [queued, List.length_cons] at size
    generalize splitBatch s.writer.maxBatch first.command.packetLength others = split at cut
    obtain ⟨batch, left⟩ := split
    dsimp only at cut
    -- The writer with what is left of the queue goes on alone, whatever the sink is by then.
    have goesOn : ∀ t : Shift, t.writer.activity = .waiting → t.writer.maxBatch = s.writer.maxBatch →
        t.writer.outbox.queue = left →
        Works t (t.act (t.writer.settle false (run s.writer.maxBatch t.writer.sink left))) := by
      intro t waiting max queue
      have next := ih left.length (by omega) t waiting (by rw [queue])
      rw [max, queue] at next
      exact next
    split
    · have next := goesOn (s.act ({ s.writer with
          outbox := { s.writer.outbox with queue := left }
          activity := .waiting }, rejections (first :: batch))) rfl rfl rfl
      rw [act_settle] at next
      exact next
    · let t := s.act ({ s.writer with
          outbox := { s.writer.outbox with queue := left }
          activity := .writing (batchBytes (first :: batch)) },
        rejections (first :: batch) ++ [.registered (encodable (first :: batch))])
      have next : Works t _ := works_writeOut (fun sink => run s.writer.maxBatch sink left) rfl
        fun u waiting max outbox => goesOn u waiting max (congrArg Outbox.queue outbox)
      rw [act_settle, List.append_assoc] at next
      exact next

/-- A writer that would wait for an item leaves when no one can add any. -/
theorem works_settle (s : Shift) (w : Writer) {stint : Stint} (rests : stint.AtRest) (hungUp : Bool) :
    Works (s.act (w.settle false stint)) (s.act (w.settle hungUp stint)) := by
  obtain ⟨emissions, sink, queue, pause⟩ := stint
  cases hungUp with
  | false => exact .refl _
  | true =>
    cases pause with
    | starved =>
      have empty : queue = [] := rests
      subst empty
      have left := (Step.leave (s.act (w.settle false ⟨emissions, sink, [], .starved⟩))).works
      simp only [move, Writer.settle, Writer.leave, act_act, List.append_nil] at left
      exact left
    | stalled rest => exact .refl _
    | failed fault => exact .refl _

/-- What a writer does that is not cancelled, until it has to wait, is a number of steps. -/
theorem works_work (s : Shift) (hungUp : Bool) : Works s (s.move (.work false hungUp)) := by
  rw [move]
  cases doing : s.writer.activity with
  | ended fault =>
    rw [Writer.work, doing, act_self]
    exact .refl s
  | waiting =>
    rw [Writer.work, doing]
    exact (works_run s doing).trans (works_settle s s.writer (atRest_run _ _ _) hungUp)
  | writing rest =>
    rw [Writer.work, doing]
    have resumed := works_writeOut (fun sink => run s.writer.maxBatch sink s.writer.outbox.queue) doing
      fun t waiting max outbox => by
        have next := works_run t waiting
        rw [max, outbox] at next
        exact next
    exact resumed.trans (works_settle s s.writer (atRest_writeOut (fun _ => atRest_run _ _ _) _ _ _) hungUp)

/-- A cancelled writer does nothing but stop. -/
theorem move_work_cancelled (s : Shift) (hungUp : Bool) : s.move (.work true hungUp) = s.move .stop := by
  unfold move Writer.work Writer.stop Writer.isEnded
  cases s.writer.activity <;> rfl

end Shift

end RobotDriver.Outbox
