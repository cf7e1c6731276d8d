import RobotDriver.Proofs.Outbox.Writing

/-!
# A willing sink gets everything

A `Willing` sink takes at least a byte at every call and never fails. As long as the sink is willing and no one
cancels the writer (`Writer.Move.Calm`), the writer ends only when everything accepted that can be encoded is
registered and written (`Steady`), and once no one can add items any more it does end (`ended_work`). `orderly` puts
this beside what holds of every sink.
-/

namespace RobotDriver

namespace Sink

variable {s : Sink}

/-- Every call takes something. -/
def Willing (s : Sink) : Prop :=
  match s.mode with
  | .ok => True
  | .short limit => 0 < limit
  | _ => False

theorem Willing.call (h : s.Willing) (n : Nat) : ∃ count, s.call (n + 1) = .takes (count + 1) := by
  unfold Willing at h
  unfold Sink.call
  cases mode : s.mode with
  | ok => exact ⟨n, rfl⟩
  | short limit =>
    rw [mode] at h
    dsimp only at h ⊢
    split
    · exact ⟨n, rfl⟩
    · obtain ⟨less, rfl⟩ := Nat.exists_eq_succ_of_ne_zero (Nat.pos_iff_ne_zero.1 h)
      exact ⟨min n less, congrArg Call.takes (Nat.succ_min_succ n less)⟩
  | fail | failFlush | zero | stall =>
    rw [mode] at h
    exact h.elim

theorem Willing.afterCall (h : s.Willing) : s.afterCall.Willing := by
  unfold Sink.afterCall
  split
  · exact h
  · exact h
  · exact h

theorem Willing.flush (h : s.Willing) : s.flush = (none, s) := by
  unfold Willing at h
  unfold Sink.flush
  split
  · next mode =>
    rw [mode] at h
    exact h.elim
  · rfl

/-- A willing sink takes all bytes and stays willing. -/
theorem Willing.writeAll (h : s.Willing) (bytes : Bytes) :
    ∃ writes last, s.writeAll bytes = (writes, .done, last) ∧ last.Willing := by
  induction size : bytes.length using Nat.strongRecOn generalizing bytes s with | _ n ih
  cases bytes with
  | nil => exact ⟨[], s, by rw [Sink.writeAll], h⟩
  | cons b bs =>
    obtain ⟨count, taken⟩ := h.call bs.length
    have shorter : (bs.drop count).length < n := by
      rw [← size, List.length_drop, List.length_cons]
      omega
    obtain ⟨writes, last, rest, willing⟩ := ih _ shorter h.afterCall (bs.drop count) rfl
    refine ⟨(b :: bs.take count) :: writes, last, ?_, willing⟩
    rw [Sink.writeAll, taken]
    simp only [rest]

end Sink

namespace Outbox

/-- The queue is empty and the sink will take more. -/
def Stint.Starved (stint : Stint) : Prop :=
  stint.pause = .starved ∧ stint.sink.Willing

/-- With a willing sink the writer waits only for items. -/
theorem starved_writeOut {onDone : Sink → Stint} (next : ∀ sink : Sink, sink.Willing → (onDone sink).Starved)
    {sink : Sink} (willing : sink.Willing) (bytes : Bytes) (queue : List Item) :
    (writeOut sink bytes queue onDone).Starved := by
  obtain ⟨writes, last, all, willing⟩ := willing.writeAll bytes
  unfold writeOut
  simp only [all, willing.flush]
  exact next last willing

theorem starved_run (max : Nat) {sink : Sink} (willing : sink.Willing) (queue : List Item) :
    (run max sink queue).Starved := by
  induction sink, queue using run.induct max with
  | case1 sink =>
    rw [run]
    exact ⟨rfl, willing⟩
  | case2 sink first others split here next =>
    rw [run]
    dsimp only
    split
    · exact here willing
    · exact starved_writeOut next willing _ _

/-- With a willing sink a writer to which no one can add items ends. -/
theorem ended_work (w : Writer) (willing : w.sink.Willing) : (w.work false true).1.activity.pending = none := by
  have ends {stint : Stint} (starved : stint.Starved) : (w.settle true stint).1.activity.pending = none := by
    simp [Writer.settle, starved.1, Writer.finish, Activity.pending]
  unfold Writer.work
  split
  · next doing =>
    rw [doing]
    rfl
  · exact ends (starved_run w.maxBatch willing _)
  · exact ends (starved_writeOut (fun sink willing => starved_run w.maxBatch willing _) willing _ _)

/-- With a willing sink a writer that waits for an item waits for one again after its work. -/
theorem waiting_work (w : Writer) (willing : w.sink.Willing) (waiting : w.activity = .waiting) :
    (w.work false false).1.sink.Willing ∧ (w.work false false).1.activity = .waiting := by
  obtain ⟨starved, willing⟩ := starved_run w.maxBatch willing w.outbox.queue
  simp only [Writer.work, waiting, Writer.settle, starved]
  exact ⟨willing, rfl⟩

/-! ## Steps -/

theorem live_takeBatch {w : Writer} (live : w.activity.pending ≠ none) :
    w.takeBatch.1.sink = w.sink ∧ w.takeBatch.1.activity.pending ≠ none := by
  unfold Writer.takeBatch
  split
  · dsimp only
    split
    · exact ⟨rfl, live⟩
    · exact ⟨rfl, nofun⟩
  · exact ⟨rfl, live⟩

/-- A call to a willing sink does not end the writer. -/
theorem live_callSink {w : Writer} (willing : w.sink.Willing) (live : w.activity.pending ≠ none) :
    w.callSink.1.sink.Willing ∧ w.callSink.1.activity.pending ≠ none := by
  unfold Writer.callSink
  split
  · rw [willing.flush]
    exact ⟨willing, nofun⟩
  · next bs _ =>
    obtain ⟨count, taken⟩ := willing.call bs.length
    rw [taken]
    exact ⟨willing.afterCall, nofun⟩
  · exact ⟨willing, live⟩

/-- The move neither cancels the writer nor gives it a sink that fails or takes nothing. -/
def Writer.Move.Calm : Writer.Move → Prop
  | change sink => sink.Willing
  | stop | work true _ => False
  | _ => True

namespace Shift

variable {s t : Shift}

/-- The writer has ended in peace and nothing is missing. -/
structure Whole (s : Shift) : Prop where
  peace : s.writer.activity = .ended none
  gone : s.writer.outbox.attended = false
  registered : (batches s.emissions).flatten = encodable s.accepted
  written : written s.emissions = packets (encodable s.accepted)

/-- What every calm move keeps. -/
structure Steady (s : Shift) : Prop where
  kept : Kept s
  willing : s.writer.sink.Willing
  whole : s.writer.activity.pending = none → Whole s

/-- A writer that has ended makes no more steps. -/
theorem Step.of_ended (step : Step s t) (ended : s.writer.activity.pending = none) : t = s := by
  cases doing : s.writer.activity with
  | ended fault => cases step <;> simp [move, Writer.takeBatch, Writer.callSink, Writer.leave, doing, act_self]
  | waiting => simp [doing, Activity.pending] at ended
  | writing rest => simp [doing, Activity.pending] at ended

/-- A writer that leaves has registered and written everything. -/
theorem whole_leave (h : Kept s) (waiting : s.writer.activity = .waiting) (empty : s.writer.outbox.queue = []) :
    Whole (s.act (s.writer.finish none, [])) := by
  have live : s.writer.activity.pending = some [] := by rw [waiting]; rfl
  have registered : (batches s.emissions).flatten = encodable s.accepted := by
    simpa [empty, encodable] using h.queued [] live
  refine ⟨rfl, rfl, ?_, ?_⟩
  · simpa [act] using registered
  · simpa [act, registered] using h.pending [] live

theorem Steady.step (step : Step s t) (h : Steady s) : Steady t := by
  by_cases ended : s.writer.activity.pending = none
  · rw [step.of_ended ended]
    exact h
  have kept := h.kept.step step
  cases step with
  | batch =>
    obtain ⟨sink, live⟩ := live_takeBatch ended
    exact ⟨kept, sink ▸ h.willing, fun none => absurd none live⟩
  | call =>
    obtain ⟨willing, live⟩ := live_callSink h.willing ended
    exact ⟨kept, willing, fun none => absurd none live⟩
  | leave =>
    rw [move]
    unfold Writer.leave
    split
    · next waiting empty => exact ⟨h.kept.finish _ _, h.willing, fun _ => whole_leave h.kept waiting empty⟩
    · rw [act_self]
      exact h

/-- An item that is accepted finds the writer at work. -/
theorem Steady.accept (h : Steady s) {item : Item} {result : Except Refusal Outbox}
    (ok : ∀ outbox, result = .ok outbox →
      outbox.queue = s.writer.outbox.queue ++ [item] ∧ s.writer.outbox.attended = true) :
    Steady (s.accept item result) := by
  have kept := h.kept.accept fun outbox same => (ok outbox same).1
  cases result with
  | error refusal => exact h
  | ok outbox =>
    refine ⟨kept, h.willing, fun ended => ?_⟩
    have gone := (h.whole ended).gone
    rw [(ok outbox rfl).2] at gone
    cases gone

theorem Steady.move (h : Steady s) {m : Writer.Move} (calm : m.Calm) : Steady (s.move m) := by
  cases m with
  | offer item => exact h.accept fun _ => of_enqueue
  | force command => exact h.accept fun _ => of_push
  | close => exact ⟨h.kept.move .close, h.willing, fun ended => { h.whole ended with }⟩
  | change sink => exact ⟨h.kept.change sink, calm, fun ended => { h.whole ended with }⟩
  | batch => exact h.step (.batch s)
  | call => exact h.step (.call s)
  | leave => exact h.step (.leave s)
  | stop => exact calm.elim
  | work cancelled hungUp =>
    cases cancelled with
    | false => exact (works_work s hungUp).keeps Steady.step h
    | true => exact calm.elim

theorem Kept.after (h : Kept s) (moves : List Writer.Move) : Kept (s.after moves) := by
  induction moves generalizing s with
  | nil => exact h
  | cons m ms ih => exact ih (h.move m)

theorem Steady.after (h : Steady s) {moves : List Writer.Move} (calm : ∀ m ∈ moves, m.Calm) :
    Steady (s.after moves) := by
  induction moves generalizing s with
  | nil => exact h
  | cons m ms ih => exact ih (h.move (calm m List.mem_cons_self)) fun m' later => calm m' (List.mem_cons_of_mem m later)

/-! ## A whole run -/

/-- Whatever happens to a writer, it registers the accepted items that fit a packet in their order, and what is written
at any moment is the packets of what is registered by then, at most short of a part of the last batch. If the sink is
always willing and no one cancels the writer, it ends in peace as soon as no one can add items, and nothing is
missing. -/
theorem orderly (maxBatch : Nat) (sink : Sink) (moves : List Writer.Move) :
    let s := Shift.after { writer := { maxBatch, sink } } moves
    let fits : Item → Bool := fun item => item.command.data.length ≤ 254
    (batches s.emissions).flatten <+: s.accepted.filter fits ∧
      (∀ item ∈ (batches s.emissions).flatten, item.command.encode = .ok item.command.toBytes) ∧
      (∀ es, es <+: s.emissions →
        packets (batches es).dropLast.flatten <+: written es ∧ written es <+: packets (batches es).flatten) ∧
      (sink.Willing → (∀ m ∈ moves, m.Calm) →
        let last := s.move (.work false true)
        last.writer.activity = .ended none ∧
          (batches last.emissions).flatten = s.accepted.filter fits ∧
          written last.emissions = packets (s.accepted.filter fits)) := by
  intro s fits
  have fresh : Kept { writer := { maxBatch, sink } } := kept_fresh _ rfl rfl
  have kept : Kept s := fresh.after moves
  refine ⟨kept.order, fun item registered => ?_, kept.history, fun willing calm => ?_⟩
  · have fits : item.command.Encodable := by
      simpa using (List.mem_filter.1 (kept.order.subset registered)).2
    exact Command.encode_of_encodable fits
  · have steady : Steady s := Steady.after ⟨fresh, willing, nofun⟩ calm
    have ends : (s.move (.work false true)).writer.activity.pending = none := ended_work s.writer steady.willing
    have whole := (steady.move (m := .work false true) trivial).whole ends
    exact ⟨whole.peace, whole.registered, whole.written⟩

/-- A command that does not fit stands between two that do, and the sink takes three bytes at a time. -/
theorem orderly_longBetween :
    let ping : Item := ⟨.ping, false⟩
    let long : Item := ⟨.raw 2 81 (List.replicate 255 0), false⟩
    let abort : Item := ⟨.abortMacro, true⟩
    let moves : List Writer.Move := [.offer ping, .batch, .call, .offer long, .force abort.command, .close]
    let s := Shift.after { writer := { maxBatch := 32, sink := { mode := .short 3 } } } moves
    Sink.Willing { mode := .short 3 } ∧ (∀ m ∈ moves, m.Calm) ∧ s.accepted = [ping, long, abort] ∧
      (batches (s.move (.work false true)).emissions).flatten = [ping, abort] ∧
      written (s.move (.work false true)).emissions = ping.command.toBytes ++ abort.command.toBytes := by
  intro ping long abort moves s
  have willing : Sink.Willing { mode := .short 3 } := by simp [Sink.Willing]
  have calm : ∀ m ∈ moves, m.Calm := by
    simp [moves, Writer.Move.Calm]
  have accepted : s.accepted = [ping, long, abort] := by decide +kernel
  obtain ⟨-, registered, written⟩ := (orderly 32 { mode := .short 3 } moves).2.2.2 willing calm
  have fitting : [ping, long, abort].filter (fun item => decide (item.command.data.length ≤ 254)) = [ping, abort] := by
    decide +kernel
  have same : Shift.after { writer := { maxBatch := 32, sink := { mode := .short 3 } } } moves = s := rfl
  rw [same, accepted, fitting] at registered written
  exact ⟨willing, calm, accepted, registered, written.trans (by decide +kernel)⟩

end Shift

end Outbox

end RobotDriver
