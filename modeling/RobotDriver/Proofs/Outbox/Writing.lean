import RobotDriver.Proofs.Outbox.Stepwise

/-!
# What is written, in what order

Whatever items arrive when, however the sink takes them and wherever the writer ends, what it has registered so far is
a beginning of the accepted items that can be encoded (`Kept.order`), and what it has written ends within the packets
of the last batch registered (`InStep`), at every moment of its history. `Kept` is what every move keeps; `Steady` is
what is kept besides as long as the sink takes bytes and no one cancels the writer, so that in the end nothing is
missing.
-/

namespace RobotDriver.Outbox

/-- The batches registered in a history. -/
def batches (es : List Emission) : List (List Item) :=
  es.filterMap fun
    | .registered batch => some batch
    | _ => none

/-- The bytes written in a history. -/
def written (es : List Emission) : Bytes :=
  es.flatMap fun
    | .wrote bytes => bytes
    | _ => []

/-- The packets of items one after the other. -/
def packets (items : List Item) : Bytes :=
  items.flatMap fun item => item.command.toBytes

/-- What is written ends within the last batch registered. -/
def InStep (es : List Emission) : Prop :=
  packets (batches es).dropLast.flatten <+: written es ∧ written es <+: packets (batches es).flatten

/-- What a writer that has not ended has yet to write of the batches it registered. -/
def Activity.pending : Activity → Option Bytes
  | .waiting => some []
  | .writing rest => some rest
  | .ended _ => none

/-- A writer that has worked has failed, waits for the sink with something left, or has taken all there was. -/
theorem rest_work (w : Writer) (live : w.activity.pending ≠ none) :
    (∃ fault, (w.work false false).1.activity = .ended (some fault)) ∨
      (∃ b bs, (w.work false false).1.activity = .writing (b :: bs)) ∨
      (w.work false false).1.activity = .waiting ∧ (w.work false false).1.outbox.queue = [] := by
  have settles {stint : Stint} (rests : stint.AtRest) :
      (∃ fault, (w.settle false stint).1.activity = .ended (some fault)) ∨
        (∃ b bs, (w.settle false stint).1.activity = .writing (b :: bs)) ∨
        (w.settle false stint).1.activity = .waiting ∧ (w.settle false stint).1.outbox.queue = [] := by
    obtain ⟨emissions, sink, queue, pause⟩ := stint
    cases pause with
    | starved => exact .inr (.inr ⟨rfl, rests⟩)
    | stalled rest =>
      obtain ⟨b, bs, rfl⟩ := List.exists_cons_of_ne_nil rests
      exact .inr (.inl ⟨b, bs, rfl⟩)
    | failed fault => exact .inl ⟨fault, rfl⟩
  unfold Writer.work
  split
  · next doing =>
    rw [doing] at live
    exact absurd rfl live
  · exact settles (atRest_run _ _ _)
  · exact settles (atRest_writeOut (fun _ => atRest_run _ _ _) _ _ _)

/-- A writer that has worked and not failed is still there. -/
theorem live_work {w : Writer} (live : w.activity.pending ≠ none)
    (going : ∀ fault, (w.work false false).1.activity ≠ .ended (some fault)) :
    (w.work false false).1.activity.pending ≠ none := by
  rcases rest_work w live with ⟨fault, failed⟩ | ⟨b, bs, blocked⟩ | ⟨waiting, -⟩
  · exact absurd failed (going fault)
  · rw [blocked]
    exact nofun
  · rw [waiting]
    exact nofun

/-- Working leaves the gate of the queue alone, and a writer that has not ended is still there to take items. -/
theorem gate_work (w : Writer) :
    (w.work false false).1.outbox.accepting = w.outbox.accepting ∧
      ((w.work false false).1.activity.pending ≠ none →
        (w.work false false).1.outbox.attended = w.outbox.attended) := by
  have settles (stint : Stint) :
      (w.settle false stint).1.outbox.accepting = w.outbox.accepting ∧
        ((w.settle false stint).1.activity.pending ≠ none →
          (w.settle false stint).1.outbox.attended = w.outbox.attended) := by
    obtain ⟨emissions, sink, queue, pause⟩ := stint
    cases pause with
    | starved => exact ⟨rfl, fun _ => rfl⟩
    | stalled rest => exact ⟨rfl, fun _ => rfl⟩
    | failed fault => exact ⟨rfl, fun live => absurd rfl live⟩
  unfold Writer.work
  split
  · exact ⟨rfl, fun _ => rfl⟩
  · exact settles _
  · exact settles _

/-! ## Histories -/

@[simp]
theorem batches_append (es fs : List Emission) : batches (es ++ fs) = batches es ++ batches fs :=
  List.filterMap_append

@[simp]
theorem written_append (es fs : List Emission) : written (es ++ fs) = written es ++ written fs :=
  List.flatMap_append

@[simp]
theorem packets_append (items more : List Item) : packets (items ++ more) = packets items ++ packets more :=
  List.flatMap_append

@[simp]
theorem encodable_append (items more : List Item) : encodable (items ++ more) = encodable items ++ encodable more :=
  List.filter_append ..

/-- Items are left out. -/
def Leaves (es : List Emission) : Prop :=
  ∀ e ∈ es, ∃ command error, e = .dropped command error

theorem leaves_rejections (batch : List Item) : Leaves (rejections batch) := by
  intro e h
  obtain ⟨item, -, h⟩ := List.mem_filterMap.1 h
  cases coded : item.command.encode with
  | ok bytes => simp [coded] at h
  | error error => exact ⟨item.command, error, by simpa [coded] using h.symm⟩

@[simp]
theorem batches_of_leaves {es : List Emission} (h : Leaves es) : batches es = [] := by
  refine List.filterMap_eq_nil_iff.2 fun e he => ?_
  obtain ⟨command, error, rfl⟩ := h e he
  rfl

@[simp]
theorem written_of_leaves {es : List Emission} (h : Leaves es) : written es = [] := by
  refine List.flatMap_eq_nil_iff.2 fun e he => ?_
  obtain ⟨command, error, rfl⟩ := h e he
  rfl

/-- Leaving items out does not get a history out of step. -/
theorem InStep.leaves {es fs : List Emission} (h : InStep es) (leaves : Leaves fs) : InStep (es ++ fs) := by
  simpa [InStep, leaves] using h

/-- A writer that has written all there is may register a batch. -/
theorem InStep.registered {es : List Emission} (all : written es = packets (batches es).flatten) (batch : List Item) :
    InStep (es ++ [.registered batch]) := by
  have one : batches [.registered batch] = [batch] := rfl
  have nothing : written [.registered batch] = [] := rfl
  constructor
  · simp [one, nothing, all]
  · simp [one, nothing, all]

/-- A writer may write the next bytes of what is registered. -/
theorem InStep.wrote {es : List Emission} {bytes : Bytes} (h : InStep es)
    (within : written es ++ bytes <+: packets (batches es).flatten) : InStep (es ++ [.wrote bytes]) := by
  have nothing : batches [.wrote bytes] = [] := rfl
  have more : written [.wrote bytes] = bytes := List.append_nil bytes
  constructor
  · simp only [batches_append, written_append, nothing, more, List.append_nil]
    exact h.1.trans (List.prefix_append _ _)
  · simpa [nothing, more] using within

/-- A history is in step at every moment if it was so before and has been so since. -/
theorem inStep_prefixes {es fs : List Emission} (before : ∀ gs, gs <+: es → InStep gs)
    (since : ∀ gs, gs <+: fs → InStep (es ++ gs)) : ∀ gs, gs <+: es ++ fs → InStep gs := by
  intro gs h
  rcases List.prefix_or_prefix_of_prefix h (List.prefix_append es fs) with h' | ⟨hs, rfl⟩
  · exact before gs h'
  · exact since hs ((List.prefix_append_right_inj es).1 h)

theorem inStep_concat {es : List Emission} {e : Emission} (before : ∀ gs, gs <+: es → InStep gs)
    (now : InStep (es ++ [e])) : ∀ gs, gs <+: es ++ [e] → InStep gs := by
  intro gs h
  rcases List.prefix_concat_iff.1 h with rfl | h
  · exact now
  · exact before gs h

/-! ## Every move -/

theorem of_push {o next : Outbox} {item : Item} (h : o.push item = .ok next) :
    next.queue = o.queue ++ [item] ∧ o.attended = true := by
  unfold push at h
  split at h
  · next attended =>
    cases h
    exact ⟨rfl, attended⟩
  · cases h

theorem of_enqueue {o next : Outbox} {item : Item} (h : o.enqueue item = .ok next) :
    next.queue = o.queue ++ [item] ∧ o.attended = true := by
  unfold enqueue at h
  split at h
  · exact of_push h
  · cases h

namespace Shift

/-- What every move keeps. -/
structure Kept (s : Shift) : Prop where
  /-- What is registered comes in the order of acceptance. -/
  order : (batches s.emissions).flatten <+: encodable s.accepted
  /-- What is not registered yet is queued. -/
  queued : ∀ rest, s.writer.activity.pending = some rest →
    (batches s.emissions).flatten ++ encodable s.writer.outbox.queue = encodable s.accepted
  /-- What is not written yet is pending. -/
  pending : ∀ rest, s.writer.activity.pending = some rest →
    written s.emissions ++ rest = packets (batches s.emissions).flatten
  /-- What is written has been in step at every moment. -/
  history : ∀ es, es <+: s.emissions → InStep es

variable {s t : Shift}

theorem kept_fresh (w : Writer) (waiting : w.activity = .waiting) (empty : w.outbox.queue = []) :
    Kept { writer := w } := by
  refine ⟨List.prefix_rfl, fun _ _ => ?_, fun rest live => ?_, fun es h => ?_⟩
  · rw [empty]
    rfl
  · rw [waiting] at live
    cases live
    rfl
  · rw [List.prefix_nil.1 h]
    exact ⟨List.prefix_rfl, List.prefix_rfl⟩

/-- A writer that has ended has nothing to do any more. -/
theorem Kept.finish (h : Kept s) (w : Writer) (fault : Option StreamFault) : Kept (s.act (w.finish fault, [])) := by
  refine ⟨?_, nofun, nofun, ?_⟩
  · simpa [act] using h.order
  · simpa [act] using h.history

/-- A sink that behaves in a new way makes no difference. -/
theorem Kept.change (h : Kept s) (sink : Sink) : Kept { s with writer := { s.writer with sink } } :=
  ⟨h.order, h.queued, h.pending, h.history⟩

theorem Kept.accept (h : Kept s) {item : Item} {result : Except Refusal Outbox}
    (ok : ∀ outbox, result = .ok outbox → outbox.queue = s.writer.outbox.queue ++ [item]) :
    Kept (s.accept item result) := by
  cases result with
  | error refusal => exact h
  | ok outbox =>
    refine ⟨?_, ?_, h.pending, h.history⟩
    · have order := h.order.trans (List.prefix_append (encodable s.accepted) (encodable [item]))
      simpa [Shift.accept] using order
    · intro rest live
      simp [Shift.accept, ok outbox rfl, ← h.queued rest live]

theorem Kept.leaves (h : Kept s) {es : List Emission} (leaves : Leaves es) : Kept (s.act (s.writer, es)) := by
  refine ⟨?_, fun rest live => ?_, fun rest live => ?_, ?_⟩
  · simpa [act, leaves] using h.order
  · simpa [act, leaves] using h.queued rest live
  · simpa [act, leaves] using h.pending rest live
  · refine inStep_prefixes h.history fun gs sub => ?_
    exact (h.history _ (List.prefix_rfl)).leaves fun e he => leaves e (sub.subset he)

/-- Items that cannot be encoded may be gone from the queue. -/
theorem Kept.requeue (h : Kept s) {outbox : Outbox}
    (same : encodable outbox.queue = encodable s.writer.outbox.queue) :
    Kept { s with writer := { s.writer with outbox } } :=
  ⟨h.order, fun rest live => (congrArg _ same).trans (h.queued rest live), h.pending, h.history⟩

/-- A waiting writer may register what is first in its queue. -/
theorem Kept.register (h : Kept s) (waiting : s.writer.activity = .waiting) {batch left : List Item}
    (split : encodable s.writer.outbox.queue = encodable batch ++ encodable left) :
    Kept (s.act ({ s.writer with
        outbox := { s.writer.outbox with queue := left }
        activity := .writing (batchBytes batch) }, [.registered (encodable batch)])) := by
  have live : s.writer.activity.pending = some [] := by rw [waiting]; rfl
  have queued := h.queued [] live
  have all := h.pending [] live
  rw [List.append_nil] at all
  rw [split, ← List.append_assoc] at queued
  have one : batches [.registered (encodable batch)] = [encodable batch] := rfl
  have nothing : written [.registered (encodable batch)] = [] := rfl
  refine ⟨?_, fun rest _ => ?_, fun rest pending => ?_, ?_⟩
  · simp only [act, batches_append, one, List.flatten_append, List.flatten_singleton]
    exact ⟨_, queued⟩
  · simpa only [act, batches_append, one, List.flatten_append, List.flatten_singleton] using queued
  · cases pending
    simp [act, one, nothing, all, batchBytes, packets]
  · exact inStep_concat h.history (.registered all _)

/-- Taking a batch moves its items from the queue to what is registered. -/
theorem Kept.takeBatch (h : Kept s) : Kept (s.move .batch) := by
  rw [move]
  unfold Writer.takeBatch
  split
  · next first others waiting queue =>
    have cut := splitBatch_append s.writer.maxBatch first.command.packetLength others
    generalize splitBatch s.writer.maxBatch first.command.packetLength others = split at cut
    obtain ⟨batch, left⟩ := split
    dsimp only at cut ⊢
    have split : encodable s.writer.outbox.queue = encodable (first :: batch) ++ encodable left := by
      rw [queue, ← cut, ← List.cons_append, encodable_append]
    split
    · next none =>
      rw [List.isEmpty_iff.1 none, List.nil_append] at split
      exact (Kept.requeue h (split.symm : encodable left = _)).leaves (leaves_rejections _)
    · have registered := (h.leaves (leaves_rejections (first :: batch))).register waiting split
      rw [act_act] at registered
      exact registered
  · rw [act_self]
    exact h

/-- The sink may take the next bytes of a batch. -/
theorem Kept.wrote (h : Kept s) {bytes rest : Bytes} (writing : s.writer.activity = .writing (bytes ++ rest)) :
    Kept (s.act ({ s.writer with activity := .writing rest }, [.wrote bytes])) := by
  have live : s.writer.activity.pending = some (bytes ++ rest) := by rw [writing]; rfl
  have pending := h.pending _ live
  rw [← List.append_assoc] at pending
  have nothing : batches [.wrote bytes] = [] := rfl
  have more : written [.wrote bytes] = bytes := List.append_nil bytes
  refine ⟨?_, fun _ _ => ?_, fun _ live => ?_, ?_⟩
  · simpa [act, nothing] using h.order
  · simpa [act, nothing] using h.queued _ live
  · cases live
    simpa [act, nothing, more] using pending
  · exact inStep_concat h.history (InStep.wrote (h.history _ List.prefix_rfl) ⟨rest, pending⟩)

/-- A call to the sink moves bytes from what is pending to what is written. -/
theorem Kept.callSink (h : Kept s) : Kept (s.move .call) := by
  rw [move]
  unfold Writer.callSink
  split
  · next writing =>
    rcases s.writer.sink.flush with ⟨_ | fault, sink⟩
    · have waits : Kept { s with writer := { s.writer with activity := .waiting } } := by
        refine ⟨h.order, fun _ _ => h.queued [] (by rw [writing]; rfl), fun rest live => ?_, h.history⟩
        cases live
        exact h.pending [] (by rw [writing]; rfl)
      simpa only [act, List.append_nil] using waits.change sink
    · exact h.finish _ _
  · next b bs writing =>
    split
    · rw [act_self]
      exact h
    · exact h.finish _ _
    · have nothing : s.writer.activity = .writing ([] ++ b :: bs) := writing
      have ends := (h.wrote nothing).finish { s.writer with sink := s.writer.sink.afterCall } (some .writeZero)
      rw [act_act] at ends
      exact ends
    · next count _ =>
      have taken : s.writer.activity = .writing ((b :: bs.take count) ++ bs.drop count) := by
        rw [writing, List.cons_append, List.take_append_drop]
      exact Kept.change (h.wrote taken) s.writer.sink.afterCall
  · rw [act_self]
    exact h

theorem Kept.step (step : Step s t) (h : Kept s) : Kept t := by
  cases step with
  | batch => exact h.takeBatch
  | call => exact h.callSink
  | leave =>
    rw [move]
    unfold Writer.leave
    split
    · exact h.finish _ _
    · rw [act_self]
      exact h

theorem Kept.stop (h : Kept s) : Kept (s.move .stop) := by
  rw [move]
  unfold Writer.stop
  split
  · rw [act_self]
    exact h
  · exact h.finish _ _

theorem Kept.move (h : Kept s) (m : Writer.Move) : Kept (s.move m) := by
  cases m with
  | offer item => exact h.accept fun _ ok => (of_enqueue ok).1
  | force command => exact h.accept fun _ ok => (of_push ok).1
  | close => exact ⟨h.order, h.queued, h.pending, h.history⟩
  | change sink => exact h.change sink
  | batch => exact h.step (.batch s)
  | call => exact h.step (.call s)
  | leave => exact h.step (.leave s)
  | stop => exact h.stop
  | work cancelled hungUp =>
    cases cancelled with
    | false => exact (works_work s hungUp).keeps Kept.step h
    | true =>
      rw [move_work_cancelled]
      exact h.stop

end Shift

/-- Working takes items out of the queue and puts none in. -/
theorem shorter_work (w : Writer) : (w.work false false).1.outbox.queue.length ≤ w.outbox.queue.length := by
  let start : Shift := { writer := w }
  refine (Shift.works_work start false).keeps
    (P := fun t => t.writer.outbox.queue.length ≤ w.outbox.queue.length) (fun {s t} step h => ?_) (Nat.le_refl _)
  have ended (v : Writer) (fault : Option StreamFault) (es : List Emission) :
      (s.act (v.finish fault, es)).writer.outbox.queue.length ≤ w.outbox.queue.length := Nat.zero_le _
  cases step with
  | batch =>
    rw [Shift.move]
    unfold Writer.takeBatch
    split
    · next first others waiting queue =>
      have cut := congrArg List.length (splitBatch_append s.writer.maxBatch first.command.packetLength others)
      have left : (splitBatch s.writer.maxBatch first.command.packetLength others).2.length ≤
          w.outbox.queue.length := by
        rw [queue, List.length_cons] at h
        rw [List.length_append] at cut
        omega
      dsimp only
      split <;> exact left
    · exact h
  | call =>
    rw [Shift.move]
    unfold Writer.callSink
    split
    · split
      · exact h
      · exact ended _ _ _
    · split
      · exact h
      · exact ended _ _ _
      · exact ended _ _ _
      · exact h
    · exact h
  | leave =>
    rw [Shift.move]
    unfold Writer.leave
    split
    · exact ended _ _ _
    · exact h

/-! ## Offers -/

theorem offer_eq (o : Outbox) (item : Item) :
    o.offer item = if o.accepting = true ∧ o.attended = true then { o with queue := o.queue ++ [item] } else o := by
  unfold offer enqueue push
  cases o.accepting <;> cases o.attended <;> rfl

theorem offer_attended (o : Outbox) (item : Item) : (o.offer item).attended = o.attended := by
  rw [offer_eq]
  split <;> rfl

/-- Whoever offers an item does not move the gate. -/
theorem offer_accepting (o : Outbox) (item : Item) : (o.offer item).accepting = o.accepting := by
  rw [offer_eq]
  split <;> rfl

/-- Nothing gets past a closed gate. -/
theorem offer_of_closed {o : Outbox} (closed : o.accepting = false) (item : Item) : o.offer item = o := by
  rw [offer_eq, if_neg (by simp [closed])]

theorem foldl_offer_attended (items : List Item) (o : Outbox) : (items.foldl offer o).attended = o.attended := by
  induction items generalizing o with
  | nil => rfl
  | cons item items ih => exact (ih _).trans (offer_attended o item)

theorem foldl_offer_accepting (items : List Item) (o : Outbox) : (items.foldl offer o).accepting = o.accepting := by
  induction items generalizing o with
  | nil => rfl
  | cons item items ih => exact (ih _).trans (offer_accepting o item)

theorem foldl_offer_of_closed (items : List Item) {o : Outbox} (closed : o.accepting = false) :
    items.foldl offer o = o := by
  induction items with
  | nil => rfl
  | cons item items ih => rw [List.foldl_cons, offer_of_closed closed, ih]

/-- An open gate lets everything in while the writer is there. -/
theorem foldl_offer_of_open (items : List Item) {o : Outbox} (opened : o.accepting = true)
    (attended : o.attended = true) : items.foldl offer o = { o with queue := o.queue ++ items } := by
  induction items generalizing o with
  | nil => rw [List.append_nil, List.foldl_nil]
  | cons item items ih =>
    have rest := ih (o := { o with queue := o.queue ++ [item] }) opened attended
    rw [List.foldl_cons, offer_eq, if_pos ⟨opened, attended⟩, rest, List.append_assoc, List.singleton_append]

/-- Items that are offered enter the queue in order, or none of them does. -/
theorem foldl_offer_eq (items : List Item) (o : Outbox) :
    items.foldl offer o =
      if o.accepting = true ∧ o.attended = true then { o with queue := o.queue ++ items } else o := by
  split
  · next both => exact foldl_offer_of_open items both.1 both.2
  · next shut =>
    induction items with
    | nil => rfl
    | cons item items ih => rw [List.foldl_cons, offer_eq, if_neg shut, ih]

namespace Shift

theorem move_offer_writer (s : Shift) (item : Item) :
    (s.move (.offer item)).writer = { s.writer with outbox := s.writer.outbox.offer item } := by
  simp only [move, offer]
  cases s.writer.outbox.enqueue item <;> rfl

theorem move_offer_emissions (s : Shift) (item : Item) : (s.move (.offer item)).emissions = s.emissions := by
  simp only [move]
  cases s.writer.outbox.enqueue item <;> rfl

theorem move_offer_of_closed {s : Shift} (closed : s.writer.outbox.accepting = false) (item : Item) :
    s.move (.offer item) = s := by
  simp [move, enqueue, closed, accept]

/-- What an offer adds to the accepted items enters the queue. -/
theorem move_offer_entered (s : Shift) (item : Item) : ∃ entered,
    (s.move (.offer item)).accepted = s.accepted ++ entered ∧
    (s.move (.offer item)).writer.outbox.queue = s.writer.outbox.queue ++ entered := by
  rw [move]
  cases result : s.writer.outbox.enqueue item with
  | ok outbox => exact ⟨[item], rfl, (of_enqueue result).1⟩
  | error refusal => exact ⟨[], (List.append_nil _).symm, (List.append_nil _).symm⟩

/-- What becomes of a shift when items are offered: those that enter the queue are accepted. -/
theorem after_offers (s : Shift) (items : List Item) : ∃ (t : Shift) (entered : List Item),
    t.writer = { s.writer with outbox := items.foldl Outbox.offer s.writer.outbox } ∧
    t.emissions = s.emissions ∧ t.accepted = s.accepted ++ entered ∧
    t.writer.outbox.queue = s.writer.outbox.queue ++ entered ∧
    (s.writer.outbox.accepting = false → entered = []) ∧ (s.Kept → t.Kept) := by
  induction items generalizing s with
  | nil => exact ⟨s, [], rfl, rfl, (List.append_nil _).symm, (List.append_nil _).symm, fun _ => rfl, id⟩
  | cons item items ih =>
    obtain ⟨t, entered, writer, emissions, accepted, queue, closed, kept⟩ := ih (s.move (.offer item))
    obtain ⟨first, accepted', queue'⟩ := s.move_offer_entered item
    refine ⟨t, first ++ entered, ?_, ?_, ?_, ?_, fun gate => ?_, fun h => kept (h.move (.offer item))⟩
    · rw [writer, move_offer_writer]
      rfl
    · rw [emissions, move_offer_emissions]
    · rw [accepted, accepted', List.append_assoc]
    · rw [queue, queue', List.append_assoc]
    · rw [move_offer_of_closed gate] at closed accepted'
      rw [closed gate, List.append_eq_nil_iff]
      exact ⟨List.append_right_eq_self.1 accepted'.symm, rfl⟩

end Shift

end RobotDriver.Outbox
