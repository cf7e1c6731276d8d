import Mathlib.Data.List.Chain
import RobotDriver.Proofs.Outbox.Writing
import RobotDriver.Total

/-!
# Batches are bounded and as large as they may be

The writer makes the same batches of a queue whatever the sink does: `batched` says which. Each keeps within the
bound unless it is a single item, and the first item of the next one would have broken it (`Crowds`); items that
cannot be encoded take their room all the same. To a sink that takes all it is offered, every batch of which anything
can be encoded is one write (`run_of_takesAll`).
-/

namespace RobotDriver

namespace Command

/-- A packet is as long as it was counted. -/
theorem length_toBytes {c : Command} (fits : c.Encodable) : c.toBytes.length = c.packetLength := by
  unfold toBytes
  rw [List.take_of_length_le fits]
  simp only [packet, covered, packetLength, wireHeaderLength, List.length_append, List.length_cons, List.length_nil]

end Command

namespace Sink

variable {s : Sink}

/-- Every call takes all that it is offered, and only flushing can fail. -/
def TakesAll (s : Sink) : Prop :=
  s.mode = .ok ∨ s.mode = .failFlush

/-- What is not empty is written at one stroke. -/
theorem TakesAll.writeAll (takes : s.TakesAll) {bytes : Bytes} (some : bytes ≠ []) :
    s.writeAll bytes = ([bytes], .done, s) := by
  obtain ⟨b, bs, rfl⟩ := List.exists_cons_of_ne_nil some
  have call : s.call (bs.length + 1) = .takes (bs.length + 1) := by
    rcases takes with ok | fails
    · rw [Sink.call, ok]
    · rw [Sink.call, fails]
  have same : s.afterCall = s := by
    rcases takes with ok | fails
    · rw [Sink.afterCall, ok]
    · rw [Sink.afterCall, fails]
  rw [Sink.writeAll, call]
  dsimp only
  rw [same, List.drop_length, List.take_length, Sink.writeAll]

theorem TakesAll.flush (takes : s.TakesAll) : s.flush.2.TakesAll := by
  unfold Sink.flush
  rcases takes with ok | fails
  · rw [ok]
    exact .inl ok
  · rw [fails]
    dsimp only
    split
    · exact .inr rfl
    · exact .inr fails

theorem flush_of_ok (ok : s.mode = .ok) : s.flush = (none, s) := by
  rw [Sink.flush, ok]

end Sink

namespace Outbox

variable {max size : Nat} {queue : List Item}

/-! ## The batches of a queue -/

/-- The room that items take in a batch. -/
def batchSize (items : List Item) : Nat :=
  total (items.map fun item => item.command.packetLength)

@[simp] theorem batchSize_nil : batchSize [] = 0 := rfl

@[simp] theorem batchSize_cons (item : Item) (items : List Item) :
    batchSize (item :: items) = item.command.packetLength + batchSize items := rfl

theorem length_splitBatch_le (max size : Nat) (items : List Item) :
    (splitBatch max size items).2.length ≤ items.length := by
  have whole := congrArg List.length (splitBatch_append max size items)
  rw [List.length_append] at whole
  omega

/-- What is taken into a batch fits, unless it is nothing. -/
theorem splitBatch_fits (items : List Item) (some : (splitBatch max size items).1 ≠ []) :
    size + batchSize (splitBatch max size items).1 ≤ max := by
  induction items generalizing size with
  | nil => exact absurd rfl some
  | cons item items ih =>
    unfold splitBatch at some ⊢
    split
    · next fits =>
      by_cases last : (splitBatch max (size + item.command.packetLength) items).1 = []
      · simpa [last] using fits
      · have := ih last
        simp only [batchSize_cons]
        omega
    · next full => simp [full] at some

/-- The first item that is left would not have fitted. -/
theorem splitBatch_maximal {items others : List Item} {next : Item}
    (left : (splitBatch max size items).2 = next :: others) :
    max < size + batchSize (splitBatch max size items).1 + next.command.packetLength := by
  induction items generalizing size with
  | nil => simp [splitBatch] at left
  | cons item items ih =>
    unfold splitBatch at left ⊢
    split
    · next fits =>
      rw [if_pos fits] at left
      have := ih left
      simp only [batchSize_cons]
      omega
    · next full =>
      rw [if_neg full] at left
      cases left
      simp only [batchSize_nil]
      omega

/-- The batches that the writer makes of a queue. -/
def batched (max : Nat) : List Item → List (List Item)
  | [] => []
  | first :: others =>
    (first :: (splitBatch max first.command.packetLength others).1) ::
      batched max (splitBatch max first.command.packetLength others).2
termination_by queue => queue.length
decreasing_by exact Nat.lt_succ_of_le (length_splitBatch_le max _ others)

theorem flatten_batched (max : Nat) (queue : List Item) : (batched max queue).flatten = queue := by
  induction queue using batched.induct max with
  | case1 => rw [batched, List.flatten_nil]
  | case2 first others ih =>
    rw [batched, List.flatten_cons, ih, List.cons_append, splitBatch_append]

theorem nil_notMem_batched (max : Nat) (queue : List Item) : [] ∉ batched max queue := by
  induction queue using batched.induct max with
  | case1 => simp [batched]
  | case2 first others ih =>
    rw [batched, List.mem_cons, not_or]
    exact ⟨(List.cons_ne_nil _ _).symm, ih⟩

/-- The batch keeps within the bound or is a single item. -/
def Bounded (max : Nat) (batch : List Item) : Prop :=
  batchSize batch ≤ max ∨ ∃ item, batch = [item]

/-- The next batch begins with an item that would have broken the bound. -/
def Crowds (max : Nat) (batch next : List Item) : Prop :=
  ∃ first others, next = first :: others ∧ max < batchSize batch + first.command.packetLength

theorem bounded_batched (max : Nat) (queue : List Item) : ∀ batch ∈ batched max queue, Bounded max batch := by
  induction queue using batched.induct max with
  | case1 => simp [batched]
  | case2 first others ih =>
    rw [batched, List.forall_mem_cons]
    refine ⟨?_, ih⟩
    by_cases alone : (splitBatch max first.command.packetLength others).1 = []
    · right
      exact ⟨first, by rw [alone]⟩
    · left
      rw [batchSize_cons]
      exact splitBatch_fits others alone

theorem crowds_batched (max : Nat) (queue : List Item) : (batched max queue).IsChain (Crowds max) := by
  induction queue using batched.induct max with
  | case1 =>
    rw [batched]
    exact .nil
  | case2 first others ih =>
    rw [batched]
    cases left : (splitBatch max first.command.packetLength others).2 with
    | nil =>
      rw [batched]
      exact .singleton _
    | cons next rest =>
      rw [left, batched] at ih
      rw [batched]
      apply List.IsChain.cons_cons _ ih
      refine ⟨next, _, rfl, ?_⟩
      have full := splitBatch_maximal left
      rw [batchSize_cons]
      exact full

/-! ## What the writer does with them -/

/-- What is written of a batch takes no more room than was counted for it. -/
theorem length_batchBytes_le (batch : List Item) : (batchBytes batch).length ≤ batchSize batch := by
  induction batch with
  | nil => exact Nat.le_refl _
  | cons item batch ih =>
    unfold batchBytes encodable at ih ⊢
    rw [batchSize_cons, List.filter_cons]
    split
    · next fits =>
      rw [List.flatMap_cons, List.length_append, Command.length_toBytes (of_decide_eq_true fits)]
      omega
    · omega

/-- A batch of which something can be encoded has bytes. -/
theorem batchBytes_ne_nil {batch : List Item} (some : encodable batch ≠ []) : batchBytes batch ≠ [] := by
  obtain ⟨item, items, first⟩ := List.exists_cons_of_ne_nil some
  rw [batchBytes, first]
  simp [Command.toBytes, Command.packet]

/-- Of a single item there is nothing to write but its packet. -/
theorem encode_of_single {item : Item} (some : encodable [item] ≠ []) :
    item.command.encode = .ok (packets (encodable [item])) := by
  by_cases fits : item.command.Encodable
  · have same : encodable [item] = [item] := List.filter_cons_of_pos (decide_eq_true fits)
    rw [same, packets, List.flatMap_singleton]
    exact Command.encode_of_encodable fits
  · exact absurd (List.filter_cons_of_neg (by simp [fits])) some

/-- What the writer does with a batch when the sink takes all of it: it leaves out what cannot be encoded, registers
the rest and writes it at one stroke. -/
def handling (batch : List Item) : List Emission :=
  rejections batch ++
    if (encodable batch).isEmpty then [] else [.registered (encodable batch), .wrote (batchBytes batch)]

/-- The calls to the sink in a history. -/
def writes (es : List Emission) : List Bytes :=
  es.filterMap fun
    | .wrote bytes => some bytes
    | _ => none

@[simp]
theorem writes_append (es fs : List Emission) : writes (es ++ fs) = writes es ++ writes fs :=
  List.filterMap_append

theorem writes_of_leaves {es : List Emission} (leaves : Leaves es) : writes es = [] := by
  apply List.filterMap_eq_nil_iff.2
  intro e member
  obtain ⟨command, error, rfl⟩ := leaves e member
  rfl

/-- Of what is written at one stroke, one call to the sink is left in the history. -/
theorem writeOut_of_takesAll {sink : Sink} (takes : sink.TakesAll) {bytes : Bytes} (some : bytes ≠ [])
    (queue : List Item) (onDone : Sink → Stint) :
    (writeOut sink bytes queue onDone).emissions = [.wrote bytes] ∧ sink.mode ≠ .ok ∨
      ∃ flushed : Sink, flushed.TakesAll ∧ (sink.mode = .ok → flushed.mode = .ok) ∧
        (writeOut sink bytes queue onDone).emissions = .wrote bytes :: (onDone flushed).emissions := by
  have after := takes.flush
  unfold writeOut
  simp only [takes.writeAll some]
  rcases flush : sink.flush with ⟨_ | fault, flushed⟩
  · right
    rw [flush] at after
    refine ⟨flushed, after, ?_, rfl⟩
    intro ok
    rw [Sink.flush_of_ok ok] at flush
    cases flush
    exact ok
  · left
    refine ⟨rfl, ?_⟩
    intro ok
    rw [Sink.flush_of_ok ok] at flush
    cases flush

theorem emissions_run {first : Item} {others taken left : List Item}
    (cut : splitBatch max first.command.packetLength others = (taken, left)) (sink : Sink) :
    (run max sink (first :: others)).emissions =
      rejections (first :: taken) ++
        if (encodable (first :: taken)).isEmpty then (run max sink left).emissions
        else .registered (encodable (first :: taken)) ::
          (writeOut sink (batchBytes (first :: taken)) left fun next => run max next left).emissions := by
  rw [run, cut]
  dsimp only
  split
  · rfl
  · rfl

/-- The writer handles the first batch, and goes on with the rest unless flushing fails. -/
theorem run_cons_of_takesAll (max : Nat) {sink : Sink} (takes : sink.TakesAll) (first : Item) (others : List Item) :
    let batch := first :: (splitBatch max first.command.packetLength others).1
    let left := (splitBatch max first.command.packetLength others).2
    ((run max sink (first :: others)).emissions = handling batch ∧ sink.mode ≠ .ok) ∨
      ∃ next : Sink, next.TakesAll ∧ (sink.mode = .ok → next.mode = .ok) ∧
        (run max sink (first :: others)).emissions = handling batch ++ (run max next left).emissions := by
  intro batch left
  have emissions := emissions_run (rfl : splitBatch max first.command.packetLength others = (_, left)) sink
  by_cases none : (encodable batch).isEmpty
  · right
    refine ⟨sink, takes, id, ?_⟩
    rw [emissions, if_pos none, handling, if_pos none, List.append_nil]
  · rw [if_neg none] at emissions
    have bytes : batchBytes batch ≠ [] := by
      apply batchBytes_ne_nil
      intro empty
      exact none (List.isEmpty_iff.2 empty)
    rcases writeOut_of_takesAll takes bytes left (fun next => run max next left) with ⟨last, failing⟩ | later
    · left
      refine ⟨?_, failing⟩
      rw [emissions, last, handling, if_neg none]
    · right
      obtain ⟨flushed, takes, ok, wrote⟩ := later
      refine ⟨flushed, takes, ok, ?_⟩
      rw [emissions, wrote, handling, if_neg none, List.append_assoc]
      rfl

/-- The writer handles batch after batch, until flushing fails. -/
theorem run_of_takesAll (max : Nat) {sink : Sink} (takes : sink.TakesAll) (queue : List Item) :
    ∃ made, made <+: batched max queue ∧ (run max sink queue).emissions = made.flatMap handling ∧
      (sink.mode = .ok → made = batched max queue) := by
  induction queue using batched.induct max generalizing sink with
  | case1 =>
    refine ⟨[], List.nil_prefix, ?_, ?_⟩
    · rw [run]
      rfl
    · intro ok
      rw [batched]
  | case2 first others ih =>
    rw [batched]
    rcases run_cons_of_takesAll max takes first others with ⟨last, failing⟩ | ⟨next, takes, ok, emissions⟩
    · refine ⟨[_], List.cons_prefix_cons.2 ⟨rfl, List.nil_prefix⟩, ?_, ?_⟩
      · rw [last, List.flatMap_singleton]
      · intro ok
        exact absurd ok failing
    · obtain ⟨made, before, done, all⟩ := ih takes
      refine ⟨_ :: made, List.cons_prefix_cons.2 ⟨rfl, before⟩, ?_, ?_⟩
      · rw [emissions, done, List.flatMap_cons]
      · intro now
        rw [all (ok now)]

/-! ## The history of a run -/

theorem batches_handling (batch : List Item) :
    batches (handling batch) = [encodable batch].filter fun sent => !sent.isEmpty := by
  rw [handling, batches_append, batches_of_leaves (leaves_rejections batch), List.nil_append, List.filter_singleton]
  by_cases none : (encodable batch).isEmpty
  · rw [if_pos none, none]
    rfl
  · rw [if_neg none]
    simp only [none]
    rfl

/-- The batches that are registered are those of which something can be encoded. -/
theorem batches_flatMap_handling (made : List (List Item)) :
    batches (made.flatMap handling) = (made.map encodable).filter fun sent => !sent.isEmpty := by
  induction made with
  | nil => rfl
  | cons batch made ih =>
    rw [List.flatMap_cons, batches_append, ih, batches_handling, ← List.filter_append]
    rfl

/-- Each registered batch is one write. -/
theorem writes_flatMap_handling (made : List (List Item)) :
    writes (made.flatMap handling) = (batches (made.flatMap handling)).map packets := by
  induction made with
  | nil => rfl
  | cons batch made ih =>
    rw [List.flatMap_cons, writes_append, batches_append, List.map_append, ih]
    congr 1
    rw [handling, writes_append, batches_append, writes_of_leaves (leaves_rejections batch),
      batches_of_leaves (leaves_rejections batch)]
    split
    · rfl
    · rfl

/-- A write keeps within the bound, as the batch that it is made of does, or is the packet of one command. -/
theorem bounded_of_write {made : List (List Item)} (before : made <+: batched max queue) {bytes : Bytes}
    (member : bytes ∈ writes (made.flatMap handling)) :
    bytes.length ≤ max ∨ ∃ item ∈ queue, item.command.encode = .ok bytes := by
  rw [writes_flatMap_handling, batches_flatMap_handling] at member
  obtain ⟨sent, registered, rfl⟩ := List.mem_map.1 member
  obtain ⟨batch, handled, rfl⟩ := List.mem_map.1 (List.mem_of_mem_filter registered)
  have there := before.subset handled
  rcases bounded_batched max queue batch there with small | ⟨item, rfl⟩
  · left
    exact Nat.le_trans (length_batchBytes_le batch) small
  · right
    refine ⟨item, ?_, ?_⟩
    · rw [← flatten_batched max queue]
      exact List.mem_flatten.2 ⟨_, there, List.mem_singleton_self item⟩
    · apply encode_of_single
      intro empty
      rw [empty] at registered
      simp at registered

namespace Shift

variable {s : Shift}

/-- Items that are offered at an open gate are all accepted. -/
theorem after_offers_of_open (opened : s.writer.outbox.accepting = true) (attended : s.writer.outbox.attended = true)
    (items : List Item) :
    s.after (items.map .offer) =
      { s with
        writer := { s.writer with outbox := { s.writer.outbox with queue := s.writer.outbox.queue ++ items } }
        accepted := s.accepted ++ items } := by
  induction items generalizing s with
  | nil => simp [after]
  | cons item items ih =>
    have first : s.move (.offer item) =
        { s with
          writer := { s.writer with outbox := { s.writer.outbox with queue := s.writer.outbox.queue ++ [item] } }
          accepted := s.accepted ++ [item] } := by
      simp [move, accept, enqueue, push, opened, attended]
    have rest : s.after ((item :: items).map .offer) = (s.move (.offer item)).after (items.map .offer) := rfl
    rw [rest, ih (by rw [first]; exact opened) (by rw [first]; exact attended), first]
    simp

/-- Of items that are queued at once, the history is that of one run of the writer. -/
theorem after_offers_work (maxBatch : Nat) (sink : Sink) (items : List Item) (hungUp : Bool) :
    let s := Shift.after { writer := { maxBatch, sink } } (items.map .offer ++ [.work false hungUp])
    s.accepted = items ∧ s.emissions = (run maxBatch sink items).emissions := by
  intro s
  have offered := after_offers_of_open (s := { writer := { maxBatch, sink } }) rfl rfl items
  have worked : s = move { writer := { maxBatch, sink, outbox := { queue := items } }, accepted := items }
      (.work false hungUp) := by
    show Shift.after _ (_ ++ [_]) = _
    rw [after, List.foldl_append]
    rw [after] at offered
    rw [offered]
    rfl
  rw [worked]
  exact ⟨rfl, rfl⟩

/-- **Batches are bounded and greedy.** Items that are queued at once are cut into batches in their order, whatever
cannot be encoded among them. A batch keeps within the bound, as its items are counted before they are encoded, unless
it is a single item; and whenever a batch follows, the first item of that would have broken the bound. A sink that
takes all it is offered is called once for every batch of which something can be encoded, right after this is
registered, with its packets; so each write keeps within the bound or is the packet of one command. Unless flushing
fails, all batches are handled. -/
theorem batching_greedy (maxBatch : Nat) {sink : Sink} (takes : sink.TakesAll) (items : List Item) (hungUp : Bool) :
    let s := Shift.after { writer := { maxBatch, sink } } (items.map .offer ++ [.work false hungUp])
    s.accepted = items ∧
    ∃ cut made : List (List Item),
      cut.flatten = items ∧ [] ∉ cut ∧ (∀ batch ∈ cut, Bounded maxBatch batch) ∧ cut.IsChain (Crowds maxBatch) ∧
      made <+: cut ∧ (sink.mode = .ok → made = cut) ∧
      s.emissions = made.flatMap handling ∧
      batches s.emissions = (made.map encodable).filter (fun sent => !sent.isEmpty) ∧
      writes s.emissions = (batches s.emissions).map packets ∧
      ∀ bytes ∈ writes s.emissions, bytes.length ≤ maxBatch ∨ ∃ item ∈ items, item.command.encode = .ok bytes := by
  intro s
  obtain ⟨accepted, worked⟩ := after_offers_work maxBatch sink items hungUp
  obtain ⟨made, before, emissions, all⟩ := run_of_takesAll maxBatch takes items
  have done : s.emissions = made.flatMap handling := worked.trans emissions
  refine ⟨accepted, batched maxBatch items, made, flatten_batched maxBatch items, nil_notMem_batched maxBatch items,
    bounded_batched maxBatch items, crowds_batched maxBatch items, before, all, done, ?_, ?_, ?_⟩
  · rw [done]
    exact batches_flatMap_handling made
  · rw [done]
    exact writes_flatMap_handling made
  · intro bytes member
    rw [done] at member
    exact bounded_of_write before member

/-- A command that cannot be encoded takes the room of the one behind it. -/
theorem batching_greedy_dropped :
    let ping : Item := ⟨.ping, false⟩
    let long : Item := ⟨.raw 2 81 (List.replicate 255 0), false⟩
    let abort : Item := ⟨.abortMacro, true⟩
    let s := Shift.after { writer := { maxBatch := 270, sink := {} } }
      ([ping, long, ping, abort].map .offer ++ [.work false true])
    Sink.TakesAll {} ∧ writes s.emissions = [packets [ping], packets [ping, abort]] ∧
      ∃ cut : List (List Item), cut.flatten = [ping, long, ping, abort] ∧ (∀ batch ∈ cut, Bounded 270 batch) ∧
        cut.IsChain (Crowds 270) ∧ batches s.emissions = (cut.map encodable).filter (fun sent => !sent.isEmpty) := by
  intro ping long abort s
  have takes : Sink.TakesAll {} := .inl rfl
  obtain ⟨-, cut, made, whole, -, bounded, crowds, -, all, -, registered, -⟩ :=
    batching_greedy 270 takes [ping, long, ping, abort] true
  rw [all rfl] at registered
  exact ⟨takes, by decide +kernel, cut, whole, bounded, crowds, registered⟩

end Shift

end Outbox

end RobotDriver
