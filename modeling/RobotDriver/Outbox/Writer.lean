import RobotDriver.Command.Wire
import RobotDriver.Outbox
import RobotDriver.Sink

/-!
# Writing the queue in batches

The writer takes the oldest item and as many of the following as keep the batch within a number of
bytes, encodes them, registers those that can be encoded as awaiting an answer, and writes all their
bytes at once. `run` repeats this until the queue is empty or the sink stops it. A batch is
registered before any byte of it is written, so no answer can come too early.
-/

namespace RobotDriver.Outbox

/-- The items that keep a batch of `size` bytes within `max`, and the rest. The first item that
does not fit ends the batch. -/
def splitBatch (max size : Nat) : List Item → List Item × List Item
  | [] => ([], [])
  | item :: items =>
    if size + item.command.packetLength ≤ max then
      let (batch, rest) := splitBatch max (size + item.command.packetLength) items
      (item :: batch, rest)
    else ([], item :: items)

theorem splitBatch_append (max size : Nat) (items : List Item) :
    (splitBatch max size items).1 ++ (splitBatch max size items).2 = items := by
  induction items generalizing size with
  | nil => rfl
  | cons item items ih =>
    unfold splitBatch
    split
    · exact congrArg (item :: ·) (ih (size + item.command.packetLength))
    · rfl

/-- What the writer does, in order. -/
inductive Emission where
  /-- An item is left out because its data do not fit a packet. -/
  | dropped (command : Command) (error : Command.EncodeError)
  /-- The items of a batch await their answers from now on. -/
  | registered (batch : List Item)
  /-- One call to the sink took these bytes. -/
  | wrote (bytes : Bytes)
  deriving DecidableEq

/-- The items of a batch that can be encoded. -/
def encodable (batch : List Item) : List Item :=
  batch.filter fun item => decide item.command.Encodable

/-- The bytes of a batch: the packets of the items that can be encoded. -/
def batchBytes (batch : List Item) : Bytes :=
  (encodable batch).flatMap fun item => item.command.toBytes

/-- The items of a batch that are left out. -/
def rejections (batch : List Item) : List Emission :=
  batch.filterMap fun item =>
    match item.command.encode with
    | .ok _ => none
    | .error e => some (.dropped item.command e)

/-- Why the writer came to rest. -/
inductive Pause where
  /-- The queue is empty. -/
  | starved
  /-- The sink has not taken the rest of a batch. -/
  | stalled (rest : Bytes)
  | failed (fault : StreamFault)
  deriving DecidableEq

/-- What the writer did before it came to rest. -/
structure Stint where
  emissions : List Emission
  sink : Sink
  /-- The items that are still queued. -/
  queue : List Item
  pause : Pause

/-- Writes and flushes bytes; `onDone` goes on when the sink has taken them all. -/
def writeOut (sink : Sink) (bytes : Bytes) (queue : List Item) (onDone : Sink → Stint) : Stint :=
  let (writes, outcome, written) := sink.writeAll bytes
  let emissions := writes.map Emission.wrote
  match outcome with
  | .stalled rest => ⟨emissions, written, queue, .stalled rest⟩
  | .failed fault => ⟨emissions, written, queue, .failed fault⟩
  | .done =>
    match written.flush with
    | (some fault, flushed) => ⟨emissions, flushed, queue, .failed fault⟩
    | (none, flushed) =>
      let more := onDone flushed
      { more with emissions := emissions ++ more.emissions }

/-- Writes the queue batch by batch. -/
def run (max : Nat) (sink : Sink) (queue : List Item) : Stint :=
  match queue with
  | [] => ⟨[], sink, [], .starved⟩
  | first :: others =>
    let split := splitBatch max first.command.packetLength others
    let batch := first :: split.1
    let more :=
      if (encodable batch).isEmpty then run max sink split.2
      else
        let out := writeOut sink (batchBytes batch) split.2 fun next => run max next split.2
        { out with emissions := .registered (encodable batch) :: out.emissions }
    { more with emissions := rejections batch ++ more.emissions }
termination_by queue.length
decreasing_by
  all_goals
    have h := congrArg List.length (splitBatch_append max first.command.packetLength others)
    rw [List.length_append] at h
    simp only [List.length_cons]
    omega

/-- Goes on with a batch of which the sink has not taken the rest. -/
def resume (max : Nat) (sink : Sink) (rest : Bytes) (queue : List Item) : Stint :=
  writeOut sink rest queue fun next => run max next queue

/-- What the writer is doing. -/
inductive Activity where
  /-- It waits for an item. -/
  | waiting
  /-- It waits for the sink to take the rest of a batch. -/
  | writing (rest : Bytes)
  /-- It has ended, for a fault or in peace. -/
  | ended (fault : Option StreamFault)
  deriving DecidableEq

/-- A writer, the queue in front of it and the sink behind it. -/
structure Writer where
  maxBatch : Nat
  sink : Sink
  outbox : Outbox := {}
  activity : Activity := .waiting
  deriving DecidableEq

namespace Writer

/-- The writer goes away and takes the queue with it. -/
def finish (w : Writer) (fault : Option StreamFault) : Writer :=
  { w with outbox := w.outbox.abandon, activity := .ended fault }

/-- Takes over the result of a stint. When the queue is empty and no one is left to fill it, the
writer is done. -/
def settle (w : Writer) (hungUp : Bool) (stint : Stint) : Writer × List Emission :=
  let w := { w with sink := stint.sink, outbox := { w.outbox with queue := stint.queue } }
  (match stint.pause with
    | .starved => if hungUp then w.finish none else { w with activity := .waiting }
    | .stalled rest => { w with activity := .writing rest }
    | .failed fault => w.finish (some fault),
  stint.emissions)

/-- Lets the writer work until it has to wait. A cancelled writer ends at the first wait without
taking anything; `hungUp` says that no one can add items any more. -/
def work (w : Writer) (cancelled hungUp : Bool) : Writer × List Emission :=
  match w.activity with
  | .ended _ => (w, [])
  | .waiting =>
    if cancelled then (w.finish none, [])
    else w.settle hungUp (run w.maxBatch w.sink w.outbox.queue)
  | .writing rest =>
    if cancelled then (w.finish none, [])
    else w.settle hungUp (resume w.maxBatch w.sink rest w.outbox.queue)

def isEnded (w : Writer) : Bool :=
  match w.activity with
  | .ended _ => true
  | _ => false

/-- Offers items to the queue: which of them it accepted. -/
def offer (w : Writer) : List Item → List Bool × Writer
  | [] => ([], w)
  | item :: items =>
    match w.outbox.enqueue item with
    | .ok outbox =>
      let (accepted, last) := { w with outbox }.offer items
      (true :: accepted, last)
    | .error _ =>
      let (accepted, last) := w.offer items
      (false :: accepted, last)

end Writer

end RobotDriver.Outbox
