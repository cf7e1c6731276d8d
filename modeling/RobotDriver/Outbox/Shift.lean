import RobotDriver.Outbox.Writer

/-!
# A writer step by step

A `Writer.Move` is one thing that can happen to a writer: someone offers an item, the sink comes to behave in a new
way, the writer takes a batch, calls the sink once or comes to its end. These leave room for anything in between;
`Writer.work`, which goes on until the writer has to wait, is a move as well. A `Shift` is a writer with what its
queue has accepted and what it has done; `Shift.after` makes moves one after the other, in whatever order they are
given.
-/

namespace RobotDriver.Outbox

/-- What can happen to a writer. -/
inductive Writer.Move where
  | offer (item : Item)
  | force (command : Command)
  /-- Someone shuts the gate of the queue. -/
  | close
  /-- From now on the sink behaves like this one. -/
  | change (sink : Sink)
  /-- The writer takes a batch, if it waits for one. -/
  | batch
  /-- The writer calls the sink once, if it is writing. -/
  | call
  /-- The writer finds that no one can add items any more. -/
  | leave
  /-- The writer finds that it is cancelled. -/
  | stop
  /-- The writer works until it has to wait. -/
  | work (cancelled hungUp : Bool)
  deriving DecidableEq

namespace Writer

/-- Takes a batch, leaves out what cannot be encoded and registers the rest. -/
def takeBatch (w : Writer) : Writer × List Emission :=
  match w.activity, w.outbox.queue with
  | .waiting, first :: others =>
    let split := splitBatch w.maxBatch first.command.packetLength others
    let batch := first :: split.1
    let w := { w with outbox := { w.outbox with queue := split.2 } }
    if (encodable batch).isEmpty then (w, rejections batch)
    else ({ w with activity := .writing (batchBytes batch) }, rejections batch ++ [.registered (encodable batch)])
  | _, _ => (w, [])

/-- Offers the rest of a batch to the sink once, or flushes it when nothing is left. -/
def callSink (w : Writer) : Writer × List Emission :=
  match w.activity with
  | .writing [] =>
    match w.sink.flush with
    | (none, sink) => ({ w with sink, activity := .waiting }, [])
    | (some fault, sink) => ({ w with sink }.finish (some fault), [])
  | .writing (b :: bs) =>
    match w.sink.call (bs.length + 1) with
    | .waits => (w, [])
    | .fails fault => ({ w with sink := w.sink.afterCall }.finish (some fault), [])
    | .takes 0 => ({ w with sink := w.sink.afterCall }.finish (some .writeZero), [.wrote []])
    | .takes (count + 1) =>
      ({ w with sink := w.sink.afterCall, activity := .writing (bs.drop count) }, [.wrote (b :: bs.take count)])
  | _ => (w, [])

/-- Ends in peace if there is nothing to take. -/
def leave (w : Writer) : Writer :=
  match w.activity, w.outbox.queue with
  | .waiting, [] => w.finish none
  | _, _ => w

/-- Ends at once, unless it has ended. -/
def stop (w : Writer) : Writer :=
  if w.isEnded then w else w.finish none

end Writer

/-- A writer, the items that its queue has accepted so far and what it has done. -/
structure Shift where
  writer : Writer
  accepted : List Item := []
  emissions : List Emission := []
  deriving DecidableEq

namespace Shift

/-- Takes over what the writer has done. -/
def act (s : Shift) (done : Writer × List Emission) : Shift :=
  { s with writer := done.1, emissions := s.emissions ++ done.2 }

/-- Takes over what has become of an item that was offered. -/
def accept (s : Shift) (item : Item) : Except Refusal Outbox → Shift
  | .ok outbox => { s with writer := { s.writer with outbox }, accepted := s.accepted ++ [item] }
  | .error _ => s

/-- Makes a move. -/
def move (s : Shift) : Writer.Move → Shift
  | .offer item => s.accept item (s.writer.outbox.enqueue item)
  | .force command => s.accept ⟨command, true⟩ (s.writer.outbox.force command)
  | .close => { s with writer := { s.writer with outbox := s.writer.outbox.close } }
  | .change sink => { s with writer := { s.writer with sink } }
  | .batch => s.act s.writer.takeBatch
  | .call => s.act s.writer.callSink
  | .leave => s.act (s.writer.leave, [])
  | .stop => s.act (s.writer.stop, [])
  | .work cancelled hungUp => s.act (s.writer.work cancelled hungUp)

/-- Makes moves one after the other. -/
def after (s : Shift) (moves : List Writer.Move) : Shift :=
  moves.foldl move s

end Shift

end RobotDriver.Outbox
