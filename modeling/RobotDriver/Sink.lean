import RobotDriver.Bytes
import RobotDriver.Transport

/-!
# The writing end of a channel

A `Sink` takes bytes as its mode says: all of them, a few at a time, none, or never. It may behave
for a number of calls before the mode sets in. `writeAll` offers what is left until everything is
taken, the sink fails, or it stalls.
-/

namespace RobotDriver

/-- How a sink treats what it is offered. -/
inductive Sink.Mode where
  | ok
  /-- At most `limit` bytes a call. -/
  | short (limit : Nat)
  | fail
  /-- Bytes are taken and flushing fails. -/
  | failFlush
  /-- Calls take nothing. -/
  | zero
  /-- Calls do not return before the mode changes. -/
  | stall
  deriving DecidableEq

/-- The writing end of a channel. -/
structure Sink where
  mode : Sink.Mode := .ok
  /-- The calls that still succeed in full; of flushes if those are what fails. -/
  spared : Nat := 0
  deriving DecidableEq

/-- How an attempt to write came out. -/
inductive Sink.Outcome where
  | done
  | stalled (rest : Bytes)
  | failed (fault : StreamFault)
  deriving DecidableEq

namespace Sink

/-- What one call takes of `n` bytes, if the sink answers at all. -/
inductive Call where
  | takes (count : Nat)
  | waits
  | fails (fault : StreamFault)
  deriving DecidableEq

/-- One call to write `n` bytes. -/
def call (s : Sink) (n : Nat) : Call :=
  match s.mode with
  | .ok | .failFlush => .takes n
  | mode =>
    if s.spared > 0 then .takes n
    else
      match mode with
      | .short limit => .takes (min n limit)
      | .fail => .fails .brokenPipe
      | .zero => .fails .writeZero
      | _ => .waits

/-- The sink after a call to write. -/
def afterCall (s : Sink) : Sink :=
  match s.mode with
  | .ok | .failFlush => s
  | _ => { s with spared := s.spared - 1 }

/-- Offers the bytes until all are taken: what each call took, how it came out, and the sink. A call that
takes nothing is the last. -/
def writeAll (s : Sink) (bytes : Bytes) : List Bytes × Outcome × Sink :=
  match bytes with
  | [] => ([], .done, s)
  | b :: bs =>
    match s.call (bs.length + 1) with
    | .waits => ([], .stalled (b :: bs), s)
    | .fails fault => ([], .failed fault, s.afterCall)
    | .takes 0 => ([[]], .failed .writeZero, s.afterCall)
    | .takes (count + 1) =>
      let (writes, outcome, last) := s.afterCall.writeAll (bs.drop count)
      ((b :: bs.take count) :: writes, outcome, last)
termination_by bytes.length

/-- Flushes what was written. -/
def flush (s : Sink) : Option StreamFault × Sink :=
  match s.mode with
  | .failFlush => if s.spared > 0 then (none, { s with spared := s.spared - 1 }) else (some .connectionReset, s)
  | _ => (none, s)

end Sink

end RobotDriver
