import RobotDriver.Packet
import RobotDriver.Transport

/-!
# Cutting the byte stream into packets

Bytes arrive in arbitrary pieces. `next?` takes the first complete frame off a buffer: a packet, or
a header whose length byte is zero, which leaves no room for a checksum and is dropped. `drain`
repeats that until what is left is the beginning of a frame. `decode` is one call of the framer, which
goes on to the first packet, and `decodeEnd` the call that follows when the stream has ended.
-/

namespace RobotDriver

/-- What the front of the stream turns out to be. -/
inductive Frame where
  | packet (packet : Packet)
  /-- A header that declares no bytes at all. -/
  | skipped (header : Header)
  deriving DecidableEq

namespace Frame

/-- The bytes that the frame was cut from. -/
def toBytes : Frame → Bytes
  | packet p => p.toBytes
  | skipped h => h.toBytes

def packet? : Frame → Option Packet
  | packet p => some p
  | skipped _ => none

/-- The first complete frame of a buffer and the bytes behind it. -/
def next? : Bytes → Option (Frame × Bytes)
  | start :: type :: code :: seq :: length :: body =>
    let header : Header := ⟨start, type, code, seq, length⟩
    if length = 0 then some (.skipped header, body)
    else if body.length < length.toNat then none
    else some (.packet (Packet.ofBody header body), body.drop length.toNat)
  | _ => none

theorem length_next?_lt {buffer rest : Bytes} {f : Frame} (h : next? buffer = some (f, rest)) :
    rest.length < buffer.length := by
  unfold next? at h
  split at h
  · dsimp only at h
    split at h
    · simp only [Option.some.injEq, Prod.mk.injEq] at h
      simp [← h.2]; omega
    · split at h
      · simp at h
      · simp only [Option.some.injEq, Prod.mk.injEq] at h
        simp [← h.2]; omega
  · simp at h

/-- All complete frames of a buffer in order, and the bytes that begin the next one. -/
def drain (buffer : Bytes) : List Frame × Bytes :=
  match _taken : next? buffer with
  | none => ([], buffer)
  | some (f, rest) =>
    let (fs, last) := drain rest
    (f :: fs, last)
termination_by buffer.length
decreasing_by exact length_next?_lt _taken

/-- What is wrong with a stream that ends while these bytes are buffered, which make no complete frame. -/
def endFault? (buffer : Bytes) : Option StreamFault :=
  if buffer.isEmpty then none else some .bytesRemaining

/-- One call of the framer: the first packet of a buffer, if it holds one, and the bytes behind it. -/
def decode (buffer : Bytes) : Option Packet × Bytes :=
  match _taken : next? buffer with
  | none => (none, buffer)
  | some (.packet p, rest) => (some p, rest)
  | some (.skipped _, rest) => decode rest
termination_by buffer.length
decreasing_by exact length_next?_lt _taken

/-- The call of the framer at the end of the stream: bytes that make no packet are a fault. -/
def decodeEnd (buffer : Bytes) : Except StreamFault (Option Packet) :=
  match decode buffer with
  | (some p, _) => .ok (some p)
  | (none, rest) =>
    match endFault? rest with
    | none => .ok none
    | some fault => .error fault

/-- Appends a piece of the stream to the buffered bytes and takes what has become complete. -/
def feed (buffer chunk : Bytes) : List Frame × Bytes :=
  drain (buffer ++ chunk)

/-- The pieces of a stream one by one: the frames after each, and the bytes then buffered. -/
def feedAll (buffer : Bytes) : List Bytes → List (List Frame × Bytes)
  | [] => []
  | chunk :: chunks =>
    let taken := feed buffer chunk
    taken :: feedAll taken.2 chunks

/-- The bytes that are buffered after these pieces. -/
def leftOver (buffer : Bytes) (fed : List (List Frame × Bytes)) : Bytes :=
  (fed.getLast?.map (·.2)).getD buffer

end Frame

end RobotDriver
