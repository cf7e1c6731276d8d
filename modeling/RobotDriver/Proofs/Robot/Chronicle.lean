import RobotDriver.Proofs.Robot.Sending
import RobotDriver.Robot.Reading

/-!
# What may happen

`Outline` is as much of a driver as decides what may happen next: how far the connection is, which commands
await their answers and which reports are still owed. A `Turn` is the least that happens as a whole, with
the deeds that tell of it, and a `Chronicle` is a journal made of turns.
-/

namespace RobotDriver

/-- How far a connection is. -/
inductive Phase where
  | idle
  | live (generation : Nat)
  | closing (generation : Nat)
  deriving DecidableEq

namespace Phase

/-- The generation of the connection. -/
def generation? : Phase → Option Nat
  | idle => none
  | live g | closing g => some g

/-- What is noted when a connection ends with its driver. -/
def farewell (p : Phase) : List Deed :=
  p.generation?.toList.map fun g => .noted (.handleDropped g)

end Phase

def Session.phase : Session → Phase
  | down => .idle
  | up link => .live link.generation
  | closing link _ => .closing link.generation

theorem Session.phase_generation? (s : Session) : s.phase.generation? = s.link?.map fun link => link.generation := by
  cases s <;> rfl

/-- A report that listeners are still to hear. -/
inductive Due where
  /-- A user's command has been answered by this packet. -/
  | answer (entry : InFlight.Entry) (packet : Packet)
  | timeout (entry : InFlight.Entry)

def Due.report : Due → Report
  | answer entry packet => .response (Response.decode entry.command.kind packet) entry.command
  | timeout entry => .event (.responseTimeout entry.command)

/-- The reports that fall due when a packet answers a command: none for a command of the driver's own. -/
def Due.answers (entry : InFlight.Entry) (packet : Packet) : List Due :=
  if entry.system then [] else [.answer entry packet]

/-- As much of a driver as decides what may happen next. -/
structure Outline where
  phase : Phase := .idle
  /-- The number of connections so far, those included that came too late. -/
  generations : Nat := 0
  /-- The commands that await their answers, oldest first. -/
  waiting : List InFlight.Entry := []
  /-- The reports that are still owed, in order. -/
  owed : List Due := []
  dropped : Bool := false

/-- The packet is a response by its class, whatever it says. -/
def Packet.IsResponse (p : Packet) : Prop :=
  p.header.packetClass = .ok .response

/-- The deed by which a connection fails, and the cause that is noted. -/
inductive Failure (g : Nat) : Deed → TransportError → Prop where
  | ended (buffer : Bytes) : Failure g (.took g .ended) (Robot.endCause buffer)
  | read (fault : StreamFault) : Failure g (.took g (.failed fault)) (.read fault)
  | write (fault : StreamFault) : Failure g (.halted g fault) (.write fault)

/-- A report of something else than the beginning or end of a connection or an answer. -/
def Report.isAside : Report → Bool
  | event .connectFailed | event .noConnection | event .macroDone | information _ => true
  | _ => false

/-- The least that happens as a whole. -/
inductive Turn (s : Outline) : List Deed → Outline → Prop where
  | calm {d : Deed} (h : d.isCalm = true) : Turn s [d] s
  | aside {report : Report} {hearers : List Nat} {ds : List Deed} (h : report.isAside = true)
      (told : Telling report hearers ds) : Turn s ds s
  /-- A channel came too late. -/
  | surplus : Turn s [] { s with generations := s.generations + 1 }
  | connected {hearers : List Nat} {ds : List Deed} (idle : s.phase = .idle) (address : String)
      (told : Telling (.event .connected) hearers ds) :
      Turn s (.noted (.connected address (s.generations + 1)) :: ds)
        { s with phase := .live (s.generations + 1), generations := s.generations + 1, waiting := [] }
  | closing {g : Nat} (live : s.phase = .live g) :
      Turn s [.noted (.disconnecting g)] { s with phase := .closing g }
  | closed {g : Nat} {hearers : List Nat} {ds : List Deed} (closing : s.phase = .closing g)
      (told : Telling (.event .disconnected) hearers ds) :
      Turn s (.noted (.disconnected g) :: ds) { s with phase := .idle, waiting := [] }
  /-- A connection that is in use fails. -/
  | lost {g : Nat} {d : Deed} {cause : TransportError} {hearers : List Nat} {ds : List Deed}
      (live : s.phase = .live g) (failed : Failure g d cause)
      (told : Telling (.event .unexpectedDisconnect) hearers ds) :
      Turn s (d :: .noted (.closedUnexpectedly g cause) :: ds) { s with phase := .idle, waiting := [] }
  /-- A connection fails that is being closed. -/
  | broken {g : Nat} {d : Deed} {cause : TransportError} {hearers : List Nat} {ds : List Deed}
      (closing : s.phase = .closing g) (failed : Failure g d cause)
      (told : Telling (.event .disconnected) hearers ds) :
      Turn s (d :: .noted (.closedWhileDisconnecting g cause) :: ds) { s with phase := .idle, waiting := [] }
  | dropped : Turn s s.phase.farewell { s with phase := .idle, dropped := true }
  | took {g : Nat} (here : s.phase.generation? = some g) (chunk : Bytes) : Turn s [.took g (.bytes chunk)] s
  | registered {g : Nat} (here : s.phase.generation? = some g) (entry : InFlight.Entry) :
      Turn s [.registered g entry] { s with waiting := s.waiting ++ [entry] }
  /-- A packet that is no response. -/
  | passed {g : Nat} {p : Packet} (h : ¬ p.IsResponse) : Turn s [.received g p] s
  | answered {g : Nat} {p : Packet} {entry : InFlight.Entry} {rest : List InFlight.Entry}
      (here : s.phase.generation? = some g) (h : p.IsResponse) (oldest : s.waiting = entry :: rest) :
      Turn s [.received g p, .answered g entry p]
        { s with waiting := rest, owed := s.owed ++ Due.answers entry p }
  | unmatched {g : Nat} {p : Packet} {hearers : List Nat} {ds : List Deed}
      (here : s.phase.generation? = some g) (h : p.IsResponse) (none : s.waiting = [])
      (told : Telling (.event (.unmatchedResponse (.ofCode p.header.code))) hearers ds) :
      Turn s (.received g p :: .noted (.responseUnmatched (.ofCode p.header.code)) :: ds) s
  | expired {g : Nat} {entry : InFlight.Entry} {rest : List InFlight.Entry}
      (here : s.phase.generation? = some g) (oldest : s.waiting = entry :: rest) :
      Turn s [.expired g entry] { s with waiting := rest, owed := s.owed ++ [.timeout entry] }
  | paid {due : Due} {rest : List Due} {hearers : List Nat} {ds : List Deed} (first : s.owed = due :: rest)
      (told : Telling due.report hearers ds) : Turn s ds { s with owed := rest }

/-- A journal that is made of turns, and where they have led. Nothing happens any more once the driver is
dropped. -/
inductive Chronicle : List Deed → Outline → Prop where
  | start : Chronicle [] {}
  | next {journal ds : List Deed} {s t : Outline} (before : Chronicle journal s) (here : s.dropped = false)
      (turn : Turn s ds t) : Chronicle (journal ++ ds) t

/-- Each deed of a journal has been done in a turn. -/
theorem Chronicle.origin {journal before after : List Deed} {d : Deed} {s : Outline} (h : Chronicle journal s)
    (here : journal = before ++ d :: after) : ∃ past ds es t u, Chronicle past t ∧ Turn t (ds ++ d :: es) u ∧
      before = past ++ ds := by
  induction h generalizing after with
  | start => simp at here
  | @next journal ds s t earlier _ turn ih =>
    rcases List.append_eq_append_iff.1 here with ⟨more, rfl, rfl⟩ | ⟨rest, split, later⟩
    · exact ⟨journal, more, after, s, t, earlier, turn, rfl⟩
    · cases rest with
      | nil =>
        rw [List.append_nil] at split
        rw [List.nil_append] at later
        exact ⟨journal, [], after, s, t, earlier, later ▸ turn, by rw [split, List.append_nil]⟩
      | cons e rest =>
        obtain ⟨rfl, -⟩ := List.cons.inj later
        exact ih split

theorem Chronicle.calm {journal ds : List Deed} {s : Outline} (h : Chronicle journal s) (here : s.dropped = false)
    (calm : ∀ d ∈ ds, d.isCalm = true) : Chronicle (journal ++ ds) s := by
  induction ds generalizing journal with
  | nil => simpa using h
  | cons d ds ih =>
    have next := h.next here (.calm (calm d (by simp)))
    simpa using ih next fun e he => calm e (by simp [he])

/-- Commands at the head of the queue are given up, and a report is due for each. -/
theorem Chronicle.expired {journal : List Deed} {s : Outline} (h : Chronicle journal s) (alive : s.dropped = false)
    {g : Nat} (here : s.phase.generation? = some g) {es rest : List InFlight.Entry}
    (waiting : s.waiting = es ++ rest) :
    Chronicle (journal ++ es.map (.expired g))
      { s with waiting := rest, owed := s.owed ++ es.map .timeout } := by
  induction es generalizing journal s with
  | nil =>
    obtain rfl : s.waiting = rest := waiting
    simp only [List.map_nil, List.append_nil]
    exact h
  | cons e es ih =>
    have next := ih (h.next alive (.expired here waiting)) alive here rfl
    simpa only [List.map_cons, List.append_assoc, List.singleton_append] using next

namespace Robot

/-- The outline of a driver that owes these reports. -/
def outline (r : Robot) (owed : List Due) : Outline :=
  { phase := r.session.phase, generations := r.generations, waiting := r.inFlight.entries, owed,
    dropped := r.dropped }

end Robot

end RobotDriver
