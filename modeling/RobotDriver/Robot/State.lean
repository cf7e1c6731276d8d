import RobotDriver.Address
import RobotDriver.Event
import RobotDriver.InFlight
import RobotDriver.Log
import RobotDriver.Macro.Upload
import RobotDriver.Robot.Link
import RobotDriver.Settings
import RobotDriver.Shadow

/-!
# The state of a driver

A `Robot` is the driver of one robot with all that it depends on: the connection, the clock, the tasks
that are ready to run, the place where channels are opened and the listeners. What happens is added to
`Robot.journal`, what can be seen from outside and what the driver alone knows of.
-/

namespace RobotDriver

/-- Why a call to connect fails. -/
structure ConnectError where
  cause : TransportError
  deriving DecidableEq

def ConnectError.message (e : ConnectError) : String :=
  "connection initialisation failed: " ++ e.cause.message

/-- How a call to connect or to disconnect came out. -/
inductive Outcome where
  /-- The call gave its answer. -/
  | answered (answer : Bool)
  | failed (error : ConnectError)
  deriving DecidableEq

/-- Something that happens. The first five can be seen from outside. -/
inductive Deed where
  /-- One call to a channel took these bytes. -/
  | wrote (channel : Nat) (bytes : Bytes)
  | told (listener : Nat) (report : Report)
  /-- A listener sent its answering command. -/
  | replied (listener : Nat) (sent : Bool)
  | finished (call : Nat) (outcome : Outcome)
  | noted (note : Note)
  /-- Something is reported to these listeners. -/
  | reported (report : Report) (hearers : List Nat)
  /-- The reader of a connection takes up an arrival. -/
  | took (generation : Nat) (arrival : Arrival)
  /-- The writer of a connection has ended for a fault. -/
  | halted (generation : Nat) (fault : StreamFault)
  /-- A packet is handled. -/
  | received (generation : Nat) (packet : Packet)
  /-- A command awaits its answer. -/
  | registered (generation : Nat) (entry : InFlight.Entry)
  /-- A response takes the oldest command out of those in flight. -/
  | answered (generation : Nat) (entry : InFlight.Entry) (packet : Packet)
  /-- The answer to a command is given up. -/
  | expired (generation : Nat) (entry : InFlight.Entry)
  deriving DecidableEq

/-- A piece of work that is ready to run. Tasks of a connection name its generation and do nothing when
it is gone. -/
inductive Task where
  | connect (call : Nat)
  /-- Go on with a call to connect now that its channel may be opened. -/
  | dial (call : Nat)
  | disconnect (call : Nat)
  /-- Finish a call to disconnect: its connection is gone. -/
  | disconnected (call : Nat)
  | write (generation : Nat)
  | read (generation : Nat)
  | wake (generation : Nat) (alarm : Alarm)
  deriving DecidableEq

/-- Where channels are opened. -/
structure Dialler where
  /-- Attempts are refused. -/
  refuse : Bool := false
  /-- Attempts have to wait. -/
  hold : Bool := false
  /-- The calls whose attempts wait. -/
  held : List Nat := []
  /-- The addresses of all attempts. -/
  dialled : List String := []
  /-- The number of channels opened. -/
  opened : Nat := 0
  /-- The writing end of the next channel. -/
  nextSink : Sink := {}
  deriving DecidableEq

/-- The listeners by number, and the registrations in order. A listener may be registered more than
once and hears everything that often. -/
structure Audience where
  listeners : List Listener := []
  registered : List Nat := []
  deriving DecidableEq

/-- The listeners that hear a report, once for each registration. -/
def Audience.hearers (a : Audience) : List (Nat × Listener) :=
  a.registered.filterMap fun number =>
    (a.listeners[number]?.filter fun listener => !listener.silent).map fun listener => (number, listener)

/-- The driver of one robot. -/
structure Robot where
  address : Address
  settings : Settings
  upload : Macro.Upload
  session : Session := .down
  inFlight : InFlight := {}
  shadow : Shadow := {}
  /-- The name that the robot has last told. -/
  name : Option String := none
  audience : Audience := {}
  /-- The number of connections made so far. -/
  generations : Nat := 0
  clock : Nat := 0
  /-- The time up to which alarms have gone off. -/
  rung : Nat := 0
  ready : List Task := []
  dialler : Dialler := {}
  /-- The number of calls to connect and disconnect. -/
  calls : Nat := 0
  /-- The scheduled commands that users may cancel: the generation and number of each. -/
  schedule : List (Nat × Nat) := []
  /-- The driver has been given up. -/
  dropped : Bool := false
  journal : List Deed := []
  deriving DecidableEq

namespace Robot

def link? (r : Robot) : Option Link :=
  r.session.link?

variable {r : Robot} {link : Link}

theorem link?_of_down (hs : r.session = .down) : r.link? = none := by
  rw [link?, hs]
  rfl

theorem link?_of_up (hs : r.session = .up link) : r.link? = some link := by
  rw [link?, hs]
  rfl

theorem link?_of_closing {closure : Closure} (hs : r.session = .closing link closure) : r.link? = some link := by
  rw [link?, hs]
  rfl

theorem session_of_link? (hl : r.link? = some link) :
    r.session = .up link ∨ ∃ closure, r.session = .closing link closure :=
  Session.eq_of_link? hl

theorem session_of_link?_eq_none (gone : r.link? = none) : r.session = .down := by
  cases hs : r.session with
  | down => rfl
  | up link => cases (link?_of_up hs).symm.trans gone
  | closing link closure => cases (link?_of_closing hs).symm.trans gone

/-- The connection of a generation, if it is still there. -/
def current? (r : Robot) (generation : Nat) : Option Link :=
  r.link?.filter fun link => link.generation == generation

theorem current?_eq_some {g : Nat} : r.current? g = some link ↔ r.link? = some link ∧ link.generation = g := by
  simp [current?, Option.filter_eq_some_iff]

theorem current?_of_link (hl : r.link? = some link) : r.current? link.generation = some link :=
  current?_eq_some.2 ⟨hl, rfl⟩

theorem current?_of_other {g : Nat} (hl : r.link? = some link) (other : g ≠ link.generation) : r.current? g = none := by
  rw [current?, hl, Option.filter_some, if_neg]
  simpa using other.symm

theorem current?_of_none (gone : r.link? = none) (g : Nat) : r.current? g = none := by
  simp [current?, gone]

def isConnected (r : Robot) : Bool :=
  r.session.isUp

def mapLink (r : Robot) (f : Link → Link) : Robot :=
  { r with session := r.session.mapLink f }

def withLink (r : Robot) (link : Link) : Robot :=
  r.mapLink fun _ => link

theorem link?_mapLink (f : Link → Link) (r : Robot) : (r.mapLink f).link? = r.link?.map f :=
  Session.link?_mapLink f r.session

theorem link?_withLink (hl : r.link? = some link) (next : Link) : (r.withLink next).link? = some next :=
  (r.link?_mapLink _).trans (congrArg (Option.map fun _ => next) hl)

/-- Does something with the connection, if there is one. -/
def onLink (r : Robot) (f : Robot → Link → Robot) : Robot :=
  match r.link? with
  | none => r
  | some link => f r link

theorem onLink_cases {p : Robot → Prop} {f : Robot → Link → Robot} (none : p r)
    (some : ∀ link, r.link? = some link → p (f r link)) : p (r.onLink f) := by
  unfold onLink
  split
  · exact none
  · next link hl => exact some link hl

/-- Does something with the connection of a generation, if it is still there. -/
def onCurrent (r : Robot) (generation : Nat) (f : Robot → Link → Robot) : Robot :=
  match r.current? generation with
  | none => r
  | some link => f r link

theorem onCurrent_cases {p : Robot → Prop} {g : Nat} {f : Robot → Link → Robot} (none : p r)
    (some : ∀ link, r.link? = some link → link.generation = g → p (f r link)) : p (r.onCurrent g f) := by
  unfold onCurrent
  split
  · exact none
  · next link current =>
    obtain ⟨hl, own⟩ := current?_eq_some.1 current
    exact some link hl own

def recordAll (r : Robot) (deeds : List Deed) : Robot :=
  { r with journal := r.journal ++ deeds }

def record (r : Robot) (deed : Deed) : Robot :=
  r.recordAll [deed]

def note (r : Robot) (n : Note) : Robot :=
  r.record (.noted n)

/-- Puts a task behind those that are ready. -/
def spawn (r : Robot) (task : Task) : Robot :=
  { r with ready := r.ready ++ [task] }

/-- Makes a task ready unless it is. -/
def rouse (r : Robot) (task : Task) : Robot :=
  if r.ready.contains task then r else r.spawn task

/-! ## The queue -/

/-- Takes over a queue that a command has entered and wakes the writer if it waits for one. -/
def requeue (r : Robot) (link : Link) (outbox : Outbox) : Robot :=
  let next := r.withLink (link.withOutbox outbox)
  if link.isWriterIdle then next.rouse (.write link.generation) else next

theorem session_rouse (r : Robot) (task : Task) : (r.rouse task).session = r.session := by
  unfold rouse
  split <;> rfl

theorem session_requeue (r : Robot) (link : Link) (outbox : Outbox) :
    (r.requeue link outbox).session = (r.withLink (link.withOutbox outbox)).session := by
  unfold requeue
  dsimp only
  split
  · exact session_rouse _ _
  · rfl

theorem link?_requeue (hl : r.link? = some link) (outbox : Outbox) :
    (r.requeue link outbox).link? = some (link.withOutbox outbox) :=
  (congrArg Session.link? (r.session_requeue link outbox)).trans (link?_withLink hl _)

/-- The note about an item that was not accepted. -/
def refusalNote (item : Outbox.Item) : Outbox.Refusal → Note
  | .gateClosed => .queueClosed item.command item.system
  | .writerGone => .writerStopped item.command

/-- Offers an item to the queue of the connection: whether it was accepted. -/
def enqueue (r : Robot) (item : Outbox.Item) : Bool × Robot :=
  match r.link? with
  | none => (false, r)
  | some link =>
    match link.outbox.enqueue item with
    | .ok outbox => (true, r.requeue link outbox)
    | .error refusal => (false, r.note (refusalNote item refusal))

/-- Offers items one after the other. -/
def enqueueAll (r : Robot) (items : List Outbox.Item) : Robot :=
  items.foldl (fun r item => (r.enqueue item).2) r

/-- Puts a command of the driver's own past the closed gate. -/
def force (r : Robot) (command : Command) : Robot :=
  match r.link? with
  | none => r
  | some link =>
    match link.outbox.force command with
    | .ok outbox => r.requeue link outbox
    | .error refusal => r.note (refusalNote ⟨command, true⟩ refusal)

/-- Sends a command unless there is no connection or it is being closed. -/
def submit (r : Robot) (item : Outbox.Item) : Bool × Robot :=
  match r.link? with
  | none => (false, r)
  | some link => if link.scheduler.stopped then (false, r) else r.enqueue item

/-- Sends a command for the user. -/
def send (r : Robot) (command : Command) : Bool × Robot :=
  r.submit ⟨command, false⟩

/-- Schedules a command on the connection: its number there. -/
def plan (r : Robot) (link : Link) (item : Outbox.Item) (timer : Timer) : Nat × Robot :=
  let (task, scheduler) := link.scheduler.add item timer
  (task, r.withLink { link with scheduler } |>.spawn (.wake link.generation (.timer task)))

/-! ## Listeners -/

/-- Tells one listener: it takes note, then sends its command if this is what it waits for. -/
def tellOne (report : Report) (r : Robot) (hearer : Nat × Listener) : Robot :=
  let r := r.record (.told hearer.1 report)
  match hearer.2.reply with
  | none => r
  | some (trigger, command) =>
    if trigger.fires report then
      let (sent, r) := r.send command
      r.record (.replied hearer.1 sent)
    else r

/-- Tells everyone who is registered. -/
def tell (r : Robot) (report : Report) : Robot :=
  let hearers := r.audience.hearers
  hearers.foldl (tellOne report) (r.record (.reported report (hearers.map (·.1))))

def tellEvent (r : Robot) (event : Event) : Robot :=
  r.tell (.event event)

end Robot

end RobotDriver
