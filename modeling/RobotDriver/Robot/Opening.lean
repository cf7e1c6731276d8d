import RobotDriver.Robot.State

/-!
# How a connection begins

A call to connect dials the robot's address; `dial` goes on when the channel may be opened, and `start`
makes a connection of an open channel. A new connection starts from nothing: no command is in flight, no
macro runs, the shadow is that of a robot just switched on, and the robot is brought into that state.
-/

namespace RobotDriver.Robot

/-- Finishes a call. -/
def finish (r : Robot) (call : Nat) (outcome : Outcome) : Robot :=
  r.record (.finished call outcome)

/-- The connection that an open channel becomes. -/
def newLink (r : Robot) (generation channel : Nat) (sink : Sink) : Link :=
  { generation, channel, writer := { maxBatch := r.settings.maxBatch, sink } }

/-- Puts the commands that reset the robot at the head of the queue. -/
def sendReset (r : Robot) : Robot :=
  r.enqueueAll (r.shadow.resetSequence.map fun c => ⟨c, true⟩)

/-- Plans the commands that keep a connection alive. -/
def planKeepAlive (r : Robot) (link : Link) : Robot :=
  let interval := r.settings.pingInterval
  (r.plan link ⟨.ping, true⟩ (.repeating r.clock interval interval)).2

/-- Plans the search for overdue answers, if answers are ever given up. -/
def planSweep (r : Robot) (link : Link) : Robot :=
  if r.settings.responseTimeout.isSome then r.spawn (.wake link.generation .sweep) else r

/-- Forgets what the last connection has left behind and takes up a new one. -/
def install (r : Robot) (link : Link) : Robot :=
  { r with
    inFlight := r.inFlight.clear
    upload := r.upload.clear
    shadow := {}
    session := .up link }

/-- Starts the tasks of a new connection and queues its first commands. -/
def launch (r : Robot) (generation : Nat) : Robot :=
  r.spawn (.write generation)
    |>.spawn (.read generation)
    |>.sendReset
    |>.onLink planKeepAlive
    |>.onLink planSweep

/-- Makes a connection of an open channel, unless there is one already. -/
def start (r : Robot) (channel : Nat) (sink : Sink) : Bool × Robot :=
  let generation := r.generations + 1
  let r := { r with generations := generation }
  if r.link?.isSome then (false, r.note (.transportDropped generation))
  else
    (true,
      r.install (r.newLink generation channel sink)
        |>.launch generation
        |>.note (.connected r.address.digits generation)
        |>.tellEvent .connected)

/-- Counts an opened channel: its number and its writing end. -/
def takeChannel (r : Robot) : Nat × Sink × Robot :=
  (r.dialler.opened, r.dialler.nextSink,
    { r with dialler := { r.dialler with opened := r.dialler.opened + 1, nextSink := {} } })

/-- The outcome of a call whose channel could not be opened. -/
def openFailure (r : Robot) (cause : TransportError) : Outcome :=
  if r.settings.raiseOnConnectFailure then .failed ⟨cause⟩ else .answered false

/-- Opens the channel of a call to connect. -/
def dial (r : Robot) (call : Nat) : Robot :=
  if r.dialler.refuse then
    let cause : TransportError := .cannotOpen r.address.digits .connectionRefused
    r.note (.openFailed cause r.address.digits)
      |>.tellEvent .connectFailed
      |>.finish call (r.openFailure cause)
  else
    let (channel, sink, next) := r.takeChannel
    let (started, next) := next.start channel sink
    next.finish call (.answered started)

/-- Takes note of an attempt to reach the robot. -/
def noteDialled (r : Robot) : Robot :=
  { r with dialler := { r.dialler with dialled := r.dialler.dialled ++ [r.address.digits] } }

/-- Keeps a call until channels may be opened again. -/
def holdCall (r : Robot) (call : Nat) : Robot :=
  { r with dialler := { r.dialler with held := r.dialler.held ++ [call] } }

/-- Runs a call to connect until it is done or has to wait for its channel. -/
def connectCall (r : Robot) (call : Nat) : Robot :=
  if r.isConnected then
    r.note (.alreadyConnected r.address.digits) |>.finish call (.answered true)
  else
    let r := r.note (.connecting r.address.digits) |>.noteDialled
    if r.dialler.hold then r.holdCall call else r.dial call

end RobotDriver.Robot
