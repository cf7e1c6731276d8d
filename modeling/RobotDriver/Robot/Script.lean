import RobotDriver.Robot.Control
import RobotDriver.Robot.Running

/-!
# Scripts

A script is a list of steps: requests to the driver, bytes from the robot, changes of the channels and
movements of the clock. `Robot.perform` takes one step and says what it gives back, `Robot.play` performs
a step, lets all tasks run and collects what has happened in the meantime.
-/

namespace RobotDriver

/-- Requests that go through the handle of the driver. -/
inductive Request where
  | connect
  | disconnect
  | send (command : Command)
  | roll (heading velocity : Single)
  | rotate (heading : Single)
  | calibrate (heading : Single)
  | stopMotors
  | resetHeading
  | setRgbLed (red green blue : UInt8)
  | setFrontLed (brightness : Single)
  | setRotationRate (rate : Single)
  | stabilization (on : Bool)
  | setName (name : String)
  | refreshName
  | sleep (seconds : UInt16)
  | jumpToBootloader
  | boost (duration : Nat)
  | after (command : Command) (delay : Nat)
  | periodic (command : Command) (initial period : Nat)
  | playMacro (m : Macro)
  | stopMacro
  | afterMacro (command : Command)
  | cancelAfterMacro
  | shadow
  | name
  | address
  | state
  | settings
  | describe
  | addListener (listener : Listener)
  | registerAgain (listener : Nat)
  | removeListener (listener : Nat)
  deriving DecidableEq

/-- A step of a script. -/
inductive Step where
  | ask (request : Request)
  | cancelTask (task : Nat)
  /-- Ask which scheduled commands are cancelled. -/
  | tasks
  /-- Something arrives on a channel, the newest one if none is named. -/
  | arrive (channel : Option Nat) (arrivals : List Arrival)
  /-- The newest channel takes bytes in a new way from now on. -/
  | changeSink (sink : Sink)
  | changeNextSink (sink : Sink)
  | refuse (on : Bool)
  | hold
  | release
  | dialled
  | advance (ms : Nat)
  /-- Nothing but what follows every step: all tasks run. -/
  | settle
  /-- Steps between which no task runs, but for a movement of the clock. -/
  | group (steps : List Step)
  /-- Give up the driver. -/
  | drop

/-- What a step gives back. -/
inductive Answer where
  | done
  | call (number : Nat)
  | flag (value : Bool)
  | number (value : Option Nat)
  | flags (values : List Bool)
  | text (value : Option String)
  | texts (values : List String)
  | shadow (shadow : Shadow)
  | settings (settings : Settings)
  | refused (error : MacroError)
  | group (answers : List Answer)

namespace Robot

/-- Starts a call as a task of its own. -/
def startCall (r : Robot) (task : Nat → Task) : Answer × Robot :=
  (.call r.calls, { r with calls := r.calls + 1 }.spawn (task r.calls))

/-- The answer to a request that sends commands. -/
def flagged (result : Bool × Robot) : Answer × Robot :=
  (.flag result.1, result.2)

def ask (r : Robot) : Request → Answer × Robot
  | .connect => r.startCall .connect
  | .disconnect => r.startCall .disconnect
  | .send command => flagged (r.send command)
  | .roll heading velocity => flagged (r.send (.roll heading velocity false))
  | .rotate heading => flagged (r.send (.roll heading .zero false))
  | .calibrate heading => flagged (r.sendEach (calibration heading))
  | .stopMotors => flagged (r.send (.roll r.shadow.heading .zero true))
  | .resetHeading => flagged (r.sendEach (headingReset r.shadow))
  | .setRgbLed red green blue => flagged (r.send (.rgbLed red green blue))
  | .setFrontLed brightness => flagged (r.send (.frontLed brightness))
  | .setRotationRate rate => flagged (r.send (.rotationRate rate))
  | .stabilization on => flagged (r.send (.stabilization on))
  | .setName name => flagged (r.send (.setName name))
  | .sleep seconds => flagged (r.send (.sleep seconds 0))
  | .jumpToBootloader => flagged (r.send .jumpToBootloader)
  | .refreshName => flagged (r.submit ⟨.getBluetoothInfo, true⟩)
  | .boost duration => flagged (r.boost duration)
  | .after command delay =>
    let (number, r) := r.schedulePlan command (.once r.clock delay)
    (.number number, r)
  | .periodic command initial period =>
    let (number, r) := r.schedulePlan command (.repeating r.clock initial period)
    (.number number, r)
  | .playMacro m =>
    match r.playMacro m with
    | (.ok accepted, r) => (.flag accepted, r)
    | (.error e, r) => (.refused e, r)
  | .stopMacro => (.done, r.stopMacro)
  | .afterMacro command => (.done, r.sendAfterMacro command)
  | .cancelAfterMacro => (.done, r.clearAfterMacro)
  | .shadow => (.shadow r.shadow, r)
  | .name => (.text r.name, r)
  | .address => (.text (some r.address.digits), r)
  | .state => (.text (some r.session.stateName), r)
  | .settings => (.settings r.settings, r)
  | .describe => (.text (some r.describe), r)
  | .addListener listener =>
    let (number, r) := r.addListener listener
    (.number (some number), r)
  | .registerAgain number => (.done, r.registerAgain number)
  | .removeListener number => flagged (r.removeListener number)

theorem ask_playMacro (r : Robot) (m : Macro) : (r.ask (.playMacro m)).2 = (r.playMacro m).2 := by
  simp only [ask]
  split
  · next e => rw [e]
  · next e => rw [e]

/-- A request to a driver that has been given up: nothing comes of it, but a new listener gets its number. -/
def askDropped (r : Robot) : Request → Answer × Robot
  | .addListener listener =>
    (.number (some r.audience.listeners.length),
      { r with audience := { r.audience with listeners := r.audience.listeners ++ [listener] } })
  | _ => (.done, r)

/-- Does something with the connection that uses a channel, the newest one if none is named. A channel
that belongs to no connection any more is beyond reach. -/
def onChannel (r : Robot) (channel : Option Nat) (f : Robot → Link → Robot) : Robot :=
  match r.link? with
  | none => r
  | some link => if channel.getD (r.dialler.opened - 1) = link.channel then f r link else r

theorem onChannel_cases {p : Robot → Prop} {r : Robot} {channel : Option Nat} {f : Robot → Link → Robot} (out : p r)
    (within : ∀ link, r.link? = some link → p (f r link)) : p (r.onChannel channel f) := by
  unfold onChannel
  split
  · exact out
  · next link hl =>
    split
    · exact within link hl
    · exact out

/-- Puts arrivals before the reader. -/
def arrive (r : Robot) (arrivals : List Arrival) (link : Link) : Robot :=
  r.withLink (link.arrive arrivals) |>.rouse (.read link.generation)

/-- Changes how a channel takes bytes; a writer that waits for it tries again. -/
def changeSink (r : Robot) (sink : Sink) (link : Link) : Robot :=
  let r := r.withLink { link with writer := { link.writer with sink } }
  if link.isWriterBlocked then r.rouse (.write link.generation) else r

/-- Lets the attempts that were held go on, in order. -/
def releaseHeld (r : Robot) : Robot :=
  { r with
    ready := r.ready ++ r.dialler.held.map .dial
    dialler := { r.dialler with hold := false, held := [] } }

/-- The task belongs to a call of the user. -/
def isCall : Task → Bool
  | .connect _ | .dial _ | .disconnect _ | .disconnected _ => true
  | _ => false

/-- No one waits for the end of the connection any more. -/
def forgetWaiter : Session → Session
  | .closing link closure => .closing link { closure with waiter := none }
  | s => s

theorem link?_forgetWaiter (s : Session) : (forgetWaiter s).link? = s.link? := by
  cases s <;> rfl

theorem isUp_forgetWaiter (s : Session) : (forgetWaiter s).isUp = s.isUp := by
  cases s <;> rfl

/-- Abandons the calls that have not finished. -/
def abandonCalls (r : Robot) : Robot :=
  { r with
    ready := r.ready.filter fun task => !isCall task
    dialler := { r.dialler with held := [] }
    session := forgetWaiter r.session }

/-- Notes that a connection ends with its driver. -/
def noteDrop (r : Robot) : Robot :=
  r.onLink fun r link => r.note (.handleDropped link.generation)

/-- The driver goes away and its calls with it. Its connection ends without a word to the robot. -/
def quit (r : Robot) : Robot :=
  { r.abandonCalls.noteDrop with session := .down, dropped := true }

theorem quit_eq (r : Robot) : r.quit = { r with
    session := .down
    ready := r.ready.filter fun task => !isCall task
    dialler := { r.dialler with held := [] }
    dropped := true
    journal := r.journal ++ r.link?.toList.map fun link => .noted (.handleDropped link.generation) } := by
  have same : r.abandonCalls.link? = r.link? := link?_forgetWaiter r.session
  unfold quit noteDrop onLink
  rw [same]
  cases r.link? with
  | none => simp [abandonCalls]
  | some link => rfl

/-- Gives up the driver when its calls are abandoned and all tasks have run. -/
def drop (r : Robot) : Robot :=
  if r.dropped then r else r.abandonCalls.settle.quit

mutual

/-- Takes a step. -/
def perform (r : Robot) : Step → Answer × Robot
  | .ask request => if r.dropped then r.askDropped request else r.ask request
  | .cancelTask task => (.done, r.cancelPlan task)
  | .tasks => (.flags (r.schedule.map r.isPlanCancelled), r)
  | .arrive channel arrivals => (.done, r.onChannel channel fun r link => r.arrive arrivals link)
  | .changeSink sink => (.done, r.onChannel none fun r link => r.changeSink sink link)
  | .changeNextSink sink => (.done, { r with dialler := { r.dialler with nextSink := sink } })
  | .refuse on => (.done, { r with dialler := { r.dialler with refuse := on } })
  | .hold => (.done, { r with dialler := { r.dialler with hold := true } })
  | .release => (.done, r.releaseHeld)
  | .dialled => (.texts r.dialler.dialled, r)
  | .advance ms => (.done, r.advance ms)
  | .settle => (.done, r)
  | .group steps =>
    let (answers, r) := r.performAll steps
    (.group answers, r)
  | .drop => (.done, r.drop)

/-- Takes steps one after the other. -/
def performAll (r : Robot) : List Step → List Answer × Robot
  | [] => ([], r)
  | step :: steps =>
    let (answer, r) := r.perform step
    let (answers, r) := r.performAll steps
    (answer :: answers, r)

end

/-- Takes a step and lets all tasks run: the answer, what has happened, and the driver. -/
def play (r : Robot) (step : Step) : Answer × List Deed × Robot :=
  let (answer, next) := r.perform step
  let next := next.settle
  (answer, next.journal.drop r.journal.length, next)

/-- Plays a script step by step: after each step its answer, what has happened, and the driver. -/
def playAll (r : Robot) : List Step → List (Answer × List Deed × Robot)
  | [] => []
  | step :: steps =>
    let turn := r.play step
    turn :: turn.2.2.playAll steps

/-- The number of channels that the driver has not given back. -/
def openChannels (r : Robot) : Nat :=
  if r.link?.isSome then 1 else 0

end Robot

end RobotDriver
