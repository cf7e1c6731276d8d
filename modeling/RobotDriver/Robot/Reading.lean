import RobotDriver.Framing
import RobotDriver.Robot.Ending

/-!
# What the robot says

Bytes are cut into packets, and each packet is handled on its own. A response answers the oldest command
in flight; when the robot accepts that command, `confirm` updates what the driver knows. Information goes
to listeners, except the markers of a streamed macro. What cannot be understood is noted and passed over;
only the end of the stream or a failure ends the connection.
-/

namespace RobotDriver.Robot

/-- Queues what a change of the upload asks for: the uploads of the driver, then the user's commands that
waited for the end of the macro. -/
def enqueueProgress (r : Robot) (progress : Macro.Progress) : Robot :=
  let uploads := progress.uploads.map fun c => (⟨c, true⟩ : Outbox.Item)
  let followUps := (progress.finished.getD []).map fun c => (⟨c, false⟩ : Outbox.Item)
  r.enqueueAll (uploads ++ followUps)

/-- Notes that a macro is over, if it is. -/
def noteFinish (r : Robot) (progress : Macro.Progress) : Robot :=
  match progress.finished with
  | none => r
  | some followUps => r.note (.macroFinished followUps.length)

/-- Takes over a changed upload and tells when the macro is over. -/
def progressMacro (r : Robot) (upload : Macro.Upload) (progress : Macro.Progress) : Robot :=
  let next := { r with upload }.noteFinish progress |>.enqueueProgress progress
  if progress.finished.isSome then next.tellEvent .macroDone else next

/-- What the robot has confirmed becomes part of its shadow. -/
def updateShadow (r : Robot) (command : Command) : Robot :=
  { r with shadow := r.shadow.apply command }

/-- Takes over the name that the robot tells when the driver has asked for it. -/
def updateName (r : Robot) (entry : InFlight.Entry) (body : Response.Body) : Robot :=
  match entry.command, entry.system, body with
  | .getBluetoothInfo, true, .bluetoothInfo name _ =>
    { r.note (.nameUpdated name) with name := some name }
  | _, _, _ => r

/-- A robot that goes to sleep or restarts drops the connection, so the driver closes it first. -/
def closeBeforeSleep (r : Robot) (command : Command) : Robot :=
  match command, r.session with
  | .sleep _ _, .up link | .jumpToBootloader, .up link => r.beginDisconnect link none
  | _, _ => r

/-- The answers that count as confirmations of a disconnection. -/
def isEcho : Command → Bool
  | .roll _ _ _ | .frontLed _ => true
  | _ => false

/-- The robot has accepted a command. -/
def confirm (r : Robot) (entry : InFlight.Entry) (body : Response.Body) : Robot :=
  let r := if isEcho entry.command then r.shutdownEcho else r
  r.updateShadow entry.command |>.updateName entry body |>.closeBeforeSleep entry.command

/-- Notes that a response is damaged, if it is. -/
def noteDamage (r : Robot) (entry : InFlight.Entry) (body : Response.Body) : Robot :=
  match body with
  | .corrupt e => r.note (.responseCorrupt e entry.command)
  | _ => r

/-- Handles the answer to a command. The status alone says whether the robot has accepted it. -/
def handleAnswer (r : Robot) (entry : InFlight.Entry) (packet : Packet) : Robot :=
  let response := Response.decode entry.command.kind packet
  let r := r.note (.responseMatched response entry.system) |>.noteDamage entry response.body
  let r :=
    if response.status.isOk then r.confirm entry response.body
    else r.note (.commandRejected response.status entry.command)
  if entry.system then r else r.tell (.response response entry.command)

/-- Handles a response: it answers the oldest command in flight. -/
def handleResponse (r : Robot) (generation : Nat) (packet : Packet) : Robot :=
  match r.inFlight.resolve packet.header with
  | (none, _) =>
    let status := Status.ofCode packet.header.code
    r.note (.responseUnmatched status) |>.tellEvent (.unmatchedResponse status)
  | (some entry, inFlight) =>
    { r with inFlight }.record (.answered generation entry packet) |>.handleAnswer entry packet

/-- Handles information: a marker belongs to the streamed macro while one runs, and all else goes to
listeners. -/
def handleInformation (r : Robot) (packet : Packet) : Robot :=
  match Information.decode packet with
  | .error e => r.note (.informationCorrupt e packet.header.code)
  | .ok information =>
    let r := r.note (.informationReceived information.kind)
    if information.isMacroMarker && r.upload.running then
      let (upload, progress) := r.upload.acknowledge
      r.progressMacro upload progress
    else r.tell (.information information)

/-- Handles a packet by its class. -/
def handlePacket (r : Robot) (generation : Nat) (packet : Packet) : Robot :=
  let r := r.record (.received generation packet)
  match packet.header.packetClass with
  | .error e => r.note (.packetUnrecognised e)
  | .ok .response => r.handleResponse generation packet
  | .ok .information => r.handleInformation packet

def handleFrame (r : Robot) (generation : Nat) : Frame → Robot
  | .skipped header => r.note (.packetEmpty header)
  | .packet packet => r.handlePacket generation packet

/-- Handles frames until the connection of the generation is gone. -/
def handleFrames (r : Robot) (generation : Nat) (frames : List Frame) : Robot :=
  frames.foldl (fun r frame => if (r.current? generation).isSome then r.handleFrame generation frame else r) r

/-- What holds at first, and after each frame that is handled on a connection, holds in the end. -/
theorem handleFrames_induction {p : Robot → Prop} {r : Robot} {g : Nat} (start : p r)
    (step : ∀ s link frame, p s → s.link? = some link → p (s.handleFrame link.generation frame))
    (frames : List Frame) : p (r.handleFrames g frames) := by
  refine List.foldlRecOn frames _ start fun s h frame _ => ?_
  split
  · next present =>
    obtain ⟨link, current⟩ := Option.isSome_iff_exists.1 present
    obtain ⟨hl, rfl⟩ := current?_eq_some.1 current
    exact step s link frame h hl
  · exact h

/-- How a stream that ends with these bytes in the buffer has failed. -/
def endCause (buffer : Bytes) : TransportError :=
  match Frame.endFault? buffer with
  | none => .closed
  | some fault => .read fault

/-- Handles one arrival. -/
def handleArrival (r : Robot) (link : Link) (arrival : Arrival) : Robot :=
  let r := r.record (.took link.generation arrival)
  match arrival with
  | .bytes chunk =>
    let (frames, buffer) := Frame.feed link.buffer chunk
    r.mapLink (fun link => { link with buffer }) |>.handleFrames link.generation frames
  | .ended => r.connectionLost (endCause link.buffer)
  | .failed fault => r.connectionLost (.read fault)

/-- Handles arrivals until the connection of the generation is gone. -/
def handleArrivals (r : Robot) (generation : Nat) (arrivals : List Arrival) : Robot :=
  arrivals.foldl
    (fun r arrival =>
      match r.current? generation with
      | none => r
      | some link => r.handleArrival link arrival)
    r

/-- Reads all that has arrived on a connection. -/
def runReader (r : Robot) (link : Link) : Robot :=
  r.mapLink (fun link => { link with inbox := [] }) |>.handleArrivals link.generation link.inbox

theorem runReader_induction {p : Robot → Prop} {r : Robot} {link : Link}
    (emptied : p (r.mapLink fun link => { link with inbox := [] }))
    (step : ∀ s here arrival, p s → s.link? = some here → p (s.handleArrival here arrival)) : p (r.runReader link) := by
  refine List.foldlRecOn link.inbox _ emptied fun s h arrival _ => ?_
  split
  · exact h
  · next here current => exact step s here arrival h (current?_eq_some.1 current).1

end RobotDriver.Robot
