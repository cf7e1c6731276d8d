import RobotDriver.Robot.State

/-!
# How a connection ends

A connection is closed on request or lost. `beginDisconnect` shuts the queue to all but two last
commands, a stop and the front light off, and waits for the robot to confirm them; `shutdownEcho` counts
the confirmations, and the second one ends the connection. So does the end of the time of grace, in
`graceOver`, and a failure of the channel, in `connectionLost`. The time of grace is counted from the moment at
which the task that waits for it first runs.
-/

namespace RobotDriver.Robot

/-- The command that brings the robot to rest. -/
def finalStop : Command :=
  .roll .zero .zero true

/-- The command that turns the front light off. -/
def finalDark : Command :=
  .frontLed .zero

/-- Begins to close a connection; `waiter` is the call that waits for the end. -/
def beginDisconnect (r : Robot) (link : Link) (waiter : Option Nat) : Robot :=
  { r with session := .closing link.shut { waiter } }
    |>.force finalStop
    |>.force finalDark
    |>.note (.disconnecting link.generation)
    |>.spawn (.wake link.generation .grace)

/-- Forgets the connection and its unanswered commands. The call that waits for this goes on. -/
def release (r : Robot) : Robot :=
  let next := { r with session := .down, inFlight := r.inFlight.clear }
  match r.session.waiter? with
  | none => next
  | some call => next.spawn (.disconnected call)

theorem release_eq (r : Robot) : r.release = { r with
    session := .down
    inFlight := {}
    ready := r.ready ++ r.session.waiter?.toList.map .disconnected } := by
  unfold release
  dsimp only
  split
  · next none =>
    rw [none]
    simp [InFlight.clear]
  · next call some =>
    rw [some]
    rfl

theorem session_release (r : Robot) : r.release.session = .down :=
  congrArg Robot.session r.release_eq

/-- Ends a connection that is being closed. -/
def finishDisconnect (r : Robot) : Robot :=
  match r.session with
  | .closing link _ =>
    r.release
      |>.note (.disconnected link.generation)
      |>.tellEvent .disconnected
  | _ => r

/-- Ends a connection whose channel has failed. -/
def connectionLost (r : Robot) (cause : TransportError) : Robot :=
  match r.session with
  | .down => r
  | .up link =>
    r.release
      |>.note (.closedUnexpectedly link.generation cause)
      |>.tellEvent .unexpectedDisconnect
  | .closing link _ =>
    r.release
      |>.note (.closedWhileDisconnecting link.generation cause)
      |>.tellEvent .disconnected

/-- The robot has confirmed a roll or a front light. The first such answer may belong to a command from
before the end began, so the connection ends at the second. -/
def shutdownEcho (r : Robot) : Robot :=
  match r.session with
  | .closing link closure =>
    if closure.echoed then r.finishDisconnect
    else { r with session := .closing link { closure with echoed := true } }
  | _ => r

theorem shutdownEcho_of_up {r : Robot} {link : Link} (hs : r.session = .up link) : r.shutdownEcho = r := by
  unfold shutdownEcho
  rw [hs]

theorem shutdownEcho_of_closing {r : Robot} {link : Link} {closure : Closure}
    (hs : r.session = .closing link closure) :
    r.shutdownEcho = if closure.echoed then r.finishDisconnect
      else { r with session := .closing link { closure with echoed := true } } := by
  unfold shutdownEcho
  rw [hs]

/-- The end of the time of grace. It is set when it is first looked at. -/
def graceDeadline (r : Robot) (closure : Closure) : Nat :=
  closure.deadline.getD (Timer.deadlineAfter r.clock r.settings.disconnectGrace)

/-- Looks at the time of grace: it is over, or the alarm is set for its end. -/
def graceOver (r : Robot) : Robot :=
  match r.session with
  | .closing link closure =>
    let deadline := r.graceDeadline closure
    if deadline ≤ r.rung then
      r.note (.shutdownUnconfirmed link.generation r.settings.disconnectGrace) |>.finishDisconnect
    else { r with session := .closing (link.arm deadline .grace) { closure with deadline := some deadline } }
  | _ => r

theorem graceOver_cases {p : Robot → Prop} {r : Robot} (other : p r)
    (lapsed : ∀ link closure, r.session = .closing link closure → r.graceDeadline closure ≤ r.rung →
      p (r.note (.shutdownUnconfirmed link.generation r.settings.disconnectGrace)).finishDisconnect)
    (early : ∀ link closure, r.session = .closing link closure → r.rung < r.graceDeadline closure →
      p { r with
        session := .closing (link.arm (r.graceDeadline closure) .grace)
          { closure with deadline := some (r.graceDeadline closure) } }) : p r.graceOver := by
  unfold graceOver
  dsimp only
  split
  · next link closure hs =>
    split
    · next passed => exact lapsed link closure hs passed
    · next before => exact early link closure hs (Nat.lt_of_not_le before)
  · exact other

theorem graceOver_of_up {r : Robot} {link : Link} (hs : r.session = .up link) : r.graceOver = r := by
  unfold graceOver
  rw [hs]

theorem graceOver_of_closing {r : Robot} {link : Link} {closure : Closure} (hs : r.session = .closing link closure) :
    r.graceOver = if r.graceDeadline closure ≤ r.rung
      then (r.note (.shutdownUnconfirmed link.generation r.settings.disconnectGrace)).finishDisconnect
      else { r with
        session := .closing (link.arm (r.graceDeadline closure) .grace)
          { closure with deadline := some (r.graceDeadline closure) } } := by
  unfold graceOver
  rw [hs]

end RobotDriver.Robot
