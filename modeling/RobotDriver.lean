import RobotDriver.Device
import RobotDriver.InFlight.Clocked
import RobotDriver.Macro.Upload.Request
import RobotDriver.Outbox.Shared
import RobotDriver.Outbox.Shift
import RobotDriver.Robot.Load
import RobotDriver.Robot.Script
import RobotDriver.Scheduler.Clockwork
import RobotDriver.Settings.Sources
import RobotDriver.Proofs.Framing
import RobotDriver.Proofs.Receiving
import RobotDriver.Proofs.Framing.Responses
import RobotDriver.Proofs.Upload.Memory
import RobotDriver.Proofs.Upload.Delivery
import RobotDriver.Proofs.Upload.Completion
import RobotDriver.Proofs.Outbox.Draining
import RobotDriver.Robot.Move
import RobotDriver.Proofs.Robot.Sending
import RobotDriver.Proofs.Robot.Chronicle
import RobotDriver.Proofs.Robot.Chronicled
import RobotDriver.Proofs.Robot.Recorded
import RobotDriver.Proofs.Robot.Lifecycle
import RobotDriver.Proofs.Robot.Answers
import RobotDriver.Proofs.Robot.LastWords
import RobotDriver.Proofs.Robot.Closing
import RobotDriver.Proofs.Robot.Transcript
import RobotDriver.Proofs.Robot.Playing
import RobotDriver.Proofs.Robot.Reconnecting
import RobotDriver.Proofs.Robot.Confirmed
import RobotDriver.Proofs.Robot.Heeding
import RobotDriver.Proofs.Robot.Completing
import RobotDriver.Proofs.Robot.Attribution
import RobotDriver.Proofs.Robot.Boosting
import RobotDriver.Proofs.Robot.Connecting
import RobotDriver.Proofs.Robot.Submitting
import RobotDriver.Proofs.Robot.Sendable
import RobotDriver.Proofs.Robot.Acceptance
import RobotDriver.Proofs.Framing.Damage
import RobotDriver.Proofs.Outbox.Batching
import RobotDriver.Proofs.Upload.Resubmission
import RobotDriver.Proofs.Upload.Settled
import RobotDriver.Proofs.Upload.FollowUps
import RobotDriver.Proofs.Upload.Fitting
import RobotDriver.Proofs.InFlight
import RobotDriver.Proofs.Scheduler.Cancelling
import RobotDriver.Proofs.Scheduler.Delayed
import RobotDriver.Proofs.Scheduler.Repeating
import RobotDriver.Proofs.Outbox.Handles
import RobotDriver.Proofs.Address
import RobotDriver.Proofs.Encoding
import RobotDriver.Proofs.Shadow.Latest
