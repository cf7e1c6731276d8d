/-!
# Faults of the byte stream

A channel to the robot is opened, read and written; each can fail. `StreamFault` is what the stream
itself reports, `TransportError` which part of a connection it struck.
-/

namespace RobotDriver

/-- What a byte stream reports when it fails. -/
inductive StreamFault where
  | connectionRefused
  | connectionReset
  | notConnected
  | brokenPipe
  /-- A write took no byte at all. -/
  | writeZero
  | unexpectedEnd
  /-- The stream ended in the middle of a packet. -/
  | bytesRemaining
  deriving DecidableEq

def StreamFault.message : StreamFault → String
  | connectionRefused => "connection refused"
  | connectionReset => "connection reset"
  | notConnected => "not connected"
  | brokenPipe => "broken pipe"
  | writeZero => "write zero"
  | unexpectedEnd => "unexpected end of file"
  | bytesRemaining => "bytes remaining on stream"

/-- Why a connection cannot be made or has ended. -/
inductive TransportError where
  | cannotOpen (address : String) (fault : StreamFault)
  /-- The robot closed the stream between two packets. -/
  | closed
  | read (fault : StreamFault)
  | write (fault : StreamFault)
  deriving DecidableEq

def TransportError.message : TransportError → String
  | cannotOpen address fault => "failed to open transport to " ++ address ++ ": " ++ fault.message
  | closed => "transport reached end of stream"
  | read fault => "transport read failed: " ++ fault.message
  | write fault => "transport write failed: " ++ fault.message

end RobotDriver
