import RobotDriver.Proofs.Receiving
import RobotDriver.Proofs.Outbox.Batching

/-!
# The views of a command's wire form agree

How long a packet is, which bytes it has and whether it may be written at all are settled apart: `packetLength` counts,
`toBytes` cuts the data to what fits and `encode` refuses data that do not fit. `put` appends a packet whatever its data,
with a cut and a limit to the count of its own. They differ where the data no longer fit the length byte and nowhere
else, so a buffer of many commands holds the packets of those that fit, one behind the other.
-/

namespace RobotDriver.Command

/-- Appends a packet to a buffer. The data are cut to what fits, and the length byte counts no further than it can. -/
def put (kind : Kind) (data buffer : Bytes) : Bytes :=
  let data := data.take maxData
  let covered := [kind.deviceId, kind.commandId, sequence, (min (data.length + 1) 255).toUInt8]
  buffer ++ ([startByte, startByte] ++ covered ++ data ++ [checksum (covered ++ data)])

/-- Behind the cut, the limit to the count is never met. -/
theorem put_eq (kind : Kind) (data buffer : Bytes) :
    put kind data buffer = buffer ++ packet kind (data.take maxData) := by
  have counted : min ((data.take maxData).length + 1) 255 = (data.take maxData).length + 1 := by
    rw [List.length_take, maxData]
    omega
  rw [put, counted]
  rfl

/-- The raw command with the addresses of a command and as much of its data as fits. -/
def cut (c : Command) : Command :=
  .raw c.kind.deviceId c.kind.commandId (c.data.take maxData)

theorem encodable_cut (c : Command) : c.cut.Encodable :=
  List.length_take_le _ _

/-- A packet shows no more of the kind than its addresses. -/
theorem toBytes_cut (c : Command) : c.cut.toBytes = c.toBytes := by
  have data : c.cut.data.take maxData = c.data.take maxData := List.take_of_length_le c.encodable_cut
  rw [toBytes, toBytes, data]
  rfl

/-- A packet that was cut is shorter than it was counted. -/
theorem length_toBytes_lt {c : Command} (long : ¬ c.Encodable) : c.toBytes.length < c.packetLength := by
  have counted : c.cut.data.length < c.data.length := Nat.lt_of_le_of_lt c.encodable_cut (Nat.lt_of_not_le long)
  rw [← toBytes_cut, length_toBytes c.encodable_cut, packetLength, packetLength]
  omega

/-- Each command is accepted or refused by itself. -/
theorem encodeEach_accepts (buffer : Bytes) (commands : List Command) :
    (encodeEach buffer commands).1.map (·.isOk) = commands.map fun c => decide c.Encodable := by
  induction commands generalizing buffer with
  | nil => rfl
  | cons c commands ih =>
    by_cases fits : c.Encodable
    · rw [encodeEach_of_encodable fits, List.map_cons, List.map_cons, ih, decide_eq_true fits]
      rfl
    · rw [encodeEach_of_not_encodable fits, List.map_cons, List.map_cons, ih, decide_eq_false fits]
      rfl

/-- **The views of a command's wire form agree.** A command whose data fit is written behind whatever the buffer holds,
as the bytes of its own serialisation, and they are as many as were counted. A command whose data do not fit is refused
and the buffer left alone; its serialisation then is the packet of the raw command with the same addresses and as much
of the data as fits, and shorter than was counted. The cut that is made where a packet is put into a buffer changes
nothing of this. So a buffer of many commands holds, behind what was there, the serialisations of those that fit, in
order, and these are the ones that are accepted. -/
theorem wire_views_agree (c : Command) (buffer : Bytes) :
    (c.data.length ≤ 254 →
      c.encode = .ok c.toBytes ∧ encodeEach buffer [c] = ([.ok (buffer ++ c.toBytes).length], buffer ++ c.toBytes) ∧
        c.toBytes.length = c.packetLength) ∧
    (254 < c.data.length →
      c.encode = .error ⟨c.kind, c.data.length⟩ ∧
        encodeEach buffer [c] = ([.error ⟨c.kind, c.data.length⟩], buffer) ∧
        (raw c.kind.deviceId c.kind.commandId (c.data.take 254)).encode = .ok c.toBytes ∧
        c.toBytes.length < c.packetLength) ∧
    (put c.kind c.data buffer = buffer ++ c.toBytes ∧ put c.kind (c.data.take 254) [] = c.toBytes) ∧
    ∀ commands, (encodeEach buffer commands).1.map (·.isOk) = commands.map (fun d => decide (d.data.length ≤ 254)) ∧
      (encodeEach buffer commands).2 = buffer ++ (commands.filter (·.data.length ≤ 254)).flatMap toBytes := by
  refine ⟨fun fits => ?_, fun exceeds => ?_, ⟨put_eq c.kind c.data buffer, ?_⟩, fun commands => ⟨?_, ?_⟩⟩
  · exact ⟨encode_of_encodable fits, encodeEach_of_encodable fits buffer [], length_toBytes fits⟩
  · have long : ¬ c.Encodable := Nat.not_le_of_lt exceeds
    refine ⟨encode_of_not_encodable long, encodeEach_of_not_encodable long buffer [], ?_, length_toBytes_lt long⟩
    rw [← toBytes_cut]
    exact encode_of_encodable c.encodable_cut
  · rw [put_eq, List.nil_append, List.take_take]
    rfl
  · exact encodeEach_accepts buffer commands
  · have accepted : (fun d : Command => d.encode.isOk) = fun d => decide (d.data.length ≤ 254) := by
      funext d
      rw [Bool.eq_iff_iff, encode_isOk_iff, decide_eq_true_eq]
      rfl
    rw [encodeEach_bytes, accepted]

/-- As many data as fit, and one more, behind what is in the buffer. -/
theorem wire_views_agree_lastByte :
    let full := raw 0x02 0x99 (.replicate 254 0)
    let past := raw 0x02 0x99 (.replicate 255 0)
    full.toBytes.length = 261 ∧ encodeEach [0x01] [full] = ([.ok 262], 0x01 :: full.toBytes) ∧
      past.toBytes.length < 262 ∧ encodeEach [0x01] [past] = ([.error ⟨.other 0x02 0x99, 255⟩], [0x01]) ∧
      (encodeEach [] [full, past, .ping, past]).2 = full.toBytes ++ Command.ping.toBytes := by
  intro full past
  have fits : full.data.length = 254 := List.length_replicate
  have long : past.data.length = 255 := List.length_replicate
  have short : Command.ping.data.length = 0 := rfl
  obtain ⟨-, written, counted⟩ := (wire_views_agree full [0x01]).1 fits.le
  obtain ⟨-, left, -, shorter⟩ := (wire_views_agree past [0x01]).2.1 (by omega)
  obtain ⟨-, -, -, many⟩ := wire_views_agree full []
  rw [packetLength, wireHeaderLength, fits] at counted
  rw [packetLength, wireHeaderLength, long] at shorter
  rw [long] at left
  refine ⟨counted, ?_, shorter, left, ?_⟩
  · rw [written, List.length_append, counted]
    rfl
  · rw [(many _).2]
    simp [fits, long, short]

end RobotDriver.Command
