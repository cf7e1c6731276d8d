import RobotDriver.Outbox.Writer
import RobotDriver.Proofs.Upload.Settled

/-!
# Which chunks fit a packet

A chunk travels as the data of a command, behind its id and its flags, and the last one with the end of the macro. So
what fits a chunk need not fit a packet: limits with chunks of up to 251 bytes are safe, and with larger chunks there is
always a macro of which a chunk cannot be encoded (`sendable_iff`). The writer leaves such a chunk out, while the upload
counts it as one that the robot has.
-/

namespace RobotDriver.Macro

/-- The largest chunk that fits a packet, whatever it is a chunk of: its id, its flags and the end of the macro may go
with it. -/
def sendableChunk : Nat := 251

/-- The data of a chunk: its id and its flags, the steps and the marker, and the end of the macro behind the last. -/
theorem length_data_store (marker : Step) (run rest : List Step) :
    (store marker run rest).data.length = (block marker run).length + if rest.isEmpty then 3 else 2 := by
  simp only [store, Command.data, List.length_cons, List.length_append]
  split <;> simp

namespace Upload

variable {fresh : Upload} {limits : Limits} {marker : Step}

/-- What an upload sends gives up a macro, or it is a chunk within the limits. -/
theorem mem_uploads (made : make limits marker = .ok fresh) {requests : List Request} {c : Command}
    (sent : c ∈ fresh.uploads requests) :
    c = .abortMacro ∨ ∃ run rest, c = store marker run rest ∧ stepBytes run ≠ [] ∧
      (block marker run).length ≤ limits.maxChunk := by
  obtain ⟨sound, limited, marked⟩ := sound_make made
  by_cases aborts : c = .abortMacro
  · exact .inl aborts
  · right
    have chunk : c ∈ (fresh.uploads requests).filter (· ≠ .abortMacro) := by
      rw [List.mem_filter]
      exact ⟨sent, by simpa using aborts⟩
    rw [uploads_cutsAfter sound, List.mem_map] at chunk
    obtain ⟨cut, member, rfl⟩ := chunk
    obtain ⟨limits_eq, marker_eq, run, rest, -, stored, bytes, fits, -⟩ := mem_cutsAfter member
    rw [marker_eq.trans marked] at stored fits
    rw [limits_eq.trans limited] at fits
    refine ⟨run, rest, stored, bytes, ?_⟩
    rw [length_block]
    exact Nat.le_trans fits (Nat.min_le_right _ _)

/-- A step that fills a chunk is uploaded in a chunk of its own. -/
theorem store_mem_uploads (made : make limits marker = .ok fresh) (step : Step) (bytes : 0 < step.length)
    (fits : step.length + marker.length ≤ limits.maxChunk) :
    store marker [step] [] ∈ fresh.uploads [.submit [step]] := by
  obtain ⟨sound, limited, marked⟩ := sound_make made
  have fitting : fresh.oversized? [step] = none := by
    rw [oversized?, List.find?_eq_none]
    intro other member
    rw [List.mem_singleton] at member
    subst member
    rw [limited, marked]
    simpa using fits
  have idle : fresh.running = false := by
    obtain ⟨-, rfl⟩ := make_eq made
    rfl
  have sent : fresh.uploads [.submit [step]] = (fresh.started [step]).fill.2 := by
    have answer : (fresh.step (.submit [step])).1.uploads = (fresh.started [step]).fill.2 := by
      simp only [Upload.step, submit_of_fitting sound fitting, Reply.uploads, idle]
      rfl
    rw [uploads, answer]
    exact List.append_nil _
  have some : stepBytes (fresh.started [step]).backlog ≠ [] := by
    show stepBytes [step] ≠ []
    rw [Ne, stepBytes_eq_nil_iff, stepsLength_cons, stepsLength_nil]
    omega
  rcases fill_of_empty (tracked_started fitting).uploadable rfl with ⟨none, -⟩ | ⟨run, runs, rest, stores⟩
  · exact absurd none some
  · -- The run is not empty and a part of the one step.
    have whole : run ++ (runs.flatten ++ rest) = [step] := by
      have := stores.whole
      rwa [List.flatten_cons, List.append_assoc] at this
    have solid : run ≠ [] := by
      intro empty
      exact stores.solid run List.mem_cons_self (by rw [empty]; rfl)
    have cut : run = [step] ∧ runs.flatten ++ rest = [] := by
      rcases List.append_eq_singleton_iff.1 whole with ⟨empty, -⟩ | cut
      · exact absurd empty solid
      · exact cut
    rw [sent, stores.filled, storing, cut.1, cut.2]
    have same : (fresh.started [step]).marker = marker := marked
    rw [same]
    exact List.mem_cons_self

/-- **Chunks can be sent just if the limits keep them within 251 bytes.** For whatever limits and marker are accepted
and whatever is asked of the upload then, it sends commands that give up a macro and chunks: a chunk is tracked with no
more bytes than the limits allow, and carries two more, or three if it is the last. All of them can be encoded, whatever
is asked, if and only if no chunk may be larger than 251 bytes. The writer then leaves none of them out. -/
theorem sendable_iff {budget maxChunk minThreshold : Nat}
    (accepted : Limits.make budget maxChunk minThreshold = .ok limits) (made : make limits marker = .ok fresh) :
    (∀ requests, ∀ c ∈ fresh.uploads requests, c = .abortMacro ∨
      ∃ run rest, c = store marker run rest ∧ stepBytes run ≠ [] ∧ (block marker run).length ≤ maxChunk ∧
        c.data.length = (block marker run).length + if rest.isEmpty then 3 else 2) ∧
    ((∀ requests, ∀ c ∈ fresh.uploads requests, c.encode = .ok c.toBytes) ↔ maxChunk ≤ sendableChunk) ∧
    (maxChunk ≤ sendableChunk → ∀ requests (batch : List Outbox.Item),
      (∀ item ∈ batch, item.command ∈ fresh.uploads requests) →
        Outbox.encodable batch = batch ∧ Outbox.rejections batch = []) := by
  obtain ⟨-, bound, -⟩ := Limits.eq_of_make accepted
  have carried : ∀ requests, ∀ c ∈ fresh.uploads requests, c = .abortMacro ∨
      ∃ run rest, c = store marker run rest ∧ stepBytes run ≠ [] ∧ (block marker run).length ≤ maxChunk ∧
        c.data.length = (block marker run).length + if rest.isEmpty then 3 else 2 := by
    intro requests c sent
    rcases mem_uploads made sent with aborts | ⟨run, rest, rfl, bytes, fits⟩
    · exact .inl aborts
    · rw [bound] at fits
      exact .inr ⟨run, rest, rfl, bytes, fits, length_data_store marker run rest⟩
  have fit (small : maxChunk ≤ sendableChunk) (requests : List Request) :
      ∀ c ∈ fresh.uploads requests, c.Encodable := by
    intro c sent
    rcases carried requests c sent with rfl | ⟨run, rest, -, -, fits, length⟩
    · exact Nat.zero_le _
    · have : c.data.length ≤ (block marker run).length + 3 := by
        rw [length]
        split <;> omega
      unfold sendableChunk at small
      unfold Command.Encodable Command.maxData
      omega
  refine ⟨carried, ⟨?_, ?_⟩, ?_⟩
  · intro all
    apply Nat.le_of_not_lt
    intro large
    have room : marker.length < limits.maxChunk := by
      obtain ⟨fits, -⟩ := make_eq made
      exact fits
    -- The largest step that is accepted.
    let step : Step := .raw (.replicate (limits.maxChunk - marker.length) 0)
    have length : step.length = limits.maxChunk - marker.length := List.length_replicate
    have sent := store_mem_uploads made step (by omega) (by omega)
    have carries := length_data_store marker [step] []
    rw [length_block, stepsLength_cons, stepsLength_nil, length] at carries
    have refused := all _ _ sent
    rw [Command.encode, if_pos] at refused
    · cases refused
    · rw [carries]
      unfold sendableChunk at large
      simp only [List.isEmpty_nil, if_true, Command.maxData]
      omega
  · intro small requests c sent
    exact Command.encode_of_encodable (fit small requests c sent)
  · intro small requests batch sent
    have encodes (item : Outbox.Item) (member : item ∈ batch) : item.command.Encodable :=
      fit small requests _ (sent item member)
    constructor
    · rw [Outbox.encodable, List.filter_eq_self]
      intro item member
      exact decide_eq_true (encodes item member)
    · rw [Outbox.rejections, List.filterMap_eq_nil_iff]
      intro item member
      rw [Command.encode_of_encodable (encodes item member)]

/-- The limits of the robot's own memory are safe. -/
example : Limits.standard.maxChunk ≤ sendableChunk := by decide

/-- A step that fills the largest chunk that can be sent: its command carries all that a packet can hold. -/
theorem sendable_iff_fullPacket :
    let step : Step := .raw (.replicate 249 0x42)
    ∃ limits fresh, Limits.make 900 251 50 = .ok limits ∧ make limits (.emit 1) = .ok fresh ∧
      251 ≤ sendableChunk ∧ fresh.uploads [.submit [step]] = [store (.emit 1) [step] []] ∧
      (store (.emit 1) [step] []).data.length = 254 ∧
      ∀ requests, ∀ c ∈ fresh.uploads requests, c.encode = .ok c.toBytes := by
  intro step
  have accepted : Limits.make 900 251 50 = .ok ⟨900, 251, 50, by decide, by decide, by decide⟩ := rfl
  have made : make ⟨900, 251, 50, by decide, by decide, by decide⟩ (.emit 1) = .ok _ := rfl
  obtain ⟨-, sendable, -⟩ := sendable_iff accepted made
  have small : 251 ≤ sendableChunk := Nat.le_refl _
  refine ⟨_, _, accepted, made, small, ?_, ?_, sendable.2 small⟩
  · decide +kernel
  · decide +kernel

/-- Limits with chunks of a thousand bytes are accepted, and so are three steps of a hundred bytes. They make one chunk,
which no packet can hold: the writer leaves it out, while the upload waits for its marker. -/
theorem chunk_over_packet :
    let steps : List Step := .replicate 3 (.raw (.replicate 100 0x42))
    let chunk := store (.emit 1) steps []
    ∃ limits fresh, Limits.make 1000 1000 0 = .ok limits ∧ make limits (.emit 1) = .ok fresh ∧
      fresh.uploads [.submit steps] = [chunk] ∧
      chunk.encode = .error ⟨.saveMacro, 305⟩ ∧
      (Outbox.run 2048 {} [⟨chunk, true⟩]).emissions = [.dropped chunk ⟨.saveMacro, 305⟩] ∧
      (fresh.after [.submit steps]).running = true ∧ (fresh.after [.submit steps]).outstanding = 1 := by
  intro steps chunk
  have long : chunk.data.length = 305 := by decide +kernel
  refine ⟨_, _, rfl, rfl, ?_, ?_, ?_, ?_, ?_⟩
  · decide +kernel
  · have large : chunk.data.length > Command.maxData := by
      rw [long]
      decide
    rw [Command.encode, if_pos large, long]
    rfl
  · decide +kernel
  · decide +kernel
  · decide +kernel

end Upload

end RobotDriver.Macro
