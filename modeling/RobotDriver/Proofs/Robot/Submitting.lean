import RobotDriver.Proofs.Robot.Hearing
import RobotDriver.Proofs.Robot.LastWords
import RobotDriver.Proofs.Robot.News

/-!
# What the answer to a submitted macro means

A macro that is submitted produces commands for the queue, `macroItems`. `Submission` says what the answer tells about
them: a yes that all have entered the queue, a no that nothing at all has happened, if only the connection is in use or
there is none. While it is being closed, a macro that is to be streamed gets a yes though the queue takes nothing any
more; `accepted_unqueued` is such a run.
-/

namespace RobotDriver

namespace Robot

variable {r s : Robot} {link : Link} {item : Outbox.Item} {items : List Outbox.Item} {m : Macro}

/-! ## Offers to the queue -/

theorem Gated.tends (h : Gated r) (tends : TendsLightly r s) : Gated s :=
  have act : Act Privilege.all r s := .tends tends
  ⟨h.watched.act act, h.act act⟩

/-- An open queue with a writer behind it accepts whatever it is offered. -/
theorem enqueue_of_open (hs : r.session = .up link) (accepting : link.outbox.accepting = true)
    (attended : link.outbox.attended = true) (item : Outbox.Item) : (r.enqueue item).1 = true := by
  have entered : link.outbox.enqueue item = .ok { link.outbox with queue := link.outbox.queue ++ [item] } := by
    simp [Outbox.enqueue, Outbox.push, accepting, attended]
  unfold enqueue
  simp only [link?_of_up hs, entered]

/-- The queue of a connection that is in use accepts whatever it is offered. -/
theorem enqueue_of_connected (gated : Gated r) (connected : r.isConnected = true) (item : Outbox.Item) :
    (r.enqueue item).1 = true := by
  obtain ⟨⟨-, watched⟩, accepting⟩ := gated
  unfold isConnected at connected
  cases hs : r.session with
  | down | closing => rw [hs] at connected; cases connected
  | up link =>
    rw [hs] at watched accepting
    exact enqueue_of_open hs accepting watched.2.2.1 item

/-- So does its scheduler, which has not stopped. -/
theorem submit_of_connected (gated : Gated r) (hs : r.session = .up link) (going : link.scheduler.stopped = false)
    (item : Outbox.Item) : (r.submit item).1 = true := by
  have connected : r.isConnected = true := by rw [isConnected, hs]; rfl
  unfold submit
  simp only [link?_of_up hs, going]
  exact enqueue_of_connected gated connected item

/-- Without a connection in use an offer comes to no more than notes. -/
theorem enqueue_of_disconnected (gated : r.session.Gated) (disconnected : r.isConnected = false)
    (item : Outbox.Item) : ∃ notes : List Note, r.enqueue item = (false, r.recordAll (notes.map .noted)) := by
  unfold isConnected at disconnected
  unfold enqueue link?
  cases hs : r.session with
  | down => exact ⟨[], by simp [Session.link?, recordAll_nil]⟩
  | up => rw [hs] at disconnected; cases disconnected
  | closing link closure =>
    rw [hs] at gated
    have refused : link.outbox.enqueue item = .error .gateClosed := by
      have closed : link.outbox.accepting = false := gated
      simp [Outbox.enqueue, closed]
    refine ⟨[refusalNote item .gateClosed], ?_⟩
    simp only [Session.link?, refused]
    rfl

theorem enqueueAll_of_disconnected (items : List Outbox.Item) (gated : r.session.Gated)
    (disconnected : r.isConnected = false) :
    ∃ notes : List Note, r.enqueueAll items = r.recordAll (notes.map .noted) := by
  induction items generalizing r with
  | nil => exact ⟨[], r.recordAll_nil.symm⟩
  | cons item items ih =>
    obtain ⟨first, offered⟩ := enqueue_of_disconnected gated disconnected item
    obtain ⟨more, rest⟩ := ih (r := r.recordAll (first.map .noted)) gated disconnected
    refine ⟨first ++ more, ?_⟩
    show (r.enqueue item).2.enqueueAll items = _
    rw [offered]
    refine rest.trans ?_
    simp [recordAll]

/-- A connection in use as such. -/
theorem session_of_connected (connected : r.isConnected = true) : ∃ link, r.session = .up link := by
  unfold isConnected at connected
  cases hs : r.session with
  | down | closing => rw [hs] at connected; cases connected
  | up link => exact ⟨link, rfl⟩

/-- What listeners send on a connection in use enters the queue behind all else. -/
theorem queueOf_tell (gated : Gated r) (hs : r.session = .up link) (report : Report) :
    ∃ more, (more = [] ∨ more = r.audience.replies report) ∧
      queueOf link.generation (r.tell report) = queueOf link.generation r ++ more := by
  obtain ⟨⟨-, watched⟩, accepting⟩ := gated
  rw [hs] at watched accepting
  have hl : r.link? = some link := link?_of_up hs
  have told : (r.tell report).link? = some (link.sent (r.audience.replies report)) := by
    rw [link?, session_tell, Session.link?_mapLink, ← link?, hl]
    rfl
  by_cases stopped : link.scheduler.stopped = true
  · have same : link.sent (r.audience.replies report) = link := if_pos stopped
    rw [same] at told
    refine ⟨[], .inl rfl, ?_⟩
    rw [queueOf_current (current?_of_link told), queueOf_current (current?_of_link hl), List.append_nil]
  · have sent : link.sent (r.audience.replies report) =
        link.withOutbox { link.outbox with queue := link.outbox.queue ++ r.audience.replies report } := by
      refine (if_neg stopped).trans ?_
      rw [Outbox.foldl_offer_of_open _ accepting watched.2.2.1]
    rw [sent] at told
    refine ⟨r.audience.replies report, .inr rfl, ?_⟩
    have there : (r.tell report).current? link.generation =
        some (link.withOutbox { link.outbox with queue := link.outbox.queue ++ r.audience.replies report }) :=
      current?_of_link told
    rw [queueOf_current there, queueOf_current (current?_of_link hl)]
    rfl

/-! ## Submissions -/

/-- The commands that store a macro in one piece and run it. -/
def storingItems (bytes : Bytes) : List Outbox.Item :=
  [⟨.saveTemporaryMacro Command.motorControlFlag bytes, true⟩, ⟨.runMacro Command.temporaryMacroId, true⟩]

/-- The commands that a macro produces at once when it is submitted: those that store and run it, or those that give up
the macro that runs, the first uploads and, if the macro is over with them, what has waited for its end. -/
def macroItems (r : Robot) (m : Macro) : List Outbox.Item :=
  match m.mode with
  | .normal => storingItems m.toBytes
  | .streaming =>
    match r.upload.submit m.steps with
    | .error _ => []
    | .ok (_, progress) => followUpItems progress.uploads (progress.finished.getD [])

/-- What the answer to a submitted macro tells of what has been done. -/
inductive Submission (r : Robot) (m : Macro) : Except MacroError Bool → Robot → Prop
  /-- The macro is not fit to be sent. -/
  | unfit (e : MacroError) : Submission r m (.error e) r
  /-- Nothing has happened but what is noted. -/
  | dropped (notes : List Note) : Submission r m (.ok false) (r.recordAll (notes.map .noted))
  /-- All commands have entered the queue, in order, and behind them no more than what listeners send when they hear that
  the macro is over at once. -/
  | queued {s : Robot} (connected : r.isConnected = true) (link : Link) (hl : r.link? = some link)
      (more : List Outbox.Item) (replies : more = [] ∨ more = r.audience.replies (.event .macroDone))
      (queue : queueOf link.generation s = queueOf link.generation r ++ r.macroItems m ++ more)
      (still : s.isConnected = true) : Submission r m (.ok true) s
  /-- The macro is taken up for streaming, but the connection is being closed and has taken none of the commands. -/
  | unqueued {s : Robot} (streaming : m.mode = .streaming) (disconnected : r.isConnected = false)
      (closing : r.link?.isSome = true) (session : s.session = r.session) : Submission r m (.ok true) s

theorem submission_storeMacro (gated : Gated r) (normal : m.mode = .normal) :
    Submission r m (r.storeMacro m.toBytes).1 (r.storeMacro m.toBytes).2 := by
  unfold storeMacro
  split
  · exact .unfit _
  · let stored := (r.enqueue ⟨.saveTemporaryMacro Command.motorControlFlag m.toBytes, true⟩).2
    show Submission r m (.ok (stored.enqueue ⟨.runMacro Command.temporaryMacroId, true⟩).1)
      (r.enqueueAll (storingItems m.toBytes))
    cases connected : r.isConnected with
    | true =>
      obtain ⟨link, hs⟩ := session_of_connected connected
      have hl : r.link? = some link := link?_of_up hs
      obtain ⟨_, _, sent⟩ := sends_enqueueAll (storingItems m.toBytes) r
      obtain ⟨_, _, first⟩ := sends_enqueue r ⟨.saveTemporaryMacro Command.motorControlFlag m.toBytes, true⟩
      have accepted := enqueue_of_connected (gated.tends (gentle_tends.enqueue r _))
        (first.isConnected.trans connected) ⟨.runMacro Command.temporaryMacroId, true⟩
      have items : r.macroItems m = storingItems m.toBytes := by rw [macroItems, normal]
      rw [accepted]
      refine .queued connected link hl [] (.inl rfl) ?_ (sent.isConnected.trans connected)
      rw [gated.queue_enqueueAll hl, if_pos connected, items, List.append_nil]
    | false =>
      obtain ⟨notes, noted⟩ := enqueueAll_of_disconnected (storingItems m.toBytes) gated.session connected
      obtain ⟨first, offered⟩ := enqueue_of_disconnected gated.session connected
        ⟨.saveTemporaryMacro Command.motorControlFlag m.toBytes, true⟩
      obtain ⟨second, again⟩ := enqueue_of_disconnected (r := r.recordAll (first.map .noted)) gated.session connected
        ⟨.runMacro Command.temporaryMacroId, true⟩
      have answer : (stored.enqueue ⟨.runMacro Command.temporaryMacroId, true⟩).1 = false := by
        simp only [stored, offered, again]
      rw [answer, noted]
      exact .dropped notes

/-- Offers the commands of a macro to the queue, and tells its end if it has come. -/
def offerMacro (r : Robot) (items : List Outbox.Item) (ended : Bool) : Robot :=
  let next := r.enqueueAll items
  if ended then next.tellEvent .macroDone else next

theorem progressMacro_eq (r : Robot) (upload : Macro.Upload) (progress : Macro.Progress) : ∃ notes : List Note,
    r.progressMacro upload progress = ({ r with upload }.recordAll (notes.map .noted)).offerMacro
      (followUpItems progress.uploads (progress.finished.getD [])) progress.finished.isSome := by
  obtain ⟨uploads, finished⟩ := progress
  cases finished with
  | none =>
    refine ⟨[], ?_⟩
    rw [List.map_nil, recordAll_nil]
    rfl
  | some followUps => exact ⟨[.macroFinished followUps.length], rfl⟩

theorem queueOf_offerMacro (gated : Gated r) (hs : r.session = .up link) (items : List Outbox.Item) (ended : Bool) :
    (∃ more, (more = [] ∨ more = r.audience.replies (.event .macroDone)) ∧
      queueOf link.generation (r.offerMacro items ended) = queueOf link.generation r ++ items ++ more) ∧
    (r.offerMacro items ended).isConnected = true := by
  have connected : r.isConnected = true := by rw [isConnected, hs]; rfl
  have hl : r.link? = some link := link?_of_up hs
  obtain ⟨_, _, sent⟩ := sends_enqueueAll items r
  have still : (r.enqueueAll items).isConnected = true := sent.isConnected.trans connected
  have entered : queueOf link.generation (r.enqueueAll items) = queueOf link.generation r ++ items := by
    rw [gated.queue_enqueueAll hl, if_pos connected]
  cases ended with
  | false => exact ⟨⟨[], .inl rfl, entered.trans (List.append_nil _).symm⟩, still⟩
  | true =>
    obtain ⟨next, hn⟩ := session_of_connected still
    have generation : next.generation = link.generation := by
      have there := link?_enqueueAll items hl
      cases (link?_of_up hn).symm.trans there
      rfl
    have audience : (r.enqueueAll items).audience = r.audience := by
      obtain ⟨send, ready, same⟩ := sent
      rw [same]
    obtain ⟨more, replies, queue⟩ :=
      queueOf_tell (gated.tends (gentle_tends.enqueueAll r items)) hn (.event .macroDone)
    obtain ⟨_, _, told⟩ := sends_tell (r.enqueueAll items) (.event .macroDone)
    rw [generation, entered] at queue
    rw [audience] at replies
    exact ⟨⟨more, replies, queue⟩, told.isConnected.trans still⟩

theorem session_offerMacro (gated : r.session.Gated) (disconnected : r.isConnected = false)
    (items : List Outbox.Item) (ended : Bool) : (r.offerMacro items ended).session = r.session := by
  obtain ⟨notes, offered⟩ := enqueueAll_of_disconnected items gated disconnected
  unfold offerMacro
  rw [offered]
  cases ended with
  | false => rfl
  | true => exact session_tell_of_disconnected (r := r.recordAll (notes.map .noted)) gated disconnected _

theorem submission_streamMacro (gated : Gated r) (streaming : m.mode = .streaming) (there : r.link?.isSome = true) :
    Submission r m (r.streamMacro m.steps).1 (r.streamMacro m.steps).2 := by
  unfold streamMacro
  split
  · exact .unfit _
  · next upload progress accepted =>
    have produced : r.macroItems m = followUpItems progress.uploads (progress.finished.getD []) := by
      rw [macroItems, streaming]
      simp only [accepted]
    -- What is noted before the commands are offered concerns neither the queue nor the listeners.
    have offered (notes : List Note) : Submission r m (.ok true)
        ((r.recordAll (notes.map .noted)).progressMacro upload progress) := by
      obtain ⟨more, same⟩ := (r.recordAll (notes.map .noted)).progressMacro_eq upload progress
      let noted := { r.recordAll (notes.map .noted) with upload }.recordAll (more.map .noted)
      have known : Gated noted := ⟨⟨gated.watched.rung, gated.watched.session⟩, gated.session⟩
      rw [same]
      cases connected : r.isConnected with
      | true =>
        obtain ⟨link, hs⟩ := session_of_connected connected
        obtain ⟨⟨more, replies, queue⟩, still⟩ := queueOf_offerMacro known hs (r.macroItems m) progress.finished.isSome
        have hl : r.link? = some link := link?_of_up hs
        rw [← produced]
        exact .queued connected link hl more replies queue still
      | false => exact .unqueued streaming connected there (session_offerMacro known.session connected _ _)
    dsimp only
    split
    · have both := offered [.macroAborted r.upload.backlog.length r.upload.outstanding,
        .macroSubmitted m.steps.length]
      simpa [recordAll, Robot.note, Robot.record, noteAbort] using both
    · exact offered [.macroSubmitted m.steps.length]

theorem submission_playMacro (gated : Gated r) (m : Macro) : Submission r m (r.playMacro m).1 (r.playMacro m).2 := by
  unfold playMacro
  split
  · exact .dropped [.macroWithoutConnection]
  · next there =>
    have there : r.link?.isSome = true := by simpa [Option.isSome_iff_ne_none] using there
    split
    · next normal => exact submission_storeMacro gated normal
    · next streaming =>
      split
      · exact submission_streamMacro gated streaming there
      · exact .dropped [.macroStreamingDisabled]

/-! ## Runs -/

/-- **The answer to a submitted macro tells what has become of it**, in any run and for macros of both kinds. After a
no, or an error, nothing has changed but what is noted, so that nothing is queued and the macro that runs is the same.
After a yes all commands that the macro has produced have entered the queue of the connection that is in use, in order;
or else the connection is being closed, the macro is to be streamed, and the queue has taken nothing. -/
theorem submission_after {address : String} {settings : Settings} {start : Robot}
    (made : make address settings = .ok start) (moves : List Move) (m : Macro) :
    let r := start.after moves
    Submission r m (r.playMacro m).1 (r.playMacro m).2 :=
  submission_playMacro ((strides_after moves start).gated (gated_make made)) m

/-- The robot has confirmed all that it has been told. -/
def inUse : List Move :=
  [.perform (.ask .connect), settling, acceptances 5, settling]

/-- A macro of two steps. -/
def twoDelays : Macro :=
  ⟨.streaming, [.delay 300, .delay 300]⟩

theorem submission_after_inUse :
    ∃ start, make "00:06:66:AA:BB:CC" {} = .ok start ∧
      Submission (start.after inUse) twoDelays ((start.after inUse).playMacro twoDelays).1
        ((start.after inUse).playMacro twoDelays).2 ∧
      ((start.after inUse).playMacro twoDelays).1.toOption = some true ∧
      queueOf 1 ((start.after inUse).playMacro twoDelays).2 = (start.after inUse).macroItems twoDelays ∧
      ((start.after inUse).macroItems twoDelays).length = 1 :=
  ⟨_, System.make_unused, submission_after System.make_unused inUse twoDelays, by decide +kernel, by decide +kernel,
    by decide +kernel⟩

/-- A macro is streamed while the connection is being closed: the answer is yes, and the macro runs from now on, but
none of its commands is in the queue. -/
theorem accepted_unqueued :
    ∃ start, make "00:06:66:AA:BB:CC" {} = .ok start ∧
      let r := start.after (inUse ++ [.perform (.ask .disconnect), settling])
      (r.playMacro twoDelays).1.toOption = some true ∧ r.upload.running = false ∧
        (r.playMacro twoDelays).2.upload.running = true ∧ (r.macroItems twoDelays).length = 1 ∧
        queueOf 1 (r.playMacro twoDelays).2 = [] ∧ (r.playMacro twoDelays).2.link?.isSome = true :=
  ⟨_, System.make_unused, by decide +kernel⟩

end Robot

end RobotDriver
