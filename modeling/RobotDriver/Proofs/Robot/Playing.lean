import RobotDriver.Proofs.Robot.Growing
import RobotDriver.Proofs.Upload.Player

/-!
# A macro is played

While a connection is there and no macro begins or is given up, nothing but markers changes what is tracked of the
macro that runs: `Tracks` says so of what is done from one state to another. A `System` is a driver with the robot that
plays its macro, the chunks that are on the way to it and the reports that have come back. `chunks_follow_player` shows
that the driver keeps track of the robot if none but the driver's own marker is reported, and
`macroDone_before_player` that it does not if the macro has a step that reports.
-/

namespace RobotDriver

/-- The payload of the marker that the deed tells of. -/
def Deed.marker? : Deed → Option Bytes
  | received _ p => if p.isMarker then some p.payload else none
  | _ => none

/-- The payloads of the markers that are handled, in order. -/
def markers (ds : List Deed) : List Bytes :=
  ds.filterMap Deed.marker?

theorem markers_append (ds es : List Deed) : markers (ds ++ es) = markers ds ++ markers es :=
  List.filterMap_append

theorem Packet.isMarker_of_isResponse {p : Packet} (h : p.IsResponse) : p.isMarker = false := by
  have response : p.header.packetClass = .ok .response := h
  simp [Packet.isMarker, response]

theorem Deed.marker?_of_isLight {d : Deed} (h : d.isLight = true) : d.marker? = none := by
  cases d with
  | received => cases h
  | _ => rfl

theorem markers_of_isLight {ds : List Deed} (h : ∀ d ∈ ds, d.isLight = true) : markers ds = [] :=
  List.filterMap_eq_nil_iff.2 fun d there => Deed.marker?_of_isLight (h d there)

namespace Robot

open Macro.Upload (acknowledgements SameMacro)

variable {may : Privilege → Prop} {r s t : Robot} {ds es : List Deed} {g : Nat}

/-- From `r` to `s` each marker is an acknowledgement, and nothing else is. -/
structure Tracks (r : Robot) (ds : List Deed) (s : Robot) : Prop where
  journal : s.journal = r.journal ++ ds
  upload : SameMacro (r.upload.after (acknowledgements (markers ds).length)) s.upload
  told : (∃ d ∈ ds, d.tellsDone = true) → s.upload.running = false

/-- The end of the macro is told only when no macro runs, and none begins by being tracked. -/
theorem Tracks.ended (k : Tracks s es t) (told : (∃ d ∈ ds, d.tellsDone = true) → s.upload.running = false) :
    (∃ d ∈ ds ++ es, d.tellsDone = true) → t.upload.running = false := by
  rintro ⟨d, hd, done⟩
  rcases List.mem_append.1 hd with hd | hd
  · have idle := told ⟨d, hd, done⟩
    rw [k.upload.running, Macro.Upload.after_acknowledgements_of_idle idle]
    exact idle
  · exact k.told ⟨d, hd, done⟩

theorem Tracks.trans (h : Tracks r ds s) (k : Tracks s es t) : Tracks r (ds ++ es) t where
  journal := by rw [k.journal, h.journal, List.append_assoc]
  upload := by
    rw [markers_append, List.length_append, Macro.Upload.after_acknowledgements_add]
    exact (h.upload.after _).trans k.upload
  told := k.ended h.told

/-- No marker is handled and no end of a macro told. -/
theorem tracks_quietly (upload : SameMacro r.upload s.upload) (journal : s.journal = r.journal ++ ds)
    (quiet : ∀ d ∈ ds, d.marker? = none ∧ d.tellsDone = false) : Tracks r ds s where
  journal := journal
  upload := by
    have none : markers ds = [] := List.filterMap_eq_nil_iff.2 fun d there => (quiet d there).1
    rw [none]
    exact upload
  told := by
    rintro ⟨d, hd, done⟩
    rw [(quiet d hd).2] at done
    cases done

theorem quiet_answer {entry : InFlight.Entry} {p : Packet} {notes : List Note} (response : p.IsResponse) :
    ∀ d ∈ .received g p :: .answered g entry p :: notes.map Deed.noted, d.marker? = none ∧ d.tellsDone = false := by
  simp [Deed.marker?, Deed.tellsDone, Packet.isMarker_of_isResponse response]

theorem quiet_of_isWriters {d : Deed} (h : d.isWriters g = true) : d.marker? = none ∧ d.tellsDone = false := by
  cases d with
  | received | reported => cases h
  | _ => exact ⟨rfl, rfl⟩

/-- An act with a connection before and after. -/
theorem Act.tracks (act : Act may r s) (still : ¬ may .play) (watched : Watched r) (before : r.link?.isSome = true)
    (after : s.link?.isSome = true) : ∃ ds, Tracks r ds s := by
  have quietly (upload : SameMacro r.upload s.upload) (journal : s.journal = r.journal) : ∃ ds, Tracks r ds s :=
    ⟨[], tracks_quietly upload (by rw [journal, List.append_nil]) (by simp)⟩
  have parted (q : Robot) (n : Note) (e : Event) (gone : (q.part n e).link?.isSome = true) : False := by
    obtain ⟨hearers, told, -, -, same⟩ := q.part_eq n e
    rw [same] at gone
    cases gone
  cases act with
  | tends tends =>
    obtain ⟨ds, slight, tends⟩ := tends
    have same : s.upload = r.upload := by rw [tends.rest]
    refine ⟨ds, tracks_quietly (same ▸ .refl _) tends.journal fun d hd => ?_⟩
    exact ⟨Deed.marker?_of_isLight (Deed.isLight_of_isSlight (slight d hd)), Deed.tellsDone_of_isSlight (slight d hd)⟩
  | sink | dialled | called | surplus | watched | taken => exact quietly (.refl _) rfl
  | followed later =>
    refine quietly ?_ rfl
    rcases later with ⟨command, rfl⟩ | rfl
    · exact ⟨r.upload.followUps ++ [command], rfl⟩
    · exact ⟨[], rfl⟩
  | aborted allowed | submitted allowed => exact absurd allowed still
  | took | finished | returned =>
    exact ⟨_, tracks_quietly (.refl _) rfl (List.forall_mem_singleton.2 ⟨rfl, rfl⟩)⟩
  | @received link hl p unmatched other =>
    cases marker : p.isMarker with
    | false =>
      refine ⟨_, tracks_quietly (.refl _) rfl (List.forall_mem_singleton.2 ⟨?_, rfl⟩)⟩
      simp [Deed.marker?, marker]
    | true =>
      -- There is no macro to which the marker belongs.
      refine ⟨[.received link.generation p], rfl, ?_, by simp [Deed.tellsDone]⟩
      rw [Macro.Upload.after_acknowledgements_of_idle (other marker)]
      exact .refl _
  | @marked link hl p marker running ds s progresses =>
    have same : s.upload = r.upload.acknowledge.1 := by rw [progresses.tends.rest]
    have one : markers (.received link.generation p :: ds) = [p.payload] := by
      have first : (Deed.received link.generation p).marker? = some p.payload := if_pos marker
      have none := markers_of_isLight progresses.light
      rw [markers] at none ⊢
      rw [List.filterMap_cons_some first, none]
    refine ⟨.received link.generation p :: ds, ?_, ?_, ?_⟩
    · exact progresses.tends.journal.trans (List.append_assoc _ _ _)
    · rw [one, same]
      exact .refl _
    · rintro ⟨d, hd, done⟩
      rcases List.mem_cons.1 hd with rfl | hd
      · cases done
      · rw [same]
        exact Macro.Upload.running_of_finished (progresses.told.1 ⟨d, hd, done⟩)
  | answered hl response | echoed hs first response =>
    exact ⟨_, tracks_quietly (.refl _) rfl (quiet_answer response)⟩
  | expired hl oldest =>
    exact ⟨_, tracks_quietly (.refl _) rfl (by simp [Deed.marker?, Deed.tellsDone])⟩
  | worked allowed hl tells =>
    exact ⟨_, tracks_quietly (.refl _) rfl fun d hd => quiet_of_isWriters (tells.own d hd)⟩
  | begun hs launched =>
    rw [link?_of_down hs] at before
    cases before
  | @closing link hs waiter =>
    obtain ⟨tasks, -, begins⟩ := r.beginDisconnect_eq (watched.attended hs) waiter
    rw [begins]
    exact ⟨_, tracks_quietly (.refl _) rfl (List.forall_mem_singleton.2 ⟨rfl, rfl⟩)⟩
  | confirmed | lost | broken | lapsed => exact (parted _ _ _ after).elim

/-- A connection that is there after acts and was known before was there before. -/
theorem Acts.reaches (acts : Acts may r s) (watched : Watched r) (later : s.Reaches g) : r.Reaches g := by
  induction acts using Relation.ReflTransGen.head_induction_on with
  | refl => exact later
  | head act _ ih =>
    obtain ⟨ds, grows⟩ := act.grows watched
    exact grows.reaches (ih (watched.act act))

/-- Acts by which a connection does not end. -/
theorem Acts.tracks (acts : Acts may r s) (still : ¬ may .play) (watched : Watched r)
    (before : (r.current? g).isSome = true) (after : (s.current? g).isSome = true) : ∃ ds, Tracks r ds s := by
  have reached {q : Robot} (there : (q.current? g).isSome = true) :
      ∃ link, q.link? = some link ∧ link.generation = g := by
    obtain ⟨link, current⟩ := Option.isSome_iff_exists.1 there
    exact ⟨link, current?_eq_some.1 current⟩
  induction acts using Relation.ReflTransGen.head_induction_on with
  | refl => exact ⟨[], tracks_quietly (.refl _) (List.append_nil _).symm (by simp)⟩
  | @head r q act acts ih =>
    have watches := watched.act act
    obtain ⟨es, grows⟩ := act.grows watched
    obtain ⟨link, hl, own⟩ := reached before
    have known : g ≤ q.generations := own ▸ Nat.le_trans (watched.session.known hl) grows.generations
    have between : (q.current? g).isSome = true := by
      rcases Acts.reaches acts watches (.inl (reached after)) with ⟨next, hn, own⟩ | unknown
      · rw [current?_eq_some.2 ⟨hn, own⟩]
        rfl
      · omega
    obtain ⟨next, hn, -⟩ := reached between
    obtain ⟨ds, first⟩ := act.tracks still watched (by rw [hl]; rfl) (by rw [hn]; rfl)
    obtain ⟨more, rest⟩ := ih watches between
    exact ⟨ds ++ more, first.trans rest⟩

/-- A move by which a connection does not end. -/
theorem tracks_move {m : Move} (single : m.isSingle = true) (still : m.plays = false) (watched : Watched r)
    (before : (r.current? g).isSome = true) (after : ((r.move m).current? g).isSome = true) :
    ∃ ds, Tracks r ds (r.move m) := by
  -- The writer may work, but no macro begins or is given up.
  have instantly (instant : m.isInstant = true) : ∃ ds, Tracks r ds (r.move m) := by
    have acts : Acts (· ≠ .play) r (r.move m) := by
      refine acts_move r instant (fun _ => nofun) (fun plays => ?_) fun _ _ => nofun
      rw [still] at plays
      cases plays
    exact acts.tracks (fun other => other rfl) watched before after
  cases m with
  | perform step => exact instantly single
  | run => exact instantly rfl
  | tick | abandon => exact ⟨[], tracks_quietly (.refl _) (List.append_nil _).symm (by simp)⟩
  | ring =>
    obtain ⟨tasks, rings⟩ := r.ring_eq
    refine ⟨[], tracks_quietly ?_ ?_ (by simp)⟩
    · rw [Robot.move, rings]
      exact .refl _
    · rw [Robot.move, rings, List.append_nil]
  | quit =>
    have gone : (r.move .quit).session = .down := by
      simp only [Robot.move, Robot.quit]
    rw [current?, link?_of_down gone] at after
    cases after

/-! ## The upload of a driver -/

/-- Whatever a driver does, it does to its upload by requests. -/
theorem Act.requests (act : Act may r s) : ∃ requests, s.upload = r.upload.after requests := by
  have untouched (same : s.upload = r.upload) : ∃ requests, s.upload = r.upload.after requests := ⟨[], same⟩
  have parted (q : Robot) (n : Note) (e : Event) : (q.part n e).upload = q.upload := by
    obtain ⟨hearers, told, -, -, same⟩ := q.part_eq n e
    rw [same]
  cases act with
  | tends tends =>
    obtain ⟨ds, -, tends⟩ := tends
    exact untouched (by rw [tends.rest])
  | marked hl marker running progresses => exact ⟨[.acknowledge], by rw [progresses.tends.rest]; rfl⟩
  | @submitted allowed steps upload progress accepted ds s progresses =>
    have step : r.upload.step (.submit steps) = (.progress progress, upload) := by
      rw [Macro.Upload.step, accepted]
    refine ⟨[.submit steps], ?_⟩
    rw [progresses.tends.rest, Macro.Upload.after, List.foldl_cons, step]
    rfl
  | aborted => exact ⟨[.abort], rfl⟩
  | followed later =>
    rcases later with ⟨command, rfl⟩ | rfl
    · exact ⟨[.sendAfter command], rfl⟩
    · exact ⟨[.clearAfter], rfl⟩
  | begun hs launched =>
    obtain ⟨calm, hearers, told, -, -, -, tends⟩ := begun_tends launched
    refine ⟨[.clear], ?_⟩
    rw [tends.rest, fresh_eq]
    rfl
  | @closing link hs waiter => exact untouched (r.beginDisconnect_still link waiter).2.2.2.2.1
  | confirmed | lost | broken | lapsed => exact untouched (parted _ _ _)
  | _ => exact untouched rfl

theorem Passage.requests {kept : Prop} (passage : Passage kept r s) :
    ∃ requests, s.upload = r.upload.after requests := by
  cases passage with
  | act act => exact act.requests
  | tick | abandon => exact ⟨[], rfl⟩
  | ring =>
    obtain ⟨tasks, rings⟩ := r.ring_eq
    exact ⟨[], by rw [rings]; rfl⟩
  | quit =>
    exact ⟨[], by rw [quit_eq]; rfl⟩

/-- The upload has come to be what it is by requests to one that is idle. -/
def Asked (r : Robot) : Prop :=
  ∃ requests, r.upload = idleUpload.after requests

theorem Asked.next (h : Asked r) (step : ∃ requests, s.upload = r.upload.after requests) : Asked s := by
  obtain ⟨requests, same⟩ := h
  obtain ⟨more, next⟩ := step
  exact ⟨requests ++ more, by rw [next, same, Macro.Upload.after_append]⟩

theorem Asked.after (h : Asked r) (moves : List Move) : Asked (r.after moves) :=
  keeps_after False (fun asked passage => asked.next passage.requests) moves nofun h

theorem upload_after {address : String} {settings : Settings} {start : Robot}
    (made : make address settings = .ok start) (moves : List Move) : Asked (start.after moves) := by
  obtain ⟨address, rfl⟩ := eq_of_make made
  exact Asked.after ⟨[], rfl⟩ moves

theorem Asked.sound (h : Asked r) : r.upload.Sound := by
  obtain ⟨requests, same⟩ := h
  have idle : Macro.Upload.make .standard marker = .ok idleUpload := rfl
  rw [same]
  exact Macro.Upload.sound_after (Macro.Upload.sound_make idle).1 requests

theorem Asked.fixed (h : Asked r) : r.upload.limits = .standard ∧ r.upload.marker = marker := by
  obtain ⟨requests, same⟩ := h
  rw [same]
  exact Macro.Upload.after_fixed idleUpload requests

/-- The upload of a driver is in order at any time, and its chunks end in the marker of the driver. -/
theorem sound_upload_after {address : String} {settings : Settings} {start : Robot}
    (made : make address settings = .ok start) (moves : List Move) :
    (start.after moves).upload.Sound ∧ (start.after moves).upload.marker = marker :=
  ⟨(upload_after made moves).sound, (upload_after made moves).fixed.2⟩

/-- A macro that is accepted is submitted, and its end is told if it has no bytes. -/
theorem playMacro_accepted {steps : List Macro.Step} (played : r.playMacro ⟨.streaming, steps⟩ = (.ok true, s)) :
    ∃ upload progress, r.upload.submit steps = .ok (upload, progress) ∧
      ∃ ds, Progresses progress.finished.isSome { r with upload } ds s := by
  unfold playMacro streamMacro at played
  split at played
  · cases played
  · dsimp only at played
    split at played
    · split at played
      · cases played
      · next upload progress accepted =>
        refine ⟨upload, progress, accepted, ?_⟩
        have submitted (q : Robot) (noted : TendsLightly { r with upload } { q with upload }) :
            ∃ ds, Progresses progress.finished.isSome { r with upload } ds
              ((q.note (.macroSubmitted steps.length)).progressMacro upload progress) := by
          obtain ⟨ds, progresses⟩ := progresses_progressMacro (q.note (.macroSubmitted steps.length)) upload progress
          exact progresses.after (noted.trans (tends_note { q with upload } (.macroSubmitted steps.length) rfl))
        cases played
        split
        · exact submitted r.noteAbort (tends_note { r with upload } _ rfl)
        · exact submitted r (.refl _)
    · cases played

end Robot

/-! ## Driver and robot -/

/-- The payloads of the markers that the move handles. -/
def Robot.handles (r : Robot) (m : Move) : List Bytes :=
  markers ((r.move m).journal.drop r.journal.length)

open Macro (Player)
open Macro.Upload (acknowledgements)

/-- A driver, the robot that plays its macro, and what is between them. -/
structure System where
  driver : Robot
  player : Player := {}
  /-- The runs of steps that have been uploaded and have not arrived. -/
  way : List (List Macro.Step)
  /-- The payloads of the reports that the driver has handled. -/
  handled : List Bytes := []

namespace System

/-- A macro has just been accepted, in place of what the upload did before. -/
def begin (before : Macro.Upload) (steps : List Macro.Step) (driver : Robot) : System :=
  { driver, way := (before.started steps).fillRuns }

/-- The sizes of the uploaded chunks that the robot has not executed in full, oldest first. -/
def held (system : System) : List Nat :=
  system.player.chunks.map Player.Chunk.size ++ Macro.sizes Robot.marker system.way

/-- What happens between a driver and a robot. Chunks and reports arrive whole and in order, at any later time. -/
inductive Turn where
  /-- The driver makes a move. -/
  | drive (m : Move)
  /-- The oldest run that is on the way arrives. -/
  | arrive
  /-- The robot executes a step. -/
  | execute

/-- What comes of a turn, if it is possible: the driver neither submits a macro nor gives one up, the connection of the
generation `g` stays, and the markers that are handled have been sent. -/
def turn? (reports : Macro.Step → List UInt8) (g : Nat) (system : System) : Turn → Option System
  | .drive m =>
    let next : System :=
      { system with
        driver := system.driver.move m
        way := system.way ++ system.driver.upload.runsAfter (system.driver.handles m).length
        handled := system.handled ++ system.driver.handles m }
    if m.isSingle ∧ m.plays = false ∧ (next.driver.current? g).isSome ∧ next.handled <+: system.player.sent reports
    then some next else none
  | .arrive =>
    match system.way with
    | [] => none
    | run :: runs => some { system with player := system.player.store Robot.marker [run], way := runs }
  | .execute => some { system with player := system.player.execute }

/-- What comes of turns one after the other, if they are possible. -/
def after? (reports : Macro.Step → List UInt8) (g : Nat) (system : System) (turns : List Turn) : Option System :=
  turns.foldlM (turn? reports g) system

/-- What is known all along: of the runs of the macro, `finished` are executed and `left` are with the robot. -/
structure Follows (reports : Macro.Step → List UInt8) (g : Nat) (known : List Deed) (whole : List Macro.Step)
    (finished left : List (List Macro.Step)) (system : System) : Prop where
  sound : system.driver.upload.Sound
  marker : system.driver.upload.marker = Robot.marker
  watched : Robot.Watched system.driver
  there : (system.driver.current? g).isSome = true
  plays : Player.Plays Robot.marker finished left system.player
  delivered : ∃ commands freed, freed.length = system.handled.length ∧
    Macro.Upload.Delivered whole (finished ++ left ++ system.way) commands freed system.driver.upload
  handled : system.handled <+: system.player.sent reports
  told : ∃ ds, system.driver.journal = known ++ ds ∧
    ((∃ d ∈ ds, d.tellsDone = true) → system.driver.upload.running = false)

variable {reports : Macro.Step → List UInt8} {g : Nat} {known : List Deed} {whole : List Macro.Step}
  {finished left : List (List Macro.Step)} {system next : System}

/-- The reports that have been sent are those of the chunks that are executed. -/
theorem Follows.sent (h : Follows reports g known whole finished left system) (own : reports Robot.marker = [1])
    (silent : ∀ step ∈ whole, reports step = []) : system.player.sent reports = .replicate finished.length [1] := by
  obtain ⟨commands, freed, -, delivered⟩ := h.delivered
  refine h.plays.sent own fun run there step inside => silent step ?_
  rw [← delivered.whole]
  exact List.mem_append_left _ (List.mem_flatten_of_mem (List.mem_append_left _ there) inside)

/-- At most as many reports are handled as chunks are executed, and the tracked chunks are those whose report is not. -/
theorem Follows.tracked (h : Follows reports g known whole finished left system) (own : reports Robot.marker = [1])
    (silent : ∀ step ∈ whole, reports step = []) : system.handled.length ≤ finished.length ∧
      system.driver.upload.chunks = (Macro.sizes Robot.marker finished).drop system.handled.length ++ system.held := by
  have few := h.handled.length_le
  rw [h.sent own silent, List.length_replicate] at few
  obtain ⟨commands, freed, count, delivered⟩ := h.delivered
  refine ⟨few, ?_⟩
  have tracked := delivered.tracked
  rw [h.marker, List.append_assoc, Macro.sizes_append] at tracked
  have kept := congrArg (List.drop freed.length) tracked
  have short : freed.length ≤ (Macro.sizes Robot.marker finished).length := by
    rw [count, Macro.sizes, List.length_map]
    exact few
  rw [List.drop_left, List.drop_append_of_le_length short, count, Macro.sizes_append] at kept
  rw [kept, held, h.plays.size]

/-- The driver makes a move. -/
theorem Follows.drive (h : Follows reports g known whole finished left system) (own : reports Robot.marker = [1])
    (silent : ∀ step ∈ whole, reports step = []) {m : Move} (single : m.isSingle = true) (still : m.plays = false)
    (there : ((system.driver.move m).current? g).isSome = true)
    (sent : system.handled ++ system.driver.handles m <+: system.player.sent reports) :
    Follows reports g known whole finished left
      { system with
        driver := system.driver.move m
        way := system.way ++ system.driver.upload.runsAfter (system.driver.handles m).length
        handled := system.handled ++ system.driver.handles m } := by
  obtain ⟨few, tracked⟩ := h.tracked own silent
  obtain ⟨commands, freed, count, delivered⟩ := h.delivered
  obtain ⟨es, tracks⟩ := Robot.tracks_move single still h.watched h.there there
  have handles : system.driver.handles m = markers es := by
    rw [Robot.handles, tracks.journal, List.drop_left]
  rw [handles] at sent ⊢
  have new := sent.length_le
  rw [h.sent own silent, List.length_replicate, List.length_append] at new
  have enough : (markers es).length ≤ system.driver.upload.chunks.length := by
    rw [tracked, List.length_append, List.length_drop, Macro.sizes, List.length_map]
    omega
  obtain ⟨gone, length, later⟩ := delivered.acknowledgements h.sound enough
  have sound := tracks.upload.sound (Macro.Upload.sound_after h.sound (acknowledgements (markers es).length))
  have marker : (system.driver.move m).upload.marker = system.driver.upload.marker := by
    obtain ⟨followUps, same⟩ := tracks.upload
    rw [same]
    exact (Macro.Upload.after_fixed _ _).2
  obtain ⟨since, log, told⟩ := h.told
  refine ⟨sound, marker.trans h.marker, ?_, there, h.plays, ?_, sent, since ++ es, ?_, tracks.ended told⟩
  · exact Robot.keeps_after False (fun watched passage => watched.passage passage) [m] False.elim h.watched
  · rw [← List.append_assoc]
    exact ⟨_, freed ++ gone, by rw [List.length_append, List.length_append, count, length],
      tracks.upload.delivered later⟩
  · rw [tracks.journal, log, List.append_assoc]

/-- The oldest run that is on the way arrives. -/
theorem Follows.arrive (h : Follows reports g known whole finished left system) {run : List Macro.Step}
    {runs : List (List Macro.Step)} (first : system.way = run :: runs) :
    Follows reports g known whole finished (left ++ [run])
      { system with player := system.player.store Robot.marker [run], way := runs } := by
  obtain ⟨commands, freed, count, delivered⟩ := h.delivered
  refine ⟨h.sound, h.marker, h.watched, h.there, h.plays.store [run], ⟨commands, freed, count, ?_⟩, h.handled, h.told⟩
  rw [first] at delivered
  simpa using delivered

/-- The robot executes a step. -/
theorem Follows.execute (h : Follows reports g known whole finished left system) :
    ∃ finished left, Follows reports g known whole finished left { system with player := system.player.execute } := by
  obtain ⟨finished', left', same, plays⟩ := h.plays.execute
  refine ⟨finished', left', h.sound, h.marker, h.watched, h.there, plays, ?_, ?_, h.told⟩
  · rw [same]
    exact h.delivered
  · exact h.handled.trans (Player.sent_execute reports system.player)

theorem Follows.turn (h : Follows reports g known whole finished left system) (own : reports Robot.marker = [1])
    (silent : ∀ step ∈ whole, reports step = []) {turn : Turn} (possible : system.turn? reports g turn = some next) :
    ∃ finished left, Follows reports g known whole finished left next := by
  cases turn with
  | drive m =>
    obtain ⟨⟨single, still, there, sent⟩, taken⟩ := Option.ite_none_right_eq_some.1 possible
    obtain rfl := Option.some.inj taken
    exact ⟨finished, left, h.drive own silent single still there sent⟩
  | arrive =>
    unfold turn? at possible
    dsimp only at possible
    split at possible
    · cases possible
    next run runs first =>
    obtain rfl := Option.some.inj possible
    exact ⟨finished, left ++ [run], h.arrive first⟩
  | execute =>
    obtain rfl := Option.some.inj possible
    exact h.execute

theorem Follows.after (h : Follows reports g known whole finished left system) (own : reports Robot.marker = [1])
    (silent : ∀ step ∈ whole, reports step = []) {turns : List Turn}
    (possible : system.after? reports g turns = some next) :
    ∃ finished left, Follows reports g known whole finished left next := by
  induction turns generalizing system finished left with
  | nil =>
    cases possible
    exact ⟨finished, left, h⟩
  | cons turn turns ih =>
    obtain ⟨between, first, rest⟩ := Option.bind_eq_some_iff.1 possible
    obtain ⟨finished, left, h⟩ := h.turn own silent first
    exact ih h rest

/-- A macro that is accepted is followed from the beginning. -/
theorem follows_begin {address : String} {settings : Settings} {start driver : Robot} {link : Link}
    (made : Robot.make address settings = .ok start) (moves : List Move) {steps : List Macro.Step}
    (played : (start.after moves).playMacro ⟨.streaming, steps⟩ = (.ok true, driver)) (hl : driver.link? = some link) :
    ∃ whole, (whole = steps ∨ whole = [] ∧ Macro.stepBytes steps = []) ∧
      Follows reports link.generation (start.after moves).journal whole [] []
        (begin (start.after moves).upload steps driver) := by
  obtain ⟨sound, own⟩ := Robot.sound_upload_after made moves
  obtain ⟨upload, progress, accepted, ds, progresses⟩ := Robot.playMacro_accepted played
  obtain ⟨whole, same, delivered⟩ := Macro.Upload.delivered_submit sound accepted
  have taken : driver.upload = upload := by rw [progresses.tends.rest]
  have marker : upload.marker = (start.after moves).upload.marker := by
    obtain ⟨-, rfl, -⟩ := Macro.Upload.submit_eq sound accepted
    exact (Macro.Upload.finishIfDone_fixed _).2.trans (Macro.Upload.fill_fixed _).2
  refine ⟨whole, same, taken ▸ sound.submit accepted, taken ▸ marker.trans own, ?_, ?_, .rests, ?_, List.nil_prefix,
    ds, progresses.tends.journal, fun done => ?_⟩
  · have watched : Robot.Watched { start.after moves with upload } :=
      (Robot.watched_after made moves).of_session rfl rfl rfl (Nat.le_refl _) fun _ _ _ there => there
    exact watched.tends progresses.tends
  · show (driver.current? link.generation).isSome = true
    rw [Robot.current?_eq_some.2 ⟨hl, rfl⟩]
    rfl
  · exact ⟨_, [], rfl, taken ▸ delivered⟩
  · have last := progresses.told.1 done
    obtain ⟨-, ended, -, finished⟩ := Macro.Upload.submit_eq sound accepted
    rw [finished] at last
    show driver.upload.running = false
    rw [taken, ended]
    exact Macro.Upload.running_of_finishIfDone last

/-- **What the driver tracks of a macro is what the robot holds of it**, if the macro itself reports nothing: at any
time the chunks that are not executed in full are the newest that are tracked, and they are all of them when no report
is on the way. So the robot never holds more than is tracked, and the end of the macro is not told before the robot has
executed it. What is on the way is what the driver uploads. -/
theorem chunks_follow_player {address : String} {settings : Settings} {start driver : Robot} {link : Link}
    (made : Robot.make address settings = .ok start) (moves : List Move) {steps : List Macro.Step}
    (played : (start.after moves).playMacro ⟨.streaming, steps⟩ = (.ok true, driver)) (hl : driver.link? = some link)
    (own : reports Robot.marker = [1]) (silent : ∀ step ∈ steps, reports step = [])
    {turns : List Turn}
    (run : (begin (start.after moves).upload steps driver).after? reports link.generation turns = some system) :
    let upload := system.driver.upload
    (system.held <:+ upload.chunks ∧ (system.handled = system.player.sent reports → upload.chunks = system.held)) ∧
    (system.player.used ≤ total system.held ∧ total system.held ≤ upload.used) ∧
    ((∃ d ∈ system.driver.journal.drop (start.after moves).journal.length, d.tellsDone = true) →
      system.player.chunks = [] ∧ system.way = [] ∧ ∃ runs,
        (runs.flatten = steps ∨ runs = [] ∧ Macro.stepBytes steps = []) ∧
        system.player.executed = runs.flatMap (· ++ [Robot.marker])) ∧
    ∀ n ≤ upload.chunks.length, upload.uploads (acknowledgements n) =
      Macro.storing Robot.marker (upload.after (acknowledgements n)).backlog (upload.runsAfter n) := by
  intro upload
  obtain ⟨whole, same, first⟩ := @follows_begin reports _ _ _ _ _ made moves _ played hl
  have quiet : ∀ step ∈ whole, reports step = [] := by
    rcases same with rfl | ⟨rfl, -⟩
    · exact silent
    · simp
  obtain ⟨finished, left, follows⟩ := first.after own quiet run
  obtain ⟨few, tracked⟩ := follows.tracked own quiet
  have suffix : system.held <:+ upload.chunks := ⟨_, tracked.symm⟩
  obtain ⟨commands, freed, count, delivered⟩ := follows.delivered
  refine ⟨⟨suffix, fun all => ?_⟩, ⟨?_, ?_⟩, ?_, ?_⟩
  · have length := congrArg List.length all
    rw [follows.sent own quiet, List.length_replicate] at length
    have all : (Macro.sizes Robot.marker finished).length = system.handled.length := by
      rw [length, Macro.sizes, List.length_map]
    rw [tracked, List.drop_of_length_le (Nat.le_of_eq all), List.nil_append]
  · rw [Player.used, System.held, total_append]
    exact Nat.le_add_right _ _
  · rw [Macro.Upload.used, tracked, total_append]
    exact Nat.le_add_left _ _
  · intro done
    obtain ⟨ds, journal, told⟩ := follows.told
    rw [journal, List.drop_left] at done
    obtain ⟨backlog, chunks⟩ := follows.sound.idle (told done)
    rw [chunks] at suffix
    obtain ⟨player, way⟩ := List.append_eq_nil_iff.1 (List.suffix_nil.1 suffix)
    have none : system.player.chunks = [] := List.map_eq_nil_iff.1 player
    have arrived : system.way = [] := List.map_eq_nil_iff.1 way
    have whole := delivered.whole
    rw [follows.plays.size] at player
    obtain rfl : left = [] := List.map_eq_nil_iff.1 player
    rw [arrived, List.append_nil, List.append_nil] at delivered
    have flat := delivered.whole
    rw [backlog, List.append_nil] at flat
    refine ⟨none, arrived, finished, ?_, follows.plays.executed⟩
    rcases same with rfl | ⟨rfl, bytes⟩
    · exact .inl flat
    · refine .inr ⟨?_, bytes⟩
      cases finished with
      | nil => rfl
      | cons run runs => exact absurd rfl delivered.toCut.bytes
  · intro n enough
    rw [← follows.marker]
    exact delivered.uploads_acknowledgements follows.sound enough

/-- A step that is to report reports its id, and no other step reports. -/
def echoes : Macro.Step → List UInt8
  | .emit id => [id]
  | _ => []

theorem eq_ok_of_toOption {α ε : Type} {x : Except ε α} {a : α} (h : x.toOption = some a) : x = .ok a := by
  cases x with
  | error => cases h
  | ok => exact congrArg _ (Option.some.inj h)

/-- A driver as it is made, with the settings that it has by default. -/
def unused : Robot :=
  { address := ⟨"000666AABBCC"⟩, settings := {}, upload := Robot.idleUpload }

theorem make_unused : Robot.make "00:06:66:AA:BB:CC" {} = .ok unused :=
  eq_ok_of_toOption (by decide +kernel)

/-- The user connects, and all tasks run. -/
def connecting : List Move :=
  [.perform (.ask .connect), .perform (.advance 0)]

/-- The packet by which the robot reports an id. -/
def report (id : UInt8) : Bytes :=
  [0xff, 0xfe, 0x06, 0x00, 0x02, id, checksum [0x06, 0x00, 0x02, id]]

/-- More than fits into one chunk. -/
def twoChunks : List Macro.Step :=
  [.raw (.replicate 97 0x42), .delay 300]

/-- A robot executes two steps and reports an id, and the driver handles the report. -/
def reporting (id : UInt8) : List Turn :=
  [.execute, .execute, .drive (.perform (.arrive none [.bytes (report id)])), .drive (.run 1)]

/-- The first of two chunks is executed and its report handled. -/
theorem chunks_follow_player_twoChunks :
    ∃ start driver link system, Robot.make "00:06:66:AA:BB:CC" {} = .ok start ∧
      (start.after connecting).playMacro ⟨.streaming, twoChunks⟩ = (.ok true, driver) ∧ driver.link? = some link ∧
      (echoes Robot.marker = [1] ∧ ∀ step ∈ twoChunks, echoes step = []) ∧
      (begin (start.after connecting).upload twoChunks driver).after? echoes link.generation
        ([.arrive, .arrive] ++ reporting 1) = some system ∧
      system.held = [5] ∧ system.driver.upload.chunks = system.held := by
  let before := unused.after connecting
  let driver := (before.playMacro ⟨.streaming, twoChunks⟩).2
  have played : before.playMacro ⟨.streaming, twoChunks⟩ = (.ok true, driver) :=
    Prod.ext (eq_ok_of_toOption (by decide +kernel)) rfl
  obtain ⟨link, hl, first⟩ : ∃ link, driver.link? = some link ∧ link.generation = 1 :=
    ⟨_, (Option.some_get (by decide +kernel)).symm, by decide +kernel⟩
  obtain ⟨system, run, held, all⟩ : ∃ system,
      (begin before.upload twoChunks driver).after? echoes link.generation ([.arrive, .arrive] ++ reporting 1) =
        some system ∧ system.held = [5] ∧ system.handled = system.player.sent echoes := by
    rw [first]
    exact ⟨_, (Option.some_get (by decide +kernel)).symm, by decide +kernel, by decide +kernel⟩
  have follows := chunks_follow_player make_unused connecting played hl rfl (by decide) run
  exact ⟨_, _, _, system, make_unused, played, hl, by decide, run, held, follows.1.2 all⟩

/-- A macro that reports before it is over. -/
def ownReport : List Macro.Step :=
  [.emit 2, .delay 300, .delay 300]

/-- The macro has a step of its own that reports. The driver takes its report for that of the chunk, tracks no chunk any
more and tells that the macro is over while the robot has the last step still before it. -/
theorem macroDone_before_player :
    ∃ start driver link system, Robot.make "00:06:66:AA:BB:CC" {} = .ok start ∧
      (start.after connecting).playMacro ⟨.streaming, ownReport⟩ = (.ok true, driver) ∧
      driver.link? = some link ∧
      (begin (start.after connecting).upload ownReport driver).after? echoes link.generation
        (.arrive :: reporting 2) = some system ∧
      system.handled = system.player.sent echoes ∧
      system.held = [10] ∧ system.player.used = 10 ∧ system.driver.upload.chunks = [] ∧
      ∃ d ∈ system.driver.journal.drop (start.after connecting).journal.length, d.tellsDone = true := by
  let before := unused.after connecting
  let driver := (before.playMacro ⟨.streaming, ownReport⟩).2
  have played : before.playMacro ⟨.streaming, ownReport⟩ = (.ok true, driver) :=
    Prod.ext (eq_ok_of_toOption (by decide +kernel)) rfl
  obtain ⟨link, hl, first⟩ : ∃ link, driver.link? = some link ∧ link.generation = 1 :=
    ⟨_, (Option.some_get (by decide +kernel)).symm, by decide +kernel⟩
  refine ⟨unused, driver, link, ?_⟩
  rw [first]
  exact ⟨_, make_unused, played, hl, (Option.some_get (by decide +kernel)).symm, by decide +kernel, by decide +kernel,
    by decide +kernel, by decide +kernel, by decide +kernel⟩

end System

end RobotDriver
