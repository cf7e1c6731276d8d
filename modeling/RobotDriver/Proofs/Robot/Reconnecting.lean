import RobotDriver.Proofs.Robot.Playing
import RobotDriver.Proofs.Robot.Renewed

/-!
# Reconnecting

A driver that has lost or closed its connection and connects again behaves from then on as one that was newly made and
stands in its place: `reconnect_like_new` compares the two in every run. Nothing of what the old connections have left
behind has an effect, neither commands that were never answered nor a macro that was running nor tasks that were still
to run; only the name is kept.
-/

namespace RobotDriver

/-- It can be seen from outside: bytes written, reports heard and answered by listeners, calls that finish. -/
def Deed.isOutward : Deed → Bool
  | wrote _ _ | told _ _ | replied _ _ | finished _ _ => true
  | _ => false

theorem History.deed_of_isOutward (past : History) {d : Deed} (outward : d.isOutward = true) : past.deed d = d := by
  cases d with
  | wrote | told | replied | finished => rfl
  | _ => cases outward

/-- What can be seen from outside is the same with a past and without. -/
theorem History.outward_deeds (past : History) (ds : List Deed) :
    (ds.map past.deed).filter Deed.isOutward = ds.filter Deed.isOutward := by
  have same (d : Deed) : (past.deed d).isOutward = d.isOutward := by
    cases d <;> rfl
  rw [List.filter_map, show Deed.isOutward ∘ past.deed = Deed.isOutward from funext same]
  refine (List.map_congr_left fun d there => ?_).trans (List.map_id _)
  exact past.deed_of_isOutward (List.mem_filter.1 there).2

theorem Macro.Upload.clear_congr {u v : Upload} (limits : u.limits = v.limits) (marker : u.marker = v.marker) :
    u.clear = v.clear := by
  cases u
  cases v
  cases limits
  cases marker
  rfl

namespace Robot

/-- What a driver has behind it when its connections are gone. -/
def past (r : Robot) : History :=
  { generations := r.generations, clock := r.rung, name := r.name, journal := r.journal }

/-- A newly made driver in the place of one that has been used: the same listeners are registered, the same channels are
opened next and the same calls of users are under way. The commands that users have scheduled before do not count as
those of a connection. The clock starts when alarms have last gone off. -/
def inPlaceOf (fresh old : Robot) : Robot :=
  { fresh with
    audience := old.audience
    clock := old.clock - old.rung
    ready := old.ready.filter isCall
    dialler := old.dialler
    calls := old.calls
    schedule := old.schedule.map fun plan => (0, plan.2)
    dropped := old.dropped }

end Robot

variable {past : History} {r s t start : Robot} {address : String} {settings : Settings}

/-! ## Where a past begins -/

/-- Nothing of a driver with a past belongs to a connection that is still to come. -/
theorem History.Renews.numbered_left (h : past.Renews s t) : s.Numbered := by
  have grown := h.generations
  have numbered := h.numbered
  refine ⟨fun link hl => ?_, fun task there g own => ?_, fun plan there => ?_⟩
  · rw [h.link?] at hl
    obtain ⟨own, there, rfl⟩ := Option.map_eq_some_iff.1 hl
    have known := numbered.link own there
    have generation : (past.link own).generation = own.generation + past.generations := rfl
    omega
  · cases fresh : past.fresh? task with
    | none =>
      obtain ⟨n, same, old⟩ := past.fresh?_eq_none fresh
      rw [own] at same
      cases same
      omega
    | some new =>
      have known := numbered.ready new (h.fresh ▸ List.mem_filterMap.2 ⟨task, there, fresh⟩)
      rw [(past.fresh?_eq_some fresh).1] at own
      cases new with
      | write n | read n | wake n alarm =>
        cases own
        have := known n rfl
        omega
      | _ => cases own
  · have known := numbered.schedule (plan.1 - past.generations, plan.2)
      (h.plans ▸ List.mem_map.2 ⟨plan, there, rfl⟩)
    dsimp only at known
    omega

namespace Robot

/-- In every run tasks and scheduled commands belong to connections that have been made. -/
theorem numbered_after (made : make address settings = .ok start) (moves : List Move) :
    (start.after moves).Numbered := by
  obtain ⟨address, rfl⟩ := eq_of_make made
  let nothing : History := { generations := 0, clock := 0, name := none, journal := [] }
  let new : Robot := { address, settings, upload := idleUpload }
  have numbered : new.Numbered := ⟨fun _ there => (Option.some_ne_none _ there.symm).elim, nofun, nofun⟩
  have renews : nothing.Renews new new := @History.Renews.intro nothing new [] [] rfl rfl numbered
  exact (renews.after moves).1.numbered_left

theorem upload_clear_after (made : make address settings = .ok start) (moves : List Move) :
    (start.after moves).upload.clear = idleUpload.clear := by
  obtain ⟨requests, same⟩ := upload_after made moves
  obtain ⟨limits, marker⟩ := Macro.Upload.after_fixed idleUpload requests
  rw [same]
  exact Macro.Upload.clear_congr limits marker

open History.Renews (forget)

/-- But for what the next connection forgets, a driver without a connection is one that was newly made and has its
past. -/
theorem renews_inPlaceOf (made : make address settings = .ok start) (moves : List Move) :
    (start.after moves).past.Renews (forget (start.after moves)) (forget (start.inPlaceOf (start.after moves))) := by
  have numbered := numbered_after made moves
  have rung := (watched_after made moves).rung
  obtain ⟨sameSettings, sameAddress⟩ := start.fixed_after moves
  have upload := upload_clear_after made moves
  generalize start.after moves = old at *
  obtain ⟨address, rfl⟩ := eq_of_make made
  have clock : old.clock - old.rung + old.rung = old.clock := Nat.sub_add_cancel rung
  have whole : forget old = old.past.robot (forget (inPlaceOf { address, settings, upload := idleUpload } old))
      old.ready old.schedule := by
    simp only [forget, History.robot, History.session, History.inFlight, inPlaceOf, past, clock, upload, List.map_nil,
      List.append_nil, Nat.zero_add, Option.none_or]
    rw [sameSettings, sameAddress]
  have gone (g : Nat) (known : g ≤ old.generations) : old.past.since? g = none := if_pos known
  have calls (task : Task) (there : task ∈ old.ready) : old.past.fresh? task = Option.guard isCall task := by
    have known := numbered.ready task there
    cases task with
    | write g | read g | wake g alarm =>
      rw [History.fresh?, gone g (known g rfl)]
      rfl
    | _ => rfl
  rw [whole]
  refine .intro ?_ ?_ ⟨fun _ there => (Option.some_ne_none _ there.symm).elim, fun task there g own => ?_,
    fun plan there => ?_⟩
  · rw [List.filterMap_congr calls, List.filterMap_eq_filter]
    rfl
  · refine List.map_congr_left fun plan there => ?_
    rw [show old.past.generations = old.generations from rfl, Nat.sub_eq_zero_of_le (numbered.schedule plan there)]
  · have call := (List.mem_filter.1 there).2
    cases task with
    | write | read | wake => cases call
    | _ => cases own
  · obtain ⟨plan, -, rfl⟩ := List.mem_map.1 there
    exact Nat.zero_le _

/-- The task by which the connection comes about has a counterpart, and leads to drivers that are the same but for the
past. -/
theorem renews_connecting (made : make address settings = .ok start) (before : List Move) {index : Nat}
    (down : (start.after before).link? = none)
    (connects : ((start.after before).move (.run index)).link?.isSome = true) :
    let old := start.after before
    ∃ place, old.past.counterpart old (.run index) = [.run place] ∧
      old.past.Renews (old.move (.run index)) ((start.inPlaceOf old).move (.run place)) := by
  intro old
  have renews := renews_inPlaceOf made before
  have fresh : (start.inPlaceOf old).link? = none := by
    obtain ⟨address, rfl⟩ := eq_of_make made
    rfl
  cases here : old.ready[index]? with
  | none =>
    have idle : old.move (.run index) = old := by simp only [move, here]
    rw [idle, down] at connects
    cases connects
  | some task =>
    let place := old.past.place old.ready index
    let left : Robot := { old with ready := old.ready.eraseIdx index }
    let right : Robot := { start.inPlaceOf old with ready := (start.inPlaceOf old).ready.eraseIdx place }
    have runs : old.move (.run index) = left.run task := move_run here
    rw [runs] at connects ⊢
    have own : old.past.fresh? task = some task := by
      obtain ⟨call, rfl | rfl⟩ := calls_of_connects (show left.link? = none from down) connects <;> rfl
    obtain ⟨there, rest⟩ := renews.erase_fresh (show (forget old).ready[index]? = some task from here) own
    have there : (start.inPlaceOf old).ready[place]? = some task := there
    have runs' : (start.inPlaceOf old).move (.run place) = right.run task := move_run there
    refine ⟨place, by simp [History.counterpart, here, own, place], ?_⟩
    rw [runs']
    exact History.Renews.run_of_forget (s := left) (t := right) rest down fresh connects

/-- **A driver that connects again behaves like one that is newly made**, up to the numbers of connections and the time
that has gone by. Whatever has happened before the driver `old` is without a connection, and whatever happens from the
moment on at which a call to connect has its turn and makes one, `old` does and answers what a newly made driver in its
place does and answers; tasks of the connections that are gone take no part. -/
theorem reconnect_like_new (made : make address settings = .ok start) (before : List Move) {index : Nat}
    (down : (start.after before).link? = none)
    (connects : ((start.after before).move (.run index)).link?.isSome = true) (later : List Move) :
    let old := start.after before
    let new := start.inPlaceOf old
    let moves := .run index :: later
    let counterparts := old.past.counterparts old moves
    let s := old.after moves
    let t := new.after counterparts
    -- What is given back to users, written to the channel and told to listeners.
    old.replies moves = (new.replies counterparts).map old.past.reply ∧
      (s.journal.drop old.journal.length).filter Deed.isOutward = t.journal.filter Deed.isOutward ∧
      s.journal = old.journal ++ t.journal.map old.past.deed ∧
      -- What is known of the robot; only the name is kept from before.
      s.isConnected = t.isConnected ∧ s.shadow = t.shadow ∧ s.name = t.name.or old.name ∧
      -- A task of a connection that is gone does nothing when it has its turn.
      (∀ i task g, s.ready[i]? = some task → task.generation? = some g → g ≤ old.generations →
        s.move (.run i) = { s with ready := s.ready.eraseIdx i }) ∧
      -- A script that is played from then on is played alike.
      ∀ steps, (s.playAll steps).map (·.1) = old.past.answers steps ((t.playAll steps).map (·.1)) ∧
        (s.playAll steps).map (·.2.1) = (t.playAll steps).map (·.2.1.map old.past.deed) ∧
        (s.playAll steps).map (·.2.2.shadow) = (t.playAll steps).map (·.2.2.shadow) := by
  intro old new moves counterparts s t
  obtain ⟨place, first, renews⟩ := renews_connecting made before down connects
  obtain ⟨renews, replies⟩ := renews.after later
  have whole : counterparts = .run place :: old.past.counterparts (old.move (.run index)) later := by
    show old.past.counterpart old (.run index) ++ _ = _
    rw [first]
    rfl
  have renews : old.past.Renews s t := by
    show old.past.Renews _ (new.after counterparts)
    rw [whole]
    exact renews
  have journal : s.journal = old.journal ++ t.journal.map old.past.deed := renews.journal
  refine ⟨?_, ?_, journal, renews.isConnected, renews.kept.2.2.2.1, renews.name, fun i task g here own gone => ?_,
    fun steps => renews.playAll steps⟩
  · rw [whole]
    exact replies
  · rw [journal, List.drop_left, History.outward_deeds]
  · exact move_stale here own (renews.current?_of_past gone)

/-- The connection is lost: a command is unanswered, a macro runs and one waits for its end, another is scheduled, and
the writer is to run. The user connects again. -/
def losing : List Move :=
  [.perform (.ask .connect), settling, .perform (.ask (.setRgbLed 1 2 3)),
    .perform (.ask (.playMacro ⟨.streaming, [.delay 300]⟩)), .perform (.ask (.afterMacro .ping)),
    .perform (.ask (.after .ping 50)), .perform (.arrive none [.ended]), .run 2, .perform (.ask .connect)]

/-- Tasks of the connection that is lost take their turns, then the user rolls. -/
def resuming : List Move :=
  [.run 0, .run 0, settling, .perform (.ask (.roll .zero .one)), settling]

open RobotDriver.System (unused make_unused)

/-- The new connection begins with the commands that reset the robot, as a first one does, and neither the macro nor the
scheduled command is heard of again. -/
theorem reconnect_like_new_losing :
    let old := unused.after losing
    let moves := .run 2 :: resuming
    let new := (unused.inPlaceOf old).after (old.past.counterparts old moves)
    old.ready = [.write 1, .wake 1 (.timer 1), .connect 1] ∧ old.upload.running = true ∧ old.link? = none ∧
      (old.move (.run 2)).link?.isSome = true ∧ (old.past.counterparts old moves).length = 4 ∧
      ((old.after moves).journal.drop old.journal.length).filter Deed.isOutward = new.journal.filter Deed.isOutward ∧
      wireOn 1 new.journal = Outbox.packets (resets ++ [⟨.roll .zero .one false, false⟩]) := by
  intro old moves new
  have down : old.link? = none := by decide +kernel
  have connects : (old.move (.run 2)).link?.isSome = true := by decide +kernel
  obtain ⟨-, outward, -⟩ := reconnect_like_new make_unused losing down connects resuming
  exact ⟨by decide +kernel, by decide +kernel, down, connects, by decide +kernel, outward, by decide +kernel⟩

end Robot

end RobotDriver
