import RobotDriver.Proofs.Robot.Candid
import RobotDriver.Proofs.Robot.Lifecycle

/-!
# When commands are accepted

Whether a command is accepted depends on the connection, its scheduler, the gate of its queue and its writer, and
`acceptance_after` says that in every run all of these agree with whether a connection is in use. From the moment at
which a connection is being closed or lost until there is a new one, a driver `Refuses` whatever it is offered, and what
has been scheduled is `Inert`.
-/

namespace RobotDriver

namespace Robot

/-- A scheduled command is cancelled for good: whatever happens, its turns come to nothing. -/
def Inert (r : Robot) (plan : Nat × Nat) : Prop :=
  ∀ later : List Move, let s := r.after later
    s.isPlanCancelled plan = true ∧ ∀ index, s.ready[index]? = some (.wake plan.1 (.timer plan.2)) →
      s.move (.run index) = { s with ready := s.ready.eraseIdx index }

/-- Nothing is accepted until there is a new connection. -/
structure Refuses (r : Robot) : Prop where
  /-- Neither the user's commands nor those of the driver are accepted, and the connection does not change. -/
  offers : ∀ item, (r.submit item).1 = false ∧ (r.enqueue item).1 = false ∧ (r.submit item).2.session = r.session ∧
    (r.enqueue item).2.session = r.session
  /-- Nothing enters the queue of any connection so far. -/
  entered : ∀ later g, g ≤ r.generations → acceptedOn g r (r.singles later) = []
  /-- The next connection in use is a new one. -/
  renewed : ∀ later link, (r.after later).session = .up link → r.generations < link.generation
  /-- All that was scheduled is cancelled, by the user or by the driver. -/
  inert : ∀ plan, plan.1 ≤ r.generations ∨ plan ∈ r.schedule → Inert r plan
  /-- Whoever schedules a command gets nothing, or a command that is cancelled. -/
  scheduled : ∀ request, schedules request = true →
    r.ask request = (.number none, r) ∨
    ∃ number plan, (r.ask request).1 = .number (some number) ∧
      (r.ask request).2.schedule[number]? = some plan ∧ Inert (r.ask request).2 plan

variable {r : Robot} {link : Link} {g : Nat} {log : Nat → List Outbox.Item}

/-! ## What was scheduled -/

theorem Inert.after {plan : Nat × Nat} (h : Inert r plan) (moves : List Move) : Inert (r.after moves) plan := by
  intro later
  rw [← after_append]
  exact h (moves ++ later)

/-- A scheduler that has stopped does nothing more. -/
theorem runTimer_of_stopped (hl : r.link? = some link) (stopped : link.scheduler.stopped = true) (n : Nat) :
    r.runTimer link n = r := by
  have nothing : link.scheduler.look r.rung r.clock n = ([], none, link.scheduler) := by
    simp [Scheduler.look, Scheduler.isCancelled, stopped]
  unfold runTimer
  rw [nothing]
  show r.withLink link = r
  rw [withLink, mapLink, Session.mapLink_congr (g := fun link => link) hl rfl, Session.mapLink_id]

theorem closed_of_apt (apt : r.session.Apt) (disconnected : r.isConnected = false) (hl : r.link? = some link) :
    link.scheduler.stopped = true := by
  obtain hs | ⟨closure, hs⟩ := session_of_link? hl
  · rw [isConnected, hs] at disconnected
    cases disconnected
  · rw [hs] at apt
    exact apt.1

/-- Whatever was scheduled on a connection that is being closed or gone is cancelled. -/
theorem cancelled_of_sealed (apt : r.session.Apt) {plan : Nat × Nat} (closing : Sealed plan.1 r) :
    r.isPlanCancelled plan = true ∧ ∀ index, r.ready[index]? = some (.wake plan.1 (.timer plan.2)) →
      r.move (.run index) = { r with ready := r.ready.eraseIdx index } := by
  cases current : r.current? plan.1 with
  | none => exact ⟨by simp [isPlanCancelled, current], fun index here => move_stale here rfl current⟩
  | some link =>
    obtain ⟨hl, -⟩ := current?_eq_some.1 current
    have stopped := closed_of_apt apt (closing.2 (by rw [current]; rfl)) hl
    refine ⟨by simp [isPlanCancelled, current, Scheduler.isCancelled, stopped], fun index here => ?_⟩
    have there : { r with ready := r.ready.eraseIdx index }.current? plan.1 = some link := current
    simp only [move_run here, run, onCurrent, there, runAlarm]
    exact runTimer_of_stopped (r := { r with ready := r.ready.eraseIdx index }) hl stopped _

/-- A connection that is being closed or gone never comes back. -/
theorem Sealed.still (h : Sealed g r) (logged : Logged log r) (moves : List Move) : Sealed g (r.after moves) := by
  have both : Sealed g (r.after moves) ∧ ∃ log, Logged log (r.after moves) :=
    singly_after False (P := fun s => Sealed g s ∧ ∃ log, Logged log s)
      (fun ⟨closing, _, logged⟩ single _ => ⟨(closing.move logged single).1, _, logged.move single⟩) ⟨h, log, logged⟩
      moves False.elim
  exact both.1

theorem inert_of_sealed (apt : r.session.Apt) (logged : Logged log r) {plan : Nat × Nat} (closing : Sealed plan.1 r) :
    Inert r plan :=
  fun later => cancelled_of_sealed (candid_after later r apt).1 (closing.still logged later)

/-! ## What is refused -/

theorem offers_of_apt (apt : r.session.Apt) (disconnected : r.isConnected = false) (item : Outbox.Item) :
    (r.submit item).1 = false ∧ (r.enqueue item).1 = false ∧ (r.submit item).2.session = r.session ∧
      (r.enqueue item).2.session = r.session := by
  obtain ⟨notes, refused⟩ := enqueue_of_disconnected apt.gated disconnected item
  have submitted : r.submit item = (false, r) := by
    unfold submit
    split
    · rfl
    · next hl => rw [if_pos (closed_of_apt apt disconnected hl)]
  rw [submitted, refused]
  exact ⟨rfl, rfl, rfl, rfl⟩

/-- Without a connection the user gets nothing for a command to be scheduled, and otherwise its number. -/
theorem ask_schedules (r : Robot) {request : Request} (asked : schedules request = true) :
    r.link? = none ∧ r.ask request = (.number none, r) ∨
    ∃ link n, r.link? = some link ∧ (r.ask request).1 = .number (some r.schedule.length) ∧
      (r.ask request).2.schedule = r.schedule ++ [(link.generation, n)] := by
  have planned (command : Command) (timer : Timer) :
      r.link? = none ∧ r.schedulePlan command timer = (none, r) ∨
      ∃ link n, r.link? = some link ∧ (r.schedulePlan command timer).1 = some r.schedule.length ∧
        (r.schedulePlan command timer).2.schedule = r.schedule ++ [(link.generation, n)] := by
    unfold schedulePlan
    cases hl : r.link? with
    | none => exact .inl ⟨rfl, rfl⟩
    | some link => exact .inr ⟨link, _, rfl, rfl, rfl⟩
  cases request with
  | after command delay =>
    simp only [ask]
    rcases planned command (.once r.clock delay) with ⟨gone, nothing⟩ | ⟨link, n, hl, number, schedule⟩
    · exact .inl ⟨gone, by rw [nothing]⟩
    · exact .inr ⟨link, n, hl, congrArg Answer.number number, schedule⟩
  | periodic command initial period =>
    simp only [ask]
    rcases planned command (.repeating r.clock initial period) with ⟨gone, nothing⟩ | ⟨link, n, hl, number, schedule⟩
    · exact .inl ⟨gone, by rw [nothing]⟩
    · exact .inr ⟨link, n, hl, congrArg Answer.number number, schedule⟩
  | _ => cases asked

theorem refuses_of_disconnected (apt : r.session.Apt) (logged : Logged log r) (listed : Listed r)
    (recorded : Recorded r) (disconnected : r.isConnected = false) : Refuses r := by
  have closing {g : Nat} (known : g ≤ r.generations) : Sealed g r := ⟨known, fun _ => disconnected⟩
  have inert (plan : Nat × Nat) (known : plan.1 ≤ r.generations ∨ plan ∈ r.schedule) : Inert r plan :=
    inert_of_sealed apt logged (closing (known.elim id (listed.known plan)))
  refine ⟨offers_of_apt apt disconnected, fun later g known => ?_, fun later link up => ?_, inert,
    fun request asked => ?_⟩
  · have single : Single False (r.singles later) := single_singles later r False.elim
    exact (closing known).after logged _ fun m hm => (single m hm).1
  · refine Nat.lt_of_not_le fun old => ?_
    have closed := (closing old).still logged later
    have there := current?_of_link (link?_of_up up)
    have unused := closed.2 (by rw [there]; rfl)
    rw [up] at unused
    cases unused
  · rcases r.ask_schedules asked with ⟨-, nothing⟩ | ⟨link, n, hl, number, schedule⟩
    · exact .inl nothing
    · refine .inr ⟨_, (link.generation, n), number, by rw [schedule]; exact List.getElem?_concat_length, ?_⟩
      have asks : (r.ask request).2 = r.after [.perform (.ask request)] := by
        simp [Robot.after, move, perform, recorded.dropped_of_link? hl]
      rw [asks]
      obtain ⟨accepted, scribed, -⟩ := logged.scribed
      exact (inert _ (.inl (scribed.known link hl).1)).after _

/-! ## Runs -/

/-- **Commands are accepted exactly while a connection is in use**, in every run. At every moment the user's command is
accepted if and only if the driver says that it is connected, and so were all commands that listeners have sent in the
middle of something, by what is noted of the connection. When a connection is closed, the two last commands enter its
queue, and they remain the last. As long as no connection is in use everything is refused. -/
theorem acceptance_after {address : String} {settings : Settings} {start : Robot}
    (made : make address settings = .ok start) (moves : List Move) :
    let r := start.after moves
    (∀ command, (r.send command).1 = r.isConnected) ∧
    r.isConnected = usedAfter false r.journal ∧
    (∀ past listener sent rest, r.journal = past ++ .replied listener sent :: rest → sent = usedAfter false past) ∧
    (∀ link waiter, r.session = .up link → let s := r.beginDisconnect link waiter
      s.isConnected = false ∧ entered link.generation r s = finals) ∧
    (r.isConnected = false → Refuses r ∧ ∀ link, r.link? = some link →
      ∃ others, acceptedOn link.generation start (start.singles moves) = resets ++ others ++ finals) := by
  intro r
  have single : Single False (start.singles moves) := single_singles moves start False.elim
  have single : ∀ m ∈ start.singles moves, m.isSingle = true := fun m hm => (single m hm).1
  have whole : start.after (start.singles moves) = r := after_singles moves start
  have logged : Logged (fun g => acceptedOn g start (start.singles moves)) r := by
    rw [← whole]
    simpa only [List.nil_append] using (logged_make made).after _ single
  have listed : Listed r := whole ▸ (listed_make made).after (gated_make made) _ single
  have apt : r.session.Apt := apt_after made moves
  obtain ⟨frank, used⟩ := frank_after made moves
  refine ⟨fun command => submit_of_apt apt _, used, fun past listener sent rest split => ?_, fun link waiter up => ?_,
    fun disconnected => ⟨refuses_of_disconnected apt logged listed (recorded_after made moves) disconnected, ?_⟩⟩
  · rw [show (start.after moves).journal = _ from split] at frank
    exact frank.replied
  · obtain ⟨tasks, -, begins⟩ := r.beginDisconnect_eq (apt.attended up) waiter
    have parting : (r.beginDisconnect link waiter).link? = some (partingLink link) := by rw [begins]; rfl
    have closed : (r.beginDisconnect link waiter).current? link.generation = some (partingLink link) :=
      current?_of_link parting
    refine ⟨by rw [begins]; rfl, ?_⟩
    rw [entered, queueOf_current closed, queueOf_current (current?_of_link (link?_of_up up))]
    exact List.drop_left
  · intro link hl
    obtain ⟨accepted, scribed, same⟩ := logged.scribed
    rw [same link hl]
    exact ((scribed.link link hl).last disconnected).2

/-- One listener greets the new connection and another one answers responses. The user schedules a command and
disconnects, and the greeting is confirmed while the connection is being closed. -/
def greeting : List Move :=
  [.perform (.ask (.addListener { reply := some (.event "Connected", .ping) })),
    .perform (.ask (.addListener { reply := some (.response, .ping) })), .perform (.ask .connect), settling,
    acceptances 5, settling, .perform (.ask (.after .ping 100)), .perform (.ask .disconnect), settling, acceptances 1,
    settling]

theorem acceptance_after_greeting :
    ∃ start, make "00:06:66:AA:BB:CC" {} = .ok start ∧
      let r := start.after greeting
      .replied 0 true ∈ r.journal ∧ .replied 1 false ∈ r.journal ∧ r.link?.isSome = true ∧ r.schedule = [(1, 1)] ∧
        Refuses r := by
  obtain ⟨-, -, -, -, refuses⟩ := acceptance_after System.make_unused greeting
  exact ⟨_, System.make_unused, by decide +kernel, by decide +kernel, by decide +kernel, by decide +kernel,
    (refuses (by decide +kernel)).1⟩

end Robot

end RobotDriver
