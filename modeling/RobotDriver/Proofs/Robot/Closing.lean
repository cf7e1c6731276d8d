import RobotDriver.Proofs.Robot.LastWords
import RobotDriver.Proofs.Robot.Waiting

/-!
# How a connection is closed

From the moment at which the driver begins to close a connection, the connection is there as long as it is `Pending`:
the robot has confirmed less than twice, the channel has not failed and the time of grace is not over. `closing_after`
says so of every run in which the handle of the driver is kept, and what the end looks like: one report, an empty queue
of commands in flight, and an answer for the call that waits. The time of grace is counted from the first run of the
task that waits for its end (`graceFrom?`): that is when the closing begins only if the clock stands still in between,
and `closing_off_grace` has a run in which it does not.
-/

namespace RobotDriver

namespace Robot

/-- How the end of a connection stands that was to come at `deadline` at the latest, if that is set yet, and that
`waiter` waits for. -/
structure Closing (g : Nat) (deadline waiter : Option Nat) (r : Robot) : Prop where
  /-- The connection is there until something ends it. -/
  pending : (r.current? g).isSome = true ↔ Pending g (since (Deed.parts g) r.journal)
  /-- The time of grace is not over before its time. -/
  lapsed : ∀ grace, .noted (.shutdownUnconfirmed g grace) ∈ since (Deed.parts g) r.journal → ∃ t ∈ deadline, t ≤ r.rung
  /-- When all tasks have run, the connection is there until the robot has confirmed twice, the channel has failed or
  the time has come. -/
  settled : r.ready = [] → r.rung = r.clock →
    ((r.current? g).isSome = true ↔ (since (Deed.parts g) r.journal).countP (Deed.confirms g) < 2 ∧
      .failed g ∉ marks (since (Deed.parts g) r.journal) ∧ ∃ t ∈ deadline, r.clock < t)
  quiet : (r.current? g).isSome = true → lifecycleEvents (since (Deed.parts g) r.journal) = []
  /-- The end is told once, and no command is left in flight. -/
  ended : r.current? g = none → ∃ held n hearers told rest,
    since (Deed.parts g) r.journal = held ++ .noted n :: told ++ rest ∧ Ending g held n ∧
    Telling (.event .disconnected) hearers told ∧
    lifecycleEvents (held ++ .noted n :: told) = [.disconnected] ∧
    (∀ d ∈ rest, d.generation? ≠ some g) ∧
    ∀ entry ∈ r.inFlight.entries, ∃ n, .registered n entry ∈ rest
  /-- The call that waits comes to its end. -/
  returned : ∀ call, waiter = some call → r.current? g = none →
    .disconnected call ∈ r.ready ∨ .finished call (.answered true) ∈ since (Deed.parts g) r.journal
  /-- Another call to disconnect is told that there is nothing to do, and that is all. -/
  again : ∀ index call, r.ready[index]? = some (.disconnect call) → (r.current? g).isSome = true →
    ((r.move (.run index)).current? g).isSome = true ∧ ∃ hearers told, Telling (.event .noConnection) hearers told ∧
      (r.move (.run index)).journal =
        r.journal ++ (.noted .nothingToDisconnect :: told ++ [.finished call (.answered false)])

variable {may : Privilege → Prop} {r : Robot} {link : Link} {closure : Closure} {held told rest : List Deed} {n : Note}
  {hearers : List Nat} {g : Nat} {deadline waiter : Option Nat}

/-! ## While the connection is there, and when it is gone -/

/-- A call to disconnect when no connection is in use. -/
theorem disconnectCall_idle (idle : ∀ link, r.session ≠ .up link) (call : Nat) : ∃ hearers told,
    Telling (.event .noConnection) hearers told ∧
    (∀ d ∈ told, d = .reported (.event .noConnection) hearers ∨ d.isSlight = true) ∧
    r.session.Tended (r.disconnectCall call).session ∧ (r.disconnectCall call).journal =
      r.journal ++ (.noted .nothingToDisconnect :: told ++ [.finished call (.answered false)]) := by
  obtain ⟨told, telling, light, tends⟩ := tends_tell (r.note .nothingToDisconnect) (.event .noConnection)
  refine ⟨_, told, telling, light, ?_⟩
  unfold disconnectCall
  split
  · next link up => exact absurd up (idle link)
  · refine ⟨tends.session, ?_⟩
    show ((r.note .nothingToDisconnect).tell (.event .noConnection)).journal ++ [.finished call (.answered false)] = _
    rw [tends.journal]
    simp [note, record, recordAll]

/-- A call to disconnect when the connection is being closed already. -/
theorem again_disconnect (hs : r.session = .closing link closure) {index call : Nat}
    (here : r.ready[index]? = some (.disconnect call)) :
    ((r.move (.run index)).current? link.generation).isSome = true ∧
      ∃ hearers told, Telling (.event .noConnection) hearers told ∧ (r.move (.run index)).journal =
        r.journal ++ (.noted .nothingToDisconnect :: told ++ [.finished call (.answered false)]) := by
  let rest : Robot := { r with ready := r.ready.eraseIdx index }
  have runs : r.move (.run index) = rest.disconnectCall call := move_run here
  have idle (other : Link) : rest.session ≠ .up other := fun up => by cases hs.symm.trans up
  obtain ⟨hearers, told, telling, -, tended, journal⟩ := disconnectCall_idle idle call
  have hl : rest.session.link? = some link := congrArg Session.link? hs
  obtain ⟨next, hn, same⟩ := tended.link? hl
  rw [runs]
  exact ⟨Option.isSome_iff_exists.2 ⟨next, current?_eq_some.2 ⟨hn, same.generation⟩⟩, hearers, told, telling, journal⟩

theorem Waits.closing (h : Waits g deadline waiter link closure r) (watched : Watched r) :
    Closing g deadline waiter r := by
  have there : (r.current? g).isSome = true := by rw [h.current]; rfl
  have absent {p : Prop} (gone : r.current? g = none) : p := by rw [gone] at there; cases there
  obtain ⟨few, sound, early⟩ := h.pending
  constructor
  case pending => exact iff_of_true there h.pending
  case lapsed => exact fun grace lapsed => absurd lapsed (h.early grace)
  case settled =>
    intro ready rung
    rw [← rung]
    exact iff_of_true there ⟨few, sound, h.set watched ready⟩
  case quiet =>
    intro _
    rw [lifecycleEvents_eq, h.quiet]
    rfl
  case ended => exact absent
  case returned => exact fun _ _ => absent
  case again =>
    intro index call here _
    obtain rfl := h.generation
    exact again_disconnect h.session here

theorem Over.closing (h : Over g deadline waiter held n hearers told rest r) : Closing g deadline waiter r := by
  have gone : ¬ (r.current? g).isSome = true := by simp [h.gone]
  constructor
  case pending => exact iff_of_false gone h.not_pending
  case lapsed => exact h.lapsed
  case settled =>
    intro ready rung
    refine iff_of_false gone fun ⟨few, sound, t, set, early⟩ => ?_
    rcases h.ends with confirmed | failed | ⟨grace, lapsed⟩
    · exact Nat.not_lt_of_le confirmed few
    · exact sound failed
    · obtain ⟨t, same, passed⟩ := h.lapsed grace lapsed
      cases Option.mem_unique same set
      exact Nat.not_lt_of_le passed (rung ▸ early)
  case quiet => exact fun there => absurd there gone
  case ended => exact fun _ => ⟨held, n, hearers, told, rest, h.cut, h.ending, h.telling, h.once, h.later, h.inFlight⟩
  case returned =>
    intro call waits _
    rw [h.cut]
    exact (h.returned call waits).imp_right (List.mem_append_right _)
  case again => exact fun _ _ _ there => absurd there gone

theorem Ends.closing (h : Ends g deadline waiter r) (watched : Watched r) : Closing g deadline waiter r := by
  rcases h with ⟨link, closure, waits⟩ | ⟨held, n, hearers, told, rest, gone⟩
  · exact waits.closing watched
  · exact gone.closing

/-! ## The beginning -/

theorem waits_beginDisconnect (attended : link.writer.outbox.attended = true)
    (apart : ∀ d ∈ r.journal, d.parts link.generation = false) (waiter : Option Nat) :
    ∃ next closure, Waits link.generation none waiter next closure (r.beginDisconnect link waiter) := by
  obtain ⟨tasks, -, begins⟩ := r.beginDisconnect_eq attended waiter
  have here : (Deed.noted (.disconnecting link.generation)).parts link.generation = true := by simp [Deed.parts]
  have nothing := since_concat apart here
  rw [begins]
  refine ⟨partingLink link, _, rfl, rfl, rfl, rfl, ⟨_, List.mem_append_right _ List.mem_cons_self, here⟩, ?_, ?_, ?_⟩
  all_goals
    show _
    simp [nothing, marks]

/-- The closing of one connection begins. -/
theorem ends_beginDisconnect (watched : Watched r) (hs : r.session = .up link)
    (fresh : ∀ d ∈ r.journal, d.parts g = false) (waiter : Option Nat) :
    (∀ d ∈ (r.beginDisconnect link waiter).journal, d.parts g = false) ∨
      Ends g none waiter (r.beginDisconnect link waiter) := by
  have attended := watched.attended hs
  by_cases same : link.generation = g
  · subst same
    exact .inr (.inl (waits_beginDisconnect attended fresh waiter))
  · obtain ⟨tasks, -, begins⟩ := r.beginDisconnect_eq attended waiter
    refine .inl fun d hd => ?_
    rw [begins] at hd
    rcases List.mem_append.1 hd with hd | hd
    · exact fresh d hd
    · rw [List.mem_singleton.1 hd]
      simpa [Deed.parts] using same

/-- The acts by which the closing of a connection begins. -/
theorem ends_acts {asked : Robot} (watched : Watched asked) (fresh : ∀ d ∈ asked.journal, d.parts g = false)
    (still : ¬ may (.grace g)) (acts : Acts may asked r) (begun : ∃ d ∈ r.journal, d.parts g = true) :
    ∃ waiter, Ends g none waiter r := by
  suffices all : Watched r ∧ ((∀ d ∈ r.journal, d.parts g = false) ∨ ∃ waiter, Ends g none waiter r) by
    refine all.2.resolve_left fun none => ?_
    obtain ⟨d, hd, part⟩ := begun
    rw [none d hd] at part
    cases part
  refine acts.keeps
    (P := fun r => Watched r ∧ ((∀ d ∈ r.journal, d.parts g = false) ∨ ∃ waiter, Ends g none waiter r))
    (fun {r s} h act => ⟨h.1.act act, ?_⟩) ⟨watched, .inl fresh⟩
  obtain ⟨watched, fresh | ⟨waiter, ends⟩⟩ := h
  · rcases act.parts with ⟨link, waiter, hs, rfl⟩ | ⟨ds, journal, apart⟩
    · exact (ends_beginDisconnect watched hs fresh waiter).imp_right fun ends => ⟨waiter, ends⟩
    · refine .inl fun d hd => ?_
      rw [journal] at hd
      exact (List.mem_append.1 hd).elim (fresh d) fun there => apart d there g
  · exact .inr ⟨waiter, ends.act watched still act⟩

/-- A call to disconnect by which the closing of a connection begins waits for its end. -/
theorem ends_disconnect {asked : Robot} (watched : Watched asked) (fresh : ∀ d ∈ asked.journal, d.parts g = false)
    {index call : Nat} (here : asked.ready[index]? = some (.disconnect call))
    (begun : ∃ d ∈ (asked.move (.run index)).journal, d.parts g = true) :
    Ends g none (some call) (asked.move (.run index)) := by
  let rest : Robot := { asked with ready := asked.ready.eraseIdx index }
  have runs : asked.move (.run index) = rest.disconnectCall call := move_run here
  have takes : Act Privilege.all asked rest := .taken here (by simp) (by simp)
  have taken := watched.act takes
  rw [runs] at begun ⊢
  have absent {p : Prop} (none : ∀ d ∈ (rest.disconnectCall call).journal, d.parts g = false) : p := by
    obtain ⟨d, hd, part⟩ := begun
    rw [none d hd] at part
    cases part
  cases hs : rest.session with
  | up link =>
    have begins : rest.disconnectCall call = rest.beginDisconnect link (some call) := by
      simp only [disconnectCall, hs]
    rw [begins] at absent ⊢
    exact (ends_beginDisconnect taken hs fresh (some call)).resolve_left fun none => absent none
  | down | closing =>
    obtain ⟨hearers, told, -, light, -, journal⟩ := disconnectCall_idle (r := rest) (by simp [hs]) call
    refine absent fun d hd => ?_
    rw [journal] at hd
    simp only [List.cons_append, List.mem_append, List.mem_cons, List.not_mem_nil, or_false] at hd
    rcases hd with old | rfl | there | rfl
    · exact fresh d old
    · rfl
    · exact forall_mem_told light (fun _ => rfl) (fun _ => Deed.parts_of_isSlight) d there g
    · rfl

/-- The task that waits for the end of the time of grace begins no closing. -/
theorem parts_grace {index : Nat} (here : r.ready[index]? = some (.wake g .grace)) :
    ∃ ds, (r.move (.run index)).journal = r.journal ++ ds ∧ ∀ d ∈ ds, ∀ n, d.parts n = false := by
  let rest : Robot := { r with ready := r.ready.eraseIdx index }
  rw [move_run here]
  have act : Act Privilege.all r (rest.run (.wake g .grace)) := act_grace trivial here
  rcases act.parts with ⟨link, waiter, up, -⟩ | quiet
  · have idle : rest.run (.wake g .grace) = rest :=
      onCurrent_cases (p := (· = rest)) (f := fun r _ => r.graceOver) rfl fun _ _ _ => graceOver_of_up up
    rw [idle]
    exact ⟨[], (List.append_nil _).symm, by simp⟩
  · exact quiet

/-- The move by which the closing of a connection begins. -/
theorem ends_move {asked : Robot} (watched : Watched asked) {m : Move} (single : m.isSingle = true)
    (keeps : m.keepsHandle = true) (fresh : ∀ d ∈ asked.journal, d.parts g = false)
    (begun : ∃ d ∈ (asked.move m).journal, d.parts g = true) :
    ∃ waiter, (∀ index call, m = .run index → asked.ready[index]? = some (.disconnect call) → waiter = some call) ∧
      Ends g none waiter (asked.move m) := by
  have silent {ds : List Deed} (journal : (asked.move m).journal = asked.journal ++ ds)
      (apart : ∀ d ∈ ds, ∀ n, d.parts n = false) : False := by
    obtain ⟨d, hd, part⟩ := begun
    rw [journal] at hd
    rw [(List.mem_append.1 hd).elim (fresh d) fun there => apart d there g] at part
    cases part
  have ungraced : graces g asked m = false := by
    refine Bool.eq_false_iff.2 fun runs => ?_
    cases m with
    | run index =>
      obtain ⟨ds, journal, apart⟩ := parts_grace (r := asked) (by simpa [graces] using runs)
      exact silent journal apart
    | _ => cases runs
  have instant (happens : m.isInstant = true) : ∃ waiter, Ends g none waiter (asked.move m) :=
    ends_acts watched fresh (fun other => other rfl) (acts_ungraced happens ungraced) begun
  cases m with
  | perform step =>
    obtain ⟨waiter, ends⟩ := instant single
    refine ⟨waiter, fun _ _ same => ?_, ends⟩
    cases same
  | run index =>
    by_cases calls : ∃ call, asked.ready[index]? = some (.disconnect call)
    · obtain ⟨call, here⟩ := calls
      refine ⟨some call, fun i other same there => ?_, ends_disconnect watched fresh here begun⟩
      cases same
      rw [here] at there
      cases there
      rfl
    · obtain ⟨waiter, ends⟩ := instant rfl
      refine ⟨waiter, fun i call same there => ?_, ends⟩
      cases same
      exact absurd ⟨call, there⟩ calls
  | tick => exact (silent (List.append_nil _).symm (by simp)).elim
  | ring =>
    obtain ⟨tasks, rings⟩ := asked.ring_eq
    have same : asked.ring.journal = asked.journal ++ [] := by rw [rings, List.append_nil]
    exact (silent same (by simp)).elim
  | abandon | quit => cases keeps

/-- **How a connection is closed**, in every run in which the handle of the driver is kept. The closing of connection
`g` begins with the move `m`, and the run goes on in any way. The time of grace is counted from the first run of the
task that waits for its end, which comes before all tasks have run: at the time at which the closing begins, if the
clock stands still until then. -/
theorem closing_after {address : String} {settings : Settings} {start : Robot}
    (made : make address settings = .ok start) (moves : List Move) (kept : ∀ n ∈ moves, n.keepsHandle = true)
    {before later : List Move} {m : Move} {g : Nat} (cut : start.singles moves = before ++ m :: later)
    (fresh : ∀ d ∈ (start.after before).journal, d.parts g = false)
    (begun : ∃ d ∈ ((start.after before).move m).journal, d.parts g = true) :
    let asked := start.after before
    let begins := graceFrom? g (asked.move m) later
    (∀ t ∈ begins, asked.clock ≤ t) ∧
      (∀ earlier rest, later = earlier ++ rest → ((asked.move m).after earlier).ready = [] →
        (((asked.move m).after earlier).current? g).isSome = true →
        ∃ t ∈ begins, t ≤ ((asked.move m).after earlier).clock) ∧
      ∃ waiter, (∀ index call, m = .run index → asked.ready[index]? = some (.disconnect call) → waiter = some call) ∧
        Closing g (begins.map (Timer.deadlineAfter · settings.disconnectGrace)) waiter (start.after moves) := by
  intro asked begins
  have all : Single True (start.singles moves) := single_singles moves start fun _ => kept
  rw [cut] at all
  obtain ⟨⟨single, keeps⟩, singles⟩ := List.forall_mem_cons.1 (List.forall_mem_append.1 all).2
  obtain ⟨waiter, called, ends⟩ := ends_move (watched_after made before) single (keeps trivial) fresh begun
  have watched : Watched (asked.move m) := (watched_after made before).after [m]
  have same : (asked.move m).settings = settings := by
    have fixed := settings_after made (before ++ [m])
    rwa [after_append] at fixed
  have whole : start.after moves = (asked.move m).after later := by
    rw [← after_singles moves start, cut, after_append]
    rfl
  refine ⟨fun t first => ?_, fun earlier rest split ready there => ?_, waiter, called, ?_⟩
  · exact Nat.le_trans (clock_le_after asked [m]) (clock_of_graceFrom? first).1
  · have single : Single True earlier := fun n hn => singles n (split ▸ List.mem_append_left _ hn)
    obtain ⟨watched, ends⟩ := ends.after watched single
    rw [Option.none_or] at ends
    obtain ⟨deadline, set, -⟩ := ends.set watched ready there
    obtain ⟨t, first, -⟩ := Option.map_eq_some_iff.1 set
    refine ⟨t, ?_, (clock_of_graceFrom? first).2⟩
    show graceFrom? g (asked.move m) later = some t
    rw [split, graceFrom?_append, first]
    rfl
  · obtain ⟨watched, ends⟩ := ends.after watched singles
    rw [same, Option.none_or] at ends
    rw [whole]
    exact ends.closing watched

/-- The user connects and asks to disconnect. -/
def askingToDisconnect : List Move :=
  [.perform (.ask .connect), settling, .perform (.ask .disconnect)]

/-- The robot says nothing, and the time of grace passes. -/
theorem closing_after_grace :
    ∃ start, make "00:06:66:AA:BB:CC" {} = .ok start ∧
      let r := start.after (askingToDisconnect ++ [.run 0, settling, .perform (.advance 5000), settling])
      r.current? 1 = none ∧ .finished 1 (.answered true) ∈ since (Deed.parts 1) r.journal := by
  have made : make "00:06:66:AA:BB:CC" {} = .ok _ := rfl
  obtain ⟨-, -, waiter, waits, closing⟩ := closing_after made
    (askingToDisconnect ++ [.run 0, settling, .perform (.advance 5000), settling]) (by decide +kernel)
    (g := 1) (singles_append askingToDisconnect _ _) (by decide +kernel) (by decide +kernel)
  obtain rfl := waits 0 1 rfl (by decide +kernel)
  have gone := Option.not_isSome_iff_eq_none.1 fun there =>
    absurd ((closing.settled (by decide +kernel) (by decide +kernel)).1 there).2.2 (by decide +kernel)
  exact ⟨_, made, gone, (closing.returned 1 rfl gone).resolve_left (by decide +kernel)⟩

/-- A driver whose robot is given more than thirty years to confirm. -/
def patience : Settings :=
  { pingInterval := 1000000000000, disconnectGrace := 1000000000000 }

/-- The time of grace is not counted from the beginning of the closing, nor to its end. If the clock moves before the
task that waits has run for the first time, the connection is there when that time is over; and no wait is longer than
thirty years, so that a connection is gone before a longer time is over. In both runs the robot confirms nothing and
the channel is sound. -/
theorem closing_off_grace :
    (∃ start, make "00:06:66:AA:BB:CC" {} = .ok start ∧
      let asked := start.after askingToDisconnect
      let r := asked.after [.run 0, .tick 1000, settling, .perform (.advance 4000), settling]
      r.clock = asked.clock + ({} : Settings).disconnectGrace ∧ r.ready = [] ∧ (r.current? 1).isSome = true) ∧
    ∃ start, make "00:06:66:AA:BB:CC" patience = .ok start ∧
      let asked := start.after askingToDisconnect
      let r := asked.after [.run 0, settling, .perform (.advance 946080000000), settling]
      (asked.current? 1).isSome = true ∧ r.clock < asked.clock + patience.disconnectGrace ∧
        (since (Deed.parts 1) r.journal).countP (Deed.confirms 1) = 0 ∧
        .failed 1 ∉ marks (since (Deed.parts 1) r.journal) ∧ r.current? 1 = none := by
  have made : make "00:06:66:AA:BB:CC" {} = .ok _ := rfl
  have patient : make "00:06:66:AA:BB:CC" patience = .ok _ := rfl
  exact ⟨⟨_, made, by decide +kernel, by decide +kernel, by decide +kernel⟩,
    _, patient, by decide +kernel, by decide +kernel, by decide +kernel, by decide +kernel, by decide +kernel⟩

end Robot

end RobotDriver
