import RobotDriver.Proofs.Robot.Lives
import RobotDriver.Proofs.Robot.Recorded

/-!
# Connections begin and end once

`Lifecycle` says what a driver and its journal tell of its connections: each has its one end, told once,
whichever of the reader, the writer, the time of grace and the confirmations of the robot has brought it about.
`lifecycle_after` says so of every run.
-/

namespace RobotDriver

/-- Connections begin and end in turn. -/
def Alternating : List Event → Prop
  | [] => True
  | [e] => e = .connected
  | e :: f :: rest => e = .connected ∧ f.isTerminal = true ∧ Alternating rest

/-- What a driver and its journal say of its connections. -/
structure Lifecycle (r : Robot) : Prop where
  /-- Being connected means that there is a connection that has begun and has met with nothing since. -/
  connected : r.isConnected = true → ∃ link, r.link? = some link ∧
    (lives r.journal).head? = some ⟨link.generation, [.told .connected]⟩
  /-- A connection of a driver that is not connected is one that is being closed: the closing has begun, and
  the connection has not been torn down since. -/
  closing : ∀ link, r.link? = some link → r.isConnected = false →
    (lives r.journal).head? = some ⟨link.generation, [.told .connected, .closing link.generation]⟩
  /-- No two connections share a generation. -/
  distinct : ((lives r.journal).map Life.generation).Pairwise fun later earlier => earlier < later
  alternating : Alternating (lifecycleEvents r.journal)
  /-- A connection that is gone has ended once: as a failure if it has failed in use, else as closed. -/
  ended : ∀ life ∈ lives r.journal, life.isDropped = false →
    (∀ link, r.link? = some link → link.generation ≠ life.generation) → life.events = [.connected, life.ending]
  /-- A connection that is there has not ended. -/
  unended : ∀ life ∈ lives r.journal, ∀ link, r.link? = some link → link.generation = life.generation →
    life.events = [.connected]
  /-- A connection that was there when the driver was given up has no end that is told. -/
  dropped : ∀ life ∈ lives r.journal, life.isDropped = true → r.dropped = true ∧ life.events = [.connected]

/-! ## Events -/

/-- Lives that have ended alternate, and so they do before one that has not. -/
theorem alternating_lives {ls : List Life} (ended : ∀ l ∈ ls, l.Ended) {es : List Event} (h : Alternating es) :
    Alternating (ls.flatMap Life.events ++ es) := by
  induction ls with
  | nil => exact h
  | cons l ls ih =>
    have first := (ended l (by simp)).events
    rw [List.flatMap_cons, first]
    exact ⟨rfl, l.isTerminal_ending, ih fun m hm => ended m (by simp [hm])⟩

/-- What the phase of a connection and the events of its last life have in common. -/
theorem alternating_phase (p : Phase) : Alternating (p.lives.reverse.flatMap Life.events) := by
  cases p with
  | idle => trivial
  | live g => rfl
  | closing g => rfl

theorem flatMap_events_drop (ls : List Life) : (ls.map Life.drop).flatMap Life.events = ls.flatMap Life.events := by
  rw [List.flatMap_map]
  exact congrArg (ls.flatMap ·) (funext Life.events_drop)

theorem Lived.alternating {s : Outline} {ls : List Life} (h : Lived s ls) :
    Alternating (ls.reverse.flatMap Life.events) := by
  have backwards {past : List Life} (ended : ∀ l ∈ past, l.Ended) : ∀ l ∈ past.reverse, l.Ended :=
    fun l hl => ended l (List.mem_reverse.1 hl)
  cases h.course with
  | here past alive shape ended =>
    rw [shape, List.reverse_append, List.flatMap_append]
    exact alternating_lives (backwards ended) (alternating_phase _)
  | gone p past dropped idle shape ended =>
    rw [shape, List.reverse_append, List.flatMap_append, ← List.map_reverse, flatMap_events_drop]
    exact alternating_lives (backwards ended) (alternating_phase p)

/-! ## Runs -/

namespace Robot

theorem Recorded.dropped_of_link? {r : Robot} (h : Recorded r) {link : Link} (hl : r.link? = some link) :
    r.dropped = false := by
  cases hd : r.dropped with
  | false => rfl
  | true => cases (link?_of_down (h.gone hd).session).symm.trans hl

theorem Recorded.lifecycle {r : Robot} (h : Recorded r) : Lifecycle r := by
  have lived := h.chronicle.lived
  have last {link : Link} (hl : r.link? = some link) {l : Life} (hp : r.session.phase.lives = [l]) :=
    lived.head (h.dropped_of_link? hl) hp
  constructor
  case connected =>
    intro up
    cases hs : r.session with
    | up link =>
      have hl : r.link? = some link := link?_of_up hs
      have hp : r.session.phase.lives = [⟨link.generation, [.told .connected]⟩] := by
        rw [hs]
        rfl
      exact ⟨link, hl, (last hl hp).1⟩
    | down => simp [isConnected, hs, Session.isUp] at up
    | closing link closure => simp [isConnected, hs, Session.isUp] at up
  case closing =>
    intro link hl notUp
    apply (last hl _).1
    obtain hs | ⟨closure, hs⟩ := session_of_link? hl
    · simp [isConnected, hs, Session.isUp] at notUp
    · rw [hs]
      rfl
  case distinct => exact lived.ordered
  case alternating =>
    rw [lifecycleEvents_eq_lives]
    exact lived.alternating
  case ended =>
    intro life hm alive other
    rcases lived.mem hm with ended | here | ⟨-, p, cut⟩
    · exact ended.events
    · have generation : r.session.phase.generation? = some life.generation := Phase.generation_of_mem here
      rw [Session.phase_generation?, Option.map_eq_some_iff] at generation
      obtain ⟨link, hl, same⟩ := generation
      exact absurd same (other link hl)
    · obtain ⟨l, -, rfl⟩ := List.mem_map.1 cut
      cases l.isDropped_drop.symm.trans alive
  case unended =>
    intro life hm link hl same
    have one : ∃ l, r.session.phase.lives = [l] ∧ l.generation = link.generation := by
      obtain hs | ⟨closure, hs⟩ := session_of_link? hl
      all_goals
        rw [hs]
        exact ⟨_, rfl, rfl⟩
    obtain ⟨l, hp, hg⟩ := one
    rw [(last hl hp).2 life hm (same.symm.trans hg.symm)]
    apply Phase.events_of_mem
    rw [hp]
    exact List.mem_singleton_self l
  case dropped =>
    intro life hm cut
    rcases lived.mem hm with ended | here | ⟨gone, p, dropped⟩
    · cases ended.isDropped.symm.trans cut
    · cases (Phase.isDropped_of_mem here).symm.trans cut
    · obtain ⟨l, hl, rfl⟩ := List.mem_map.1 dropped
      exact ⟨gone, l.events_drop.trans (Phase.events_of_mem hl)⟩

/-- **Whatever happens to a driver, in whatever order, each of its connections begins and ends once**, and the
end is told for what it is. When the driver is given up its connection is gone at once: but for the note in its
log, nothing happens any more. -/
theorem lifecycle_after {address : String} {settings : Settings} {start : Robot}
    (made : make address settings = .ok start) (moves later : List Move) :
    Lifecycle (start.after moves) ∧ (((start.after moves).move .quit).after later).link? = none ∧
      (((start.after moves).move .quit).after later).journal =
        (start.after moves).journal ++ (start.after moves).session.phase.farewell := by
  have still : Still (start.after moves).quit (((start.after moves).move .quit).after later) :=
    (gone_quit (start.after moves)).after later
  refine ⟨(recorded_after made moves).lifecycle, ?_, ?_⟩
  · rw [link?, still.gone.session]
    rfl
  · exact still.journal.trans (journal_quit _)

/-- The stream ends on a connection that is in use, and on the next one while it is being closed. -/
def twoFailures : List Move :=
  [.perform (.ask .connect), .run 0, .perform (.arrive none [.ended]), .run 1, .perform (.ask .connect), .run 2,
    .perform (.ask .disconnect), .run 5, .perform (.arrive none [.ended]), .run 3]

theorem lifecycle_after_twoFailures :
    ∃ start, make "00:06:66:AA:BB:CC" {} = .ok start ∧ Lifecycle (start.after twoFailures) ∧
      lifecycleEvents (start.after twoFailures).journal =
        [.connected, .unexpectedDisconnect, .connected, .disconnected] := by
  have made : make "00:06:66:AA:BB:CC" {} = .ok _ := rfl
  exact ⟨_, made, (lifecycle_after made twoFailures []).1, by decide +kernel⟩

end Robot

end RobotDriver
