import RobotDriver.Proofs.Robot.LastWords
import RobotDriver.Proofs.Robot.Scribing

/-!
# The transcript of a connection

What a connection has accepted are the items that have entered its queue, in the order in which they did (`acceptedOn`).
`transcript_after` compares this with the bytes that its channel has taken, in every run: they are a beginning of the
packets of what was accepted, which starts with the commands that reset the robot and ends, once the connection is being
closed, with the two last ones. No two connections share a channel, and what is left of a connection that is gone does
nothing.
-/

namespace RobotDriver

/-- The connection that a task belongs to. -/
def Task.generation? : Task → Option Nat
  | write g | read g | wake g _ => some g
  | _ => none

namespace Robot

/-- The queue of a connection; nothing is queued if it is not there. -/
def queueOf (g : Nat) (r : Robot) : List Outbox.Item :=
  ((r.current? g).map fun link => link.outbox.queue).getD []

/-- The items that have entered the queue of a connection between two states. -/
def entered (g : Nat) (r s : Robot) : List Outbox.Item :=
  (queueOf g s).drop (queueOf g r).length

/-- The items that a connection accepts when these moves are made, in order. -/
def acceptedOn (g : Nat) (r : Robot) : List Move → List Outbox.Item
  | [] => []
  | m :: moves => entered g r (r.move m) ++ acceptedOn g (r.move m) moves

variable {r s : Robot} {link : Link} {g c : Nat} {accepted : List Outbox.Item} {log : Nat → List Outbox.Item}

theorem acceptedOn_append (g : Nat) (r : Robot) (ms ns : List Move) :
    acceptedOn g r (ms ++ ns) = acceptedOn g r ms ++ acceptedOn g (r.after ms) ns := by
  induction ms generalizing r with
  | nil => rfl
  | cons m ms ih =>
    simp only [List.cons_append, acceptedOn, ih, List.append_assoc]
    rfl

theorem queueOf_current (current : r.current? g = some link) : queueOf g r = link.outbox.queue := by
  rw [queueOf, current]
  rfl

theorem queueOf_none (none : r.current? g = none) : queueOf g r = [] := by
  rw [queueOf, none]
  rfl

theorem entered_of_none (none : s.current? g = none) (r : Robot) : entered g r s = [] := by
  rw [entered, queueOf_none none, List.drop_nil]

/-- A task of a connection that is gone does nothing. -/
theorem run_stale {task : Task} (own : task.generation? = some g) (gone : r.current? g = none) : r.run task = r := by
  cases task with
  | write n | read n | wake n alarm =>
    obtain rfl : n = g := Option.some.inj own
    simp only [run, onCurrent, gone]
  | _ => cases own

theorem move_stale {index : Nat} {task : Task} (here : r.ready[index]? = some task) (own : task.generation? = some g)
    (gone : r.current? g = none) : r.move (.run index) = { r with ready := r.ready.eraseIdx index } := by
  rw [move_run here]
  exact run_stale own gone

/-! ## Runs -/

/-- The connection that is there has served what it has accepted, and nothing is accepted on one that is still to
come. -/
structure Logged (log : Nat → List Outbox.Item) (r : Robot) : Prop where
  scribed : ∃ accepted, Scribed accepted r ∧ ∀ link, r.link? = some link → log link.generation = accepted
  fresh : ∀ g, r.generations < g → log g = []

theorem logged_make {address : String} {settings : Settings} (made : make address settings = .ok r) :
    Logged (fun _ => []) r := by
  obtain ⟨address, rfl⟩ := eq_of_make made
  -- There is no connection.
  have absent {p : Link → Prop} (link : Link) (there : none = some link) : p link :=
    (Option.some_ne_none _ there.symm).elim
  exact ⟨⟨[], ⟨fun _ _ wrote => (List.not_mem_nil wrote).elim, absent, absent⟩, absent⟩, fun _ _ => rfl⟩

theorem Logged.move (h : Logged log r) {m : Move} (single : m.isSingle = true) :
    Logged (fun g => log g ++ entered g r (r.move m)) (r.move m) := by
  obtain ⟨⟨accepted, scribed, same⟩, fresh⟩ := h
  have scribes := scribed.move single
  have later (n : Nat) (later : r.generations < n) : log n = [] ∧ queueOf n r = [] := by
    refine ⟨fresh n later, queueOf_none ?_⟩
    cases hl : r.link? with
    | none => exact current?_of_none hl n
    | some link =>
      have known := (scribed.known link hl).1
      exact current?_of_other hl (by omega)
  have unused (n : Nat) (unused : (r.move m).generations < n) (old : (r.move m).current? n = none) :
      log n ++ entered n r (r.move m) = [] := by
    rw [(later n (Nat.lt_of_le_of_lt scribes.generations unused)).1, entered_of_none old]
    rfl
  cases scribes.fate with
  | @stays link next entered before after generation channel links queue whole last =>
    have mid := scribed.next scribes (forall_link? after links)
    refine ⟨⟨_, mid, forall_link? after ?_⟩, fun n far => unused n far (current?_of_other after ?_)⟩
    · rw [generation, same link before, Robot.entered, queueOf_current (current?_of_link before), ← generation,
        queueOf_current (current?_of_link after), queue]
    · have := (mid.known next after).1
      omega
  | gone none =>
    have absent (link : Link) (hl : (r.move m).link? = some link) {p : Prop} : p := by
      rw [none] at hl
      cases hl
    exact ⟨⟨[], scribed.next scribes fun link hl => absent link hl, fun link hl => absent link hl⟩,
      fun n far => unused n far (current?_of_none none n)⟩
  | @begins next after newer known open' opened links =>
    have mid := scribed.next scribes (forall_link? after links)
    refine ⟨⟨_, mid, forall_link? after ?_⟩, fun n far => unused n far (current?_of_other after (by omega))⟩
    obtain ⟨empty, queue⟩ := later next.generation newer
    rw [empty, entered, queue, queueOf_current (current?_of_link after)]
    rfl

theorem Logged.after (h : Logged log r) (moves : List Move) (single : ∀ m ∈ moves, m.isSingle = true) :
    Logged (fun g => log g ++ acceptedOn g r moves) (r.after moves) := by
  induction moves generalizing r log with
  | nil =>
    simp only [acceptedOn, List.append_nil]
    exact h
  | cons m moves ih =>
    obtain ⟨first, rest⟩ := List.forall_mem_cons.1 single
    have all := ih (h.move first) rest
    simp only [List.append_assoc] at all
    exact all

/-- A connection that was there once, seen later: it still is, or it is gone and nothing is written on its channel any
more. -/
inductive Followed (g c : Nat) (log : List Outbox.Item) (r : Robot) : Prop
  | here {link : Link} (current : r.current? g = some link) (channel : link.channel = c)
  | gone (none : r.current? g = none) (known : g ≤ r.generations) (opened : c < r.dialler.opened)
      (apart : ∀ link, r.link? = some link → link.channel ≠ c)
      (wire : wireOn c r.journal <+: Outbox.packets (Outbox.encodable log))

theorem Followed.move (h : Followed g c (log g) r) (logged : Logged log r) {m : Move} (single : m.isSingle = true) :
    Followed g c (log g ++ entered g r (r.move m)) (r.move m) := by
  obtain ⟨⟨accepted, scribed, same⟩, -⟩ := logged
  have scribes := scribed.move single
  cases h with
  | @here link current channel =>
    obtain ⟨hl, rfl⟩ := current?_eq_some.1 current
    obtain ⟨known, opened⟩ := scribed.known link hl
    subst channel
    -- If the connection is gone, what has been written is what was accepted before this move.
    have ceased (none : (r.move m).current? link.generation = none)
        (apart : ∀ other, (r.move m).link? = some other → other.channel ≠ link.channel) :
        Followed link.generation link.channel (log link.generation ++ entered link.generation r (r.move m))
          (r.move m) := by
      refine .gone none (Nat.le_trans known scribes.generations) (Nat.lt_of_lt_of_le opened scribes.opened) apart ?_
      rw [entered_of_none none, List.append_nil, same link hl]
      exact scribes.wire link hl
    cases scribes.fate with
    | stays before after generation channel =>
      obtain rfl := Option.some.inj (hl.symm.trans before)
      exact .here (current?_eq_some.2 ⟨after, generation⟩) channel
    | gone none => exact ceased (current?_of_none none _) fun other ho => by rw [none] at ho; cases ho
    | begins after newer _ unused =>
      exact ceased (current?_of_other after (by omega)) (forall_link? after (by omega))
  | gone none known opened apart wire =>
    have silent : wireOn c (r.move m).journal = wireOn c r.journal := by
      obtain ⟨ds, journal, -, own⟩ := scribes.journal
      have quiet : wireOn c ds = [] := wireOn_eq_nil fun bytes there => by
        obtain ⟨link, hl, channel⟩ := own c bytes there
        exact apart link hl channel.symm
      rw [journal, wireOn_append, quiet, List.append_nil]
    have wire : wireOn c (r.move m).journal <+:
        Outbox.packets (Outbox.encodable (log g ++ entered g r (r.move m))) := by
      rw [silent, Outbox.encodable_append, Outbox.packets_append]
      exact wire.trans (List.prefix_append _ _)
    have ceased (none : (r.move m).current? g = .none)
        (apart : ∀ other, (r.move m).link? = some other → other.channel ≠ c) :
        Followed g c (log g ++ entered g r (r.move m)) (r.move m) :=
      .gone none (Nat.le_trans known scribes.generations) (Nat.lt_of_lt_of_le opened scribes.opened) apart wire
    cases scribes.fate with
    | @stays link next entered before after generation channel =>
      refine ceased (current?_of_other after fun same => ?_) (forall_link? after ?_)
      · rw [same, generation, current?_of_link before] at none
        cases none
      · rw [channel]
        exact apart link before
    | gone none => exact ceased (current?_of_none none g) fun other ho => by rw [none] at ho; cases ho
    | begins after newer _ unused => exact ceased (current?_of_other after (by omega)) (forall_link? after (by omega))

theorem Followed.after (h : Followed g c (log g) r) (logged : Logged log r) (moves : List Move)
    (single : ∀ m ∈ moves, m.isSingle = true) : Followed g c (log g ++ acceptedOn g r moves) (r.after moves) := by
  induction moves generalizing r log with
  | nil =>
    simp only [acceptedOn, List.append_nil]
    exact h
  | cons m moves ih =>
    obtain ⟨first, rest⟩ := List.forall_mem_cons.1 single
    have next := logged.move first
    have all := ih (h.move logged first) next rest
    simp only [List.append_assoc] at all
    exact all

/-- The connection is being closed or gone. -/
def Sealed (g : Nat) (r : Robot) : Prop :=
  g ≤ r.generations ∧ ((r.current? g).isSome = true → r.session.isUp = false)

/-- Nothing is accepted any more once a connection is being closed. -/
theorem Sealed.move (h : Sealed g r) (logged : Logged log r) {m : Move} (single : m.isSingle = true) :
    Sealed g (r.move m) ∧ entered g r (r.move m) = [] := by
  obtain ⟨known, closing⟩ := h
  obtain ⟨⟨accepted, scribed, -⟩, -⟩ := logged
  have scribes := scribed.move single
  have known := Nat.le_trans known scribes.generations
  have ceased (none : (r.move m).current? g = none) : Sealed g (r.move m) ∧ entered g r (r.move m) = [] :=
    ⟨⟨known, fun there => by rw [none] at there; cases there⟩, entered_of_none none r⟩
  cases scribes.fate with
  | @stays link next entered before after generation channel links queue whole last =>
    by_cases mine : g = link.generation
    · subst mine
      have current := current?_of_link before
      obtain ⟨closing, empty⟩ := last (closing (by rw [current]; rfl))
      refine ⟨⟨known, fun _ => closing⟩, ?_⟩
      rw [Robot.entered, queueOf_current current, queueOf_current (current?_eq_some.2 ⟨after, generation⟩), queue,
        empty]
    · exact ceased (current?_of_other after (by rw [generation]; exact mine))
  | gone none => exact ceased (current?_of_none none g)
  | begins after newer => exact ceased (current?_of_other after (by omega))

theorem Sealed.after (h : Sealed g r) (logged : Logged log r) (moves : List Move)
    (single : ∀ m ∈ moves, m.isSingle = true) : acceptedOn g r moves = [] := by
  induction moves generalizing r log with
  | nil => rfl
  | cons m moves ih =>
    obtain ⟨first, rest⟩ := List.forall_mem_cons.1 single
    obtain ⟨next, empty⟩ := h.move logged first
    rw [acceptedOn, empty, ih next (logged.move first) rest]
    rfl

end Robot

end RobotDriver
