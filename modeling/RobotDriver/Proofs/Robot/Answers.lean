import RobotDriver.Proofs.Robot.Queue
import RobotDriver.Proofs.Robot.Recorded
import RobotDriver.Proofs.Robot.Verdicts

/-!
# Commands and their answers

The robot answers commands in the order in which it got them. `Answers` says what a driver makes of that: the
commands that leave the queue of a connection, answered or given up, are the first that entered it, each
response takes out the oldest, and listeners hear of every answer to a user's command and of every command
given up, once and in order. `answers_after` says so of every run.
-/

namespace RobotDriver

/-- What follows a response in the journal: it answers the oldest command that is left, or it is reported as
unmatched as none is left. -/
inductive Follows (before : List Deed) (g : Nat) (p : Packet) : List Deed → Prop where
  | answered (entry : InFlight.Entry) (rest : List InFlight.Entry) (after : List Deed)
      (oldest : registrations g before = removals g before ++ entry :: rest) :
      Follows before g p (.answered g entry p :: after)
  | unmatched (hearers : List Nat) (after : List Deed) (none : registrations g before = removals g before) :
      Follows before g p (.noted (.responseUnmatched (.ofCode p.header.code)) ::
        .reported (.event (.unmatchedResponse (.ofCode p.header.code))) hearers :: after)

/-- What a driver and its journal say of commands and their answers. -/
structure Answers (r : Robot) : Prop where
  /-- The queue is what is left of the commands registered on the connection. -/
  queue : ∀ link, r.link? = some link →
    registrations link.generation r.journal = removals link.generation r.journal ++ r.inFlight.entries
  /-- A driver without a connection awaits no answers. -/
  cleared : r.link? = none → r.dropped = false → r.inFlight.entries = []
  /-- Of each connection, commands are taken out in the order in which they were registered. -/
  removed : ∀ g, removals g r.journal <+: registrations g r.journal
  /-- No registration serves for both an answer and a command given up. -/
  once : ∀ g entry, (r.journal.filterMap (Deed.answered? g)).count entry +
    (r.journal.filterMap (Deed.expired? g)).count entry ≤ (registrations g r.journal).count entry
  /-- Each response answers the oldest command that is left or is unmatched as none is left. -/
  response : ∀ before g p after, r.journal = before ++ .received g p :: after → p.IsResponse →
    Follows before g p after
  /-- Nothing but a response answers a command. -/
  answered : ∀ before g entry p after, r.journal = before ++ .answered g entry p :: after →
    p.IsResponse ∧ ∃ earlier, before = earlier ++ [.received g p]
  /-- Nothing but a response is reported as unmatched. -/
  unmatched : ∀ before status hearers after,
    r.journal = before ++ .reported (.event (.unmatchedResponse status)) hearers :: after →
    ∃ earlier g p, p.IsResponse ∧ before = earlier ++ [.received g p, .noted (.responseUnmatched status)]
  /-- Every answer to a user's command and every command given up is reported, once and in order. -/
  reported : r.journal.filterMap Deed.verdict? = r.journal.filterMap Deed.due?
  /-- What is reported is what listeners hear. -/
  heard : r.journal.filterMap Deed.told? = r.journal.flatMap Deed.tellings

/-! ## Responses -/

variable {report : Report} {hearers : List Nat} {ds : List Deed}

/-- The deed stands where it may, after those `before` and in front of those `after`. -/
structure Deed.InPlace (before : List Deed) (d : Deed) (after : List Deed) : Prop where
  response : ∀ g p, d = .received g p → p.IsResponse → Follows before g p after
  answered : ∀ g entry p, d = .answered g entry p →
    p.IsResponse ∧ ∃ earlier, before = earlier ++ [.received g p]
  unmatched : ∀ status hearers, d = .reported (.event (.unmatchedResponse status)) hearers →
    ∃ earlier g p, p.IsResponse ∧ before = earlier ++ [.received g p, .noted (.responseUnmatched status)]

/-- Every deed of a list is in place after those `before`. -/
def Ordered : List Deed → List Deed → Prop
  | _, [] => True
  | before, d :: after => d.InPlace before after ∧ Ordered (before ++ [d]) after

theorem Follows.append {before after : List Deed} {g : Nat} {p : Packet} (h : Follows before g p after)
    (later : List Deed) : Follows before g p (after ++ later) := by
  cases h with
  | answered entry rest after oldest => exact .answered entry rest _ oldest
  | unmatched hearers after none => exact .unmatched hearers _ none

theorem Deed.InPlace.append {before after : List Deed} {d : Deed} (h : d.InPlace before after)
    (later : List Deed) : d.InPlace before (after ++ later) :=
  ⟨fun g p e hp => (h.response g p e hp).append later, h.answered, h.unmatched⟩

theorem Ordered.append {before xs ys : List Deed} (h : Ordered before xs) (k : Ordered (before ++ xs) ys) :
    Ordered before (xs ++ ys) := by
  induction xs generalizing before with
  | nil => simpa using k
  | cons x xs ih =>
    refine ⟨h.1.append ys, ih h.2 ?_⟩
    simpa using k

theorem Ordered.inPlace {before xs earlier after : List Deed} {d : Deed} (h : Ordered before xs)
    (e : xs = earlier ++ d :: after) : d.InPlace (before ++ earlier) after := by
  induction earlier generalizing before xs with
  | nil =>
    subst e
    rw [List.append_nil]
    exact h.1
  | cons x earlier ih =>
    subst e
    simpa using ih h.2 rfl

/-- The deed may stand anywhere. -/
def Deed.isFree : Deed → Bool
  | received _ _ | answered _ _ _ | reported (.event (.unmatchedResponse _)) _ => false
  | _ => true

theorem Deed.inPlace_of_isFree {d : Deed} (h : d.isFree = true) (before after : List Deed) :
    d.InPlace before after := by
  constructor
  case response =>
    rintro g p rfl
    cases h
  case answered =>
    rintro g entry p rfl
    cases h
  case unmatched =>
    rintro status hearers rfl
    cases h

theorem Ordered.of_isFree (h : ∀ d ∈ ds, d.isFree = true) (before : List Deed) : Ordered before ds := by
  induction ds generalizing before with
  | nil => trivial
  | cons d ds ih =>
    constructor
    · exact Deed.inPlace_of_isFree (h d (by simp)) _ _
    · exact ih (fun e he => h e (by simp [he])) _

theorem Deed.isFree_of_isSilent {d : Deed} (h : d.isSilent = true) : d.isFree = true := by
  cases d <;> simp_all [isSilent, isCalm, isFree]

theorem Telling.isFree (h : Telling report hearers ds) (other : (Deed.reported report hearers).isFree = true) :
    ∀ d ∈ ds, d.isFree = true := by
  intro d hd
  rcases h.mem hd with rfl | silent
  · exact other
  · exact Deed.isFree_of_isSilent silent

theorem Failure.isFree {g : Nat} {d : Deed} {cause : TransportError} (h : Failure g d cause) : d.isFree = true := by
  cases h <;> rfl

theorem Turn.ordered {s t : Outline} {journal : List Deed} (turn : Turn s ds t) (queued : Queued journal s) :
    Ordered journal ds := by
  cases turn with
  | calm h => exact .of_isFree (List.forall_mem_singleton.2 (Deed.isFree_of_isSilent (Deed.isSilent_of_isCalm h))) _
  | @aside report hearers ds h told =>
    refine .of_isFree (told.isFree ?_) _
    cases report with
    | event e => cases e <;> first | rfl | cases h
    | _ => rfl
  | connected idle address told => exact .of_isFree (List.forall_mem_cons.2 ⟨rfl, told.isFree rfl⟩) _
  | closed closing told => exact .of_isFree (List.forall_mem_cons.2 ⟨rfl, told.isFree rfl⟩) _
  | lost live failed told | broken closing failed told =>
    apply Ordered.of_isFree
    exact List.forall_mem_cons.2 ⟨failed.isFree, List.forall_mem_cons.2 ⟨rfl, told.isFree rfl⟩⟩
  | dropped =>
    refine .of_isFree ?_ _
    unfold Phase.farewell
    cases s.phase.generation? <;> simp [Deed.isFree]
  | surplus => trivial
  | closing | took | registered | expired => exact .of_isFree (List.forall_mem_singleton.2 rfl) _
  | @passed g p other =>
    refine ⟨⟨?_, by simp, by simp⟩, trivial⟩
    rintro _ _ ⟨⟩ response
    exact absurd response other
  | @answered g p entry rest here response oldest =>
    have left := queued.queue g here
    rw [oldest] at left
    refine ⟨⟨?_, by simp, by simp⟩, ⟨by simp, ?_, by simp⟩, trivial⟩
    · rintro _ _ ⟨⟩ _
      exact .answered entry rest [] left
    · rintro _ _ _ ⟨⟩
      exact ⟨response, journal, rfl⟩
  | @unmatched g p hearers ds here response none told =>
    have left := queued.queue g here
    rw [none, List.append_nil] at left
    obtain ⟨rest, _, silent⟩ := told
    refine ⟨⟨?_, by simp, by simp⟩, Deed.inPlace_of_isFree rfl _ _, ⟨by simp, by simp, ?_⟩, ?_⟩
    · rintro _ _ ⟨⟩ _
      exact .unmatched hearers rest left
    · rintro _ _ ⟨⟩
      exact ⟨journal, g, p, response, by simp⟩
    · exact .of_isFree (fun d hd => Deed.isFree_of_isSilent (silent d hd)) _
  | @paid due rest hearers ds first told =>
    refine .of_isFree (told.isFree ?_) _
    cases due <;> rfl

theorem Chronicle.ordered {journal : List Deed} {s : Outline} (h : Chronicle journal s) : Ordered [] journal := by
  induction h with
  | start => trivial
  | next before _ turn ih => exact ih.append (turn.ordered before.queued)

/-! ## Runs -/

namespace Robot

theorem Recorded.answers {r : Robot} (h : Recorded r) : Answers r := by
  have queued := h.chronicle.queued
  have inPlace {before after : List Deed} {d : Deed} (e : r.journal = before ++ d :: after) : d.InPlace before after :=
    h.chronicle.ordered.inPlace e
  have generation : (r.outline []).phase.generation? = r.link?.map fun link => link.generation :=
    Session.phase_generation? r.session
  constructor
  case queue =>
    intro link hl
    apply queued.queue
    rw [generation, hl]
    rfl
  case cleared =>
    intro absent alive
    apply queued.cleared _ alive
    rw [generation, absent]
    rfl
  case removed => exact queued.removed
  case once => exact queued.once
  case response =>
    intro before g p after e
    exact (inPlace e).response g p rfl
  case answered =>
    intro before g entry p after e
    exact (inPlace e).answered g entry p rfl
  case unmatched =>
    intro before status hearers after e
    exact (inPlace e).unmatched status hearers rfl
  case reported =>
    have verdicts := h.chronicle.verdicts
    have owed : (r.outline []).owed = [] := rfl
    rw [owed, List.map_nil, List.append_nil] at verdicts
    exact verdicts
  case heard => exact h.chronicle.heard

/-- A response that no command awaits changes nothing but what listeners send because of it. -/
theorem sends_unmatched {r : Robot} (none : r.inFlight.entries = []) {p : Packet} (response : p.IsResponse)
    (g : Nat) :
    ∃ ds, Telling (.event (.unmatchedResponse (.ofCode p.header.code)))
        (r.audience.hearers.map fun hearer => hearer.1) ds ∧
      Sends r (.received g p :: .noted (.responseUnmatched (.ofCode p.header.code)) :: ds) (r.handlePacket g p) := by
  have start := ((Sends.refl r).record (.received g p)).record (.noted (.responseUnmatched (.ofCode p.header.code)))
  obtain ⟨ds, told, sent⟩ := sends_tell
    ((r.record (.received g p)).record (.noted (.responseUnmatched (.ofCode p.header.code))))
    (.event (.unmatchedResponse (.ofCode p.header.code)))
  refine ⟨ds, told, ?_⟩
  have handled : r.handlePacket g p =
      ((r.record (.received g p)).record (.noted (.responseUnmatched (.ofCode p.header.code)))).tell
        (.event (.unmatchedResponse (.ofCode p.header.code))) := by
    have waiting : (r.record (.received g p)).inFlight.entries = [] := none
    unfold handlePacket
    dsimp only
    rw [show p.header.packetClass = .ok .response from response]
    simp only [handleResponse, InFlight.resolve, waiting, List.head?_nil]
    rfl
  rw [handled]
  exact start.trans sent

/-- **Whatever happens to a driver, in whatever order, answers and commands keep in step**: the queue of a
connection is what is left of the commands registered on it, each response takes out the oldest, and what
listeners hear is what has fallen due. Telling them changes nothing but what they send, and no more does a
response that no command awaits. -/
theorem answers_after {address : String} {settings : Settings} {start : Robot}
    (made : make address settings = .ok start) (moves : List Move) :
    Answers (start.after moves) ∧
      (∀ (r : Robot) (report : Report),
        ∃ ds, Telling report (r.audience.hearers.map fun hearer => hearer.1) ds ∧ Sends r ds (r.tell report)) ∧
      (∀ (r : Robot) (g : Nat) (p : Packet), p.IsResponse → r.inFlight.entries = [] →
        ∃ ds, Telling (.event (.unmatchedResponse (.ofCode p.header.code)))
            (r.audience.hearers.map fun hearer => hearer.1) ds ∧
          Sends r (.received g p :: .noted (.responseUnmatched (.ofCode p.header.code)) :: ds) (r.handlePacket g p)) :=
  ⟨(recorded_after made moves).answers, sends_tell, fun _ g _ response none => sends_unmatched none response g⟩

/-- The response of a robot that accepts a command. -/
def acceptance : Bytes :=
  [0xff, 0xff, 0, 0, 1, 0xfe]

/-- The five commands that reset the robot and one of the user are answered, another one is given up, and one
more response comes. -/
def answersAndTimeout : List Move :=
  [.perform (.ask .connect), .run 0, .run 0, .perform (.ask (.send .ping)), .run 3,
    .perform (.arrive none [.bytes (List.replicate 6 acceptance).flatten]), .run 0, .run 1,
    .perform (.ask (.send .ping)), .run 1, .tick 100, .ring, .run 1,
    .perform (.arrive none [.bytes acceptance]), .run 1]

theorem answers_after_answersAndTimeout :
    ∃ start, make "00:06:66:AA:BB:CC" { responseTimeout := some 100 } = .ok start ∧
      Answers (start.after answersAndTimeout) ∧
      (registrations 1 (start.after answersAndTimeout).journal).length = 7 ∧
      ((start.after answersAndTimeout).journal.filterMap (Deed.answered? 1)).length = 6 ∧
      (start.after answersAndTimeout).journal.filterMap (Deed.expired? 1) = [⟨.ping, false, 0⟩] := by
  have made : make "00:06:66:AA:BB:CC" { responseTimeout := some 100 } = .ok _ := rfl
  exact ⟨_, made, (answers_after made answersAndTimeout).1, by decide +kernel⟩

end Robot

end RobotDriver
