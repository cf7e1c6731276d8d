import RobotDriver.Proofs.Robot.LastWords
import RobotDriver.Proofs.Robot.Origins

/-!
# The shadow is what has been confirmed

The driver's picture of the robot is written where answers are handled, deep in the reader, at a point where the answer
may already have ended the connection; it is wiped when a connection begins. `confirmed` and `Deed.name?` read from a
journal alone what the robot has confirmed, and `confirmed_after` says that nothing else is in the picture, in any run.
-/

namespace RobotDriver

namespace Deed

/-- The generation of a connection that has been established. -/
def connected? : Deed → Option Nat
  | noted (.connected _ g) => some g
  | _ => none

/-- The command of a connection that the robot has accepted: the status in the answer is zero, whatever else the answer
says. -/
def confirmed? (g : Nat) : Deed → Option InFlight.Entry
  | answered n entry p => if n = g ∧ p.header.code = 0 then some entry else none
  | _ => none

/-- The name in an undamaged answer to a request of the driver's own that the robot has accepted. -/
def name? : Deed → Option String
  | answered _ entry p =>
    if p.header.code = 0 ∧ entry.command = .getBluetoothInfo ∧ entry.system = true then
      match p.verify, Response.bluetoothBody p.payload with
      | .ok (), .ok (.bluetoothInfo name _) => some name
      | _, _ => none
    else none
  | _ => none

end Deed

/-- The generation of the connection that was established last. -/
def latest? (journal : List Deed) : Option Nat :=
  (journal.filterMap Deed.connected?).getLast?

/-- The commands of a connection that the robot has accepted, in the order in which they were answered. -/
def confirmed (g : Nat) (journal : List Deed) : List InFlight.Entry :=
  journal.filterMap (Deed.confirmed? g)

/-- The shadow of a robot that has accepted these commands since it was switched on. -/
def shadowOf (entries : List InFlight.Entry) : Shadow :=
  entries.foldl (fun shadow entry => shadow.apply entry.command) {}

/-- The shadow that a journal leads to. -/
def confirmedShadow (journal : List Deed) : Shadow :=
  shadowOf ((latest? journal).elim [] fun g => confirmed g journal)

/-! ## The name -/

theorem toldName?_decode (entry : InFlight.Entry) (p : Packet) :
    toldName? entry (Response.decode entry.command.kind p).body =
      if entry.command = .getBluetoothInfo ∧ entry.system = true then
        match p.verify, Response.bluetoothBody p.payload with
        | .ok (), .ok (.bluetoothInfo name _) => some name
        | _, _ => none
      else none := by
  by_cases request : entry.command = .getBluetoothInfo ∧ entry.system = true
  · rw [if_pos request]
    obtain ⟨command, system⟩ := request
    simp only [toldName?, command, system, Response.decode, Command.kind, Response.bodyOf]
    cases p.verify with
    | error e => rfl
    | ok =>
      cases Response.bluetoothBody p.payload with
      | error e => rfl
      | ok body => cases body <;> rfl
  · rw [if_neg request]
    unfold toldName?
    split
    · next command system _ => exact absurd ⟨command, system⟩ request
    · rfl

theorem Belief.name_after (b : Belief) (d : Deed) : (b.after d).name = d.name?.or b.name := by
  cases d with
  | noted n => cases n <;> rfl
  | answered g entry p =>
    simp only [Belief.after, Belief.learn, Deed.name?, toldName?_decode]
    by_cases ok : p.header.code = 0 <;> simp [ok]
  | _ => rfl

/-- What the journal says of the name is what the driver believes. -/
theorem Belief.name_foldl (b : Belief) (ds : List Deed) :
    (ds.foldl Belief.after b).name = (ds.filterMap Deed.name?).getLast?.or b.name := by
  induction ds generalizing b with
  | nil => rfl
  | cons d ds ih =>
    rw [List.foldl_cons, ih, name_after]
    cases told : d.name? with
    | none => rw [List.filterMap_cons_none told, Option.none_or]
    | some name =>
      rw [List.filterMap_cons_some told, List.getLast?_cons]
      cases (ds.filterMap Deed.name?).getLast? <;> rfl

/-! ## The shadow -/

theorem confirmed_append (g : Nat) (xs ys : List Deed) : confirmed g (xs ++ ys) = confirmed g xs ++ confirmed g ys :=
  List.filterMap_append

theorem confirmed_of_teaches {ds : List Deed} (h : ∀ d ∈ ds, d.teaches = false) (g : Nat) : confirmed g ds = [] := by
  refine List.filterMap_eq_nil_iff.2 fun d hd => ?_
  have dull := h d hd
  cases d <;> first | rfl | cases dull

theorem latest?_of_teaches {ds : List Deed} (h : ∀ d ∈ ds, d.teaches = false) (journal : List Deed) :
    latest? (journal ++ ds) = latest? journal := by
  have none : ds.filterMap Deed.connected? = [] := by
    refine List.filterMap_eq_nil_iff.2 fun d hd => ?_
    have dull := h d hd
    cases d with
    | noted n => cases n <;> first | rfl | cases dull
    | _ => rfl
  rw [latest?, List.filterMap_append, none, List.append_nil, latest?]

theorem Telling.teaches {report : Report} {hearers : List Nat} {ds : List Deed} (h : Telling report hearers ds) :
    ∀ d ∈ ds, d.teaches = false := by
  intro d hd
  rcases h.mem hd with rfl | silent
  · rfl
  · exact Deed.teaches_of_isNews (Deed.isNews_of_isSilent silent)

theorem Failure.teaches {g : Nat} {d : Deed} {cause : TransportError} (h : Failure g d cause) : d.teaches = false := by
  cases h <;> rfl

/-- What a chronicle has confirmed is what the driver believes, and whatever is answered next is answered on the
connection that was established last. -/
structure Believed (journal : List Deed) (s : Outline) : Prop where
  shadow : (journal.foldl Belief.after {}).shadow = confirmedShadow journal
  here : ∀ g, s.phase.generation? = some g → latest? journal = some g
  known : ∀ g, s.generations < g → confirmed g journal = []
  latest : ∀ g, latest? journal = some g → g ≤ s.generations

/-- Nothing is learnt. -/
theorem Believed.dull {journal ds : List Deed} {s t : Outline} (h : Believed journal s)
    (dull : ∀ d ∈ ds, d.teaches = false)
    (phase : ∀ g, t.phase.generation? = some g → s.phase.generation? = some g)
    (generations : s.generations ≤ t.generations) : Believed (journal ++ ds) t := by
  have same := latest?_of_teaches dull journal
  constructor
  case shadow =>
    rw [List.foldl_append, Belief.foldl_after _ dull, h.shadow, confirmedShadow, confirmedShadow, same]
    simp only [confirmed_append, confirmed_of_teaches dull, List.append_nil]
  case here => exact fun g there => same.trans (h.here g (phase g there))
  case known =>
    intro g later
    rw [confirmed_append, confirmed_of_teaches dull, h.known g (Nat.lt_of_le_of_lt generations later), List.append_nil]
  case latest => exact fun g there => Nat.le_trans (h.latest g (same ▸ there)) generations

/-- A connection begins: nothing has been confirmed on it. -/
theorem Believed.begin {journal : List Deed} {s t : Outline} (h : Believed journal s) (address : String)
    (phase : t.phase = .live t.generations) (generations : t.generations = s.generations + 1) :
    Believed (journal ++ [.noted (.connected address t.generations)]) t := by
  have confirms (g : Nat) :
      confirmed g (journal ++ [.noted (.connected address t.generations)]) = confirmed g journal := by
    rw [confirmed_append]
    exact List.append_nil _
  have last : latest? (journal ++ [.noted (.connected address t.generations)]) = some t.generations := by
    rw [latest?, List.filterMap_append]
    exact List.getLast?_concat
  constructor
  case shadow =>
    rw [List.foldl_append, confirmedShadow, last, Option.elim_some, confirms, h.known _ (by omega)]
    rfl
  case here =>
    intro g there
    rw [phase] at there
    exact last.trans there
  case known =>
    intro g later
    rw [confirms, h.known g (by omega)]
  case latest =>
    intro g there
    rw [last] at there
    cases there
    exact Nat.le_refl _

/-- A command of the connection that is there is answered. -/
theorem Believed.learn {journal : List Deed} {s t : Outline} (h : Believed journal s) {g : Nat}
    (here : s.phase.generation? = some g) (entry : InFlight.Entry) (p : Packet) (phase : t.phase = s.phase)
    (generations : t.generations = s.generations) : Believed (journal ++ [.answered g entry p]) t := by
  have last : latest? (journal ++ [.answered g entry p]) = latest? journal := by
    rw [latest?, List.filterMap_append]
    exact congrArg List.getLast? (List.append_nil _)
  have confirms (n : Nat) : confirmed n (journal ++ [.answered g entry p]) =
      confirmed n journal ++ if g = n ∧ p.header.code = 0 then [entry] else [] := by
    rw [confirmed_append]
    congr 1
    simp only [confirmed, Deed.confirmed?, List.filterMap_cons, List.filterMap_nil]
    split <;> simp_all
  constructor
  case shadow =>
    have before := h.shadow
    rw [confirmedShadow, h.here g here, Option.elim_some] at before
    rw [List.foldl_append, confirmedShadow, last, h.here g here, Option.elim_some, confirms, shadowOf,
      List.foldl_append, ← shadowOf, ← before]
    show (Belief.learn _ entry p).shadow = _
    unfold Belief.learn
    by_cases ok : p.header.code = 0 <;> simp [ok]
  case here =>
    intro n there
    rw [last]
    exact h.here n (phase ▸ there)
  case known =>
    intro n later
    have := h.latest g (h.here g here)
    rw [confirms, h.known n (by omega), if_neg (by omega)]
    rfl
  case latest =>
    intro n there
    rw [generations]
    exact h.latest n (last ▸ there)

theorem Turn.believed {s t : Outline} {journal ds : List Deed} (turn : Turn s ds t) (h : Believed journal s) :
    Believed (journal ++ ds) t := by
  have one {d : Deed} (dull : d.teaches = false) : ∀ e ∈ [d], e.teaches = false := List.forall_mem_singleton.2 dull
  have gone {phase : Phase} (idle : phase = .idle) :
      ∀ g, phase.generation? = some g → s.phase.generation? = some g := by
    intro g there
    rw [idle] at there
    cases there
  cases turn with
  | calm calm =>
    exact h.dull (one (Deed.teaches_of_isNews (Deed.isNews_of_isCalm calm))) (fun _ there => there) (Nat.le_refl _)
  | aside aside told => exact h.dull told.teaches (fun _ there => there) (Nat.le_refl _)
  | surplus => exact h.dull (List.forall_mem_nil _) (fun _ there => there) (Nat.le_succ _)
  | @connected hearers ds idle address told =>
    let live := { s with phase := .live (s.generations + 1), generations := s.generations + 1, waiting := [] }
    have begun := h.begin (t := live) address rfl rfl
    rw [List.append_cons]
    exact begun.dull told.teaches (fun _ there => there) (Nat.le_refl _)
  | closing live => exact h.dull (one rfl) (fun g there => by rw [live]; exact there) (Nat.le_refl _)
  | closed closing told => exact h.dull (List.forall_mem_cons.2 ⟨rfl, told.teaches⟩) (gone rfl) (Nat.le_refl _)
  | lost live failed told | broken closing failed told =>
    exact h.dull (List.forall_mem_cons.2 ⟨failed.teaches, List.forall_mem_cons.2 ⟨rfl, told.teaches⟩⟩) (gone rfl)
      (Nat.le_refl _)
  | dropped =>
    refine h.dull (fun d hd => ?_) (gone rfl) (Nat.le_refl _)
    unfold Phase.farewell at hd
    cases hg : s.phase.generation? <;> simp_all [Deed.teaches]
  | took | registered | passed | expired => exact h.dull (one rfl) (fun _ there => there) (Nat.le_refl _)
  | @answered g p entry rest here response oldest =>
    have received := h.dull (t := s) (one (d := .received g p) rfl) (fun _ there => there) (Nat.le_refl _)
    rw [List.append_cons]
    exact received.learn here entry p rfl rfl
  | unmatched here response none told =>
    exact h.dull (List.forall_mem_cons.2 ⟨rfl, List.forall_mem_cons.2 ⟨rfl, told.teaches⟩⟩) (fun _ there => there)
      (Nat.le_refl _)
  | paid first told => exact h.dull told.teaches (fun _ there => there) (Nat.le_refl _)

theorem Chronicle.believed {journal : List Deed} {s : Outline} (h : Chronicle journal s) : Believed journal s := by
  induction h with
  | start =>
    refine ⟨rfl, fun g there => ?_, fun _ _ => rfl, fun g there => ?_⟩
    · cases there
    · cases there
  | next _ _ turn ih => exact turn.believed ih

/-- What is confirmed has been transmitted, and in this order. -/
theorem confirmed_sublist (g : Nat) (journal : List Deed) : (confirmed g journal).Sublist (removals g journal) := by
  have chosen : confirmed g journal =
      (journal.filter fun d => (d.confirmed? g).isSome).filterMap (Deed.removed? g) := by
    rw [List.filterMap_filter]
    refine congrArg (journal.filterMap ·) (funext fun d => ?_)
    cases d with
    | answered n entry p =>
      simp only [Deed.confirmed?, Deed.removed?, Deed.answered?, Deed.expired?]
      by_cases own : n = g <;> by_cases ok : p.header.code = 0 <;> simp [own, ok]
    | _ => rfl
  rw [chosen]
  exact List.filter_sublist.filterMap _

/-! ## Runs -/

namespace Robot

/-- The journal of a run accounts for what the driver believes. -/
theorem belief_after {address : String} {settings : Settings} {start : Robot}
    (made : make address settings = .ok start) (moves : List Move) :
    (start.after moves).belief = (start.after moves).journal.foldl Belief.after {} := by
  obtain ⟨ds, journal, belief⟩ := (strides_after moves start).believes
  obtain ⟨address, rfl⟩ := eq_of_make made
  have whole : (Robot.after _ moves).journal = ds := journal
  rw [whole]
  exact belief

theorem shadow_after {address : String} {settings : Settings} {start : Robot}
    (made : make address settings = .ok start) (moves : List Move) :
    (start.after moves).shadow = confirmedShadow (start.after moves).journal := by
  rw [← (recorded_after made moves).chronicle.believed.shadow, ← belief_after made moves]
  rfl

/-- **The shadow is what has been confirmed**, in every run and whatever happens in it. It is what the commands make of
a robot just switched on that were answered with status zero on the connection that was established last, in the order
of their transmission: no others, on this connection or an earlier one, and whoever sent them. The name is the one in
the last undamaged answer of that status to a request of the driver's own. -/
theorem confirmed_after {address : String} {settings : Settings} {start : Robot}
    (made : make address settings = .ok start) (moves : List Move) :
    let r := start.after moves
    r.shadow = confirmedShadow r.journal ∧
      r.name = (r.journal.filterMap Deed.name?).getLast? ∧
      (∀ link, r.link? = some link → latest? r.journal = some link.generation) ∧
      (∀ g, (confirmed g r.journal).Sublist (registrations g r.journal)) := by
  intro r
  have recorded := recorded_after made moves
  refine ⟨shadow_after made moves, ?_, fun link hl => ?_, fun g => ?_⟩
  · have name := Belief.name_foldl {} r.journal
    rw [← belief_after made moves, Option.or_none] at name
    exact name
  · exact recorded.chronicle.believed.here _ (phase_of_link? hl)
  · exact (confirmed_sublist g r.journal).trans (recorded.answers.removed g).sublist

/-- The response of a robot that does not accept a command. -/
def rejection : Bytes :=
  [0xff, 0xff, 7, 0, 1, 0xf7]

/-- The response of a robot that accepts a command, with a wrong checksum. -/
def damagedAcceptance : Bytes :=
  [0xff, 0xff, 0, 0, 1, 0]

/-- A colour is accepted and the connection lost. On the next one a roll is refused, the front light is accepted in a
damaged answer, and another colour is not answered. -/
def confirmedTwice : List Move :=
  [.perform (.ask .connect), settling, acceptances 5, settling, .perform (.ask (.setRgbLed 1 2 3)), settling,
    acceptances 1, .perform (.arrive none [.ended]), settling, .perform (.ask .connect), settling, acceptances 5,
    settling, .perform (.ask (.roll .zero .one)), .perform (.ask (.setFrontLed .one)),
    .perform (.ask (.setRgbLed 4 5 6)), settling, .perform (.arrive none [.bytes (rejection ++ damagedAcceptance)]),
    settling]

theorem confirmed_after_confirmedTwice :
    ∃ start, make "00:06:66:AA:BB:CC" {} = .ok start ∧
      (start.after confirmedTwice).shadow = confirmedShadow (start.after confirmedTwice).journal ∧
      (start.after confirmedTwice).shadow = { front := .one } ∧
      latest? (start.after confirmedTwice).journal = some 2 := by
  have made : make "00:06:66:AA:BB:CC" {} = .ok _ := rfl
  exact ⟨_, made, (confirmed_after made confirmedTwice).1, by decide +kernel, by decide +kernel⟩

end Robot

end RobotDriver
