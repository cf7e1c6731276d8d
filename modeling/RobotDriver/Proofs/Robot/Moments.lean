import RobotDriver.Proofs.Robot.Acting
import RobotDriver.Robot.Load
import RobotDriver.Robot.Move

/-!
# Moments of a run

Some moves are made of others: a group of steps, a jump of the clock during which tasks run, the end of the driver.
`singles` takes a run apart into moves that are not. Of these, one that is neither a movement of the clock nor
the end of the driver happens at one moment and is made of acts (`acts_move`); `Passage` is the least that happens in
any run, so that what every passage keeps holds all along (`passages_after`).
-/

namespace RobotDriver

/-- The step is not made of others. -/
def Step.isSingle : Step → Bool
  | advance _ | group _ | drop => false
  | _ => true

/-- The move is not made of others. -/
def Move.isSingle : Move → Bool
  | perform step => step.isSingle
  | _ => true

/-- The move happens at one moment and does not end the driver. -/
def Move.isInstant : Move → Bool
  | perform step => step.isSingle
  | run _ => true
  | _ => false

/-- The step submits a macro or gives one up. -/
def Step.plays : Step → Bool
  | ask request => request.plays
  | _ => false

/-- The move submits a macro or gives one up. -/
def Move.plays : Move → Bool
  | perform step => step.plays
  | _ => false

mutual

/-- The step does not give up the driver. -/
def Step.keepsHandle : Step → Bool
  | drop => false
  | group steps => allKeepHandle steps
  | _ => true

def Step.allKeepHandle : List Step → Bool
  | [] => true
  | step :: steps => step.keepsHandle && allKeepHandle steps

end

/-- The move neither gives up the driver nor abandons its calls. -/
def Move.keepsHandle : Move → Bool
  | perform step => step.keepsHandle
  | abandon | quit => false
  | _ => true

namespace Robot

/-- The moves are single, and keep the handle of the driver if `kept` says so. -/
def Single (kept : Prop) (moves : List Move) : Prop :=
  ∀ m ∈ moves, m.isSingle = true ∧ (kept → m.keepsHandle = true)

theorem Single.append {kept : Prop} {ms ns : List Move} (h : Single kept ms) (k : Single kept ns) :
    Single kept (ms ++ ns) :=
  fun m there => (List.mem_append.1 there).elim (h m) (k m)

/-- The moves by which at most so many tasks run in the order of the queue. -/
def turnSingles : Nat → Robot → List Move
  | 0, _ => []
  | n + 1, r =>
    match r.ready with
    | [] => []
    | task :: others => .run 0 :: turnSingles n ({ r with ready := others }.run task)

/-- The moves by which all tasks run. -/
def settleSingles (r : Robot) : List Move :=
  turnSingles r.load r

mutual

/-- The single moves that a step is made of. -/
def stepSingles (r : Robot) : Step → List Move
  | .advance ms => .tick ms :: settleSingles { r with clock := r.clock + ms } ++ [.ring]
  | .group steps => stepsSingles r steps
  | .drop => if r.dropped then [] else .abandon :: settleSingles r.abandonCalls ++ [.quit]
  | step => [.perform step]

def stepsSingles (r : Robot) : List Step → List Move
  | [] => []
  | step :: steps => stepSingles r step ++ stepsSingles (r.perform step).2 steps

end

/-- The single moves that a move is made of. -/
def moveSingles (r : Robot) : Move → List Move
  | .perform step => stepSingles r step
  | m => [m]

/-- The single moves that a run is made of. -/
def singles (r : Robot) : List Move → List Move
  | [] => []
  | m :: moves => moveSingles r m ++ (r.move m).singles moves

theorem after_turnSingles (n : Nat) (r : Robot) : r.after (turnSingles n r) = turns n r := by
  induction n generalizing r with
  | zero => rfl
  | succ n ih =>
    unfold turnSingles
    split
    · next ready =>
      rw [turns, ready]
      rfl
    · next task others ready =>
      have first : r.move (.run 0) = { r with ready := others }.run task := by
        simp [move, ready]
      rw [after, List.foldl_cons, first, turns, ready]
      exact ih _

theorem after_settleSingles (r : Robot) : r.after (settleSingles r) = r.settle :=
  after_turnSingles r.load r

mutual

theorem after_stepSingles (step : Step) (r : Robot) : r.after (stepSingles r step) = (r.perform step).2 := by
  cases step with
  | advance ms =>
    have settled := after_settleSingles { r with clock := r.clock + ms }
    have ticked : r.after (.tick ms :: settleSingles { r with clock := r.clock + ms }) =
        { r with clock := r.clock + ms }.settle := settled
    rw [stepSingles, after_append, ticked]
    rfl
  | group steps =>
    rw [stepSingles]
    exact after_stepsSingles steps r
  | drop =>
    show _ = r.drop
    rw [stepSingles]
    unfold Robot.drop
    split
    · rfl
    · have abandoned : r.after (.abandon :: settleSingles r.abandonCalls) = r.abandonCalls.settle :=
        after_settleSingles r.abandonCalls
      rw [after_append, abandoned]
      rfl
  | ask | cancelTask | tasks | arrive | changeSink | changeNextSink | refuse | hold | release | dialled | settle =>
    rfl

theorem after_stepsSingles (steps : List Step) (r : Robot) :
    r.after (stepsSingles r steps) = (r.performAll steps).2 := by
  cases steps with
  | nil => rfl
  | cons step steps =>
    rw [stepsSingles, after_append, after_stepSingles step r, after_stepsSingles steps]
    rfl

end

/-- A run and its single moves lead to the same. -/
theorem after_singles (moves : List Move) (r : Robot) : r.after (r.singles moves) = r.after moves := by
  induction moves generalizing r with
  | nil => rfl
  | cons m moves ih =>
    have first : r.after (moveSingles r m) = r.move m := by
      cases m with
      | perform step => exact after_stepSingles step r
      | run | tick | ring | abandon | quit => rfl
    rw [singles, after_append, first, ih]
    rfl

theorem singles_append (ms ns : List Move) (r : Robot) :
    r.singles (ms ++ ns) = r.singles ms ++ (r.after ms).singles ns := by
  induction ms generalizing r with
  | nil => rfl
  | cons m ms ih =>
    rw [List.cons_append, singles, ih, singles, List.append_assoc]
    rfl

/-- Moves that are not made of others are their own single moves. -/
theorem singles_of_single {moves : List Move} (single : ∀ m ∈ moves, m.isSingle = true) (r : Robot) :
    r.singles moves = moves := by
  induction moves generalizing r with
  | nil => rfl
  | cons m moves ih =>
    obtain ⟨first, rest⟩ := List.forall_mem_cons.1 single
    have alone : moveSingles r m = [m] := by
      cases m with
      | perform step => cases step <;> first | rfl | cases first
      | _ => rfl
    rw [singles, alone, ih rest, List.singleton_append]

theorem Single.cons {kept : Prop} {m : Move} {ms : List Move} (single : m.isSingle = true)
    (keeps : kept → m.keepsHandle = true) (h : Single kept ms) : Single kept (m :: ms) :=
  List.forall_mem_cons.2 ⟨⟨single, keeps⟩, h⟩

theorem single_nil (kept : Prop) : Single kept [] :=
  fun _ => nofun

theorem single_turnSingles (kept : Prop) (n : Nat) (r : Robot) : Single kept (turnSingles n r) := by
  induction n generalizing r with
  | zero => exact single_nil kept
  | succ n ih =>
    unfold turnSingles
    split
    · exact single_nil kept
    · exact .cons rfl (fun _ => rfl) (ih _)

mutual

theorem single_stepSingles {kept : Prop} (step : Step) (r : Robot) (keeps : kept → step.keepsHandle = true) :
    Single kept (stepSingles r step) := by
  cases step with
  | advance ms =>
    rw [stepSingles]
    have rings : Single kept [.ring] := .cons rfl (fun _ => rfl) (single_nil kept)
    exact Single.append (.cons rfl (fun _ => rfl) (single_turnSingles kept _ _)) rings
  | group steps =>
    rw [stepSingles]
    exact single_stepsSingles steps r fun still => by simpa [Step.keepsHandle] using keeps still
  | drop =>
    rw [stepSingles]
    have given {m : Move} (still : kept) : m.keepsHandle = true := by cases keeps still
    split
    · exact single_nil kept
    · exact Single.append (.cons rfl given (single_turnSingles kept _ _)) (.cons rfl given (single_nil kept))
  | ask | cancelTask | tasks | arrive | changeSink | changeNextSink | refuse | hold | release | dialled | settle =>
    exact .cons rfl keeps (single_nil kept)

theorem single_stepsSingles {kept : Prop} (steps : List Step) (r : Robot)
    (keeps : kept → Step.allKeepHandle steps = true) : Single kept (stepsSingles r steps) := by
  cases steps with
  | nil => exact single_nil kept
  | cons step steps =>
    have both (still : kept) : step.keepsHandle = true ∧ Step.allKeepHandle steps = true := by
      simpa [Step.allKeepHandle] using keeps still
    rw [stepsSingles]
    exact (single_stepSingles step r fun still => (both still).1).append
      (single_stepsSingles steps _ fun still => (both still).2)

end

theorem single_singles {kept : Prop} (moves : List Move) (r : Robot)
    (keeps : kept → ∀ m ∈ moves, m.keepsHandle = true) : Single kept (r.singles moves) := by
  induction moves generalizing r with
  | nil => exact single_nil kept
  | cons m moves ih =>
    refine Single.append ?_ (ih _ fun still n there => keeps still n (List.mem_cons_of_mem m there))
    have keep (still : kept) := keeps still m List.mem_cons_self
    cases m with
    | perform step => exact single_stepSingles step r keep
    | run | tick | ring | abandon | quit => exact .cons rfl keep (single_nil kept)

/-- What every single move keeps holds all along. -/
theorem singly_after (kept : Prop) {P : Robot → Prop}
    (move : ∀ {r m}, P r → m.isSingle = true → (kept → m.keepsHandle = true) → P (r.move m)) {r : Robot} (start : P r)
    (moves : List Move) (keeps : kept → ∀ m ∈ moves, m.keepsHandle = true) : P (r.after moves) := by
  have single := single_singles moves r keeps
  rw [← after_singles moves r]
  generalize r.singles moves = ms at single
  induction ms generalizing r with
  | nil => exact start
  | cons m ms ih =>
    obtain ⟨⟨first, keep⟩, rest⟩ := List.forall_mem_cons.1 single
    exact ih (move start first keep) rest

/-! ## What single moves are made of -/

variable {may : Privilege → Prop} {r s : Robot}

theorem acts_perform (r : Robot) {step : Step} (single : step.isSingle = true)
    (plays : step.plays = true → may .play) : Acts may r (r.perform step).2 := by
  cases step with
  | ask request =>
    simp only [Robot.perform]
    split
    · exact acts_askDropped r request
    · exact acts_ask r request plays
  | cancelTask task => exact acts_tends (gentle_tends.cancelPlan r task)
  | arrive channel arrivals =>
    exact acts_onChannel channel (f := fun r link => r.arrive arrivals link) fun _ hl =>
      acts_tends (gentle_tends.arrive hl arrivals)
  | changeSink sink =>
    refine acts_onChannel none (f := fun r link => r.changeSink sink link) fun link hl => ?_
    unfold Robot.changeSink
    dsimp only
    split
    · exact .head (.sink hl sink) (acts_tends (gentle_tends.rouse _ _ rfl))
    · exact .single (.sink hl sink)
  | changeNextSink | refuse | hold => exact acts_withDialler r _ rfl
  | release => exact .single (.dialled (r := r) { r.dialler with hold := false, held := [] } rfl r.dialler.held)
  | tasks | dialled | settle => exact .refl
  | advance | group | drop => cases single

/-- The move lets the writer of a connection run. -/
def writes (r : Robot) : Move → Prop
  | .run index => ∃ g, r.ready[index]? = some (.write g)
  | _ => False

/-- The move lets the task run that waits for the end of the time of grace of a connection. -/
def graces (g : Nat) (r : Robot) : Move → Bool
  | .run index => r.ready[index]? == some (.wake g .grace)
  | _ => false

theorem acts_move (r : Robot) {m : Move} (instant : m.isInstant = true) (allowed : writes r m → may .write)
    (plays : m.plays = true → may .play) (waits : ∀ g, graces g r m = true → may (.grace g)) :
    Acts may r (r.move m) := by
  cases m with
  | perform step => exact acts_perform r instant plays
  | run index =>
    simp only [Robot.move]
    split
    · exact .refl
    · next task here =>
      exact acts_run here (fun g write => allowed ⟨g, write ▸ here⟩)
        fun g grace => waits g (by simp [graces, here, grace])
  | tick | ring | abandon | quit => cases instant

/-- Whatever happens at one moment is made of acts. -/
theorem acts_of_move (r : Robot) {m : Move} (instant : m.isInstant = true) : Acts Privilege.all r (r.move m) :=
  acts_move r instant (fun _ => trivial) (fun _ => trivial) fun _ _ => trivial

/-- When alarms go off, they leave the agenda, and tasks become ready. -/
theorem ring_eq (r : Robot) : ∃ tasks, r.ring = { r with
    rung := r.clock
    session := r.session.mapLink fun link => { link with agenda := link.agenda.later r.clock }
    ready := r.ready ++ tasks } := by
  unfold Robot.ring onLink
  cases hs : r.session with
  | down =>
    refine ⟨[], ?_⟩
    simp [link?, Session.link?, Session.mapLink]
  | up link | closing link closure =>
    refine ⟨(link.agenda.due r.clock).map (.wake link.generation), ?_⟩
    simp [link?, Session.link?, withLink, mapLink, Session.mapLink]

/-- The least that happens in a run; the handle of the driver goes unless it is `kept`. -/
inductive Passage (kept : Prop) (r : Robot) : Robot → Prop
  | act {s : Robot} (h : Act Privilege.all r s) : Passage kept r s
  | tick (ms : Nat) : Passage kept r { r with clock := r.clock + ms }
  | ring : Passage kept r r.ring
  | abandon (given : ¬ kept) : Passage kept r r.abandonCalls
  | quit (given : ¬ kept) : Passage kept r r.quit

theorem passages_acts {kept : Prop} (h : Acts Privilege.all r s) : Relation.ReflTransGen (Passage kept) r s :=
  h.lift id fun _ _ => .act

theorem passages_move {kept : Prop} (r : Robot) {m : Move} (single : m.isSingle = true)
    (keeps : kept → m.keepsHandle = true) : Relation.ReflTransGen (Passage kept) r (r.move m) := by
  cases m with
  | perform step => exact passages_acts (acts_perform r single fun _ => trivial)
  | run index => exact passages_acts (acts_of_move r rfl)
  | tick ms => exact .single (.tick ms)
  | ring => exact .single .ring
  | abandon => exact .single (.abandon fun still => by cases keeps still)
  | quit => exact .single (.quit fun still => by cases keeps still)

/-- Every run is made of passages. -/
theorem passages_after {kept : Prop} (moves : List Move) (r : Robot)
    (keeps : kept → ∀ m ∈ moves, m.keepsHandle = true) : Relation.ReflTransGen (Passage kept) r (r.after moves) :=
  singly_after kept (fun before single keep => before.trans (passages_move _ single keep)) .refl moves keeps

/-- What every act keeps holds after all acts. -/
theorem Acts.keeps {P : Robot → Prop} (h : Acts may r s) (act : ∀ {r s}, P r → Act may r s → P s) (start : P r) :
    P s := by
  induction h with
  | refl => exact start
  | tail _ last ih => exact act ih last

/-- What every passage keeps holds all along. -/
theorem keeps_after (kept : Prop) {P : Robot → Prop} (passage : ∀ {r s}, P r → Passage kept r s → P s)
    (moves : List Move) (keeps : kept → ∀ m ∈ moves, m.keepsHandle = true) (start : P r) : P (r.after moves) := by
  have h := passages_after moves r keeps
  generalize r.after moves = s at h
  induction h with
  | refl => exact start
  | tail _ last ih => exact passage ih last

/-! ## Settings and time -/

theorem Passage.fixed {kept : Prop} (h : Passage kept r s) : s.settings = r.settings ∧ s.address = r.address := by
  cases h with
  | act act => exact act.still.2.2
  | tick | abandon => exact ⟨rfl, rfl⟩
  | ring =>
    obtain ⟨tasks, rings⟩ := r.ring_eq
    rw [rings]
    exact ⟨rfl, rfl⟩
  | quit =>
    rw [quit_eq]
    exact ⟨rfl, rfl⟩

theorem fixed_after (r : Robot) (moves : List Move) :
    (r.after moves).settings = r.settings ∧ (r.after moves).address = r.address :=
  keeps_after False (P := fun s => s.settings = r.settings ∧ s.address = r.address)
    (fun same passage => ⟨passage.fixed.1.trans same.1, passage.fixed.2.trans same.2⟩) moves nofun ⟨rfl, rfl⟩

theorem settings_after {address : String} {settings : Settings} {start : Robot}
    (made : make address settings = .ok start) (moves : List Move) : (start.after moves).settings = settings := by
  obtain ⟨address, rfl⟩ := eq_of_make made
  exact (fixed_after _ moves).1

theorem Passage.clock_le {kept : Prop} (h : Passage kept r s) : r.clock ≤ s.clock := by
  cases h with
  | act act => exact Nat.le_of_eq act.still.1.symm
  | tick ms => exact Nat.le_add_right _ _
  | ring =>
    obtain ⟨tasks, rings⟩ := r.ring_eq
    exact Nat.le_of_eq (congrArg Robot.clock rings).symm
  | abandon => exact Nat.le_refl _
  | quit => exact Nat.le_of_eq (congrArg Robot.clock r.quit_eq).symm

theorem clock_le_after (r : Robot) (moves : List Move) : r.clock ≤ (r.after moves).clock :=
  keeps_after False (P := fun s => r.clock ≤ s.clock) (fun before passage => Nat.le_trans before passage.clock_le)
    moves nofun (Nat.le_refl _)

theorem acts_turns (n : Nat) (r : Robot) : Acts Privilege.all r (turns n r) := by
  induction n generalizing r with
  | zero => exact .refl
  | succ n ih =>
    unfold turns
    split
    · exact .refl
    · next task others ready =>
      have first : Acts Privilege.all r ({ r with ready := others }.run task) := by
        have here : r.ready[0]? = some task := by rw [ready]; rfl
        have runs : Acts Privilege.all r _ := acts_run here (fun _ _ => trivial) fun _ _ => trivial
        rwa [ready] at runs
      exact first.trans (ih _)

/-- Alarms have gone off up to now. -/
def IsPunctual (r : Robot) : Prop :=
  r.rung = r.clock

theorem Acts.punctual (h : Acts may r s) (punctual : IsPunctual r) : IsPunctual s :=
  h.keeps (P := IsPunctual) (fun punctual act => by
    obtain ⟨clock, rung, -⟩ := act.still
    exact rung.trans (punctual.trans clock.symm)) punctual

theorem punctual_ring (r : Robot) : IsPunctual r.ring := by
  obtain ⟨tasks, rings⟩ := r.ring_eq
  rw [rings]
  rfl

theorem punctual_quit (punctual : IsPunctual r) : IsPunctual r.quit := by
  rw [quit_eq]
  exact punctual

mutual

theorem punctual_perform (step : Step) (r : Robot) (punctual : IsPunctual r) : IsPunctual (r.perform step).2 := by
  cases step with
  | advance ms => exact punctual_ring _
  | group steps => exact punctual_performAll steps r punctual
  | drop =>
    show IsPunctual r.drop
    unfold Robot.drop
    split
    · exact punctual
    · exact punctual_quit ((acts_turns _ r.abandonCalls).punctual punctual)
  | ask | cancelTask | tasks | arrive | changeSink | changeNextSink | refuse | hold | release | dialled | settle =>
    exact (acts_of_move (m := .perform _) r rfl).punctual punctual

theorem punctual_performAll (steps : List Step) (r : Robot) (punctual : IsPunctual r) :
    IsPunctual (r.performAll steps).2 := by
  cases steps with
  | nil => exact punctual
  | cons step steps => exact punctual_performAll steps _ (punctual_perform step r punctual)

end

/-- After every step of a script no task is ready, and every alarm that is due has gone off. -/
theorem settled_playAll (steps : List Step) (r : Robot) (punctual : IsPunctual r) :
    ∀ turn ∈ r.playAll steps, turn.2.2.ready = [] ∧ IsPunctual turn.2.2 := by
  induction steps generalizing r with
  | nil => simp [playAll]
  | cons step steps ih =>
    have settled : IsPunctual (r.perform step).2.settle := (acts_turns _ _).punctual (punctual_perform step r punctual)
    exact List.forall_mem_cons.2 ⟨⟨ready_settle _, settled⟩, ih _ settled⟩

end Robot

end RobotDriver
