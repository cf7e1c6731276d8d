import RobotDriver.Proofs.Robot.Chronicle

/-!
# The lives of the connections

A connection begins, may be closed or fail, and ends, and listeners are told of its beginning and of its end.
`lives` reads from a journal what each connection has gone through, and `Lived` says what the lives in a chronicle
look like: all connections but the last have ended, in one of three ways.
-/

namespace RobotDriver

namespace Event

/-- The event is the end of a connection. -/
def isTerminal : Event → Bool
  | disconnected | unexpectedDisconnect => true
  | _ => false

/-- The event is the beginning or the end of a connection. -/
def isLifecycle (e : Event) : Bool :=
  e == connected || e.isTerminal

end Event

/-- A point in the life of a connection. -/
inductive Mark where
  | begun (generation : Nat)
  | told (event : Event)
  /-- The driver begins to close the connection. -/
  | closing (generation : Nat)
  /-- The stream ends, or reading or writing fails. -/
  | failed (generation : Nat)
  /-- The connection is torn down. -/
  | down (generation : Nat)
  | dropped (generation : Nat)
  deriving DecidableEq

def Mark.event? : Mark → Option Event
  | told e => some e
  | _ => none

namespace Deed

def event? : Deed → Option Event
  | reported (.event e) _ => some e
  | _ => none

def mark? : Deed → Option Mark
  | noted (.connected _ g) => some (.begun g)
  | noted (.disconnecting g) => some (.closing g)
  | noted (.disconnected g) | noted (.closedUnexpectedly g _) | noted (.closedWhileDisconnecting g _) =>
    some (.down g)
  | noted (.handleDropped g) => some (.dropped g)
  | took g .ended | took g (.failed _) | halted g _ => some (.failed g)
  | reported (.event e) _ => if e.isLifecycle then some (.told e) else none
  | _ => none

end Deed

/-- The points in the lives of all connections, in order. -/
def marks (journal : List Deed) : List Mark :=
  journal.filterMap Deed.mark?

/-- The beginnings and ends of connections that have been reported, in order. -/
def lifecycleEvents (journal : List Deed) : List Event :=
  (journal.filterMap Deed.event?).filter Event.isLifecycle

/-- What one connection has gone through since it has begun. -/
structure Life where
  generation : Nat
  marks : List Mark
  deriving DecidableEq

namespace Life

/-- A connection that begins is put before the others; all else belongs to the last one that has begun. -/
def extend : List Life → Mark → List Life
  | lives, .begun g => ⟨g, []⟩ :: lives
  | [], m => [⟨0, [m]⟩]
  | life :: past, m => ⟨life.generation, life.marks ++ [m]⟩ :: past

/-- What has been reported of the connection. -/
def events (l : Life) : List Event :=
  l.marks.filterMap Mark.event?

/-- The connection has failed while it was in use. -/
def hasFailedInUse (l : Life) : Bool :=
  (l.marks.takeWhile (· ≠ .closing l.generation)).contains (.failed l.generation)

/-- The event by which the connection ends. -/
def ending (l : Life) : Event :=
  if l.hasFailedInUse then .unexpectedDisconnect else .disconnected

/-- The driver has been given up while the connection was there. -/
def isDropped (l : Life) : Bool :=
  l.marks.contains (.dropped l.generation)

end Life

/-- The connections of a journal, the last one first. -/
def lives (journal : List Deed) : List Life :=
  (marks journal).foldl Life.extend []

/-! ## Marks -/

theorem marks_append (xs ys : List Deed) : marks (xs ++ ys) = marks xs ++ marks ys :=
  List.filterMap_append

theorem Deed.mark?_of_isSilent {d : Deed} (h : d.isSilent = true) : d.mark? = none := by
  cases d with
  | noted n =>
    cases n with
    | connected | disconnecting | disconnected | closedUnexpectedly | closedWhileDisconnecting | handleDropped =>
      cases h
    | _ => rfl
  | wrote | replied | finished | told => rfl
  | _ => cases h

theorem Failure.mark {g : Nat} {d : Deed} {cause : TransportError} (h : Failure g d cause) :
    d.mark? = some (.failed g) := by
  cases h <;> rfl

theorem Telling.marks {report : Report} {hearers : List Nat} {ds : List Deed} (h : Telling report hearers ds) :
    marks ds = marks [.reported report hearers] :=
  h.filterMap_eq fun _ => Deed.mark?_of_isSilent

theorem Telling.marks_cons {report : Report} {hearers : List Nat} {ds : List Deed} (h : Telling report hearers ds)
    (d : Deed) : RobotDriver.marks (d :: ds) = RobotDriver.marks [d, .reported report hearers] := by
  rw [← List.singleton_append, marks_append, h.marks, ← marks_append]
  rfl

theorem marks_cons_of_some {d : Deed} {m : Mark} (h : d.mark? = some m) (ds : List Deed) :
    marks (d :: ds) = m :: marks ds :=
  List.filterMap_cons_some h

theorem marks_reported_aside {report : Report} (h : report.isAside = true) (hearers : List Nat) :
    marks [.reported report hearers] = [] := by
  cases report with
  | event e => cases e <;> first | rfl | cases h
  | information i => rfl
  | response response command => cases h

theorem marks_reported_due (due : Due) (hearers : List Nat) : marks [.reported due.report hearers] = [] := by
  cases due <;> rfl

theorem lifecycleEvents_eq (journal : List Deed) :
    lifecycleEvents journal = (marks journal).filterMap Mark.event? := by
  unfold lifecycleEvents marks
  rw [List.filterMap_filterMap, List.filter_filterMap]
  congr
  funext d
  cases d with
  | reported report hearers =>
    cases report with
    | event e =>
      simp only [Deed.event?, Deed.mark?, Option.filter_some]
      split <;> rfl
    | _ => rfl
  | noted n => cases n <;> rfl
  | took g arrival => cases arrival <;> rfl
  | _ => rfl

theorem lifecycleEvents_append (xs ys : List Deed) :
    lifecycleEvents (xs ++ ys) = lifecycleEvents xs ++ lifecycleEvents ys := by
  simp [lifecycleEvents]

/-- The lives together tell all that has been reported. -/
theorem events_foldl_extend (ms : List Mark) (ls : List Life) :
    (ms.foldl Life.extend ls).reverse.flatMap Life.events =
      ls.reverse.flatMap Life.events ++ ms.filterMap Mark.event? := by
  induction ms generalizing ls with
  | nil => simp
  | cons m ms ih =>
    have one : (Life.extend ls m).reverse.flatMap Life.events =
        ls.reverse.flatMap Life.events ++ m.event?.toList := by
      cases m with
      | begun g => simp [Life.extend, Life.events, Mark.event?]
      | _ => cases ls <;> simp [Life.extend, Life.events, Mark.event?]
    rw [List.foldl_cons, ih, one, List.append_assoc, List.filterMap_cons]
    cases m.event? <;> rfl

theorem lifecycleEvents_eq_lives (journal : List Deed) :
    lifecycleEvents journal = (lives journal).reverse.flatMap Life.events := by
  rw [lifecycleEvents_eq, lives, events_foldl_extend]
  rfl

theorem lives_append (xs ys : List Deed) : lives (xs ++ ys) = (marks ys).foldl Life.extend (lives xs) := by
  rw [lives, marks_append, List.foldl_append]
  rfl

/-! ## Lives -/

/-- The three ways in which a connection ends: it fails in use, it fails while it is being closed, it is closed. -/
inductive Life.Ended : Life → Prop where
  | lost (g : Nat) : Ended ⟨g, [.told .connected, .failed g, .down g, .told .unexpectedDisconnect]⟩
  | broken (g : Nat) :
      Ended ⟨g, [.told .connected, .closing g, .failed g, .down g, .told .disconnected]⟩
  | closed (g : Nat) : Ended ⟨g, [.told .connected, .closing g, .down g, .told .disconnected]⟩

theorem Life.Ended.events {l : Life} (h : l.Ended) : l.events = [.connected, l.ending] := by
  cases h <;> simp [Life.events, Mark.event?, Life.ending, hasFailedInUse, List.filterMap_cons]

theorem Life.Ended.isDropped {l : Life} (h : l.Ended) : l.isDropped = false := by
  cases h <;> simp [Life.isDropped]

theorem Life.isTerminal_ending (l : Life) : l.ending.isTerminal = true := by
  unfold ending
  split <;> rfl

/-- The life so far of the connection that is there. -/
def Phase.lives : Phase → List Life
  | idle => []
  | live g => [⟨g, [.told .connected]⟩]
  | closing g => [⟨g, [.told .connected, .closing g]⟩]

/-- A life that ends with the driver. -/
def Life.drop (l : Life) : Life :=
  ⟨l.generation, l.marks ++ [.dropped l.generation]⟩

theorem Phase.generation_of_mem {p : Phase} {l : Life} (h : l ∈ p.lives) : p.generation? = some l.generation := by
  cases p <;> simp_all [Phase.lives, Phase.generation?]

theorem Phase.events_of_mem {p : Phase} {l : Life} (h : l ∈ p.lives) : l.events = [.connected] := by
  cases p <;> simp_all [Phase.lives, Life.events, Mark.event?]

theorem Phase.isDropped_of_mem {p : Phase} {l : Life} (h : l ∈ p.lives) : l.isDropped = false := by
  cases p <;> simp_all [Phase.lives, Life.isDropped]

theorem Life.events_drop (l : Life) : l.drop.events = l.events := by
  simp [Life.drop, Life.events, Mark.event?]

theorem Life.isDropped_drop (l : Life) : l.drop.isDropped = true := by
  simp [Life.drop, Life.isDropped]

/-- What the lives of a driver come to: all connections but the last have ended, and the last one has come as far as
the outline says, or it was dropped at some phase. -/
inductive Course (s : Outline) (ls : List Life) : Prop where
  | here (past : List Life) (alive : s.dropped = false) (shape : ls = s.phase.lives ++ past)
      (ended : ∀ l ∈ past, l.Ended)
  | gone (p : Phase) (past : List Life) (dropped : s.dropped = true) (idle : s.phase = .idle)
      (shape : ls = p.lives.map Life.drop ++ past) (ended : ∀ l ∈ past, l.Ended)

/-- The lives that lead to an outline, the last one first. -/
structure Lived (s : Outline) (ls : List Life) : Prop where
  course : Course s ls
  ordered : (ls.map Life.generation).Pairwise fun later earlier => earlier < later
  bound : ∀ g ∈ ls.map Life.generation, g ≤ s.generations

variable {s t : Outline} {ls ms : List Life}

theorem Lived.mono (h : Lived s ls) (phase : t.phase = s.phase) (dropped : t.dropped = s.dropped)
    (generations : s.generations ≤ t.generations) : Lived t ls := by
  refine ⟨?_, h.ordered, ?_⟩
  · cases h.course with
    | here past alive shape ended => exact .here past (dropped.trans alive) (phase ▸ shape) ended
    | gone p past cut idle shape ended => exact .gone p past (dropped.trans cut) (phase.trans idle) shape ended
  · intro g hg
    have := h.bound g hg
    omega

/-- The last life goes on or ends, and its generation stays the same. -/
theorem Lived.go (h : Lived s ls) (course : Course t ms) (same : ms.map Life.generation = ls.map Life.generation)
    (generations : t.generations = s.generations) : Lived t ms := by
  refine ⟨course, ?_, ?_⟩
  · rw [same]
    exact h.ordered
  · rw [same, generations]
    exact h.bound

/-- A new connection comes before the others. -/
theorem Lived.begin {past : List Life} (h : Lived s past) (alive : t.dropped = false) (ended : ∀ l ∈ past, l.Ended)
    (phase : t.phase = .live t.generations) (generations : s.generations < t.generations) :
    Lived t (t.phase.lives ++ past) := by
  rw [phase]
  refine ⟨.here past alive (by rw [phase]) ended, ?_, ?_⟩
  · show (t.generations :: past.map Life.generation).Pairwise _
    rw [List.pairwise_cons]
    constructor
    · intro g hg
      have := h.bound g hg
      omega
    · exact h.ordered
  · show ∀ g ∈ t.generations :: past.map Life.generation, g ≤ t.generations
    intro g hg
    rcases List.mem_cons.1 hg with rfl | hg
    · omega
    · have := h.bound g hg
      omega

/-- The last life ends. -/
theorem Lived.finish {past : List Life} {before after : Life} (h : Lived s (before :: past))
    (same : after.generation = before.generation) (ended : after.Ended) (others : ∀ l ∈ past, l.Ended)
    (alive : t.dropped = false) (idle : t.phase = .idle) (generations : t.generations = s.generations) :
    Lived t (after :: past) := by
  apply h.go
  · apply Course.here (after :: past) alive
    · rw [idle]
      rfl
    · intro l hl
      rcases List.mem_cons.1 hl with rfl | hl
      · exact ended
      · exact others l hl
  · rw [List.map_cons, List.map_cons, same]
  · exact generations

theorem Turn.lived {ds : List Deed} (turn : Turn s ds t) (here : s.dropped = false) (h : Lived s ls) :
    Lived t ((marks ds).foldl Life.extend ls) := by
  cases h.course with
  | gone p past dropped => cases here.symm.trans dropped
  | here past alive shape ended =>
    subst shape
    cases turn with
    | @calm d calm =>
      have none : marks [d] = [] := by simp [marks, Deed.mark?_of_isSilent (Deed.isSilent_of_isCalm calm)]
      rw [none]
      exact h
    | aside aside told =>
      rw [told.marks, marks_reported_aside aside]
      exact h
    | surplus => exact h.mono rfl rfl (Nat.le_succ _)
    | connected idle address told =>
      rw [told.marks_cons]
      rw [idle] at h ⊢
      exact h.begin here ended rfl (Nat.lt_succ_self _)
    | closing live =>
      rw [live] at h ⊢
      exact h.go (.here past here rfl ended) rfl rfl
    | @closed g hearers ds closing told =>
      rw [told.marks_cons]
      rw [closing] at h ⊢
      exact h.finish rfl (.closed g) ended here rfl rfl
    | @lost g d cause hearers ds live failed told =>
      rw [marks_cons_of_some failed.mark, told.marks_cons]
      rw [live] at h ⊢
      exact h.finish rfl (.lost g) ended here rfl rfl
    | @broken g d cause hearers ds closing failed told =>
      rw [marks_cons_of_some failed.mark, told.marks_cons]
      rw [closing] at h ⊢
      exact h.finish rfl (.broken g) ended here rfl rfl
    | dropped =>
      have cut (p : Phase) :
          (marks p.farewell).foldl Life.extend (p.lives ++ past) = p.lives.map Life.drop ++ past := by
        cases p <;> rfl
      rw [cut]
      apply h.go
      · exact .gone s.phase past rfl rfl rfl ended
      · simp [Life.drop]
      · rfl
    | took | registered | passed | answered | expired => exact h.mono rfl rfl (Nat.le_refl _)
    | @unmatched g p hearers ds current hp none told =>
      have marked : marks (.received g p :: .noted (.responseUnmatched (.ofCode p.header.code)) :: ds) = [] :=
        told.marks_cons (.noted (.responseUnmatched (.ofCode p.header.code)))
      rw [marked]
      exact h
    | paid first told =>
      rw [told.marks, marks_reported_due]
      exact h.mono rfl rfl (Nat.le_refl _)

theorem Chronicle.lived {journal : List Deed} (h : Chronicle journal s) : Lived s (lives journal) := by
  induction h with
  | start => exact ⟨.here [] rfl rfl (by simp), .nil, by simp [lives, marks]⟩
  | next _ here turn ih =>
    rw [lives_append]
    exact turn.lived here ih

/-- A life has ended, or it is that of the connection that is there, or it was cut off with the driver. -/
theorem Lived.mem (h : Lived s ls) {l : Life} (hl : l ∈ ls) :
    l.Ended ∨ l ∈ s.phase.lives ∨ s.dropped = true ∧ ∃ p : Phase, l ∈ p.lives.map Life.drop := by
  cases h.course with
  | here past alive shape ended =>
    subst shape
    rcases List.mem_append.1 hl with hl | hl
    · exact .inr (.inl hl)
    · exact .inl (ended l hl)
  | gone p past dropped idle shape ended =>
    subst shape
    rcases List.mem_append.1 hl with hl | hl
    · exact .inr (.inr ⟨dropped, p, hl⟩)
    · exact .inl (ended l hl)

/-- The connection that is there comes first, and no other has its generation. -/
theorem Lived.head (h : Lived s ls) (here : s.dropped = false) {l : Life} (hl : s.phase.lives = [l]) :
    ls.head? = some l ∧ ∀ m ∈ ls, m.generation = l.generation → m = l := by
  cases h.course with
  | gone p past dropped => cases here.symm.trans dropped
  | here past alive shape ended =>
    have ordered := h.ordered
    rw [hl] at shape
    subst shape
    rw [List.singleton_append, List.map_cons, List.pairwise_cons] at ordered
    constructor
    · rfl
    · intro m hm same
      rcases List.mem_cons.1 hm with rfl | hm
      · rfl
      · have := ordered.1 _ (List.mem_map_of_mem hm)
        omega

end RobotDriver
