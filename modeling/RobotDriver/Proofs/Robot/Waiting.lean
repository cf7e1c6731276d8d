import RobotDriver.Proofs.Robot.Growing

/-!
# What a connection waits for that is being closed

A connection whose closing has begun waits for its end (`Waits`) or is gone (`Over`). While it waits, less than two
confirmations have come, the channel has not failed and the time of grace is not over; what each act and each move makes
of it is said here once, and `Ends.after` says what a whole run does. The time of grace is counted from the first run of
the task that waits for its end, which `graceFrom?` reads off a run.
-/

namespace RobotDriver

/-- Nothing that has happened since the closing of a connection began has ended it. -/
structure Pending (g : Nat) (closing : List Deed) : Prop where
  few : closing.countP (Deed.confirms g) < 2
  sound : .failed g ∉ marks closing
  early : ∀ grace, .noted (.shutdownUnconfirmed g grace) ∉ closing

/-- The deed neither ends the wait for the end of a connection nor brings it nearer. -/
structure Deed.IsIdle (g : Nat) (d : Deed) : Prop where
  unmarked : d.mark? = none
  unconfirming : d.confirms g = false
  early : ∀ grace, d ≠ .noted (.shutdownUnconfirmed g grace)

/-- What has happened from the beginning of the closing of a connection to its end, and the note of the end. -/
inductive Ending (g : Nat) : List Deed → Note → Prop where
  /-- The robot has confirmed for the second time. -/
  | confirmed {closing : List Deed} {entry : InFlight.Entry} {p : Packet} {notes : List Note}
      (pending : Pending g closing) (first : closing.countP (Deed.confirms g) = 1)
      (second : (Deed.answered g entry p).confirms g = true) (light : ∀ n ∈ notes, (Deed.noted n).isLight = true) :
      Ending g (closing ++ (.received g p :: .answered g entry p :: notes.map .noted)) (.disconnected g)
  | lapsed {closing : List Deed} (pending : Pending g closing) (grace : Nat) :
      Ending g (closing ++ [.noted (.shutdownUnconfirmed g grace)]) (.disconnected g)
  /-- The channel has failed, after the last doing of the writer. -/
  | failed {closing last : List Deed} {d : Deed} {cause : TransportError} (pending : Pending g closing)
      (worked : ∀ d ∈ last, d.isWriters g = true) (failed : Failure g d cause) :
      Ending g (closing ++ (last ++ [d])) (.closedWhileDisconnecting g cause)

theorem Ending.note_ne {g : Nat} {held : List Deed} {n : Note} (h : Ending g held n) (grace : Nat) :
    n ≠ .shutdownUnconfirmed g grace := by
  cases h <;> exact nofun

theorem Deed.isIdle_of_isLight {d : Deed} (h : d.isLight = true) (g : Nat) : d.IsIdle g := by
  constructor
  case unmarked =>
    cases d with
    | noted n => cases n <;> first | rfl | cases h
    | reported report hearers =>
      cases report with
      | event e =>
        have other : e.isLifecycle = false := by simpa [Deed.isLight] using h
        simp [Deed.mark?, other]
      | _ => rfl
    | told | replied => rfl
    | _ => cases h
  case unconfirming => exact Deed.confirms_of_isPlain (Deed.isPlain_of_isLight h) g
  case early =>
    rintro grace rfl
    cases h

theorem Deed.isIdle_of_notes {notes : List Note} (light : ∀ n ∈ notes, (Deed.noted n).isLight = true) (g : Nat) :
    ∀ d ∈ notes.map Deed.noted, d.IsIdle g := by
  intro d hd
  obtain ⟨n, hn, rfl⟩ := List.mem_map.1 hd
  exact isIdle_of_isLight (light n hn) g

theorem Deed.isIdle_of_isWriters {d : Deed} {g : Nat} (h : d.isWriters g = true) : d.IsIdle g := by
  constructor
  case unmarked =>
    cases d with
    | noted n => cases n <;> first | rfl | cases h
    | wrote | registered => rfl
    | _ => cases h
  case unconfirming => exact Deed.confirms_of_isPlain (Deed.isPlain_of_isWriters h) g
  case early =>
    rintro grace rfl
    cases h

namespace Robot

/-- The time at which the task that waits for the end of the time of grace of a connection first runs. -/
def graceFrom? (g : Nat) (r : Robot) : List Move → Option Nat
  | [] => none
  | m :: moves => if graces g r m then some r.clock else graceFrom? g (r.move m) moves

/-- The connection waits for its end. -/
structure Waits (g : Nat) (deadline waiter : Option Nat) (link : Link) (closure : Closure) (r : Robot) : Prop where
  session : r.session = .closing link closure
  generation : link.generation = g
  deadline : closure.deadline = deadline
  waiter : closure.waiter = waiter
  parted : ∃ d ∈ r.journal, d.parts g = true
  count : (since (Deed.parts g) r.journal).countP (Deed.confirms g) = if closure.echoed then 1 else 0
  quiet : marks (since (Deed.parts g) r.journal) = []
  early : ∀ grace, .noted (.shutdownUnconfirmed g grace) ∉ since (Deed.parts g) r.journal

/-- The connection is gone; `held` happened before its end was noted and told of, and `rest` since. -/
structure Over (g : Nat) (deadline waiter : Option Nat) (held : List Deed) (n : Note) (hearers : List Nat)
    (told rest : List Deed) (r : Robot) : Prop where
  known : g ≤ r.generations
  gone : r.current? g = none
  parted : ∃ d ∈ r.journal, d.parts g = true
  cut : since (Deed.parts g) r.journal = held ++ .noted n :: told ++ rest
  ending : Ending g held n
  telling : Telling (.event .disconnected) hearers told
  once : lifecycleEvents (held ++ .noted n :: told) = [.disconnected]
  later : ∀ d ∈ rest, d.generation? ≠ some g
  inFlight : ∀ entry ∈ r.inFlight.entries, ∃ n, .registered n entry ∈ rest
  returned : ∀ call, waiter = some call → .disconnected call ∈ r.ready ∨ .finished call (.answered true) ∈ rest
  lapsed : ∀ grace, .noted (.shutdownUnconfirmed g grace) ∈ since (Deed.parts g) r.journal → ∃ t ∈ deadline, t ≤ r.rung

/-- A connection whose closing has begun waits for its end or is gone. -/
def Ends (g : Nat) (deadline waiter : Option Nat) (r : Robot) : Prop :=
  (∃ link closure, Waits g deadline waiter link closure r) ∨
    ∃ held n hearers told rest, Over g deadline waiter held n hearers told rest r

variable {may : Privilege → Prop} {r s : Robot} {link next : Link} {closure renewed : Closure}
  {ds es held told rest : List Deed} {n : Note}
  {hearers : List Nat} {g : Nat} {deadline latest waiter : Option Nat}

/-! ## When the time of grace begins -/

/-- A move by which the task that waits does not run. -/
theorem acts_ungraced {m : Move} (instant : m.isInstant = true) (idle : graces g r m = false) :
    Acts (· ≠ .grace g) r (r.move m) := by
  refine acts_move r instant (fun _ => nofun) (fun _ => nofun) ?_
  rintro n runs same
  cases same
  rw [idle] at runs
  cases runs

theorem graceFrom?_append (ms ns : List Move) (r : Robot) :
    graceFrom? g r (ms ++ ns) = (graceFrom? g r ms).or (graceFrom? g (r.after ms) ns) := by
  induction ms generalizing r with
  | nil => rfl
  | cons m ms ih =>
    rw [List.cons_append, graceFrom?, graceFrom?]
    split
    · rfl
    · exact ih _

theorem clock_of_graceFrom? {moves : List Move} {t : Nat} (begins : graceFrom? g r moves = some t) :
    r.clock ≤ t ∧ t ≤ (r.after moves).clock := by
  induction moves generalizing r with
  | nil => cases begins
  | cons m moves ih =>
    rw [graceFrom?] at begins
    split at begins
    · cases begins
      exact ⟨Nat.le_refl _, clock_le_after r (m :: moves)⟩
    · obtain ⟨early, late⟩ := ih begins
      exact ⟨Nat.le_trans (clock_le_after r [m]) early, late⟩

/-! ## While the connection is there -/

theorem Waits.current (h : Waits g deadline waiter link closure r) : r.current? g = some link :=
  current?_eq_some.2 ⟨link?_of_closing h.session, h.generation⟩

theorem Waits.pending (h : Waits g deadline waiter link closure r) :
    Pending g (since (Deed.parts g) r.journal) := by
  refine ⟨?_, ?_, h.early⟩
  · rw [h.count]
    split <;> decide
  · rw [h.quiet]
    exact List.not_mem_nil

/-- Something happens that does not end the closing. -/
theorem Waits.extend (h : Waits g deadline waiter link closure r) (session : s.session = .closing next renewed)
    (generation : next.generation = link.generation) (set : renewed.deadline = latest)
    (call : renewed.waiter = closure.waiter) (journal : s.journal = r.journal ++ ds)
    (count : (if closure.echoed then 1 else 0) + ds.countP (Deed.confirms g) = if renewed.echoed then 1 else 0)
    (quiet : marks ds = []) (early : ∀ grace, .noted (.shutdownUnconfirmed g grace) ∉ ds) :
    Waits g latest waiter next renewed s := by
  obtain ⟨d, hd, begun⟩ := h.parted
  have closing := since_append h.parted ds
  rw [← journal] at closing
  refine ⟨session, generation.trans h.generation, set, call.trans h.waiter,
    ⟨d, journal ▸ List.mem_append_left _ hd, begun⟩, ?_, ?_, fun grace there => ?_⟩
  · rw [closing, List.countP_append, h.count, count]
  · rw [closing, marks_append, h.quiet, quiet, List.append_nil]
  · rw [closing] at there
    exact (List.mem_append.1 there).elim (h.early grace) (early grace)

/-- The connection ends. -/
theorem Waits.part (h : Waits g deadline waiter link closure r) (known : g ≤ r.generations)
    (session : s.session = r.session) (generations : s.generations = r.generations) (rung : s.rung = r.rung)
    (journal : s.journal = r.journal ++ ds)
    (ending : Ending g (since (Deed.parts g) r.journal ++ ds) n) (quiet : lifecycleEvents ds = [])
    (lapsed : ∀ grace, .noted (.shutdownUnconfirmed g grace) ∈ ds → ∃ t ∈ latest, t ≤ r.rung) :
    ∃ hearers told, Over g latest waiter (since (Deed.parts g) r.journal ++ ds) n hearers told []
      (s.part n .disconnected) := by
  obtain ⟨hearers, told, telling, light, parted⟩ := s.part_eq n .disconnected
  obtain ⟨d, hd, begun⟩ := h.parted
  have cut : since (Deed.parts g) (s.journal ++ .noted n :: told) =
      since (Deed.parts g) r.journal ++ ds ++ .noted n :: told := by
    rw [journal, List.append_assoc, since_append h.parted, List.append_assoc]
  refine ⟨hearers, told, ?_⟩
  rw [parted]
  constructor
  case known => exact generations ▸ known
  case gone => rfl
  case parted => exact ⟨d, List.mem_append_left _ (journal ▸ List.mem_append_left _ hd), begun⟩
  case cut => rw [List.append_nil, cut]
  case ending => exact ending
  case telling => exact telling
  case once =>
    have silent : lifecycleEvents (since (Deed.parts g) r.journal) = [] := by
      rw [lifecycleEvents_eq, h.quiet]
      rfl
    have once : lifecycleEvents told = [.disconnected] := by
      rw [lifecycleEvents_eq, telling.marks]
      rfl
    have noted : lifecycleEvents (.noted n :: told) = lifecycleEvents told :=
      congrArg (List.filter Event.isLifecycle) (List.filterMap_cons_none rfl)
    rw [lifecycleEvents_append, lifecycleEvents_append, silent, quiet, noted, once]
    rfl
  case later => simp
  case inFlight => simp
  case returned =>
    rintro call rfl
    refine .inl (List.mem_append_right _ ?_)
    rw [session, h.session]
    simp [Session.waiter?, h.waiter]
  case lapsed =>
    intro grace there
    rw [cut, List.append_assoc] at there
    show ∃ t ∈ latest, t ≤ s.rung
    rw [rung]
    rcases List.mem_append.1 there with there | there
    · exact absurd there (h.early grace)
    rcases List.mem_append.1 there with there | there
    · exact lapsed grace there
    rcases List.mem_cons.1 there with same | there
    · exact absurd (Deed.noted.inj same).symm (ending.note_ne grace)
    rcases light _ there with same | light
    · cases same
    · cases light

/-- What the answer that confirms a closing adds to it. -/
theorem answer_counts {entry : InFlight.Entry} {p : Packet} {notes : List Note}
    (light : ∀ n ∈ notes, (Deed.noted n).isLight = true) (counted : (Deed.answered g entry p).confirms g = true) :
    let answer := .received g p :: .answered g entry p :: notes.map Deed.noted
    answer.countP (Deed.confirms g) = 1 ∧ marks answer = [] ∧
      ∀ grace, .noted (.shutdownUnconfirmed g grace) ∉ answer := by
  have idle := Deed.isIdle_of_notes light g
  have none : (notes.map Deed.noted).countP (Deed.confirms g) = 0 :=
    List.countP_eq_zero.2 fun d hd => by simp [(idle d hd).unconfirming]
  refine ⟨?_, ?_, fun grace there => ?_⟩
  · rw [List.countP_cons_of_neg (by simp [Deed.confirms]), List.countP_cons_of_pos counted, none]
  · refine List.filterMap_eq_nil_iff.2 (List.forall_mem_cons.2 ⟨rfl, List.forall_mem_cons.2 ⟨rfl, fun d hd => ?_⟩⟩)
    exact (idle d hd).unmarked
  · simp only [List.mem_cons, reduceCtorEq, false_or] at there
    exact (idle _ there).early grace rfl

/-- Something happens that does not concern the end of the connection. -/
theorem Waits.stays (h : Waits g deadline waiter link closure r) (session : s.session = .closing next closure)
    (generation : next.generation = link.generation) (journal : s.journal = r.journal ++ ds)
    (idle : ∀ d ∈ ds, d.IsIdle g) : ∃ next renewed, Waits g deadline waiter next renewed s := by
  refine ⟨next, closure, h.extend session generation h.deadline rfl journal ?_ ?_ fun grace there => ?_⟩
  · rw [List.countP_eq_zero.2 fun d hd => by simp [(idle d hd).unconfirming], Nat.add_zero]
  · exact List.filterMap_eq_nil_iff.2 fun d hd => (idle d hd).unmarked
  · exact (idle _ there).early grace rfl

theorem Waits.tends (h : Waits g deadline waiter link closure r) {q : Robot} (tends : Tends q es s)
    (session : q.session = r.session) (journal : q.journal = r.journal ++ ds) (idle : ∀ d ∈ ds, d.IsIdle g)
    (light : ∀ d ∈ es, d.isLight = true) : ∃ next renewed, Waits g deadline waiter next renewed s := by
  have tended := tends.session
  rw [session, h.session] at tended
  generalize hn : s.session = t at tended
  cases tended with
  | closing _ tended =>
    exact h.stays hn tended.generation (by rw [tends.journal, journal, List.append_assoc])
      (List.forall_mem_append.2 ⟨idle, fun d hd => Deed.isIdle_of_isLight (light d hd) g⟩)

theorem Waits.known (h : Waits g deadline waiter link closure r) (watched : Watched r) : g ≤ r.generations := by
  have session := watched.session
  rw [h.session] at session
  exact h.generation ▸ session.1

/-- The robot confirms for the second time. -/
theorem Waits.confirmed (h : Waits g deadline waiter link closure r) (watched : Watched r)
    (second : closure.echoed = true) {entry : InFlight.Entry} {p : Packet} {notes : List Note}
    (light : ∀ n ∈ notes, (Deed.noted n).isLight = true)
    (counted : (Deed.answered link.generation entry p).confirms link.generation = true) (rest : List InFlight.Entry) :
    ∃ held n hearers told, Over g deadline waiter held n hearers told []
      ((r.answer link.generation entry rest p notes).part (.disconnected link.generation) .disconnected) := by
  obtain ⟨-, quiet, early⟩ := answer_counts light counted
  have first := h.count
  rw [second, if_pos rfl] at first
  have known := h.known watched
  obtain rfl := h.generation
  refine ⟨_, _, h.part (s := r.answer link.generation entry rest p notes) known rfl rfl rfl rfl
    (.confirmed h.pending first counted light) ?_ fun grace there => absurd there (early grace)⟩
  rw [lifecycleEvents_eq, quiet]
  rfl

/-- The channel fails, after what the writer has done. -/
theorem Waits.broken (h : Waits g deadline waiter link closure r) (watched : Watched r) {d : Deed}
    {cause : TransportError} (worked : Worked (may .write) link ds) (failed : Failure link.generation d cause) :
    ∃ held n hearers told, Over g deadline waiter held n hearers told []
      ((r.recordAll (ds ++ [d])).part (.closedWhileDisconnecting link.generation cause) .disconnected) := by
  have own := worked.own
  have unmarked : marks ds = [] :=
    List.filterMap_eq_nil_iff.2 fun e he => (Deed.isIdle_of_isWriters (own e he)).unmarked
  have known := h.known watched
  obtain rfl := h.generation
  refine ⟨_, _, h.part (s := r.recordAll (ds ++ [d])) known rfl rfl rfl rfl (.failed h.pending own failed) ?_
    fun grace there => ?_⟩
  · rw [lifecycleEvents_eq, marks_append, unmarked, marks_cons_of_some failed.mark]
    rfl
  · rcases List.mem_append.1 there with there | there
    · exact absurd rfl ((Deed.isIdle_of_isWriters (own _ there)).early grace)
    · rw [← List.mem_singleton.1 there] at failed
      cases failed

/-- The task that waits for the end of the time of grace runs: the end is set, or it has come. -/
theorem Waits.graced (h : Waits g deadline waiter link closure r) (watched : Watched r) {index : Nat}
    (here : r.ready[index]? = some (.wake g .grace)) :
    Ends g (some (r.graceDeadline closure)) waiter (r.move (.run index)) := by
  let rest : Robot := { r with ready := r.ready.eraseIdx index }
  have same : rest.session = .closing link closure := h.session
  have there : rest.current? g = some link := h.current
  have runs : r.move (.run index) = rest.graceOver := by
    rw [move_run here, run, onCurrent, there]
    rfl
  rw [runs, graceOver_of_closing same]
  split
  · next passed =>
    have noted : (rest.note (.shutdownUnconfirmed link.generation rest.settings.disconnectGrace)).session =
        .closing link closure := same
    have known := h.known watched
    rw [finishDisconnect_of_closing noted]
    obtain rfl := h.generation
    obtain ⟨hearers, told, gone⟩ := h.part
      (s := rest.note (.shutdownUnconfirmed link.generation rest.settings.disconnectGrace)) known rfl rfl rfl rfl
      (.lapsed h.pending _) rfl fun _ _ => ⟨_, rfl, passed⟩
    exact .inr ⟨_, _, hearers, told, [], gone⟩
  · exact .inl ⟨_, _, h.extend rfl rfl rfl rfl (List.append_nil _).symm (Nat.add_zero _) rfl (by simp)⟩

/-- What an act does to a connection that waits for its end. -/
theorem Waits.act (h : Waits g deadline waiter link closure r) (watched : Watched r) (still : ¬ may (.grace g))
    (act : Act may r s) :
    (∃ next renewed, Waits g deadline waiter next renewed s) ∨
      ∃ held n hearers told, Over g deadline waiter held n hearers told [] s := by
  have hs := h.session
  have hl : r.link? = some link := link?_of_closing hs
  cases act with
  | tends tends =>
    obtain ⟨ds, light, tends⟩ := tends
    exact .inl (h.tends tends rfl (List.append_nil _).symm (by simp) fun d hd => Deed.isLight_of_isSlight (light d hd))
  | submitted allowed accepted progresses =>
    exact .inl (h.tends progresses.tends rfl (List.append_nil _).symm (by simp) progresses.light)
  | marked hn marker running progresses =>
    exact .inl (h.tends progresses.tends rfl rfl (List.forall_mem_singleton.2 ⟨rfl, rfl, by simp⟩)
      progresses.light)
  | @sink here hn sink =>
    obtain rfl : link = here := Option.some.inj (hl.symm.trans hn)
    have session : r.session.mapLink (fun _ => { link with writer := { link.writer with sink } }) =
        .closing { link with writer := { link.writer with sink } } closure := by
      rw [hs]
      rfl
    exact .inl (h.stays session rfl (List.append_nil _).symm (by simp))
  | dialled | called | aborted | followed | surplus | taken =>
    exact .inl (h.stays hs rfl (List.append_nil _).symm (by simp))
  | finished call outcome | @returned index call here =>
    exact .inl (h.stays hs rfl rfl (List.forall_mem_singleton.2 ⟨rfl, rfl, by simp⟩))
  | took | received =>
    exact .inl (h.stays hs rfl rfl (List.forall_mem_singleton.2 ⟨rfl, rfl, by simp⟩))
  | expired =>
    refine .inl (h.stays hs rfl rfl fun d hd => ?_)
    obtain ⟨entry, -, rfl⟩ := List.mem_map.1 hd
    exact ⟨rfl, rfl, by simp⟩
  | @worked allowed here hn ds tells going =>
    obtain rfl : link = here := Option.some.inj (hl.symm.trans hn)
    have session : r.session.mapLink (fun _ => { link with writer := (link.writer.work false false).1 }) =
        .closing { link with writer := (link.writer.work false false).1 } closure := by
      rw [hs]
      rfl
    exact .inl (h.stays session rfl rfl fun d hd => Deed.isIdle_of_isWriters (h.generation ▸ tells.own d hd))
  | @answered here hn entry rest p notes response oldest light uncounted =>
    obtain rfl : link = here := Option.some.inj (hl.symm.trans hn)
    refine .inl (h.stays hs rfl rfl (List.forall_mem_cons.2 ⟨⟨rfl, rfl, by simp⟩,
      List.forall_mem_cons.2 ⟨?_, ?_⟩⟩))
    · exact ⟨rfl, h.generation ▸ uncounted closure hs, by simp⟩
    · exact Deed.isIdle_of_notes light g
  | @echoed here other hn first entry rest p notes response oldest light counted =>
    cases hs.symm.trans hn
    obtain rfl := h.generation
    obtain ⟨one, quiet, early⟩ := answer_counts light counted
    refine .inl ⟨link, { closure with echoed := true }, h.extend rfl rfl h.deadline rfl rfl ?_ quiet early⟩
    rw [one, first]
    rfl
  | @confirmed here other hn second entry rest p notes response oldest light counted =>
    cases hs.symm.trans hn
    exact .inr (h.confirmed watched second light counted rest)
  | broken hn worked failed =>
    cases hs.symm.trans hn
    exact .inr (h.broken watched worked failed)
  | lapsed allowed hn | watched allowed hn =>
    cases hs.symm.trans hn
    exact absurd (h.generation ▸ allowed) still
  | begun hn | closing hn | lost hn => cases hs.symm.trans hn

/-- When all tasks have run, the end of the time of grace is set. -/
theorem Waits.set (h : Waits g deadline waiter link closure r) (watched : Watched r) (ready : r.ready = []) :
    ∃ t ∈ deadline, r.rung < t := by
  have session := watched.session
  rw [h.session, ready] at session
  obtain ⟨-, -, waits⟩ := session
  obtain ⟨t, set, early, -⟩ := waits.resolve_left List.not_mem_nil
  exact ⟨t, h.deadline ▸ set, early⟩

/-! ## When the connection is gone -/

theorem Over.unreached (h : Over g deadline waiter held n hearers told rest r) : ¬ r.Reaches g := by
  rintro (⟨link, hl, generation⟩ | later)
  · have current := current?_eq_some.2 ⟨hl, generation⟩
    rw [h.gone] at current
    cases current
  · exact Nat.not_lt_of_le h.known later

/-- Whatever grows leaves a connection behind that is gone. -/
theorem Over.grows (h : Over g deadline waiter held n hearers told rest r) (grows : Grows r ds s)
    (rung : r.rung ≤ s.rung) : Over g deadline waiter held n hearers told (rest ++ ds) s := by
  obtain ⟨d, hd, begun⟩ := h.parted
  have journal := grows.journal
  constructor
  case known => exact Nat.le_trans h.known grows.generations
  case gone =>
    refine Option.eq_none_iff_forall_ne_some.2 fun link current => ?_
    obtain ⟨hl, generation⟩ := current?_eq_some.1 current
    exact h.unreached (generation ▸ grows.links link hl)
  case parted => exact ⟨d, journal ▸ List.mem_append_left _ hd, begun⟩
  case cut => rw [journal, since_append h.parted, h.cut, List.append_assoc]
  case ending => exact h.ending
  case telling => exact h.telling
  case once => exact h.once
  case later =>
    intro d hd told
    exact (List.mem_append.1 hd).elim (fun there => h.later d there told)
      fun there => h.unreached (grows.deeds d there g told)
  case inFlight =>
    intro entry there
    rcases grows.inFlight entry there with old | ⟨n, new⟩
    · obtain ⟨n, registered⟩ := h.inFlight entry old
      exact ⟨n, List.mem_append_left _ registered⟩
    · exact ⟨n, List.mem_append_right _ new⟩
  case returned =>
    intro call waits
    rcases h.returned call waits with ready | finished
    · exact (grows.calls call ready).imp_right (List.mem_append_right _)
    · exact .inr (List.mem_append_left _ finished)
  case lapsed =>
    intro grace there
    rw [journal, since_append h.parted] at there
    rcases List.mem_append.1 there with there | there
    · obtain ⟨t, set, passed⟩ := h.lapsed grace there
      exact ⟨t, set, Nat.le_trans passed rung⟩
    · exact absurd (grows.deeds _ there g rfl) h.unreached

/-- The end of the time of grace is set when the connection is gone already. -/
theorem Over.set (h : Over g deadline waiter held n hearers told rest r) (latest : Option Nat) :
    Over g (deadline.or latest) waiter held n hearers told rest r :=
  { h with
    lapsed := fun grace there => by
      obtain ⟨t, set, passed⟩ := h.lapsed grace there
      refine ⟨t, ?_, passed⟩
      rw [Option.mem_def.1 set, Option.some_or]
      rfl }

/-- What ends a closing shows in what has happened. -/
theorem Over.ends (h : Over g deadline waiter held n hearers told rest r) :
    2 ≤ (since (Deed.parts g) r.journal).countP (Deed.confirms g) ∨ .failed g ∈ marks (since (Deed.parts g) r.journal) ∨
      ∃ grace, .noted (.shutdownUnconfirmed g grace) ∈ since (Deed.parts g) r.journal := by
  rw [h.cut]
  cases h.ending with
  | confirmed pending first second light =>
    refine .inl ?_
    simp only [List.countP_append, List.countP_cons, second, first]
    simp only [if_true]
    omega
  | lapsed pending grace => exact .inr (.inr ⟨grace, by simp⟩)
  | failed pending worked failed =>
    refine .inr (.inl ?_)
    simp [marks_append, marks_cons_of_some failed.mark]

theorem Over.not_pending (h : Over g deadline waiter held n hearers told rest r) :
    ¬ Pending g (since (Deed.parts g) r.journal) := by
  intro pending
  rcases h.ends with confirmed | failed | ⟨grace, lapsed⟩
  · exact Nat.not_lt_of_le confirmed pending.few
  · exact pending.sound failed
  · exact pending.early grace lapsed

/-! ## Moves -/

theorem Ends.act (h : Ends g deadline waiter r) (watched : Watched r) (still : ¬ may (.grace g)) (act : Act may r s) :
    Ends g deadline waiter s := by
  rcases h with ⟨link, closure, waits⟩ | ⟨held, n, hearers, told, rest, gone⟩
  · rcases waits.act watched still act with waits | ⟨held, n, hearers, told, gone⟩
    · exact .inl waits
    · exact .inr ⟨held, n, hearers, told, [], gone⟩
  · obtain ⟨ds, grows⟩ := act.grows watched
    exact .inr ⟨held, n, hearers, told, _, gone.grows grows (Nat.le_of_eq act.still.2.1.symm)⟩

theorem Ends.acts (h : Ends g deadline waiter r) (watched : Watched r) (still : ¬ may (.grace g))
    (acts : Acts may r s) : Ends g deadline waiter s :=
  (acts.keeps (P := fun r => Watched r ∧ Ends g deadline waiter r)
    (fun h act => ⟨h.1.act act, h.2.act h.1 still act⟩) ⟨watched, h⟩).2

theorem Ends.ring (h : Ends g deadline waiter r) (watched : Watched r) : Ends g deadline waiter r.ring := by
  obtain ⟨tasks, rings⟩ := r.ring_eq
  rw [rings]
  rcases h with ⟨link, closure, waits⟩ | ⟨held, n, hearers, told, rest, gone⟩
  · let later : Link := { link with agenda := link.agenda.later r.clock }
    refine .inl ⟨later, closure, waits.extend ?_ rfl waits.deadline rfl (List.append_nil _).symm (Nat.add_zero _) rfl
      (by simp)⟩
    show r.session.mapLink _ = _
    rw [waits.session]
    rfl
  · have grows := rings ▸ grows_ring r
    exact .inr ⟨held, n, hearers, told, _, gone.grows grows watched.rung⟩

/-- The task that waits for the end of the time of grace runs. -/
theorem Ends.graced (h : Ends g deadline waiter r) (watched : Watched r) {index : Nat}
    (here : r.ready[index]? = some (.wake g .grace)) :
    Ends g (deadline.or (some (Timer.deadlineAfter r.clock r.settings.disconnectGrace))) waiter
      (r.move (.run index)) := by
  rcases h with ⟨link, closure, waits⟩ | ⟨held, n, hearers, told, rest, gone⟩
  · have ends := waits.graced watched here
    rw [graceDeadline, waits.deadline] at ends
    rw [Option.or_some]
    exact ends
  · have act : Act Privilege.all r (r.move (.run index)) := by
      rw [move_run here]
      exact act_grace trivial here
    obtain ⟨ds, grows⟩ := act.grows watched
    exact .inr ⟨held, n, hearers, told, _, (gone.grows grows (Nat.le_of_eq act.still.2.1.symm)).set _⟩

/-- What a move does to a connection whose closing has begun. -/
theorem Ends.move (h : Ends g deadline waiter r) (watched : Watched r) {m : Move} (single : m.isSingle = true)
    (keeps : m.keepsHandle = true) :
    Ends g (deadline.or (if graces g r m then some (Timer.deadlineAfter r.clock r.settings.disconnectGrace) else none))
      waiter (r.move m) := by
  cases graced : graces g r m with
  | true =>
    cases m with
    | run index => exact h.graced watched (by simpa [graces] using graced)
    | _ => cases graced
  | false =>
    rw [if_neg Bool.false_ne_true, Option.or_none]
    have instant (happens : m.isInstant = true) : Ends g deadline waiter (r.move m) :=
      h.acts watched (fun other => other rfl) (acts_ungraced happens graced)
    cases m with
    | perform step => exact instant single
    | run index => exact instant rfl
    | tick ms =>
      rcases h with ⟨link, closure, waits⟩ | ⟨held, n, hearers, told, rest, gone⟩
      · exact .inl ⟨link, closure, { waits with }⟩
      · exact .inr ⟨held, n, hearers, told, rest, { gone with }⟩
    | ring => exact h.ring watched
    | abandon | quit => cases keeps

/-- What a run does to a connection whose closing has begun. -/
theorem Ends.after (h : Ends g deadline waiter r) (watched : Watched r) {moves : List Move}
    (single : Single True moves) :
    Watched (r.after moves) ∧ Ends g (deadline.or
      ((graceFrom? g r moves).map (Timer.deadlineAfter · r.settings.disconnectGrace))) waiter (r.after moves) := by
  induction moves generalizing r deadline with
  | nil => exact ⟨watched, by rwa [graceFrom?, Option.map_none, Option.or_none]⟩
  | cons m moves ih =>
    obtain ⟨⟨alone, keeps⟩, rest⟩ := List.forall_mem_cons.1 single
    have settings : (r.move m).settings = r.settings := (fixed_after r [m]).1
    obtain ⟨watched, ends⟩ := ih (h.move watched alone (keeps trivial)) (watched.after [m]) rest
    refine ⟨watched, ?_⟩
    rw [settings, Option.or_assoc] at ends
    rw [graceFrom?]
    split at ends
    · next graced =>
      rw [if_pos graced]
      exact ends
    · next graced =>
      rw [if_neg graced]
      exact ends

theorem Ends.set (h : Ends g deadline waiter r) (watched : Watched r) (ready : r.ready = [])
    (there : (r.current? g).isSome = true) : ∃ t ∈ deadline, r.rung < t := by
  rcases h with ⟨link, closure, waits⟩ | ⟨held, n, hearers, told, rest, gone⟩
  · exact waits.set watched ready
  · rw [gone.gone] at there
    cases there

end Robot

end RobotDriver
