import RobotDriver.Proofs.Robot.Watching
import RobotDriver.Robot.Load

/-!
# What an act adds

Whatever a driver does at one moment concerns the connection that is there or begins a new one: `Grows` says so of what
an act tells, of the connection that it leads to and of the commands in flight. It loses no call that is about to learn
that its connection is gone. So a connection that is gone is gone for good, and nothing more is told of it.
-/

namespace RobotDriver

namespace Deed

/-- The connection that the deed tells of. -/
def generation? : Deed → Option Nat
  | took g _ | halted g _ | received g _ | registered g _ | answered g _ _ | expired g _ => some g
  | noted (.connected _ g) | noted (.disconnecting g) | noted (.disconnected g) | noted (.closedUnexpectedly g _)
  | noted (.closedWhileDisconnecting g _) | noted (.shutdownUnconfirmed g _) | noted (.handleDropped g) => some g
  | _ => none

theorem generation?_of_isLight {d : Deed} (h : d.isLight = true) : d.generation? = none := by
  cases d with
  | noted n => cases n <;> first | rfl | cases h
  | reported report hearers => cases report <;> rfl
  | told | replied => rfl
  | _ => cases h

theorem generation?_of_isSlight {d : Deed} (h : d.isSlight = true) : d.generation? = none :=
  generation?_of_isLight (isLight_of_isSlight h)

theorem isPlain_of_isLight {d : Deed} (h : d.isLight = true) : d.isPlain = true := by
  cases d with
  | noted n => cases n <;> first | rfl | cases h
  | reported | told | replied => rfl
  | _ => cases h

theorem parts_of_isLight {d : Deed} (h : d.isLight = true) (g : Nat) : d.parts g = false :=
  parts_of_isPlain (isPlain_of_isLight h) g

theorem parts_of_isSlight {d : Deed} (h : d.isSlight = true) (g : Nat) : d.parts g = false :=
  parts_of_isLight (isLight_of_isSlight h) g

theorem generation?_of_isWriters {d : Deed} {g n : Nat} (h : d.isWriters g = true) (told : d.generation? = some n) :
    n = g := by
  cases d with
  | noted note =>
    cases note with
    | unencodable => cases told
    | _ => cases h
  | registered => exact (Option.some.inj told).symm.trans (eq_of_beq h)
  | wrote => cases told
  | _ => cases h

end Deed

theorem Failure.generation {g n : Nat} {d : Deed} {cause : TransportError} (h : Failure g d cause)
    (told : d.generation? = some n) : n = g := by
  cases h <;> exact (Option.some.inj told).symm

namespace Robot

/-- The connection is the one that is there, or one that is still to come. -/
def Reaches (r : Robot) (g : Nat) : Prop :=
  (∃ link, r.link? = some link ∧ link.generation = g) ∨ r.generations < g

/-- What may be added from `r` to `s`. -/
structure Grows (r : Robot) (ds : List Deed) (s : Robot) : Prop where
  journal : s.journal = r.journal ++ ds
  generations : r.generations ≤ s.generations
  deeds : ∀ d ∈ ds, ∀ g, d.generation? = some g → r.Reaches g
  links : ∀ link, s.link? = some link → r.Reaches link.generation
  inFlight : ∀ entry ∈ s.inFlight.entries, entry ∈ r.inFlight.entries ∨ ∃ g, .registered g entry ∈ ds
  /-- A call that is about to learn that its connection is gone learns it. -/
  calls : ∀ call, .disconnected call ∈ r.ready → .disconnected call ∈ s.ready ∨ .finished call (.answered true) ∈ ds

variable {may : Privilege → Prop} {r s t : Robot} {link : Link} {ds es : List Deed} {g : Nat}

theorem reaches_link (hl : r.link? = some link) : r.Reaches link.generation :=
  .inl ⟨link, hl, rfl⟩

theorem Reaches.of_own (hl : r.link? = some link) (own : g = link.generation) : r.Reaches g :=
  own ▸ reaches_link hl

theorem Grows.reaches (h : Grows r ds s) (later : s.Reaches g) : r.Reaches g := by
  rcases later with ⟨link, hl, rfl⟩ | later
  · exact h.links link hl
  · exact .inr (Nat.lt_of_le_of_lt h.generations later)

theorem Grows.trans (h : Grows r ds s) (k : Grows s es t) : Grows r (ds ++ es) t := by
  refine ⟨by rw [k.journal, h.journal, List.append_assoc], Nat.le_trans h.generations k.generations,
    fun d hd g told => ?_,
    fun link hl => h.reaches (k.links link hl), fun entry there => ?_, fun call ready => ?_⟩
  · exact (List.mem_append.1 hd).elim (fun there => h.deeds d there g told)
      fun there => h.reaches (k.deeds d there g told)
  · rcases k.inFlight entry there with old | ⟨n, new⟩
    · exact (h.inFlight entry old).imp_right fun ⟨n, new⟩ => ⟨n, List.mem_append_left _ new⟩
    · exact .inr ⟨n, List.mem_append_right _ new⟩
  · rcases h.calls call ready with ready | finished
    · exact (k.calls call ready).imp_right (List.mem_append_right _)
    · exact .inr (List.mem_append_left _ finished)

/-- The connection stays, and no call is forgotten. -/
theorem grows_of_session (session : s.session = r.session) (generations : r.generations ≤ s.generations)
    (ready : r.ready ⊆ s.ready) (journal : s.journal = r.journal ++ ds)
    (deeds : ∀ d ∈ ds, ∀ g, d.generation? = some g → r.Reaches g)
    (inFlight : ∀ entry ∈ s.inFlight.entries, entry ∈ r.inFlight.entries ∨ ∃ g, .registered g entry ∈ ds) :
    Grows r ds s := by
  refine ⟨journal, generations, deeds, fun link hl => reaches_link ?_, inFlight, fun call there => .inl (ready there)⟩
  rwa [link?, ← session]

/-- Nothing is told, and nothing is put in flight. -/
theorem grows_quietly (session : s.session = r.session) (generations : r.generations ≤ s.generations)
    (ready : r.ready ⊆ s.ready) (journal : s.journal = r.journal) (inFlight : s.inFlight = r.inFlight) :
    Grows r [] s :=
  grows_of_session session generations ready (by rw [journal, List.append_nil]) (by simp) fun entry there =>
    .inl (inFlight ▸ there)

theorem Tends.grows (h : Tends r ds s) (light : ∀ d ∈ ds, d.generation? = none) : Grows r ds s := by
  obtain ⟨tasks, -, ready⟩ := h.ready
  have rest := h.rest
  have generations : s.generations = r.generations := by rw [rest]
  have inFlight : s.inFlight = r.inFlight := by rw [rest]
  refine ⟨h.journal, Nat.le_of_eq generations.symm, fun d hd g told => ?_, fun next hn => ?_, fun entry there => ?_,
    fun call there => .inl ?_⟩
  · rw [light d hd] at told
    cases told
  · cases hl : r.link? with
    | none =>
      have none := h.session.none hl
      rw [← Robot.link?, hn] at none
      cases none
    | some link =>
      obtain ⟨other, ho, tended⟩ := h.link? hl
      obtain rfl : other = next := Option.some.inj (ho.symm.trans hn)
      exact .of_own hl tended.generation
  · exact .inl (inFlight ▸ there)
  · rw [ready]
    exact List.mem_append_left _ there

/-- The connection changes, but stays the same. -/
theorem grows_mapLink {f : Link → Link} (session : s.session = r.session.mapLink f)
    (same : ∀ link, r.link? = some link → (f link).generation = link.generation)
    (generations : s.generations = r.generations)
    (ready : r.ready ⊆ s.ready) (journal : s.journal = r.journal ++ ds)
    (deeds : ∀ d ∈ ds, ∀ g, d.generation? = some g → r.Reaches g)
    (inFlight : ∀ entry ∈ s.inFlight.entries, entry ∈ r.inFlight.entries ∨ ∃ g, .registered g entry ∈ ds) :
    Grows r ds s := by
  refine ⟨journal, Nat.le_of_eq generations.symm, deeds, fun next hn => ?_, inFlight, fun call there =>
    .inl (ready there)⟩
  rw [link?, session, Session.link?_mapLink] at hn
  obtain ⟨link, hl, rfl⟩ := Option.map_eq_some_iff.1 hn
  exact .of_own hl (same link hl)

theorem grows_ring (r : Robot) : Grows r [] r.ring := by
  obtain ⟨tasks, rings⟩ := r.ring_eq
  rw [rings]
  exact grows_mapLink rfl (fun _ _ => rfl) rfl (List.subset_append_left _ _) (List.append_nil _).symm (by simp)
    fun _ => .inl

/-- A connection ends, after what has been told of it. -/
theorem grows_part (hl : r.link? = some link) (journal : s.journal = r.journal ++ ds)
    (kept : ∀ call, .disconnected call ∈ r.ready → .disconnected call ∈ s.ready)
    (generations : s.generations = r.generations)
    (own : ∀ d ∈ ds, ∀ g, d.generation? = some g → g = link.generation) {n : Note}
    (ends : ∀ g, (Deed.noted n).generation? = some g → g = link.generation) (e : Event) :
    ∃ es, Grows r es (s.part n e) := by
  obtain ⟨hearers, told, -, light, parted⟩ := s.part_eq n e
  refine ⟨ds ++ .noted n :: told, ?_⟩
  rw [parted]
  have mine : ∀ d ∈ ds ++ .noted n :: told, ∀ g, d.generation? = some g → g = link.generation := by
    refine forall_mem_noted own ends light nofun fun d slight g told => ?_
    rw [Deed.generation?_of_isSlight slight] at told
    cases told
  exact ⟨by rw [journal, List.append_assoc], Nat.le_of_eq generations.symm,
    fun d hd g told => .of_own hl (mine d hd g told), fun _ there => (Option.some_ne_none _ there.symm).elim,
    fun _ there => (List.not_mem_nil there).elim, fun call there => .inl (List.mem_append_left _ (kept call there))⟩

theorem Watched.attended (h : Watched r) (hs : r.session = .up link) : link.writer.outbox.attended = true := by
  have session := h.session
  rw [hs] at session
  exact session.2.2.1

theorem own_answer {entry : InFlight.Entry} {p : Packet} {notes : List Note}
    (light : ∀ n ∈ notes, (Deed.noted n).isLight = true) :
    ∀ d ∈ .received g p :: .answered g entry p :: notes.map Deed.noted, ∀ n, d.generation? = some n → n = g := by
  have own (n : Nat) (told : some g = some n) : n = g := (Option.some.inj told).symm
  refine forall_mem_answer light own own fun d calm n told => ?_
  rw [Deed.generation?_of_isLight calm] at told
  cases told

theorem own_worked {d : Deed} {cause : TransportError} (worked : Worked (may .write) link ds)
    (failed : Failure link.generation d cause) :
    ∀ e ∈ ds ++ [d], ∀ n, e.generation? = some n → n = link.generation :=
  List.forall_mem_append.2 ⟨fun e he _ told => Deed.generation?_of_isWriters (worked.own e he) told,
    List.forall_mem_singleton.2 fun _ told => failed.generation told⟩

/-- A connection begins. -/
theorem grows_fresh {calm told : List Deed} {address : String} {e : Event} {hearers : List Nat}
    (tends : Tends r.fresh (calm ++ .noted (.connected address (r.generations + 1)) :: told) s)
    (light : ∀ d ∈ calm, d.isSlight = true)
    (light' : ∀ d ∈ told, d = .reported (.event e) hearers ∨ d.isSlight = true) :
    Grows r (calm ++ .noted (.connected address (r.generations + 1)) :: told) s := by
  have next : r.Reaches (r.generations + 1) := .inr (Nat.lt_succ_self _)
  have rest := tends.rest
  obtain ⟨tasks, -, ready⟩ := tends.ready
  have there : r.fresh.link? = some (r.freshLink.withOutbox { queue := resets }) := by rw [fresh_eq]; rfl
  obtain ⟨link, hl, tended⟩ := tends.link? there
  rw [fresh_eq] at rest
  constructor
  case journal => rw [tends.journal, fresh_eq]
  case generations =>
    rw [rest]
    exact Nat.le_succ _
  case deeds =>
    have slight (d : Deed) (slight : d.isSlight = true) (g : Nat) (told : d.generation? = some g) : r.Reaches g := by
      rw [Deed.generation?_of_isSlight slight] at told
      cases told
    exact forall_mem_noted (fun d hd => slight d (light d hd)) (fun _ told => Option.some.inj told ▸ next) light' nofun
      slight
  case links =>
    intro other ho
    obtain rfl : link = other := Option.some.inj (hl.symm.trans ho)
    rw [tended.generation]
    exact next
  case inFlight =>
    intro entry
    rw [rest]
    exact nofun
  case calls =>
    intro call there
    rw [ready, fresh_eq]
    exact .inl (List.mem_append_left _ (List.mem_append_left _ there))

/-- One deed of the connection that is there. -/
theorem reaches_singleton (hl : r.link? = some link) {d : Deed} (own : d.generation? = some link.generation) :
    ∀ e ∈ [d], ∀ g, e.generation? = some g → r.Reaches g :=
  List.forall_mem_singleton.2 fun _ told => .of_own hl (Option.some.inj (told.symm.trans own))

theorem grows_received (hl : r.link? = some link) (p : Packet) (upload : Macro.Upload) :
    Grows r [.received link.generation p] { r.record (.received link.generation p) with upload } :=
  grows_of_session rfl (Nat.le_refl _) (List.Subset.refl _) rfl (reaches_singleton hl rfl) fun _ => .inl

/-- A task is taken up that finishes no call. -/
theorem grows_taken {index : Nat} {task : Task} (here : r.ready[index]? = some task)
    (unfinished : ∀ call, task ≠ .disconnected call) {session : Session}
    (links : ∀ link, session.link? = some link → r.Reaches link.generation) :
    Grows r [] { r with ready := r.ready.eraseIdx index, session } where
  journal := (List.append_nil _).symm
  generations := Nat.le_refl _
  deeds := by simp
  links := links
  inFlight _ := .inl
  calls call there := .inl (mem_eraseIdx_of_ne there here (unfinished call).symm)

/-- The connection begins to be closed. -/
theorem grows_closing (watched : Watched r) (hs : r.session = .up link) (waiter : Option Nat) :
    ∃ ds, Grows r ds (r.beginDisconnect link waiter) := by
  have hl : r.link? = some link := link?_of_up hs
  obtain ⟨tasks, -, begins⟩ := r.beginDisconnect_eq (watched.attended hs) waiter
  rw [begins]
  refine ⟨_, rfl, Nat.le_refl _, reaches_singleton hl rfl, fun next hn => ?_, fun _ => .inl, fun _ there =>
    .inl (List.mem_append_left _ there)⟩
  cases hn
  exact .of_own hl rfl

/-- Every act grows. -/
theorem Act.grows (watched : Watched r) (act : Act may r s) : ∃ ds, Grows r ds s := by
  cases act with
  | tends tends =>
    obtain ⟨ds, light, tends⟩ := tends
    exact ⟨ds, tends.grows fun d hd => Deed.generation?_of_isSlight (light d hd)⟩
  | @sink link hl sink =>
    refine ⟨[], grows_mapLink rfl (fun here hn => ?_) rfl (List.Subset.refl _) (List.append_nil _).symm
      (by simp) fun _ => .inl⟩
    obtain rfl : link = here := Option.some.inj (hl.symm.trans hn)
    rfl
  | dialled | called =>
    exact ⟨[], grows_quietly rfl (Nat.le_refl _) (List.subset_append_left _ _) rfl rfl⟩
  | @submitted allowed steps upload progress accepted ds s progresses =>
    have grows : Grows r [] { r with upload } := grows_quietly rfl (Nat.le_refl _) (List.Subset.refl _) rfl rfl
    exact ⟨_, grows.trans (progresses.tends.grows fun d hd => Deed.generation?_of_isLight (progresses.light d hd))⟩
  | aborted | followed => exact ⟨[], grows_quietly rfl (Nat.le_refl _) (List.Subset.refl _) rfl rfl⟩
  | surplus => exact ⟨[], grows_quietly rfl (Nat.le_succ _) (List.Subset.refl _) rfl rfl⟩
  | finished call outcome =>
    exact ⟨_, grows_of_session rfl (Nat.le_refl _) (List.Subset.refl _) rfl (by simp [Deed.generation?]) fun _ => .inl⟩
  | took hl chunk =>
    exact ⟨_, grows_of_session rfl (Nat.le_refl _) (List.Subset.refl _) rfl (reaches_singleton hl rfl) fun _ => .inl⟩
  | received hl => exact ⟨_, grows_received hl _ _⟩
  | @marked link hl p marker running ds s progresses =>
    have grows : Grows r [.received link.generation p]
        { r.record (.received link.generation p) with upload := r.upload.acknowledge.1 } := grows_received hl _ _
    exact ⟨_, grows.trans (progresses.tends.grows fun d hd => Deed.generation?_of_isLight (progresses.light d hd))⟩
  | @answered link hl entry rest p notes response oldest light =>
    refine ⟨_, grows_of_session rfl (Nat.le_refl _) (List.Subset.refl _) rfl ?_ fun e he => .inl ?_⟩
    · exact fun d hd g told => .of_own hl (own_answer light d hd g told)
    · rw [oldest]
      exact List.mem_cons_of_mem _ he
  | @echoed link closure hs first entry rest p notes response oldest light =>
    have hl : r.link? = some link := link?_of_closing hs
    refine ⟨_, rfl, Nat.le_refl _, fun d hd g told => .of_own hl (own_answer light d hd g told), fun next hn => ?_,
      fun e he => .inl ?_, fun _ => .inl⟩
    · cases hn
      exact reaches_link hl
    · rw [oldest]
      exact List.mem_cons_of_mem _ he
  | @confirmed link closure hs second entry rest p notes response oldest light =>
    exact grows_part (s := r.answer link.generation entry rest p notes) (n := .disconnected link.generation)
      (link?_of_closing hs) rfl (fun _ => id) rfl (own_answer light) (fun g told => (Option.some.inj told).symm) _
  | @expired link hl entries rest oldest =>
    refine ⟨_, grows_of_session rfl (Nat.le_refl _) (List.Subset.refl _) rfl ?_ fun e he => .inl ?_⟩
    · exact List.forall_mem_map.2 fun _ _ _ told => .of_own hl (Option.some.inj told).symm
    · rw [oldest]
      exact List.mem_append_right _ he
  | @worked allowed link hl ds tells going =>
    refine ⟨ds, grows_mapLink rfl (fun here hn => ?_) rfl (List.Subset.refl _) rfl ?_ fun e he => ?_⟩
    · obtain rfl : link = here := Option.some.inj (hl.symm.trans hn)
      rfl
    · exact fun d hd g told => .of_own hl (Deed.generation?_of_isWriters (tells.own d hd) told)
    · refine (List.mem_append.1 he).imp_right fun registered => ?_
      exact ⟨_, mem_of_mem_registrations registered⟩
  | begun hs launched =>
    obtain ⟨calm, hearers, told, light, -, light', tends⟩ := begun_tends launched
    exact ⟨_, grows_fresh tends light light'⟩
  | closing hs waiter => exact grows_closing watched hs waiter
  | @lost link hs ds d cause worked failed =>
    exact grows_part (s := r.recordAll (ds ++ [d])) (n := .closedUnexpectedly link.generation cause) (link?_of_up hs) rfl
      (fun _ => id) rfl (own_worked worked failed) (fun g told => (Option.some.inj told).symm) _
  | @broken link closure hs ds d cause worked failed =>
    exact grows_part (s := r.recordAll (ds ++ [d])) (n := .closedWhileDisconnecting link.generation cause)
      (link?_of_closing hs) rfl (fun _ => id) rfl (own_worked worked failed) (fun g told => (Option.some.inj told).symm)
      _
  | @lapsed link closure allowed hs passed index here =>
    let lapse : Note := .shutdownUnconfirmed link.generation r.settings.disconnectGrace
    have own : ∀ d ∈ [Deed.noted lapse], ∀ g, d.generation? = some g → g = link.generation :=
      List.forall_mem_singleton.2 fun _ told => (Option.some.inj told).symm
    exact grows_part (s := { r with ready := r.ready.eraseIdx index }.note lapse) (n := .disconnected link.generation)
      (link?_of_closing hs) rfl (fun _ there => mem_eraseIdx_of_ne there here nofun) rfl own
      (fun g told => (Option.some.inj told).symm) _
  | @watched link closure allowed hs early index here =>
    refine ⟨[], grows_taken here nofun fun next hn => ?_⟩
    cases hn
    exact .of_own (link?_of_closing hs) rfl
  | taken here other unfinished => exact ⟨[], grows_taken here unfinished fun _ hn => reaches_link hn⟩
  | @returned index call here =>
    refine ⟨[.finished call (.answered true)], rfl, Nat.le_refl _, by simp [Deed.generation?],
      fun _ hn => reaches_link hn,
      fun _ => .inl, fun other there => ?_⟩
    by_cases same : other = call
    · exact .inr (by simp [same])
    · exact .inl (mem_eraseIdx_of_ne there here fun equal => same (Task.disconnected.inj equal))

/-! ## The closing of a connection begins -/

theorem parts_of_part (own : ∀ d ∈ ds, ∀ g, d.parts g = false) (journal : s.journal = r.journal ++ ds) {n : Note}
    (ends : ∀ g, (Deed.noted n).parts g = false) (e : Event) :
    ∃ es, (s.part n e).journal = r.journal ++ es ∧ ∀ d ∈ es, ∀ g, d.parts g = false := by
  obtain ⟨hearers, told, -, light, parted⟩ := s.part_eq n e
  exact ⟨ds ++ .noted n :: told, by rw [parted, journal, List.append_assoc],
    forall_mem_noted own ends light (fun _ => rfl) fun _ => Deed.parts_of_isSlight⟩

theorem parts_answer {entry : InFlight.Entry} {p : Packet} {notes : List Note}
    (light : ∀ n ∈ notes, (Deed.noted n).isLight = true) :
    ∀ d ∈ .received g p :: .answered g entry p :: notes.map Deed.noted, ∀ n, d.parts n = false :=
  forall_mem_answer light (fun _ => rfl) (fun _ => rfl) fun _ => Deed.parts_of_isLight

theorem parts_worked {d : Deed} {cause : TransportError} (worked : Worked (may .write) link ds)
    (failed : Failure link.generation d cause) : ∀ e ∈ ds ++ [d], ∀ n, e.parts n = false := by
  refine List.forall_mem_append.2 ⟨fun e he => ?_, List.forall_mem_singleton.2 fun n => ?_⟩
  · exact Deed.parts_of_isPlain (Deed.isPlain_of_isWriters (worked.own e he))
  · cases failed <;> rfl

/-- There is one act by which the closing of a connection begins. -/
theorem Act.parts (act : Act may r s) :
    (∃ link waiter, r.session = .up link ∧ s = r.beginDisconnect link waiter) ∨
      ∃ ds, s.journal = r.journal ++ ds ∧ ∀ d ∈ ds, ∀ g, d.parts g = false := by
  have quiet (journal : s.journal = r.journal) : ∃ ds, s.journal = r.journal ++ ds ∧ ∀ d ∈ ds, ∀ g, d.parts g = false :=
    ⟨[], by rw [journal, List.append_nil], by simp⟩
  cases act with
  | tends tends =>
    obtain ⟨ds, light, tends⟩ := tends
    exact .inr ⟨ds, tends.journal, fun d hd => Deed.parts_of_isSlight (light d hd)⟩
  | sink | dialled | called | aborted | followed | surplus | watched | taken => exact .inr (quiet rfl)
  | finished | returned | took | received => exact .inr ⟨[_], rfl, by simp [Deed.parts]⟩
  | submitted allowed accepted progresses =>
    exact .inr ⟨_, progresses.tends.journal, fun d hd => Deed.parts_of_isLight (progresses.light d hd)⟩
  | @marked link hl p marker running ds s progresses =>
    refine .inr ⟨.received link.generation p :: ds, ?_, List.forall_mem_cons.2 ⟨fun _ => rfl, fun d hd =>
      Deed.parts_of_isLight (progresses.light d hd)⟩⟩
    exact progresses.tends.journal.trans (List.append_assoc _ _ _)
  | answered hl response oldest light | echoed hs first response oldest light =>
    exact .inr ⟨_, rfl, parts_answer light⟩
  | @confirmed link closure hs second entry rest p notes response oldest light =>
    exact .inr (parts_of_part (parts_answer light) rfl (fun _ => rfl) _)
  | @expired link hl entries rest oldest => exact .inr ⟨_, rfl, by simp [Deed.parts]⟩
  | worked allowed hl tells => exact .inr ⟨_, rfl, fun d hd => Deed.parts_of_isPlain (tells.plain d hd)⟩
  | begun hs launched =>
    obtain ⟨calm, hearers, told, light, -, light', tends⟩ := begun_tends launched
    exact .inr ⟨_, by rw [tends.journal, fresh_eq], forall_mem_noted (fun d hd => Deed.parts_of_isSlight (light d hd))
      (fun _ => rfl) light' (fun _ => rfl) fun _ => Deed.parts_of_isSlight⟩
  | @closing link hs waiter => exact .inl ⟨link, waiter, hs, rfl⟩
  | lost hs worked failed | broken hs worked failed =>
    exact .inr (parts_of_part (parts_worked worked failed) rfl (fun _ => rfl) _)
  | @lapsed link closure allowed hs passed index here =>
    let lapse : Deed := .noted (.shutdownUnconfirmed link.generation r.settings.disconnectGrace)
    have own : ∀ d ∈ [lapse], ∀ g, d.parts g = false := by simp [lapse, Deed.parts]
    exact .inr (parts_of_part own rfl (fun _ => rfl) _)

end Robot

end RobotDriver
