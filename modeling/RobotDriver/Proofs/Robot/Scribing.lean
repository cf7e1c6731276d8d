import RobotDriver.Proofs.Robot.Growing

/-!
# What is written on a connection

What a connection has accepted is written to its channel, or its writer is about to write it, or it waits in the queue
(`Link.Scribed.accounted`). What carries this is `Scribed`: the writer of the connection that is there, with the journal
since the connection began, has served what was accepted. `Scribes` says what one act, and then one move, makes of it:
the connection stays and may accept more, or it is gone, or a new one begins with a channel of its own.
-/

namespace RobotDriver

namespace Deed

/-- A channel took some bytes. -/
def isOn (channel : Nat) : Deed → Bool
  | wrote c _ => c == channel
  | _ => false

/-- The deed says nothing of what is written. -/
def isUnwritten : Deed → Bool
  | wrote _ _ | registered _ _ => false
  | _ => true

theorem isUnwritten_of_isLight {d : Deed} (h : d.isLight = true) : d.isUnwritten = true := by
  cases d <;> first | rfl | cases h

theorem isUnwritten_of_isSlight {d : Deed} (h : d.isSlight = true) : d.isUnwritten = true :=
  isUnwritten_of_isLight (isLight_of_isSlight h)

end Deed

/-- The bytes that one channel took. -/
def wireOn (channel : Nat) (ds : List Deed) : Bytes :=
  wire (ds.filter (Deed.isOn channel))

variable {w : Prop} {link : Link} {journal ds : List Deed} {accepted : List Outbox.Item} {c : Nat}

@[simp]
theorem wireOn_append (c : Nat) (xs ys : List Deed) : wireOn c (xs ++ ys) = wireOn c xs ++ wireOn c ys := by
  simp [wireOn]

theorem wireOn_eq_nil (none : ∀ bytes, .wrote c bytes ∉ ds) : wireOn c ds = [] := by
  have empty : ds.filter (Deed.isOn c) = [] := by
    refine List.filter_eq_nil_iff.2 fun d hd here => ?_
    cases d with
    | wrote n bytes =>
      obtain rfl : n = c := eq_of_beq here
      exact none bytes hd
    | _ => cases here
  rw [wireOn, empty]
  rfl

/-- Where nothing is written on other channels. -/
theorem wireOn_eq_wire (own : ∀ n bytes, .wrote n bytes ∈ ds → n = c) : wireOn c ds = wire ds := by
  induction ds with
  | nil => rfl
  | cons d ds ih =>
    have rest := ih fun n bytes there => own n bytes (List.mem_cons_of_mem d there)
    rw [← List.singleton_append, wireOn_append, wire_append, rest]
    congr 1
    cases d with
    | wrote n bytes =>
      obtain rfl := own n bytes List.mem_cons_self
      simp [wireOn, Deed.isOn]
    | _ => rfl

theorem wire_of_isUnwritten (h : ∀ d ∈ ds, d.isUnwritten = true) : wire ds = [] := by
  refine List.flatMap_eq_nil_iff.2 fun d hd => ?_
  have unwritten := h d hd
  cases d <;> first | rfl | cases unwritten

theorem registeredItems_of_isUnwritten (h : ∀ d ∈ ds, d.isUnwritten = true) (g : Nat) : registeredItems g ds = [] := by
  have none : registrations g ds = [] := by
    refine List.filterMap_eq_nil_iff.2 fun d hd => ?_
    have unwritten := h d hd
    cases d <;> first | rfl | cases unwritten
  rw [registeredItems, none]
  rfl

theorem not_mem_of_isUnwritten (h : ∀ d ∈ ds, d.isUnwritten = true) (c : Nat) (bytes : Bytes) : .wrote c bytes ∉ ds :=
  fun there => by cases h _ there

/-- What is written are packets of accepted items that can be encoded, from the first one on. -/
theorem Outbox.Shift.Kept.written {shift : Outbox.Shift} (h : shift.Kept) :
    Outbox.written shift.emissions <+: Outbox.packets (Outbox.encodable shift.accepted) := by
  refine (h.history _ List.prefix_rfl).2.trans ?_
  obtain ⟨rest, order⟩ := h.order
  rw [← order, Outbox.packets_append]
  exact List.prefix_append _ _

/-! ## The connection that is there -/

/-- The journal tells what has become of the items that a connection has accepted. The first of them reset the robot,
and when it is being closed no more are accepted after the two last ones. -/
structure Link.Scribed (up : Bool) (link : Link) (journal : List Deed) (accepted : List Outbox.Item) : Prop where
  served : ∃ past life shift, journal = past ++ life ∧ (∀ bytes, .wrote link.channel bytes ∉ past) ∧
    link.Serves False life shift ∧ shift.accepted = accepted
  first : resets <+: accepted
  last : up = false → link.writer.outbox.accepting = false ∧ ∃ others, accepted = resets ++ others ++ finals

namespace Link.Scribed

variable {up : Bool} {es : List Deed}

theorem attended (h : link.Scribed up journal accepted) : link.writer.outbox.attended = true := by
  obtain ⟨past, life, shift, -, -, serves, -⟩ := h.served
  exact serves.attended

/-- What a connection has accepted and can be encoded is written, or is being written, or waits in the queue. -/
theorem accounted (h : link.Scribed up journal accepted) : ∃ pending, link.writer.activity.pending = some pending ∧
    wireOn link.channel journal ++ pending ++ Outbox.packets (Outbox.encodable link.outbox.queue) =
      Outbox.packets (Outbox.encodable accepted) := by
  obtain ⟨past, life, shift, rfl, apart, serves, rfl⟩ := h.served
  obtain ⟨pending, live⟩ := Option.ne_none_iff_exists'.1 serves.live
  have written := serves.kept.pending pending (serves.writer ▸ live)
  have queued := serves.kept.queued pending (serves.writer ▸ live)
  rw [serves.writer] at queued
  refine ⟨pending, live, ?_⟩
  rw [wireOn_append, wireOn_eq_nil apart, wireOn_eq_wire serves.channel, List.nil_append, serves.wire, written,
    ← queued, Outbox.packets_append]
  rfl

theorem wire (h : link.Scribed up journal accepted) :
    wireOn link.channel journal <+: Outbox.packets (Outbox.encodable accepted) := by
  obtain ⟨pending, -, all⟩ := h.accounted
  rw [← all, List.append_assoc]
  exact List.prefix_append _ _

/-- Whatever the writer does next, it writes what was accepted. -/
theorem worked (h : link.Scribed up journal accepted) (worked : Robot.Worked w link ds)
    (rest : ∀ d ∈ es, d.isUnwritten = true) :
    wireOn link.channel (journal ++ (ds ++ es)) <+: Outbox.packets (Outbox.encodable accepted) := by
  have quiet : wireOn link.channel es = [] := wireOn_eq_nil fun bytes => not_mem_of_isUnwritten rest _ bytes
  rw [wireOn_append, wireOn_append, quiet, List.append_nil]
  rcases worked with rfl | ⟨-, tells⟩
  · rw [show wireOn link.channel [] = [] from rfl, List.append_nil]
    exact h.wire
  · obtain ⟨past, life, shift, rfl, apart, serves, rfl⟩ := h.served
    have kept := (serves.kept.move (.work false false)).written
    rw [Outbox.Shift.move, serves.writer] at kept
    rw [wireOn_append, wireOn_eq_nil apart, wireOn_eq_wire serves.channel, wireOn_eq_wire tells.channel,
      List.nil_append, serves.wire, tells.wire, ← Outbox.written_append]
    exact kept

/-- The writer is left to itself: what enters the queue is accepted. -/
theorem spared {next : Link} (h : link.Scribed up journal accepted) (spared : link.Spared next)
    (rest : ∀ d ∈ ds, d.isUnwritten = true) : ∃ entered, next.Scribed up (journal ++ ds) (accepted ++ entered) ∧
      next.outbox.queue = link.outbox.queue ++ entered ∧ (up = false → entered = []) := by
  obtain ⟨⟨past, life, shift, rfl, apart, serves, rfl⟩, first, last⟩ := h
  obtain ⟨later, entered, served, same, queue, closed⟩ := serves.spared spared (List.forall_mem_nil _)
  rw [List.append_nil] at served
  refine ⟨entered, ⟨⟨past, life ++ ds, later, List.append_assoc _ _ _, ?_, ?_, same⟩, ?_, fun closing => ?_⟩, queue,
    fun closing => closed (last closing).1⟩
  · rw [spared.channel]
    exact apart
  · exact served.extend (wire_of_isUnwritten rest) (registeredItems_of_isUnwritten rest _) (not_mem_of_isUnwritten rest)
  · exact first.trans (List.prefix_append _ _)
  · obtain ⟨gate, others⟩ := last closing
    obtain ⟨items, writer⟩ := spared.writer
    rw [closed gate, List.append_nil, writer]
    exact ⟨(congrArg Outbox.accepting (Outbox.foldl_offer_of_closed items gate)).trans gate, others⟩

end Link.Scribed

namespace Robot

/-- All channels on which something was written are open, and the connection that is there has served what it has
accepted. -/
structure Scribed (accepted : List Outbox.Item) (r : Robot) : Prop where
  opened : ∀ c bytes, .wrote c bytes ∈ r.journal → c < r.dialler.opened
  known : ∀ link, r.link? = some link → link.generation ≤ r.generations ∧ link.channel < r.dialler.opened
  link : ∀ link, r.link? = some link → link.Scribed r.session.isUp r.journal accepted

/-- What becomes of the connection and of what it has accepted; if `w` holds, the writer may have taken items out of the
queue. -/
inductive Fate (w : Prop) (accepted : List Outbox.Item) (r s : Robot) : Prop
  | stays {link next : Link} {entered : List Outbox.Item} (before : r.link? = some link) (after : s.link? = some next)
      (generation : next.generation = link.generation) (channel : next.channel = link.channel)
      (scribed : next.Scribed s.session.isUp s.journal (accepted ++ entered))
      (queue : next.outbox.queue.drop link.outbox.queue.length = entered)
      (whole : w ∨ next.outbox.queue = link.outbox.queue ++ entered)
      (last : r.session.isUp = false → s.session.isUp = false ∧ entered = [])
  | gone (none : s.link? = none)
  | begins {next : Link} (after : s.link? = some next) (later : r.generations < next.generation)
      (known : next.generation ≤ s.generations) (unused : r.dialler.opened ≤ next.channel)
      (opened : next.channel < s.dialler.opened) (scribed : next.Scribed s.session.isUp s.journal next.outbox.queue)

/-- What happens between two states, as far as it concerns what is written. -/
structure Scribes (w : Prop) (accepted : List Outbox.Item) (r s : Robot) : Prop where
  generations : r.generations ≤ s.generations
  opened : r.dialler.opened ≤ s.dialler.opened
  journal : ∃ ds, s.journal = r.journal ++ ds ∧ (w ∨ ∀ c bytes, .wrote c bytes ∉ ds) ∧
    ∀ c bytes, .wrote c bytes ∈ ds → ∃ link, r.link? = some link ∧ c = link.channel
  wire : ∀ link, r.link? = some link → wireOn link.channel s.journal <+: Outbox.packets (Outbox.encodable accepted)
  fate : Fate w accepted r s

variable {may : Privilege → Prop} {r s t : Robot}

/-! ## One act -/

/-- Where nothing is written that is not open, a connection that is scribed stays so. -/
theorem Scribed.next (h : Scribed accepted r) (scribes : Scribes w accepted r s) {later : List Outbox.Item}
    (scribed : ∀ link, s.link? = some link → link.Scribed s.session.isUp s.journal later) : Scribed later s := by
  obtain ⟨ds, journal, -, own⟩ := scribes.journal
  refine ⟨fun c bytes there => Nat.lt_of_lt_of_le ?_ scribes.opened, ?_, scribed⟩
  · rw [journal] at there
    rcases List.mem_append.1 there with old | new
    · exact h.opened c bytes old
    · obtain ⟨link, hl, rfl⟩ := own c bytes new
      exact (h.known link hl).2
  · cases scribes.fate with
    | @stays link next entered before after generation channel =>
      refine forall_link? after ?_
      obtain ⟨known, opened⟩ := h.known link before
      rw [generation, channel]
      exact ⟨Nat.le_trans known scribes.generations, Nat.lt_of_lt_of_le opened scribes.opened⟩
    | gone none =>
      intro link hl
      rw [none] at hl
      cases hl
    | begins after later known unused opened => exact forall_link? after ⟨known, opened⟩

/-- The writer is left to itself. -/
theorem scribes_spared (h : Scribed accepted r)
    (there : ∀ link, r.link? = some link → ∃ next, s.link? = some next ∧ link.Spared next)
    (none : r.link? = none → s.link? = none) (up : s.session.isUp = r.session.isUp)
    (journal : s.journal = r.journal ++ ds) (rest : ∀ d ∈ ds, d.isUnwritten = true)
    (generations : r.generations ≤ s.generations) (opened : r.dialler.opened ≤ s.dialler.opened) :
    Scribes w accepted r s := by
  have absent := not_mem_of_isUnwritten rest
  refine ⟨generations, opened, ⟨ds, journal, .inr absent, fun c bytes wrote => absurd wrote (absent c bytes)⟩,
    fun link hl => ?_, ?_⟩
  · rw [journal]
    exact (h.link link hl).worked (w := False) (.inl rfl) rest
  · cases hl : r.link? with
    | none => exact .gone (none hl)
    | some link =>
      obtain ⟨next, hn, spared⟩ := there link hl
      obtain ⟨entered, scribed, queue, last⟩ := (h.link link hl).spared spared rest
      rw [← journal, ← up] at scribed
      refine .stays hl hn spared.generation spared.channel scribed ?_ (.inr queue) fun closing => ?_
      · rw [queue, List.drop_left]
      · exact ⟨up.trans closing, last closing⟩

/-- The connection is left alone. -/
theorem scribes_same (h : Scribed accepted r) (session : s.session = r.session) (journal : s.journal = r.journal ++ ds)
    (rest : ∀ d ∈ ds, d.isUnwritten = true) (generations : r.generations ≤ s.generations)
    (opened : r.dialler.opened ≤ s.dialler.opened) : Scribes w accepted r s := by
  have same : s.link? = r.link? := congrArg Session.link? session
  exact scribes_spared h (fun link hl => ⟨link, same.trans hl, .refl link⟩) same.trans (congrArg Session.isUp session)
    journal rest generations opened

theorem scribes_tends (h : Scribed accepted r) {q : Robot} {es : List Deed} (tends : Tends q es s)
    (light : ∀ d ∈ es, d.isLight = true) (session : q.session = r.session) (journal : q.journal = r.journal ++ ds)
    (rest : ∀ d ∈ ds, d.isUnwritten = true) (generations : q.generations = r.generations)
    (dialler : q.dialler = r.dialler) : Scribes w accepted r s := by
  have tended := tends.session
  rw [session] at tended
  have generations' : s.generations = r.generations := by rw [tends.rest, generations]
  have dialler' : s.dialler = r.dialler := by rw [tends.rest, dialler]
  have unwritten : ∀ d ∈ ds ++ es, d.isUnwritten = true :=
    List.forall_mem_append.2 ⟨rest, fun d hd => Deed.isUnwritten_of_isLight (light d hd)⟩
  refine scribes_spared h (fun link hl => ?_) tended.none tended.isUp
    (by rw [tends.journal, journal, List.append_assoc]) unwritten (Nat.le_of_eq generations'.symm)
    (Nat.le_of_eq (congrArg Dialler.opened dialler'.symm))
  obtain ⟨next, hn, tended⟩ := tended.link? hl
  exact ⟨next, hn, tended.toSpared⟩

/-- A connection ends, after what its writer has done. -/
theorem scribes_part (h : Scribed accepted r) (hl : r.link? = some link) {q : Robot} {es : List Deed}
    (worked : Worked w link ds) (rest : ∀ d ∈ es, d.isUnwritten = true) (journal : q.journal = r.journal ++ (ds ++ es))
    (generations : q.generations = r.generations) (opened : q.dialler = r.dialler) (n : Note) (e : Event) :
    Scribes w accepted r (q.part n e) := by
  obtain ⟨hearers, told, -, light, parted⟩ := q.part_eq n e
  have later : ∀ d ∈ es ++ .noted n :: told, d.isUnwritten = true :=
    forall_mem_noted rest rfl light rfl fun _ => Deed.isUnwritten_of_isSlight
  have absent := not_mem_of_isUnwritten later
  have whole : q.journal ++ .noted n :: told = r.journal ++ (ds ++ (es ++ .noted n :: told)) := by
    rw [journal]
    simp only [List.append_assoc]
  rw [parted]
  refine ⟨Nat.le_of_eq generations.symm, Nat.le_of_eq (congrArg Dialler.opened opened.symm),
    ⟨_, whole, ?_, fun c bytes wrote => ?_⟩, ?_, .gone rfl⟩
  · rcases worked with rfl | ⟨allowed, -⟩
    · exact .inr absent
    · exact .inl allowed
  · have mine := (List.mem_append.1 wrote).resolve_right (absent c bytes)
    rcases worked with rfl | ⟨-, tells⟩
    · cases mine
    · exact ⟨link, hl, tells.channel c bytes mine⟩
  · refine forall_link? hl ?_
    dsimp only
    rw [whole]
    exact (h.link link hl).worked worked later

theorem isUnwritten_answer {g : Nat} {entry : InFlight.Entry} {p : Packet} (notes : List Note) :
    ∀ d ∈ .received g p :: .answered g entry p :: notes.map Deed.noted, d.isUnwritten = true := by
  refine List.forall_mem_cons.2 ⟨rfl, List.forall_mem_cons.2 ⟨rfl, fun d hd => ?_⟩⟩
  obtain ⟨note, -, rfl⟩ := List.mem_map.1 hd
  rfl

theorem isUnwritten_of_failure {g : Nat} {d : Deed} {cause : TransportError} (failed : Failure g d cause) :
    ∀ e ∈ [d], e.isUnwritten = true := by
  intro e he
  rw [List.mem_singleton.1 he]
  cases failed <;> rfl

/-- The writer works and goes on. -/
theorem scribes_worked (h : Scribed accepted r) (allowed : w) (hl : r.link? = some link)
    (tells : link.Tells (link.writer.work false false).2 ds)
    (going : ∀ fault, (link.writer.work false false).1.activity ≠ .ended (some fault)) (inFlight : InFlight) :
    Scribes w accepted r { r.withLink { link with writer := (link.writer.work false false).1 } with
      inFlight, journal := r.journal ++ ds } := by
  have scribed := h.link link hl
  have after : ({ r.withLink { link with writer := (link.writer.work false false).1 } with
      inFlight, journal := r.journal ++ ds } : Robot).link? =
      some { link with writer := (link.writer.work false false).1 } := link?_withLink hl _
  have up : (r.session.mapLink fun _ => { link with writer := (link.writer.work false false).1 }).isUp =
      r.session.isUp := Session.isUp_mapLink _ _
  refine ⟨Nat.le_refl _, Nat.le_refl _,
    ⟨ds, rfl, .inl allowed, fun c bytes wrote => ⟨link, hl, tells.channel c bytes wrote⟩⟩,
    forall_link? hl ?_, ?_⟩
  · have wire := scribed.worked (.inr ⟨allowed, tells⟩) (List.forall_mem_nil _)
    rwa [List.append_nil] at wire
  · refine @Fate.stays w accepted r _ link _ [] hl after rfl rfl ?_ ?_ (.inl allowed)
      fun closing => ⟨up.trans closing, rfl⟩
    · obtain ⟨⟨past, life, shift, cut, apart, serves, rfl⟩, first, last⟩ := scribed
      rw [List.append_nil]
      refine ⟨⟨past, life ++ ds, _, ?_, apart, serves.work (Outbox.live_work serves.live going) tells, rfl⟩, first,
        fun closing => ⟨?_, (last (up.symm.trans closing)).2⟩⟩
      · show r.journal ++ ds = _
        rw [cut, List.append_assoc]
      · exact (Outbox.gate_work link.writer).1.trans (last (up.symm.trans closing)).1
    · exact List.drop_eq_nil_of_le (Outbox.shorter_work link.writer)

/-- A connection begins, and resets the robot first. -/
theorem scribes_begun (h : Scribed accepted r) (down : r.session = .down) {calm told : List Deed} {address : String}
    {e : Event} {hearers : List Nat}
    (tends : Tends r.fresh (calm ++ .noted (.connected address (r.generations + 1)) :: told) s)
    (light : ∀ d ∈ calm, d.isSlight = true)
    (light' : ∀ d ∈ told, d = .reported (.event e) hearers ∨ d.isSlight = true) : Scribes w accepted r s := by
  have none : r.link? = none := link?_of_down down
  have later : ∀ d ∈ calm ++ .noted (.connected address (r.generations + 1)) :: told, d.isUnwritten = true :=
    forall_mem_noted (fun d hd => Deed.isUnwritten_of_isSlight (light d hd)) rfl light' rfl fun _ =>
      Deed.isUnwritten_of_isSlight
  have absent := not_mem_of_isUnwritten later
  have there : r.fresh.link? = some (r.freshLink.withOutbox { queue := resets }) := by rw [fresh_eq]; rfl
  obtain ⟨next, hn, tended⟩ := tends.link? there
  have journal : s.journal = r.journal ++ (calm ++ .noted (.connected address (r.generations + 1)) :: told) := by
    rw [tends.journal, fresh_eq]
  have generations : s.generations = r.generations + 1 := by rw [tends.rest, fresh_eq]
  have opened : s.dialler.opened = r.dialler.opened + 1 := by rw [tends.rest, fresh_eq]
  have up : s.session.isUp = true := tends.session.isUp.trans (by rw [fresh_eq]; rfl)
  have generation : next.generation = r.generations + 1 := tended.generation
  have channel : next.channel = r.dialler.opened := tended.channel
  -- The commands that reset the robot are offered to an empty queue, and whatever is sent comes behind them.
  have fresh : r.freshLink.Spared (r.freshLink.withOutbox { queue := resets }) := ⟨rfl, rfl, resets, rfl⟩
  have waiting : r.freshLink.writer.activity = .waiting := rfl
  obtain ⟨shift, serves, first⟩ := serves_new (w := False) waiting rfl False.elim fresh
  obtain ⟨later', entered, serves, same, queue, -⟩ := serves.spared tended.toSpared (List.forall_mem_nil _)
  rw [first] at same
  rw [List.append_nil] at serves
  refine ⟨by omega, by omega, ⟨_, journal, .inr absent, fun c bytes wrote => absurd wrote (absent c bytes)⟩,
    fun link hl => ?_, .begins hn (by omega) (by omega) (by omega) (by omega) ?_⟩
  · rw [none] at hl
    cases hl
  refine ⟨⟨r.journal, _, later', journal, fun bytes wrote => ?_, serves.extend (wire_of_isUnwritten later)
    (registeredItems_of_isUnwritten later _) absent, same.trans queue.symm⟩, ⟨entered, queue.symm⟩, fun closing => ?_⟩
  · have := h.opened _ _ wrote
    omega
  · rw [up] at closing
    cases closing

/-- The connection is being closed: the two last commands are accepted past the gate, and nothing after them. -/
theorem scribes_closing (h : Scribed accepted r) (hs : r.session = .up link) (waiter : Option Nat) :
    Scribes w accepted r (r.beginDisconnect link waiter) := by
  have hl : r.link? = some link := link?_of_up hs
  have scribed := h.link link hl
  obtain ⟨tasks, -, begins⟩ := r.beginDisconnect_eq scribed.attended waiter
  have unwritten : ∀ d ∈ [Deed.noted (.disconnecting link.generation)], d.isUnwritten = true :=
    List.forall_mem_singleton.2 rfl
  have absent := not_mem_of_isUnwritten unwritten
  have up : r.session.isUp = true := by rw [hs]; rfl
  obtain ⟨past, life, shift, cut, apart, serves, rfl⟩ := scribed.served
  obtain ⟨others, first⟩ := scribed.first
  rw [begins]
  refine ⟨Nat.le_refl _, Nat.le_refl _, ⟨_, rfl, .inr absent, fun c bytes wrote => absurd wrote (absent c bytes)⟩,
    forall_link? hl (scribed.worked (w := False) (.inl rfl) unwritten),
    @Fate.stays _ _ r _ link _ finals hl rfl rfl rfl ⟨⟨past, life ++ [.noted (.disconnecting link.generation)], _, ?_,
      apart, (serves_partingLink serves).extend rfl rfl absent, rfl⟩, ?_, fun _ => ⟨rfl, others, ?_⟩⟩ ?_ (.inr rfl)
      fun closing => ?_⟩
  · rw [cut, List.append_assoc]
  · exact scribed.first.trans (List.prefix_append _ _)
  · rw [first]
  · exact List.drop_left
  · rw [up] at closing
    cases closing

/-- The channel comes to take bytes in another way. -/
theorem scribes_sink (h : Scribed accepted r) (hl : r.link? = some link) (sink : Sink) :
    Scribes w accepted r (r.withLink { link with writer := { link.writer with sink } }) := by
  have after : (r.withLink { link with writer := { link.writer with sink } }).link? =
      some { link with writer := { link.writer with sink } } := link?_withLink hl _
  have up : (r.withLink { link with writer := { link.writer with sink } }).session.isUp = r.session.isUp :=
    Session.isUp_mapLink _ _
  obtain ⟨⟨past, life, shift, cut, apart, serves, rfl⟩, first, last⟩ := h.link link hl
  refine ⟨Nat.le_refl _, Nat.le_refl _, ⟨[], (List.append_nil _).symm, .inr nofun, nofun⟩,
    forall_link? hl (h.link link hl).wire, @Fate.stays _ _ r _ link _ [] hl after rfl rfl ?_ List.drop_length (.inr ?_)
      fun closing => ⟨up.trans closing, rfl⟩⟩
  · rw [List.append_nil, up]
    exact ⟨⟨past, life, _, cut, apart, serves.changeSink nofun, rfl⟩, first, last⟩
  · exact (List.append_nil _).symm

theorem Scribed.act (h : Scribed accepted r) (act : Act may r s) : Scribes (may .write) accepted r s := by
  cases act with
  | tends tends =>
    obtain ⟨ds, slight, tends⟩ := tends
    exact scribes_tends h tends (fun d hd => Deed.isLight_of_isSlight (slight d hd)) rfl
      (List.append_nil _).symm (List.forall_mem_nil _) rfl rfl
  | submitted allowed accepted progresses =>
    exact scribes_tends h progresses.tends progresses.light rfl (List.append_nil _).symm
      (List.forall_mem_nil _) rfl rfl
  | marked hl marker running progresses =>
    exact scribes_tends h progresses.tends progresses.light rfl rfl (by simp [Deed.isUnwritten]) rfl rfl
  | sink hl sink => exact scribes_sink h hl sink
  | dialled dialler same =>
    exact scribes_same h rfl (List.append_nil _).symm (List.forall_mem_nil _) (Nat.le_refl _) (Nat.le_of_eq same.symm)
  | took | received | finished =>
    exact scribes_same h rfl rfl (by simp [Deed.isUnwritten]) (Nat.le_refl _) (Nat.le_refl _)
  | answered => exact scribes_same h rfl rfl (isUnwritten_answer _) (Nat.le_refl _) (Nat.le_refl _)
  | @echoed link closure hs =>
    refine scribes_spared h (fun other hl => ⟨other, ?_, .refl other⟩) (fun none => ?_) ?_ rfl (isUnwritten_answer _)
      (Nat.le_refl _) (Nat.le_refl _)
    · exact (link?_of_closing hs).symm.trans hl
    · cases (link?_of_closing hs).symm.trans none
    · rw [hs]
      rfl
  | @confirmed link closure hs second entry rest p notes =>
    exact scribes_part h (q := r.answer link.generation entry rest p notes) (link?_of_closing hs) (.inl rfl)
      (isUnwritten_answer notes) rfl rfl rfl _ _
  | expired hl oldest =>
    refine scribes_same h rfl rfl (fun d hd => ?_) (Nat.le_refl _) (Nat.le_refl _)
    obtain ⟨entry, -, rfl⟩ := List.mem_map.1 hd
    rfl
  | worked allowed hl tells going => exact scribes_worked h allowed hl tells going _
  | surplus =>
    exact scribes_same h rfl (List.append_nil _).symm (List.forall_mem_nil _) (Nat.le_succ _) (Nat.le_succ _)
  | begun hs launched =>
    obtain ⟨calm, hearers, told, light, -, light', tends⟩ := begun_tends launched
    exact scribes_begun h hs tends light light'
  | closing hs waiter => exact scribes_closing h hs waiter
  | @lost link hs ds d cause worked failed =>
    exact scribes_part h (q := r.recordAll (ds ++ [d])) (link?_of_up hs) worked
      (isUnwritten_of_failure failed) rfl rfl rfl _ _
  | @broken link closure hs ds d cause worked failed =>
    exact scribes_part h (q := r.recordAll (ds ++ [d])) (link?_of_closing hs) worked
      (isUnwritten_of_failure failed) rfl rfl rfl _ _
  | @lapsed link closure allowed hs passed index here =>
    have unwritten : ∀ d ∈ [Deed.noted (.shutdownUnconfirmed link.generation r.settings.disconnectGrace)],
        d.isUnwritten = true := List.forall_mem_singleton.2 rfl
    exact scribes_part h (q := { r with ready := r.ready.eraseIdx index }.note
      (.shutdownUnconfirmed link.generation r.settings.disconnectGrace)) (link?_of_closing hs) (.inl rfl) unwritten
      rfl rfl rfl _ _
  | @watched link closure allowed hs =>
    refine scribes_spared h (fun other hl => ?_) (fun none => ?_) ?_ (List.append_nil _).symm (List.forall_mem_nil _)
      (Nat.le_refl _) (Nat.le_refl _)
    · obtain rfl : link = other := Option.some.inj ((link?_of_closing hs).symm.trans hl)
      exact ⟨_, rfl, .of_writer rfl rfl rfl⟩
    · cases (link?_of_closing hs).symm.trans none
    · rw [hs]
      rfl
  | returned => exact scribes_same h rfl rfl (by simp [Deed.isUnwritten]) (Nat.le_refl _) (Nat.le_refl _)
  | taken | called | aborted | followed =>
    exact scribes_same h rfl (List.append_nil _).symm (List.forall_mem_nil _) (Nat.le_refl _) (Nat.le_refl _)

/-! ## One move -/

/-- A connection that begins in the second of two steps is new in both. -/
theorem Fate.begins_later (first : Scribes w accepted r s) {next : Link} (after : t.link? = some next)
    (later : s.generations < next.generation) (known : next.generation ≤ t.generations)
    (unused : s.dialler.opened ≤ next.channel) (opened : next.channel < t.dialler.opened)
    (scribed : next.Scribed t.session.isUp t.journal next.outbox.queue) : Fate w accepted r t :=
  .begins after (Nat.lt_of_le_of_lt first.generations later) known (Nat.le_trans first.opened unused) opened scribed

/-- What becomes of a connection in two steps in which the writer does not work. -/
theorem Fate.trans (idle : ¬ w) (h : Scribed accepted r) (first : Scribes w accepted r s)
    (second : ∀ {later}, Scribed later s → Scribes w later s t) :
    Fate w accepted r t ∧ ∃ later, Scribed later s := by
  cases first.fate with
  | @stays link next entered before after generation channel scribed queue whole last =>
    have mid := h.next first (forall_link? after scribed)
    refine ⟨?_, _, mid⟩
    have whole := whole.resolve_left idle
    cases (second mid).fate with
    | @stays link' next' entered' before' after' generation' channel' scribed' queue' whole' last' =>
      obtain rfl : next = link' := Option.some.inj (after.symm.trans before')
      have whole' := whole'.resolve_left idle
      rw [List.append_assoc] at scribed'
      rw [whole, List.append_assoc] at whole'
      refine .stays before after' (generation'.trans generation) (channel'.trans channel) scribed' ?_ (.inr whole')
        fun closing => ?_
      · rw [whole', List.drop_left]
      · obtain ⟨closing, none⟩ := last closing
        obtain ⟨closing, none'⟩ := last' closing
        exact ⟨closing, by rw [none, none', List.append_nil]⟩
    | gone none => exact .gone none
    | begins after' later known unused opened scribed' =>
      exact .begins_later first after' later known unused opened scribed'
  | gone none =>
    have mid : Scribed [] s := h.next first fun link hl => by rw [none] at hl; cases hl
    refine ⟨?_, _, mid⟩
    cases (second mid).fate with
    | stays before' =>
      rw [none] at before'
      cases before'
    | gone none => exact .gone none
    | begins after' later known unused opened scribed' =>
      exact .begins_later first after' later known unused opened scribed'
  | @begins next after later known unused opened scribed =>
    have mid := h.next first (forall_link? after scribed)
    refine ⟨?_, _, mid⟩
    have more := second mid
    cases more.fate with
    | @stays link' next' entered' before' after' generation' channel' scribed' queue' whole' last' =>
      obtain rfl : next = link' := Option.some.inj (after.symm.trans before')
      rw [← whole'.resolve_left idle] at scribed'
      rw [← generation'] at later known
      rw [← channel'] at unused opened
      exact .begins after' later (Nat.le_trans known more.generations) unused (Nat.lt_of_lt_of_le opened more.opened)
        scribed'
    | gone none => exact .gone none
    | begins after' later' known' unused' opened' scribed' =>
      exact .begins_later first after' later' known' unused' opened' scribed'

/-- What happens in two steps in which the writer does not work. -/
theorem Scribes.trans (idle : ¬ w) (h : Scribed accepted r) (first : Scribes w accepted r s)
    (second : ∀ {later}, Scribed later s → Scribes w later s t) : Scribes w accepted r t := by
  obtain ⟨fate, later, mid⟩ := Fate.trans idle h first second
  have more := second mid
  obtain ⟨ds, journal, quiet, -⟩ := first.journal
  obtain ⟨es, journal', quiet', -⟩ := more.journal
  have whole : t.journal = r.journal ++ (ds ++ es) := by rw [journal', journal, List.append_assoc]
  have quiet : ∀ c bytes, .wrote c bytes ∉ ds ++ es := fun c bytes wrote =>
    (List.mem_append.1 wrote).elim (quiet.resolve_left idle c bytes) (quiet'.resolve_left idle c bytes)
  refine ⟨Nat.le_trans first.generations more.generations, Nat.le_trans first.opened more.opened,
    ⟨_, whole, .inr quiet, fun c bytes wrote => absurd wrote (quiet c bytes)⟩, fun link hl => ?_, fate⟩
  rw [whole, wireOn_append, wireOn_eq_nil (quiet link.channel), List.append_nil]
  exact (h.link link hl).wire

theorem Scribed.acts (idle : ¬ may .write) (h : Scribed accepted r) (acts : Acts may r s) :
    Scribes (may .write) accepted r s := by
  induction acts using Relation.ReflTransGen.head_induction_on generalizing accepted with
  | refl => exact scribes_same h rfl (List.append_nil _).symm (List.forall_mem_nil _) (Nat.le_refl _) (Nat.le_refl _)
  | head act _ ih => exact (h.act act).trans idle h ih

/-- It does not matter which tasks were ready, nor whether the writer may have worked. -/
theorem Scribes.of_tasks {tasks : List Task} (h : Scribes w accepted { r with ready := tasks } s) :
    Scribes True accepted r s := by
  obtain ⟨generations, opened, ⟨ds, journal, -, own⟩, wire, fate⟩ := h
  refine ⟨generations, opened, ⟨ds, journal, .inl trivial, own⟩, wire, ?_⟩
  cases fate with
  | stays before after generation channel scribed queue _ last =>
    exact .stays before after generation channel scribed queue (.inl trivial) last
  | gone none => exact .gone none
  | begins after later known unused opened scribed => exact .begins after later known unused opened scribed

theorem scribes_quit (h : Scribed accepted r) : Scribes w accepted r r.quit := by
  have unwritten : ∀ d ∈ r.link?.toList.map fun link => Deed.noted (.handleDropped link.generation),
      d.isUnwritten = true := List.forall_mem_map.2 fun _ _ => rfl
  have absent := not_mem_of_isUnwritten unwritten
  rw [quit_eq]
  exact ⟨Nat.le_refl _, Nat.le_refl _, ⟨_, rfl, .inr absent, fun c bytes wrote => absurd wrote (absent c bytes)⟩,
    fun link hl => (h.link link hl).worked (w := False) (.inl rfl) unwritten, .gone rfl⟩

theorem Scribed.move (h : Scribed accepted r) {m : Move} (single : m.isSingle = true) :
    Scribes True accepted r (r.move m) := by
  cases m with
  | perform step =>
    have acts : Acts (· = .play) r (r.perform step).2 := acts_perform r single fun _ => rfl
    exact Scribes.of_tasks (h.acts (by nofun) acts)
  | run index =>
    by_cases write : writes r (.run index)
    · obtain ⟨g, here⟩ := write
      let rest : Robot := { r with ready := r.ready.eraseIdx index }
      have scribed : Scribed accepted rest := ⟨h.opened, h.known, h.link⟩
      have runs : r.move (.run index) = rest.onCurrent g runWriter := move_run here
      rw [runs]
      have scribes : Scribes True accepted rest (rest.onCurrent g runWriter) := by
        refine onCurrent_cases ?_ fun link hl _ => ?_
        · exact scribes_same scribed rfl (List.append_nil _).symm (List.forall_mem_nil _) (Nat.le_refl _)
            (Nat.le_refl _)
        · have works : Act Privilege.all rest _ := act_runWriter trivial hl
          exact scribed.act works
      exact scribes.of_tasks
    · have acts : Acts (· ≠ .write) r (r.move (.run index)) :=
        acts_move r rfl (fun will => absurd will write) (fun _ => nofun) fun _ _ => nofun
      exact Scribes.of_tasks (h.acts (fun other => other rfl) acts)
  | tick ms => exact scribes_same h rfl (List.append_nil _).symm (List.forall_mem_nil _) (Nat.le_refl _) (Nat.le_refl _)
  | ring =>
    obtain ⟨tasks, rings⟩ := r.ring_eq
    rw [Robot.move, rings]
    refine scribes_spared h
      (fun link hl => ⟨{ link with agenda := link.agenda.later r.clock }, ?_, .of_writer rfl rfl rfl⟩)
      (fun none => ?_) ?_ (List.append_nil _).symm (List.forall_mem_nil _) (Nat.le_refl _) (Nat.le_refl _)
    · exact (r.link?_mapLink _).trans (congrArg _ hl)
    · exact (r.link?_mapLink _).trans (congrArg _ none)
    · exact r.session.isUp_mapLink _
  | abandon =>
    have link := link?_forgetWaiter r.session
    exact scribes_spared h (fun other hl => ⟨other, link.trans hl, .refl other⟩) link.trans
      (isUp_forgetWaiter r.session) (List.append_nil _).symm (List.forall_mem_nil _) (Nat.le_refl _) (Nat.le_refl _)
  | quit => exact scribes_quit h

end Robot

end RobotDriver
