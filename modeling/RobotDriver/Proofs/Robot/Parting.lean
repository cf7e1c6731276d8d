import RobotDriver.Proofs.Outbox.Draining
import RobotDriver.Proofs.Robot.Queue
import RobotDriver.Proofs.Robot.Sparing
import RobotDriver.Robot.Move

/-!
# The last words of a connection

A connection that is closed on request is to take two last commands to the robot. Whether it has is read from the
journal: `since` cuts it at the point where the connection has begun or where its closing has, and `Parted` says what
is then true of a connection that ends by two confirmations. `Parting` is what a driver keeps for that on its way:
of the connection that is there, the writer and the journal tell the same story (`Link.Serves`), and while it is being
closed, the two commands are the last that its queue has accepted (`Departs`).
-/

namespace RobotDriver

namespace Deed

/-- The connection has begun. -/
def begins (g : Nat) : Deed → Bool
  | noted (.connected _ n) => n == g
  | _ => false

/-- The driver begins to close the connection. -/
def parts (g : Nat) : Deed → Bool
  | noted (.disconnecting n) => n == g
  | _ => false

/-- The robot accepts a roll or a front light. -/
def confirms (g : Nat) : Deed → Bool
  | answered n entry packet =>
    n == g && Robot.isEcho entry.command && (Response.decode entry.command.kind packet).status.isOk
  | _ => false

/-- What one call to a channel took. -/
def bytes : Deed → Bytes
  | wrote _ bytes => bytes
  | _ => []

/-- The deed is no answer and marks no point in the life of a connection. -/
def isPlain : Deed → Bool
  | answered _ _ _ => false
  | noted n => !n.isMilestone
  | _ => true

/-- The deed is the doing of the writer of a connection. -/
def isWriters (g : Nat) : Deed → Bool
  | wrote _ _ | noted (.unencodable _ _) => true
  | registered n _ => n == g
  | _ => false

end Deed

/-- What happens up to the first deed of a kind. -/
def upTo (p : Deed → Bool) (journal : List Deed) : List Deed :=
  journal.takeWhile fun d => !p d

/-- What happens after the first deed of a kind. -/
def since (p : Deed → Bool) (journal : List Deed) : List Deed :=
  (journal.dropWhile fun d => !p d).tail

/-- The bytes that channels took. -/
def wire (ds : List Deed) : Bytes :=
  ds.flatMap Deed.bytes

/-- The items registered on a connection. -/
def registeredItems (g : Nat) (ds : List Deed) : List Outbox.Item :=
  (registrations g ds).map fun entry => ⟨entry.command, entry.system⟩

/-- The commands of a connection that still await their answers. -/
def unanswered (g : Nat) (ds : List Deed) : List InFlight.Entry :=
  (registrations g ds).drop (removals g ds).length

mutual

/-- The step gives no channel a sink that fails or takes nothing. -/
def Step.Willing : Step → Prop
  | changeSink sink | changeNextSink sink => sink.Willing
  | group steps => AllWilling steps
  | _ => True

def Step.AllWilling : List Step → Prop
  | [] => True
  | step :: steps => step.Willing ∧ AllWilling steps

end

/-- The move gives no channel a sink that fails or takes nothing. -/
def Move.Willing : Move → Prop
  | perform step => step.Willing
  | _ => True

/-- The two last commands of a connection. -/
def finals : List Outbox.Item :=
  [⟨Robot.finalStop, true⟩, ⟨Robot.finalDark, true⟩]

theorem encodable_finals : Outbox.encodable finals = finals := by
  decide +kernel

/-! ## Cutting a journal -/

section Cutting

variable {p : Deed → Bool} {journal : List Deed} {d : Deed}

theorem since_cons_of_pos (h : p d = true) (ds : List Deed) : since p (d :: ds) = ds := by
  simp [since, h]

theorem since_cons_of_neg (h : p d = false) (ds : List Deed) : since p (d :: ds) = since p ds := by
  simp [since, h]

/-- A journal that has been cut is as long behind the cut as it grows. -/
theorem since_append (h : ∃ d ∈ journal, p d = true) (ds : List Deed) :
    since p (journal ++ ds) = since p journal ++ ds := by
  induction journal with
  | nil => simp at h
  | cons d journal ih =>
    cases here : p d with
    | true => rw [List.cons_append, since_cons_of_pos here, since_cons_of_pos here]
    | false =>
      rw [List.cons_append, since_cons_of_neg here, since_cons_of_neg here]
      exact ih (by simpa [here] using h)

theorem since_concat (none : ∀ d ∈ journal, p d = false) (here : p d = true) : since p (journal ++ [d]) = [] := by
  induction journal with
  | nil => exact since_cons_of_pos here []
  | cons e journal ih =>
    rw [List.cons_append, since_cons_of_neg (none e List.mem_cons_self)]
    exact ih fun d hd => none d (List.mem_cons_of_mem e hd)

theorem exists_of_since {e : Deed} (h : e ∈ since p journal) : ∃ d ∈ journal, p d = true := by
  induction journal with
  | nil => cases h
  | cons d journal ih =>
    cases here : p d with
    | true => exact ⟨d, List.mem_cons_self, here⟩
    | false =>
      rw [since_cons_of_neg here] at h
      obtain ⟨other, hd, pd⟩ := ih h
      exact ⟨other, List.mem_cons_of_mem d hd, pd⟩

/-- The two parts of a journal. -/
theorem upTo_append_since (h : ∃ d ∈ journal, p d = true) :
    ∃ d, p d = true ∧ journal = upTo p journal ++ d :: since p journal := by
  induction journal with
  | nil => simp at h
  | cons d journal ih =>
    cases here : p d with
    | true => exact ⟨d, here, by simp [upTo, since, here]⟩
    | false =>
      obtain ⟨e, pe, cut⟩ := ih (by simpa [here] using h)
      refine ⟨e, pe, ?_⟩
      rw [since_cons_of_neg here, upTo, List.takeWhile_cons_of_pos (by simp [here]), List.cons_append]
      exact congrArg (d :: ·) cut

end Cutting

/-! ## What deeds contribute -/

@[simp]
theorem wire_append (xs ys : List Deed) : wire (xs ++ ys) = wire xs ++ wire ys :=
  List.flatMap_append

@[simp]
theorem registeredItems_append (g : Nat) (xs ys : List Deed) :
    registeredItems g (xs ++ ys) = registeredItems g xs ++ registeredItems g ys := by
  simp [registeredItems, registrations_append]

namespace Deed

theorem begins_of_isPlain {d : Deed} (h : d.isPlain = true) (g : Nat) : d.begins g = false := by
  cases d with
  | noted n => cases n <;> first | rfl | cases h
  | _ => rfl

theorem parts_of_isPlain {d : Deed} (h : d.isPlain = true) (g : Nat) : d.parts g = false := by
  cases d with
  | noted n => cases n <;> first | rfl | cases h
  | _ => rfl

theorem confirms_of_isPlain {d : Deed} (h : d.isPlain = true) (g : Nat) : d.confirms g = false := by
  cases d <;> first | rfl | cases h

theorem isPlain_of_isWriters {d : Deed} {g : Nat} (h : d.isWriters g = true) : d.isPlain = true := by
  cases d with
  | noted n => cases n <;> first | rfl | cases h
  | answered => cases h
  | _ => rfl

theorem isPlain_of_isMinor {d : Deed} (h : d.isMinor = true) : d.isPlain = true := by
  cases d <;> first | rfl | exact h

end Deed

section Minor

variable {ds : List Deed} (minor : ∀ d ∈ ds, d.isMinor = true)
include minor

theorem wire_of_isMinor : wire ds = [] := by
  refine List.flatMap_eq_nil_iff.2 fun d hd => ?_
  have small := minor d hd
  cases d <;> first | rfl | cases small

theorem registrations_of_isMinor (g : Nat) : registrations g ds = [] := by
  refine List.filterMap_eq_nil_iff.2 fun d hd => ?_
  have small := minor d hd
  cases d <;> first | rfl | cases small

theorem registeredItems_of_isMinor (g : Nat) : registeredItems g ds = [] := by
  rw [registeredItems, registrations_of_isMinor minor]
  rfl

end Minor

theorem countP_confirms_of_isPlain {ds : List Deed} (plain : ∀ d ∈ ds, d.isPlain = true) (g : Nat) :
    ds.countP (Deed.confirms g) = 0 :=
  List.countP_eq_zero.2 fun d hd => by simp [Deed.confirms_of_isPlain (plain d hd)]

/-! ## The connection that is there -/

namespace Link

/-- The writer of a connection has done what the journal tells since the connection began. If the channels are willing,
which is what `w` stands for, then it waits for nothing but items. -/
structure Serves (w : Prop) (link : Link) (life : List Deed) (shift : Outbox.Shift) : Prop where
  writer : shift.writer = link.writer
  kept : shift.Kept
  live : link.writer.activity.pending ≠ none
  attended : link.writer.outbox.attended = true
  wire : RobotDriver.wire life = Outbox.written shift.emissions
  registered : registeredItems link.generation life = (Outbox.batches shift.emissions).flatten
  channel : ∀ c bytes, .wrote c bytes ∈ life → c = link.channel
  waits : w → link.writer.sink.Willing ∧ link.writer.activity = .waiting

/-- A connection that is being closed has accepted the two last commands and nothing after them; `owed` is the number
of confirmations that are still to be counted, and `earlier` is what happened before the closing began. -/
structure Departs (w : Prop) (link : Link) (echoed : Bool) (owed : Nat) (journal : List Deed) (shift : Outbox.Shift)
    (accepted : List Outbox.Item) (earlier : List Deed) : Prop where
  begun : ∃ d ∈ journal, d.begins link.generation = true
  parted : ∃ d ∈ journal, d.parts link.generation = true
  serves : link.Serves w (since (Deed.begins link.generation) journal) shift
  cut : ∃ n, since (Deed.begins link.generation) journal =
    earlier ++ .noted n :: since (Deed.parts link.generation) journal
  gate : link.writer.outbox.accepting = false
  pair : shift.accepted = accepted ++ finals
  items : registeredItems link.generation earlier <+: Outbox.encodable accepted
  bytes : wire earlier <+: Outbox.packets (registeredItems link.generation earlier)
  /-- A writer that has written something since has taken all there is, or waits for the channel. -/
  rest : link.writer.activity.pending = some [] →
    registeredItems link.generation (since (Deed.parts link.generation) journal) = [] ∨ link.writer.outbox.queue = []
  count : (since (Deed.parts link.generation) journal).countP (Deed.confirms link.generation) =
    (if echoed then 1 else 0) + owed

variable {w : Prop} {link next : Link} {life ds : List Deed} {shift : Outbox.Shift}

/-- What is neither written nor registered does not concern the writer. -/
theorem Serves.extend (h : link.Serves w life shift) (bytes : RobotDriver.wire ds = [])
    (items : registeredItems link.generation ds = []) (wrote : ∀ c bytes, .wrote c bytes ∉ ds) :
    link.Serves w (life ++ ds) shift := by
  refine ⟨h.writer, h.kept, h.live, h.attended, ?_, ?_, fun c bytes there => ?_, h.waits⟩
  · rw [wire_append, bytes, List.append_nil]
    exact h.wire
  · rw [registeredItems_append, items, List.append_nil]
    exact h.registered
  · exact h.channel c bytes ((List.mem_append.1 there).resolve_right (wrote c bytes))

theorem Serves.spared (h : link.Serves w life shift) (spared : link.Spared next)
    (minor : ∀ d ∈ ds, d.isMinor = true) :
    ∃ later entered, next.Serves w (life ++ ds) later ∧ later.accepted = shift.accepted ++ entered ∧
      next.writer.outbox.queue = link.writer.outbox.queue ++ entered ∧
      (link.writer.outbox.accepting = false → entered = []) := by
  obtain ⟨items, writer⟩ := spared.writer
  obtain ⟨later, entered, same, emissions, accepted, queue, closed, kept⟩ := shift.after_offers items
  rw [h.writer] at same queue closed
  have served : next.Serves w life later := by
    refine ⟨same.trans writer.symm, kept h.kept, ?_, ?_, ?_, ?_, ?_, ?_⟩
    · rw [writer]
      exact h.live
    · rw [writer]
      exact (Outbox.foldl_offer_attended items _).trans h.attended
    · rw [emissions]
      exact h.wire
    · rw [emissions, spared.generation]
      exact h.registered
    · rw [spared.channel]
      exact h.channel
    · rw [writer]
      exact h.waits
  have extended := served.extend (wire_of_isMinor minor) (registeredItems_of_isMinor minor _) fun c bytes wrote => by
    cases minor _ wrote
  refine ⟨later, entered, extended, accepted, ?_, closed⟩
  rw [← queue, same, writer]

/-- The deeds tell what the writer of a connection has done. -/
structure Tells (link : Link) (es : List Outbox.Emission) (ds : List Deed) : Prop where
  own : ∀ d ∈ ds, d.isWriters link.generation = true
  wire : RobotDriver.wire ds = Outbox.written es
  items : registeredItems link.generation ds = (Outbox.batches es).flatten
  channel : ∀ c bytes, .wrote c bytes ∈ ds → c = link.channel

theorem Tells.plain {es : List Outbox.Emission} (h : link.Tells es ds) : ∀ d ∈ ds, d.isPlain = true :=
  fun d hd => Deed.isPlain_of_isWriters (h.own d hd)

theorem Tells.append {es fs : List Outbox.Emission} {gs : List Deed} (h : link.Tells es ds) (k : link.Tells fs gs) :
    link.Tells (es ++ fs) (ds ++ gs) := by
  refine ⟨fun d hd => ?_, ?_, ?_, fun c bytes wrote => ?_⟩
  · exact (List.mem_append.1 hd).elim (h.own d) (k.own d)
  · rw [wire_append, Outbox.written_append, h.wire, k.wire]
  · rw [registeredItems_append, Outbox.batches_append, List.flatten_append, h.items, k.items]
  · exact (List.mem_append.1 wrote).elim (h.channel c bytes) (k.channel c bytes)

/-- A writer that has worked and not ended goes on serving. -/
theorem Serves.work (h : link.Serves w life shift) (live : (link.writer.work false false).1.activity.pending ≠ none)
    (tells : link.Tells (link.writer.work false false).2 ds) :
    { link with writer := (link.writer.work false false).1 }.Serves w (life ++ ds)
      (shift.move (.work false false)) := by
  have moved : shift.move (.work false false) = shift.act (link.writer.work false false) := by
    rw [Outbox.Shift.move, h.writer]
  have kept := h.kept.move (.work false false)
  rw [moved] at kept ⊢
  refine ⟨rfl, kept, live, ((Outbox.gate_work link.writer).2 live).trans h.attended, ?_, ?_, fun c bytes wrote => ?_,
    fun will => ?_⟩
  · rw [wire_append, h.wire, tells.wire, ← Outbox.written_append]
    rfl
  · rw [registeredItems_append, h.registered, tells.items, ← List.flatten_append, ← Outbox.batches_append]
    rfl
  · exact (List.mem_append.1 wrote).elim (h.channel c bytes) (tells.channel c bytes)
  · obtain ⟨sink, waiting⟩ := h.waits will
    exact Outbox.waiting_work link.writer sink waiting

theorem Serves.changeSink (h : link.Serves w life shift) {sink : Sink} (willing : w → sink.Willing) :
    { link with writer := { link.writer with sink } }.Serves w life
      { shift with writer := { shift.writer with sink } } :=
  ⟨by rw [h.writer], h.kept.change sink, h.live, h.attended, h.wire, h.registered, h.channel,
    fun will => ⟨willing will, (h.waits will).2⟩⟩

/-- A connection that is being closed stays what it is when the journal grows. -/
theorem Departs.grow {echoed echoed' : Bool} {owed owed' : Nat} {journal earlier : List Deed}
    {accepted : List Outbox.Item} {later : Outbox.Shift}
    (h : link.Departs w echoed owed journal shift accepted earlier)
    (generation : next.generation = link.generation)
    (serves : next.Serves w (since (Deed.begins link.generation) journal ++ ds) later)
    (same : later.accepted = shift.accepted) (gate : next.writer.outbox.accepting = false)
    (rest : next.writer.activity.pending = some [] →
      registeredItems link.generation (since (Deed.parts link.generation) journal ++ ds) = [] ∨
        next.writer.outbox.queue = [])
    (count : (since (Deed.parts link.generation) journal ++ ds).countP (Deed.confirms link.generation) =
      (if echoed' then 1 else 0) + owed') :
    next.Departs w echoed' owed' (journal ++ ds) later accepted earlier := by
  obtain ⟨begun, parted, -, ⟨n, cut⟩, -, pair, items, bytes, -, -⟩ := h
  simp only [← generation] at begun parted cut items bytes serves rest count
  have grown {p : Deed → Bool} (there : ∃ d ∈ journal, p d = true) : ∃ d ∈ journal ++ ds, p d = true := by
    obtain ⟨d, hd, pd⟩ := there
    exact ⟨d, List.mem_append_left ds hd, pd⟩
  rw [← since_append begun] at serves
  rw [← since_append parted] at rest count
  refine ⟨grown begun, grown parted, serves, ⟨n, ?_⟩, gate, same.trans pair, items, bytes, rest, count⟩
  rw [since_append begun, since_append parted, cut, List.append_assoc, List.cons_append]

end Link

/-- What a session and its journal say of the connection that is there. -/
def Session.Served (w : Prop) (owed : Nat) (journal : List Deed) : Session → Prop
  | down => True
  | up link =>
    (∃ d ∈ journal, d.begins link.generation = true) ∧ (∀ d ∈ journal, d.parts link.generation = false) ∧
      ∃ shift, link.Serves w (since (Deed.begins link.generation) journal) shift
  | closing link closure =>
    ∃ shift accepted earlier, link.Departs w closure.echoed owed journal shift accepted earlier

section Served

variable {w : Prop} {s t : Session} {link : Link} {owed : Nat} {journal ds : List Deed}

theorem Session.Served.spared (h : s.Served w owed journal) (spared : s.Spared t) (minor : ∀ d ∈ ds, d.isMinor = true) :
    t.Served w owed (journal ++ ds) := by
  have plain (d : Deed) (hd : d ∈ ds) : d.isPlain = true := Deed.isPlain_of_isMinor (minor d hd)
  cases spared with
  | down => trivial
  | @up link next spared =>
    obtain ⟨⟨d, hd, begun⟩, apart, shift, serves⟩ := h
    obtain ⟨later, entered, serves, -⟩ := serves.spared spared minor
    rw [← since_append ⟨d, hd, begun⟩, ← spared.generation] at serves
    rw [← spared.generation] at begun apart
    refine ⟨⟨d, List.mem_append_left ds hd, begun⟩, fun e he => ?_, later, serves⟩
    rcases List.mem_append.1 he with he | he
    · exact apart e he
    · exact Deed.parts_of_isPlain (plain e he) _
  | @closing link next c c' spared echoed =>
    obtain ⟨shift, accepted, earlier, departs⟩ := h
    obtain ⟨later, entered, serves, same, -, closed⟩ := departs.serves.spared spared minor
    rw [closed departs.gate, List.append_nil] at same
    obtain ⟨offers, writer⟩ := spared.writer
    rw [Outbox.foldl_offer_of_closed offers departs.gate] at writer
    refine ⟨later, accepted, earlier, departs.grow spared.generation serves same ?_ (fun rests => ?_) ?_⟩
    · rw [writer]
      exact departs.gate
    · rw [registeredItems_append, registeredItems_of_isMinor minor, List.append_nil]
      rw [writer] at rests ⊢
      exact departs.rest rests
    · rw [List.countP_append, countP_confirms_of_isPlain plain, echoed]
      exact departs.count

theorem Session.Served.changeSink (h : s.Served w owed journal) (hl : s.link? = some link) {sink : Sink}
    (willing : w → sink.Willing) :
    (s.mapLink fun _ => { link with writer := { link.writer with sink } }).Served w owed journal := by
  obtain rfl | ⟨closure, rfl⟩ := Session.eq_of_link? hl
  · obtain ⟨begun, apart, shift, serves⟩ := h
    exact ⟨begun, apart, _, serves.changeSink willing⟩
  · obtain ⟨shift, accepted, earlier, departs⟩ := h
    exact ⟨_, accepted, earlier, { departs with serves := departs.serves.changeSink willing }⟩

/-- A writer that has worked and not failed. -/
theorem Session.Served.work (h : s.Served w 0 journal) (hl : s.link? = some link)
    (going : ∀ fault, (link.writer.work false false).1.activity ≠ .ended (some fault))
    (tells : link.Tells (link.writer.work false false).2 ds) :
    (s.mapLink fun _ => { link with writer := (link.writer.work false false).1 }).Served w 0 (journal ++ ds) := by
  have live (before : link.writer.activity.pending ≠ none) :
      (link.writer.work false false).1.activity.pending ≠ none :=
    Outbox.live_work before going
  obtain rfl | ⟨closure, rfl⟩ := Session.eq_of_link? hl
  · obtain ⟨⟨d, hd, begun⟩, apart, shift, serves⟩ := h
    refine ⟨⟨d, List.mem_append_left ds hd, begun⟩, fun e he => ?_, shift.move (.work false false), ?_⟩
    · rcases List.mem_append.1 he with he | he
      · exact apart e he
      · exact Deed.parts_of_isPlain (tells.plain e he) _
    · rw [since_append ⟨d, hd, begun⟩]
      exact serves.work (live serves.live) tells
  · obtain ⟨shift, accepted, earlier, departs⟩ := h
    have serves := departs.serves
    refine ⟨shift.move (.work false false), accepted, earlier,
      departs.grow rfl (serves.work (live serves.live) tells) rfl ?_ (fun rests => .inr ?_) ?_⟩
    · exact (Outbox.gate_work link.writer).1.trans departs.gate
    · rcases Outbox.rest_work link.writer serves.live with ⟨fault, failed⟩ | ⟨b, bs, blocked⟩ | ⟨-, empty⟩
      · exact absurd failed (going fault)
      · rw [blocked] at rests
        cases rests
      · exact empty
    · rw [List.countP_append, countP_confirms_of_isPlain tells.plain]
      exact departs.count

end Served

/-- What is true of a connection when it has been closed: if the robot has confirmed that twice, and the writer has
registered something since the closing began and nothing is left to be written, the two last commands are written. If
the channels are willing, nothing is left. -/
def Parted (w : Prop) (g : Nat) (journal : List Deed) : Prop :=
  (∀ grace, journal.getLast? ≠ some (.noted (.shutdownUnconfirmed g grace))) →
    (since (Deed.parts g) journal).countP (Deed.confirms g) = 2 ∧
    (∃ channel, ∀ c bytes, .wrote c bytes ∈ since (Deed.begins g) journal → c = channel) ∧
    wire (since (Deed.begins g) journal) <+: Outbox.packets (registeredItems g (since (Deed.begins g) journal)) ∧
    (w →
      wire (since (Deed.begins g) journal) = Outbox.packets (registeredItems g (since (Deed.begins g) journal))) ∧
    (registeredItems g (since (Deed.parts g) journal) ≠ [] →
      wire (since (Deed.begins g) journal) = Outbox.packets (registeredItems g (since (Deed.begins g) journal)) →
      Outbox.packets finals <:+ wire (since (Deed.parts g) journal))

theorem suffix_of_append_eq {α : Type} {a b c d : List α} (same : a ++ b = c ++ d) (short : a <+: c) : d <:+ b := by
  obtain ⟨rest, rfl⟩ := short
  rw [List.append_assoc, List.append_cancel_left_eq] at same
  exact ⟨rest, same.symm⟩

section Ends

variable {w : Prop} {link : Link} {echoed : Bool} {owed : Nat} {journal earlier : List Deed}
  {shift : Outbox.Shift} {accepted : List Outbox.Item}

/-- A writer that has registered something since and has written all that it has registered has taken the whole
queue. -/
theorem Link.Departs.written (h : link.Departs w echoed owed journal shift accepted earlier)
    (later : registeredItems link.generation (since (Deed.parts link.generation) journal) ≠ [])
    (all : wire (since (Deed.begins link.generation) journal) =
      Outbox.packets (registeredItems link.generation (since (Deed.begins link.generation) journal))) :
    Outbox.packets finals <:+ wire (since (Deed.parts link.generation) journal) := by
  have serves := h.serves
  obtain ⟨rest, live⟩ := Option.ne_none_iff_exists'.1 serves.live
  have live' : shift.writer.activity.pending = some rest := by rw [serves.writer, live]
  have pending := serves.kept.pending rest live'
  have queued := serves.kept.queued rest live'
  rw [← serves.wire, ← serves.registered, all] at pending
  rw [← serves.registered, serves.writer, h.pair, Outbox.encodable_append, encodable_finals] at queued
  obtain rfl : rest = [] := List.append_right_eq_self.1 pending
  rw [(h.rest live).resolve_left later] at queued
  have items : registeredItems link.generation (since (Deed.begins link.generation) journal) =
      Outbox.encodable accepted ++ finals := (List.append_nil _).symm.trans queued
  obtain ⟨n, cut⟩ := h.cut
  have both : wire earlier ++ wire (since (Deed.parts link.generation) journal) =
      Outbox.packets (Outbox.encodable accepted) ++ Outbox.packets finals := by
    rw [← Outbox.packets_append, ← items, ← all, cut, wire_append]
    rfl
  refine suffix_of_append_eq both (h.bytes.trans ?_)
  obtain ⟨more, split⟩ := h.items
  rw [← split, Outbox.packets_append]
  exact List.prefix_append _ _

/-- The second confirmation that is counted ends the connection as it should. -/
theorem Link.Departs.ends (h : link.Departs w true 1 journal shift accepted earlier) :
    Parted w link.generation journal := by
  intro _
  have serves := h.serves
  obtain ⟨rest, live⟩ := Option.ne_none_iff_exists'.1 serves.live
  have pending := serves.kept.pending rest (by rw [serves.writer, live])
  rw [← serves.wire, ← serves.registered] at pending
  refine ⟨h.count, ⟨link.channel, serves.channel⟩, ⟨rest, pending⟩, fun will => ?_, h.written⟩
  rw [(serves.waits will).2] at live
  cases live
  rw [← pending, List.append_nil]

end Ends

end RobotDriver
