import RobotDriver.Proofs.Robot.Confirmed
import RobotDriver.Proofs.Robot.Origins

/-!
# Which command a response is taken to answer

A robot that answers in turn says with its nth response what has become of the nth command. A response is matched to the
oldest command that is left in the queue, which is the nth as long as none has been given up. `attributed_after` says
so of every run, and how far off the match is when commands have been given up. `attributed_late` is a run in which
one has been: its answer comes late, and is taken for that to the next command.
-/

namespace RobotDriver

/-- The packet is a response by its class. -/
def Packet.isResponse (p : Packet) : Bool :=
  match p.header.packetClass with
  | .ok .response => true
  | _ => false

theorem Packet.isResponse_iff {p : Packet} : p.isResponse = true ↔ p.IsResponse := by
  unfold isResponse IsResponse
  split
  · next response => simp [response]
  · next other => simpa using other

/-- The response that arrives on a connection. -/
def Deed.response? (g : Nat) : Deed → Option Packet
  | received n p => if n = g ∧ p.isResponse = true then some p else none
  | _ => none

/-- The responses that have arrived on a connection. -/
def responses (g : Nat) (journal : List Deed) : List Packet :=
  journal.filterMap (Deed.response? g)

/-- The commands of a connection that have been given up. -/
def expirations (g : Nat) (journal : List Deed) : List InFlight.Entry :=
  journal.filterMap (Deed.expired? g)

/-- The robot answers each command of a connection at most once, and only when it has been transmitted. -/
def AnswersInTurn (g : Nat) (journal : List Deed) : Prop :=
  ∀ past, past <+: journal → (responses g past).length ≤ (registrations g past).length

theorem answersInTurn_iff {g : Nat} {journal : List Deed} : AnswersInTurn g journal ↔
    ∀ n < journal.length + 1, (responses g (journal.take n)).length ≤ (registrations g (journal.take n)).length := by
  constructor
  · exact fun all n _ => all _ (List.take_prefix n journal)
  · intro all past there
    rw [List.prefix_iff_eq_take.1 there]
    exact all _ (Nat.lt_succ_of_le there.length_le)

instance (g : Nat) (journal : List Deed) : Decidable (AnswersInTurn g journal) :=
  decidable_of_iff _ answersInTurn_iff.symm

theorem responses_append (g : Nat) (xs ys : List Deed) : responses g (xs ++ ys) = responses g xs ++ responses g ys :=
  List.filterMap_append

theorem expirations_append (g : Nat) (xs ys : List Deed) :
    expirations g (xs ++ ys) = expirations g xs ++ expirations g ys :=
  List.filterMap_append

theorem AnswersInTurn.before {g : Nat} {journal later : List Deed} (h : AnswersInTurn g (journal ++ later)) :
    AnswersInTurn g journal :=
  fun past there => h past (there.trans (List.prefix_append _ _))

/-! ## The pace of responses -/

namespace Deed

/-- A response arrives on the connection, or a command leaves its queue. -/
def isPacing (g : Nat) (d : Deed) : Bool :=
  (d.response? g).isSome || (d.removed? g).isSome

theorem isPacing_of_isSilent {d : Deed} (h : d.isSilent = true) (g : Nat) : d.isPacing g = false := by
  cases d <;> first | rfl | cases h

theorem counts_of_isPacing {d : Deed} {g : Nat} (h : d.isPacing g = false) :
    d.response? g = none ∧ d.removed? g = none ∧ d.expired? g = none := by
  obtain ⟨response, removed⟩ := Bool.or_eq_false_iff.1 h
  rw [Option.isSome_eq_false_iff, Option.isNone_iff_eq_none] at response removed
  exact ⟨response, removed, (Option.or_eq_none_iff.1 removed).2⟩

end Deed

theorem Telling.isPacing {report : Report} {hearers : List Nat} {ds : List Deed} (h : Telling report hearers ds)
    (g : Nat) : ∀ d ∈ ds, d.isPacing g = false := by
  intro d hd
  rcases h.mem hd with rfl | silent
  · rfl
  · exact Deed.isPacing_of_isSilent silent g

theorem Failure.isPacing {n : Nat} {d : Deed} {cause : TransportError} (h : Failure n d cause) (g : Nat) :
    d.isPacing g = false := by
  cases h <;> rfl

/-- What a turn does to the number `n` of responses of a connection, to that of the commands taken out of its queue,
`k`, and to that of the commands given up, `e`. -/
inductive PaceTurn (journal ds : List Deed) (g : Nat) : (n k e : Nat) → Prop where
  | idle : PaceTurn journal ds g 0 0 0
  | answered : PaceTurn journal ds g 1 1 0
  | expired : PaceTurn journal ds g 0 1 1
  /-- A response arrives when no command is left. -/
  | unmatched (none : registrations g (journal ++ ds) = removals g (journal ++ ds)) : PaceTurn journal ds g 1 0 0

theorem counts_idle {ds : List Deed} {g : Nat} (h : ∀ d ∈ ds, d.isPacing g = false) :
    responses g ds = [] ∧ removals g ds = [] ∧ expirations g ds = [] := by
  refine ⟨?_, ?_, ?_⟩ <;> refine List.filterMap_eq_nil_iff.2 fun d hd => ?_
  · exact (Deed.counts_of_isPacing (h d hd)).1
  · exact (Deed.counts_of_isPacing (h d hd)).2.1
  · exact (Deed.counts_of_isPacing (h d hd)).2.2

theorem paceTurn_idle {ds : List Deed} {g : Nat} (h : ∀ d ∈ ds, d.isPacing g = false) (journal : List Deed) :
    PaceTurn journal ds g (responses g ds).length (removals g ds).length (expirations g ds).length := by
  obtain ⟨responses, removals, expirations⟩ := counts_idle h
  rw [responses, removals, expirations]
  exact .idle

theorem response?_received {g : Nat} {p : Packet} (response : p.IsResponse) :
    (Deed.received g p).response? g = some p :=
  if_pos ⟨rfl, Packet.isResponse_iff.2 response⟩

theorem paceTurn_unmatched {journal : List Deed} {g : Nat} (queue : registrations g journal = removals g journal)
    {p : Packet} (response : p.IsResponse) {status : Status} {report : Report} {hearers : List Nat} {told : List Deed}
    (telling : Telling report hearers told) :
    let ds := .received g p :: .noted (.responseUnmatched status) :: told
    PaceTurn journal ds g (responses g ds).length (removals g ds).length (expirations g ds).length := by
  intro ds
  obtain ⟨noResponses, noRemovals, noExpirations⟩ := counts_idle (telling.isPacing g)
  have first : responses g ds = [p] := by
    rw [responses, List.filterMap_cons_some (response?_received response)]
    exact congrArg (List.cons p) noResponses
  have kept : removals g ds = [] := noRemovals
  have expired : expirations g ds = [] := noExpirations
  have quiet : ∀ d ∈ ds, d.isQueueing = false :=
    List.forall_mem_cons.2 ⟨rfl, List.forall_mem_cons.2 ⟨rfl, telling.isQueueing⟩⟩
  rw [first, kept, expired]
  refine .unmatched ?_
  rw [registrations_append_of_isQueueing quiet, removals_append_of_isQueueing quiet, queue]

theorem Turn.pace {s t : Outline} {journal ds : List Deed} (turn : Turn s ds t) (queued : Queued journal s) (g : Nat) :
    PaceTurn journal ds g (responses g ds).length (removals g ds).length (expirations g ds).length := by
  have one {d : Deed} (dull : d.isPacing g = false) : ∀ e ∈ [d], e.isPacing g = false :=
    List.forall_mem_singleton.2 dull
  cases turn with
  | calm calm => exact paceTurn_idle (one (Deed.isPacing_of_isSilent (Deed.isSilent_of_isCalm calm) g)) _
  | aside aside told => exact paceTurn_idle (told.isPacing g) _
  | surplus => exact paceTurn_idle (List.forall_mem_nil _) _
  | connected idle address told | closed closing told =>
    exact paceTurn_idle (List.forall_mem_cons.2 ⟨rfl, told.isPacing g⟩) _
  | lost live failed told | broken closing failed told =>
    exact paceTurn_idle
      (List.forall_mem_cons.2 ⟨failed.isPacing g, List.forall_mem_cons.2 ⟨rfl, told.isPacing g⟩⟩) _
  | dropped =>
    refine paceTurn_idle (fun d hd => ?_) _
    obtain ⟨n, -, rfl⟩ := List.mem_map.1 hd
    rfl
  | closing | took | registered => exact paceTurn_idle (one rfl) _
  | @passed n p other =>
    refine paceTurn_idle (one ?_) _
    have none : p.isResponse = false := Bool.eq_false_iff.2 fun response => other (Packet.isResponse_iff.1 response)
    simp [Deed.isPacing, Deed.response?, Deed.removed?, Deed.answered?, Deed.expired?, none]
  | paid first told => exact paceTurn_idle (told.isPacing g) _
  | @answered m p entry rest here response oldest =>
    by_cases own : m = g
    · subst own
      have counts : PaceTurn journal [.received m p, .answered m entry p] m 1 1 0 := .answered
      simpa [responses, removals, expirations, List.filterMap_cons, Deed.response?, Deed.removed?, Deed.answered?,
        Deed.expired?, Packet.isResponse_iff.2 response] using counts
    · refine paceTurn_idle ?_ _
      simp [Deed.isPacing, Deed.response?, Deed.removed?, Deed.answered?, Deed.expired?, own]
  | @unmatched m p hearers ds here response none told =>
    by_cases own : m = g
    · subst own
      have queue := queued.queue m here
      rw [none, List.append_nil] at queue
      exact paceTurn_unmatched queue response told
    · refine paceTurn_idle (List.forall_mem_cons.2 ⟨?_, List.forall_mem_cons.2 ⟨rfl, told.isPacing g⟩⟩) _
      simp [Deed.isPacing, Deed.response?, Deed.removed?, Deed.answered?, Deed.expired?, own]
  | @expired m entry rest here oldest =>
    by_cases own : m = g
    · subst own
      have counts : PaceTurn journal [.expired m entry] m 0 1 1 := .expired
      simpa [responses, removals, expirations, List.filterMap_cons, Deed.response?, Deed.removed?, Deed.answered?,
        Deed.expired?] using counts
    · refine paceTurn_idle (one ?_) _
      simp [Deed.isPacing, Deed.response?, Deed.removed?, Deed.answered?, Deed.expired?, own]

/-- If the robot answers in turn, then no fewer commands have been taken out of the queue than responses have come, and
no more than that but for those that have been given up. -/
theorem Chronicle.pace {journal : List Deed} {s : Outline} (h : Chronicle journal s) {g : Nat}
    (inTurn : AnswersInTurn g journal) : (responses g journal).length ≤ (removals g journal).length ∧
      (removals g journal).length ≤ (responses g journal).length + (expirations g journal).length := by
  induction h with
  | start => exact ⟨Nat.le_refl 0, Nat.zero_le _⟩
  | @next journal ds s t earlier _ turn ih =>
    obtain ⟨early, late⟩ := ih inTurn.before
    have whole := inTurn _ (List.prefix_refl _)
    have counts := turn.pace earlier.queued g
    rw [responses_append, List.length_append] at whole ⊢
    rw [removals_append, List.length_append, expirations_append, List.length_append]
    generalize (responses g ds).length = n at counts whole ⊢
    generalize (expirations g ds).length = e at counts ⊢
    generalize removed : (removals g ds).length = k at counts ⊢
    cases counts with
    | idle | answered | expired => omega
    | unmatched none =>
      rw [none, removals_append, List.length_append, removed] at whole
      omega

/-! ## Runs -/

theorem Telling.not_mem_received {report : Report} {hearers : List Nat} {ds : List Deed} (h : Telling report hearers ds)
    (g : Nat) (p : Packet) : .received g p ∉ ds := by
  intro there
  rcases h.mem there with same | silent
  · cases same
  · cases silent

/-- A packet comes first in its turn. -/
theorem Turn.of_received {s t : Outline} {ds : List Deed} (turn : Turn s ds t) {g : Nat} {p : Packet}
    (there : .received g p ∈ ds) : ∃ rest, ds = .received g p :: rest ∧ .received g p ∉ rest := by
  cases turn with
  | calm calm =>
    rw [← List.mem_singleton.1 there] at calm
    cases calm
  | aside _ told | paid _ told => exact absurd there (told.not_mem_received g p)
  | connected _ _ told | closed _ told => exact absurd there (by simp [told.not_mem_received g p])
  | lost _ failed told | broken _ failed told => cases failed <;> simp [told.not_mem_received g p] at there
  | dropped =>
    obtain ⟨n, -, same⟩ := List.mem_map.1 there
    cases same
  | surplus | closing | took | registered | expired => simp at there
  | passed other =>
    cases List.mem_singleton.1 there
    exact ⟨[], rfl, List.not_mem_nil⟩
  | @answered m q entry rest =>
    obtain ⟨rfl, rfl⟩ : m = g ∧ q = p := by simpa [eq_comm] using there
    exact ⟨_, rfl, by simp⟩
  | @unmatched m q hearers ds _ _ _ told =>
    obtain ⟨rfl, rfl⟩ : m = g ∧ q = p := by simpa [told.not_mem_received g p, eq_comm] using there
    exact ⟨_, rfl, by simp [told.not_mem_received m q]⟩

/-- What comes before a packet is itself the journal of a chronicle. -/
theorem Chronicle.until_received {journal before after : List Deed} {s : Outline} {g : Nat} {p : Packet}
    (h : Chronicle journal s) (e : journal = before ++ .received g p :: after) : ∃ t, Chronicle before t := by
  obtain ⟨past, ds, es, t, u, earlier, turn, rfl⟩ := h.origin e
  obtain ⟨rest, first, absent⟩ := turn.of_received (List.mem_append_right ds List.mem_cons_self)
  cases ds with
  | nil => exact ⟨t, by rw [List.append_nil]; exact earlier⟩
  | cons d ds =>
    obtain ⟨-, rfl⟩ := List.cons.inj first
    exact absurd (List.mem_append_right ds List.mem_cons_self) absent

/-- A response and what it is matched to, if it answers the command whose number, from zero on, is that of the responses
before it. -/
structure Attributed (before : List Deed) (g : Nat) (p : Packet) (after : List Deed) : Prop where
  /-- The command that it answers has been transmitted. -/
  transmitted : (responses g before).length < (registrations g before).length
  /-- It is not matched to one before that. -/
  early : (responses g before).length ≤ (removals g before).length
  /-- Nor is it to one behind that, but for the commands that have been given up. -/
  late : (removals g before).length ≤ (responses g before).length + (expirations g before).length
  /-- It is matched to the oldest command that is left. -/
  matched : ∀ entry, (registrations g before)[(removals g before).length]? = some entry →
    ∃ rest, after = .answered g entry p :: rest
  unmatched : (registrations g before)[(removals g before).length]? = none →
    ∃ hearers rest, after = .noted (.responseUnmatched (.ofCode p.header.code)) ::
      .reported (.event (.unmatchedResponse (.ofCode p.header.code))) hearers :: rest

theorem Chronicle.attributed {journal before after : List Deed} {s : Outline} {g : Nat} {p : Packet}
    (h : Chronicle journal s) (inTurn : AnswersInTurn g journal) (e : journal = before ++ .received g p :: after)
    (response : p.IsResponse) (follows : Follows before g p after) : Attributed before g p after := by
  obtain ⟨t, earlier⟩ := h.until_received e
  rw [e] at inTurn
  obtain ⟨early, late⟩ := earlier.pace inTurn.before
  have next := inTurn (before ++ [.received g p]) ⟨after, by simp⟩
  have one : responses g [.received g p] = [p] := by
    rw [responses, List.filterMap_cons_some (response?_received response)]
    rfl
  have none : registrations g [.received g p] = [] := rfl
  rw [responses_append, registrations_append, one, none, List.append_nil, List.length_append,
    List.length_singleton] at next
  refine ⟨next, early, late, fun entry here => ?_, fun absent => ?_⟩
  · cases follows with
    | answered oldest rest after left =>
      rw [left, List.getElem?_append_right (Nat.le_refl _), Nat.sub_self] at here
      obtain rfl : oldest = entry := Option.some.inj here
      exact ⟨after, rfl⟩
    | unmatched hearers after left =>
      rw [left, List.getElem?_eq_none (Nat.le_refl _)] at here
      cases here
  · cases follows with
    | answered oldest rest after left =>
      rw [left, List.getElem?_append_right (Nat.le_refl _), Nat.sub_self] at absent
      cases absent
    | unmatched hearers after left => exact ⟨hearers, after, rfl⟩

namespace Robot

/-- Nothing is given up unless the settings ask for it. -/
theorem expirations_of_patient {address : String} {settings : Settings} {start : Robot}
    (made : make address settings = .ok start) (patient : settings.responseTimeout = none) (moves : List Move)
    (g : Nat) : expirations g (start.after moves).journal = [] := by
  refine List.filterMap_eq_nil_iff.2 fun d hd => ?_
  cases d with
  | expired n entry =>
    obtain ⟨before, after, here⟩ := List.append_of_mem hd
    have strides := strides_after moves start
    obtain ⟨address, rfl⟩ := eq_of_make made
    obtain ⟨q, t, -, -, first, source, -⟩ := strides.source rfl here rfl
    have same : q.settings = settings :=
      first.keeps (P := fun r => r.settings = settings) (fun same passage => passage.fixed.1.trans same) rfl
    cases source with
    | expired hl asked =>
      rw [same, patient] at asked
      cases asked
  | _ => rfl

/-- **Responses are matched to the commands that they answer as long as none has been given up**, in any run with a
robot that answers in turn. Each of them is `Attributed`: the command that it is taken to answer comes as far behind the
one that it answers as commands have been given up on the connection, or less. Unless the settings ask for it none ever
is given up. Only what is matched like that is reported and makes the shadow. -/
theorem attributed_after {address : String} {settings : Settings} {start : Robot}
    (made : make address settings = .ok start) (moves : List Move) :
    let r := start.after moves
    (∀ g, AnswersInTurn g r.journal → ∀ before p after, r.journal = before ++ .received g p :: after → p.IsResponse →
      Attributed before g p after ∧
        (expirations g before = [] → ∃ own rest,
          (registrations g before)[(responses g before).length]? = some own ∧ after = .answered g own p :: rest)) ∧
      (settings.responseTimeout = none → ∀ g, expirations g r.journal = []) ∧
      (∀ before g entry p after, r.journal = before ++ .answered g entry p :: after →
        p.IsResponse ∧ ∃ earlier, before = earlier ++ [.received g p]) ∧
      r.journal.filterMap Deed.verdict? = r.journal.filterMap Deed.due? ∧
      r.shadow = confirmedShadow r.journal := by
  intro r
  have recorded := recorded_after made moves
  refine ⟨fun g inTurn before p after here response => ?_, fun patient => expirations_of_patient made patient moves,
    recorded.answers.answered, recorded.answers.reported, shadow_after made moves⟩
  have follows := recorded.answers.response before g p after here response
  have matched := recorded.chronicle.attributed inTurn here response follows
  refine ⟨matched, fun none => ?_⟩
  have late := matched.late
  rw [none, List.length_nil, Nat.add_zero] at late
  have same : (removals g before).length = (responses g before).length := Nat.le_antisymm late matched.early
  have there := List.getElem?_eq_getElem matched.transmitted
  obtain ⟨rest, follows⟩ := matched.matched _ (by rw [same]; exact there)
  exact ⟨_, rest, there, follows⟩

/-- A driver that gives up answers after a tenth of a second. -/
def impatient : Robot :=
  { System.unused with settings := { responseTimeout := some 100 } }

theorem make_impatient : make "00:06:66:AA:BB:CC" { responseTimeout := some 100 } = .ok impatient :=
  System.eq_ok_of_toOption (by decide +kernel)

/-- A response that can be told from the others by its number. -/
def numbered : Packet :=
  { header := ⟨0xff, 0xff, 0, 9, 1⟩, payload := [], checksum := 0xf5 }

/-- The commands that reset the robot are answered, and a colour is set. -/
def colourSet : List Move :=
  [.perform (.ask .connect), settling, acceptances 5, settling, .perform (.ask (.setRgbLed 1 2 3)), settling]

/-- The response arrives. -/
def numberedArrives : List Move :=
  [.perform (.arrive none [.bytes numbered.toBytes]), settling]

/-- The journal up to the response. -/
def beforeNumbered (journal : List Deed) : List Deed :=
  upTo (· == .received 1 numbered) journal

theorem attributed_after_numberedArrives :
    ∃ start, make "00:06:66:AA:BB:CC" { responseTimeout := some 100 } = .ok start ∧
      let journal := (start.after (colourSet ++ numberedArrives)).journal
      AnswersInTurn 1 journal ∧ expirations 1 (beforeNumbered journal) = [] ∧
        ∃ own rest,
          (registrations 1 (beforeNumbered journal))[(responses 1 (beforeNumbered journal)).length]? = some own ∧
          since (· == .received 1 numbered) journal = .answered 1 own numbered :: rest := by
  have inTurn : AnswersInTurn 1 (impatient.after (colourSet ++ numberedArrives)).journal := by decide +kernel
  have patient : expirations 1 (beforeNumbered (impatient.after (colourSet ++ numberedArrives)).journal) = [] := by
    decide +kernel
  have here : (impatient.after (colourSet ++ numberedArrives)).journal = beforeNumbered _ ++ _ :=
    eq_upTo_append_since (d := .received 1 numbered) (by decide +kernel)
  have attributed := (attributed_after make_impatient (colourSet ++ numberedArrives)).1 1 inTurn _ numbered _ here rfl
  exact ⟨_, make_impatient, inTurn, patient, attributed.2 patient⟩

/-- The colour is not answered in time. It is given up, and its answer arrives when a roll has been sent. -/
def lateAnswer : List Move :=
  colourSet ++ [.perform (.advance 200), .perform (.ask (.roll .zero .one)), settling] ++ numberedArrives

/-- The robot answers in turn, but its late answer to the command that has been given up is taken for that to the next
one, which it has not answered yet: the shadow says that it rolls. -/
theorem attributed_late :
    ∃ start own taken, make "00:06:66:AA:BB:CC" { responseTimeout := some 100 } = .ok start ∧
      let journal := (start.after lateAnswer).journal
      AnswersInTurn 1 journal ∧
        (registrations 1 (beforeNumbered journal))[(responses 1 (beforeNumbered journal)).length]? = some own ∧
        own ∈ expirations 1 (beforeNumbered journal) ∧ own.command = .rgbLed 1 2 3 ∧
        (since (· == .received 1 numbered) journal).head? = some (.answered 1 taken numbered) ∧
        taken.command = .roll .zero .one false ∧
        (start.after lateAnswer).shadow = { velocity := .one, stopped := false } := by
  refine ⟨impatient, ⟨.rgbLed 1 2 3, false, 0⟩, ⟨.roll .zero .one false, false, 200⟩, make_impatient, ?_⟩
  exact ⟨by decide +kernel, by decide +kernel, by decide +kernel, rfl, by decide +kernel, rfl, by decide +kernel⟩

end Robot

end RobotDriver
