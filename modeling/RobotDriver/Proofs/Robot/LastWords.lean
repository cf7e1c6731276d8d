import RobotDriver.Proofs.Robot.Answers
import RobotDriver.Proofs.Robot.Departing

/-!
# Whether the last words are said

`finals_after` says of every run what a connection has come to that the robot has confirmed as closed: the driver has
counted two confirmations since the closing began. If no more than one command that may be confirmed like that was
still unanswered when the closing began, then the second of them answers a command that was registered later, and the
two last commands are written unless the channel has held the writer up, which a willing one never does.
`finals_unwritten` is a run in which two such commands were unanswered: the connection ends before the writer has had
its turn.
-/

namespace RobotDriver

/-! ## The journal up to the end -/

theorem Telling.not_mem_disconnected {report : Report} {hearers : List Nat} {ds : List Deed}
    (h : Telling report hearers ds) (g : Nat) : .noted (.disconnected g) ∉ ds := by
  intro there
  rcases h.mem there with same | silent
  · cases same
  · cases silent

/-- Only the end of a connection that is being closed is noted as such, and it comes first. -/
theorem Turn.of_disconnected {s t : Outline} {ds : List Deed} (turn : Turn s ds t) {g : Nat}
    (there : .noted (.disconnected g) ∈ ds) :
    s.phase = .closing g ∧ ∃ told, ds = .noted (.disconnected g) :: told ∧ .noted (.disconnected g) ∉ told := by
  cases turn with
  | calm h =>
    rw [← List.mem_singleton.1 there] at h
    cases h
  | aside h told => exact absurd there (told.not_mem_disconnected g)
  | @closed n hearers ds closing told =>
    have absent := told.not_mem_disconnected g
    rcases List.mem_cons.1 there with same | there
    · cases same
      exact ⟨closing, ds, rfl, absent⟩
    · exact absurd there absent
  | lost live failed told | broken closing failed told =>
    cases failed <;> simp [told.not_mem_disconnected g] at there
  | dropped =>
    obtain ⟨n, -, same⟩ := List.mem_map.1 there
    cases same
  | connected idle address told | unmatched here h none told => simp [told.not_mem_disconnected g] at there
  | surplus | closing | took | registered | passed | answered | expired => simp at there
  | paid first told => exact absurd there (told.not_mem_disconnected g)

/-- The journal of a connection that is closed was a chronicle until it was. -/
theorem Chronicle.until_disconnected {journal before after : List Deed} {s : Outline} {g : Nat}
    (h : Chronicle journal s) (e : journal = before ++ .noted (.disconnected g) :: after) :
    ∃ t, Chronicle before t ∧ t.phase = .closing g := by
  obtain ⟨past, ds, es, s, t, earlier, turn, rfl⟩ := h.origin e
  obtain ⟨closing, told, first, absent⟩ := turn.of_disconnected (g := g) (by simp)
  cases ds with
  | nil => exact ⟨s, by rw [List.append_nil]; exact earlier, closing⟩
  | cons d ds =>
    obtain ⟨-, rfl⟩ := List.cons.inj first
    exact absurd (List.mem_append_right ds List.mem_cons_self) absent

/-- A journal is cut at the first place where something is told. -/
theorem eq_upTo_append_since {journal : List Deed} {d : Deed} (h : d ∈ journal) :
    journal = upTo (· == d) journal ++ d :: since (· == d) journal := by
  obtain ⟨e, same, cut⟩ := upTo_append_since (p := (· == d)) ⟨d, h, beq_self_eq_true d⟩
  rw [eq_of_beq same] at cut
  exact cut

/-- The wait for the robot to confirm has come to its end. -/
def Deed.lapses : Deed → Bool
  | noted (.shutdownUnconfirmed _ _) => true
  | _ => false

theorem getLast_ne_of_lapses {journal : List Deed} (h : journal.getLast?.any Deed.lapses = false) {g : Nat}
    (grace : Nat) : journal.getLast? ≠ some (.noted (.shutdownUnconfirmed g grace)) := by
  intro same
  rw [same] at h
  cases h

/-! ## Confirmations -/

/-- Each confirmation is the answer to a command that leaves the queue. -/
theorem countP_confirms_le (g : Nat) (ds : List Deed) :
    ds.countP (Deed.confirms g) ≤ (removals g ds).countP fun entry => Robot.isEcho entry.command := by
  induction ds with
  | nil => exact Nat.le_refl 0
  | cons d ds ih =>
    rw [← List.singleton_append, List.countP_append, removals_append, List.countP_append]
    refine Nat.add_le_add ?_ ih
    cases confirmed : d.confirms g with
    | false => simp [confirmed]
    | true =>
      cases d with
      | answered n entry packet =>
        simp only [Deed.confirms, Bool.and_eq_true, beq_iff_eq] at confirmed
        obtain ⟨⟨rfl, echo⟩, ok⟩ := confirmed
        simp [removals, Deed.removed?, Deed.answered?, Deed.expired?, Deed.confirms, echo, ok]
      | _ => cases confirmed

/-- If a connection is closed and nothing has been registered since its closing began, then the commands confirmed
since were unanswered at that time. -/
theorem countP_confirms_le_unanswered {before : List Deed} {t : Outline} {g : Nat} (chronicle : Chronicle before t)
    (closing : t.phase = .closing g) (parted : ∃ d ∈ before, d.parts g = true)
    (none : registrations g (since (Deed.parts g) before) = []) :
    (since (Deed.parts g) before).countP (Deed.confirms g) ≤
      (unanswered g (upTo (Deed.parts g) before)).countP fun entry => Robot.isEcho entry.command := by
  obtain ⟨d, part, cut⟩ := upTo_append_since parted
  have mark : registrations g [d] = [] ∧ removals g [d] = [] := by
    cases d with
    | noted n => exact ⟨rfl, rfl⟩
    | _ => cases part
  have queue := chronicle.queued.queue g (by rw [closing]; rfl)
  rw [cut, ← List.singleton_append, registrations_append, registrations_append, removals_append, removals_append,
    mark.1, mark.2, none, List.nil_append, List.nil_append, List.append_nil, List.append_assoc] at queue
  refine Nat.le_trans (countP_confirms_le g _) ?_
  rw [unanswered, queue, List.drop_left, List.countP_append]
  exact Nat.le_add_right _ _

namespace Robot

/-- **When a connection ends because the robot has confirmed it twice**, all that was written since it began went to
one channel and is a beginning of the packets of what was registered; nothing is missing if the channels are willing
all along. If at most one roll or front light was unanswered when the closing began and the channel has taken all that
was registered, then the two last commands are the end of what was written since. -/
theorem finals_after {address : String} {settings : Settings} {start : Robot}
    (made : make address settings = .ok start) (moves : List Move) {before after : List Deed} {g : Nat}
    (ended : (start.after moves).journal = before ++ .noted (.disconnected g) :: after)
    (confirmed : ∀ grace, before.getLast? ≠ some (.noted (.shutdownUnconfirmed g grace))) :
    let life := since (Deed.begins g) before
    let closing := since (Deed.parts g) before
    closing.countP (Deed.confirms g) = 2 ∧
      (∃ channel, ∀ c bytes, .wrote c bytes ∈ life → c = channel) ∧
      wire life <+: Outbox.packets (registeredItems g life) ∧
      ((∀ m ∈ moves, m.Willing) → wire life = Outbox.packets (registeredItems g life)) ∧
      ((unanswered g (upTo (Deed.parts g) before)).countP (fun entry => isEcho entry.command) ≤ 1 →
        wire life = Outbox.packets (registeredItems g life) →
        finalStop.toBytes ++ finalDark.toBytes <:+ wire closing) := by
  intro life closing
  have parting : Parting (∀ m ∈ moves, m.Willing) 0 (start.after moves) := (parting_make made).after moves id
  obtain ⟨two, channel, order, nothing, written⟩ := parting.parted before g after ended confirmed
  refine ⟨two, channel, order, nothing, fun one all => ?_⟩
  obtain ⟨t, chronicle, phase⟩ := (recorded_after made moves).chronicle.until_disconnected ended
  have pair : Outbox.packets finals = finalStop.toBytes ++ finalDark.toBytes := by
    simp [Outbox.packets, finals]
  rw [← pair]
  refine written (fun none => ?_) all
  obtain ⟨e, he, -⟩ := List.countP_pos_iff.1 (Nat.lt_of_lt_of_eq Nat.two_pos two.symm)
  have parted : ∃ d ∈ before, d.parts g = true := exists_of_since he
  have few := countP_confirms_le_unanswered chronicle phase parted (List.map_eq_nil_iff.1 none)
  omega

/-- What the robot has answered when it accepts so many commands. -/
def acceptances (count : Nat) : Move :=
  .perform (.arrive none [.bytes (List.replicate count acceptance).flatten])

/-- Lets all tasks run. -/
def settling : Move :=
  .perform (.advance 0)

/-- The first connection is closed. -/
def firstClosed : Deed :=
  .noted (.disconnected 1)

/-- One roll is unanswered when the user disconnects, and the robot accepts it and the two last commands. -/
def rollAndDisconnect : List Move :=
  [.perform (.ask .connect), settling, acceptances 5, settling, .perform (.ask (.roll .zero .one)), settling,
    .perform (.ask .disconnect), settling, acceptances 3, settling]

theorem finals_after_rollAndDisconnect :
    ∃ start, make "00:06:66:AA:BB:CC" {} = .ok start ∧ firstClosed ∈ (start.after rollAndDisconnect).journal ∧
      finalStop.toBytes ++ finalDark.toBytes <:+
        wire (since (Deed.parts 1) (upTo (· == firstClosed) (start.after rollAndDisconnect).journal)) := by
  have made : make "00:06:66:AA:BB:CC" {} = .ok _ := rfl
  have willing : ∀ m ∈ rollAndDisconnect, m.Willing := by
    simp [rollAndDisconnect, settling, acceptances, Move.Willing, Step.Willing]
  obtain ⟨-, -, -, all, written⟩ := finals_after made rollAndDisconnect
    (eq_upTo_append_since (d := firstClosed) (by decide +kernel)) (getLast_ne_of_lapses (by decide +kernel))
  exact ⟨_, made, by decide +kernel, written (by decide +kernel) (all willing)⟩

/-- A roll and a front light are unanswered behind the command to sleep, and the robot accepts all three at once. -/
def sleepRollAndLight : List Move :=
  [.perform (.ask .connect), settling, acceptances 5, settling, .perform (.ask (.sleep 300)),
    .perform (.ask (.roll .zero .one)), .perform (.ask (.setFrontLed .one)), settling, acceptances 3, settling]

/-- Two commands that were sent before may stand in for the two last ones: the connection ends before the writer has
had its turn. -/
theorem finals_unwritten :
    ∃ start, make "00:06:66:AA:BB:CC" {} = .ok start ∧
      ∃ before after, (start.after sleepRollAndLight).journal = before ++ .noted (.disconnected 1) :: after ∧
        (∀ grace, before.getLast? ≠ some (.noted (.shutdownUnconfirmed 1 grace))) ∧
        (since (Deed.parts 1) before).countP (Deed.confirms 1) = 2 ∧
        wire (since (Deed.parts 1) before) = [] := by
  have made : make "00:06:66:AA:BB:CC" {} = .ok _ := rfl
  exact ⟨_, made, _, _, eq_upTo_append_since (d := firstClosed) (by decide +kernel),
    getLast_ne_of_lapses (by decide +kernel), by decide +kernel, by decide +kernel⟩

end Robot

end RobotDriver
