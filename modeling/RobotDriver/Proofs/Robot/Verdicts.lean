import RobotDriver.Proofs.Robot.Chronicle

/-!
# What listeners hear of answers

A command that leaves the queue of a connection makes a report fall due, unless the driver itself had sent it and
it is answered. `Chronicle.verdicts` says that what is due is reported, once and in order; `Chronicle.heard` says
that listeners hear what is reported.
-/

namespace RobotDriver

namespace Deed

/-- What listeners are to hear because of a command that no longer awaits its answer: nothing of an answer to the
driver's own commands. -/
def due? : Deed → Option Report
  | answered _ entry packet =>
    if entry.system then none
    else some (.response (Response.decode entry.command.kind packet) entry.command)
  | expired _ entry => some (.event (.responseTimeout entry.command))
  | _ => none

end Deed

/-- The report is of an answer or of a command given up. -/
def Report.isVerdict : Report → Bool
  | response _ _ | event (.responseTimeout _) => true
  | _ => false

namespace Deed

/-- The answer or the end of its time that is reported. -/
def verdict? : Deed → Option Report
  | reported report _ => if report.isVerdict then some report else none
  | _ => none

/-- What listeners are to hear of a report. -/
def tellings : Deed → List (Nat × Report)
  | reported report hearers => hearers.map fun hearer => (hearer, report)
  | _ => []

end Deed

/-! ## Reports in the journal -/

namespace Deed

theorem verdict?_of_isSilent {d : Deed} (h : d.isSilent = true) : d.verdict? = none := by
  cases d <;> simp_all [isSilent, isCalm, verdict?]

theorem due?_of_isSilent {d : Deed} (h : d.isSilent = true) : d.due? = none := by
  cases d <;> simp_all [isSilent, isCalm, due?]

theorem tellings_of_isSilent {d : Deed} (h : d.isSilent = true) : d.tellings = [] := by
  cases d <;> simp_all [isSilent, isCalm, tellings]

end Deed

variable {report : Report} {hearers : List Nat} {ds : List Deed}

theorem Telling.verdict (h : Telling report hearers ds) :
    ds.filterMap Deed.verdict? = if report.isVerdict then [report] else [] := by
  rw [h.filterMap_eq fun _ => Deed.verdict?_of_isSilent]
  cases e : report.isVerdict <;> simp [Deed.verdict?, e]

theorem Telling.due (h : Telling report hearers ds) : ds.filterMap Deed.due? = [] :=
  h.filterMap_eq fun _ => Deed.due?_of_isSilent

theorem Telling.heard (h : Telling report hearers ds) : ds.filterMap Deed.told? = ds.flatMap Deed.tellings := by
  obtain ⟨rest, told, silent⟩ := h
  have none : rest.flatMap Deed.tellings = [] :=
    List.flatMap_eq_nil_iff.2 fun d hd => Deed.tellings_of_isSilent (silent d hd)
  rw [List.flatMap_cons, none, List.append_nil]
  exact told

theorem Report.isVerdict_of_isAside {report : Report} (h : report.isAside = true) : report.isVerdict = false := by
  cases report with
  | event e => cases e <;> first | rfl | cases h
  | information i => rfl
  | response response command => cases h

theorem Due.isVerdict (due : Due) : due.report.isVerdict = true := by
  cases due <;> rfl

/-- A report that is no verdict pays nothing. -/
theorem Telling.owed (h : Telling report hearers ds) (other : report.isVerdict = false) (owed : List Report) :
    ds.filterMap Deed.verdict? ++ owed = owed ++ ds.filterMap Deed.due? := by
  rw [h.verdict, h.due, other, List.append_nil]
  rfl

/-- Every turn reports what has been owed longest, or nothing, and adds what falls due. -/
theorem Turn.verdict {s t : Outline} (turn : Turn s ds t) :
    ds.filterMap Deed.verdict? ++ t.owed.map Due.report = s.owed.map Due.report ++ ds.filterMap Deed.due? := by
  have none (owed : List Report) : owed = owed ++ [] := (List.append_nil owed).symm
  have cons {d : Deed} {ds : List Deed} {owed next : List Report} (one : d.verdict? = .none ∧ d.due? = .none)
      (rest : ds.filterMap Deed.verdict? ++ next = owed ++ ds.filterMap Deed.due?) :
      (d :: ds).filterMap Deed.verdict? ++ next = owed ++ (d :: ds).filterMap Deed.due? := by
    rw [List.filterMap_cons_none one.1, List.filterMap_cons_none one.2, rest]
  cases turn with
  | calm h =>
    have silent := Deed.isSilent_of_isCalm h
    exact cons ⟨Deed.verdict?_of_isSilent silent, Deed.due?_of_isSilent silent⟩ (none _)
  | aside h told => exact told.owed (Report.isVerdict_of_isAside h) _
  | connected idle address told => exact cons ⟨rfl, rfl⟩ (told.owed rfl _)
  | closed closing told => exact cons ⟨rfl, rfl⟩ (told.owed rfl _)
  | lost live failed told =>
    exact cons (by cases failed <;> exact ⟨rfl, rfl⟩) (cons ⟨rfl, rfl⟩ (told.owed rfl _))
  | broken closing failed told =>
    exact cons (by cases failed <;> exact ⟨rfl, rfl⟩) (cons ⟨rfl, rfl⟩ (told.owed rfl _))
  | dropped =>
    unfold Phase.farewell
    cases s.phase.generation? with
    | none => exact none _
    | some g => exact cons ⟨rfl, rfl⟩ (none _)
  | surplus => exact none _
  | closing | took | registered | passed => exact cons ⟨rfl, rfl⟩ (none _)
  | @answered g p entry rest here h oldest =>
    refine cons ⟨rfl, rfl⟩ ?_
    cases e : entry.system <;> simp [List.filterMap_cons, Deed.verdict?, Deed.due?, Due.answers, Due.report, e]
  | unmatched here h none told => exact cons ⟨rfl, rfl⟩ (cons ⟨rfl, rfl⟩ (told.owed rfl _))
  | @expired g entry rest here oldest => simp [List.filterMap_cons, Deed.verdict?, Deed.due?, Due.report]
  | @paid due rest hearers ds first told =>
    rw [told.verdict, told.due, due.isVerdict, first, List.append_nil]
    rfl

theorem Chronicle.verdicts {journal : List Deed} {s : Outline} (h : Chronicle journal s) :
    journal.filterMap Deed.verdict? ++ s.owed.map Due.report = journal.filterMap Deed.due? := by
  induction h with
  | start => rfl
  | next _ _ turn ih =>
    rw [List.filterMap_append, List.filterMap_append, List.append_assoc, turn.verdict, ← List.append_assoc, ih]

theorem Turn.heard {s t : Outline} (turn : Turn s ds t) :
    ds.filterMap Deed.told? = ds.flatMap Deed.tellings := by
  have cons {d : Deed} {ds : List Deed} (one : d.told? = none ∧ d.tellings = [])
      (rest : ds.filterMap Deed.told? = ds.flatMap Deed.tellings) :
      (d :: ds).filterMap Deed.told? = (d :: ds).flatMap Deed.tellings := by
    rw [List.filterMap_cons_none one.1, List.flatMap_cons, one.2, rest, List.nil_append]
  cases turn with
  | calm h => exact cons ⟨Deed.told?_of_isCalm h, Deed.tellings_of_isSilent (Deed.isSilent_of_isCalm h)⟩ rfl
  | aside h told => exact told.heard
  | connected idle address told => exact cons ⟨rfl, rfl⟩ told.heard
  | closed closing told => exact cons ⟨rfl, rfl⟩ told.heard
  | lost live failed told => exact cons (by cases failed <;> exact ⟨rfl, rfl⟩) (cons ⟨rfl, rfl⟩ told.heard)
  | broken closing failed told => exact cons (by cases failed <;> exact ⟨rfl, rfl⟩) (cons ⟨rfl, rfl⟩ told.heard)
  | dropped =>
    unfold Phase.farewell
    cases s.phase.generation? <;> rfl
  | surplus | closing | took | registered | passed | answered | expired => rfl
  | unmatched here h none told => exact cons ⟨rfl, rfl⟩ (cons ⟨rfl, rfl⟩ told.heard)
  | paid first told => exact told.heard

theorem Chronicle.heard {journal : List Deed} {s : Outline} (h : Chronicle journal s) :
    journal.filterMap Deed.told? = journal.flatMap Deed.tellings := by
  induction h with
  | start => rfl
  | next _ _ turn ih => rw [List.filterMap_append, List.flatMap_append, ih, turn.heard]

end RobotDriver
