import RobotDriver.Robot.Opening

/-!
# What sending and telling leave alone

Whoever sends a command changes the queue of the connection and may wake its writer. `Sends` says that
nothing else has changed, and what has been added to the journal. Listeners can do no more than send, so
that `sends_tell` says the same of a report that all of them hear.
-/

namespace RobotDriver

/-- The note marks a point in the life of a connection. -/
def Note.isMilestone : Note → Bool
  | connected _ _ | disconnecting _ | disconnected _ | closedUnexpectedly _ _ | closedWhileDisconnecting _ _
  | handleDropped _ => true
  | _ => false

namespace Deed

/-- Neither a connection nor an answer nor a listener is concerned. -/
def isCalm : Deed → Bool
  | wrote _ _ | replied _ _ | finished _ _ => true
  | noted n => !n.isMilestone
  | _ => false

/-- The deed is calm, or a listener takes note of what it hears. -/
def isSilent : Deed → Bool
  | told _ _ => true
  | d => d.isCalm

/-- What a listener has heard. -/
def told? : Deed → Option (Nat × Report)
  | told listener report => some (listener, report)
  | _ => none

theorem told?_of_isCalm {d : Deed} (h : d.isCalm = true) : d.told? = none := by
  cases d <;> first | rfl | cases h

theorem isSilent_of_isCalm {d : Deed} (h : d.isCalm = true) : d.isSilent = true := by
  cases d <;> first | rfl | exact h

end Deed

/-- How a report reads in the journal: the listeners hear it in their order, each once for each time that
it is named, and nothing but calm deeds come in between. -/
inductive Telling (report : Report) (hearers : List Nat) : List Deed → Prop where
  | intro (rest : List Deed) (told : rest.filterMap Deed.told? = hearers.map fun hearer => (hearer, report))
      (silent : ∀ d ∈ rest, d.isSilent = true) :
      Telling report hearers (.reported report hearers :: rest)

theorem Telling.mem {report : Report} {hearers : List Nat} {ds : List Deed} (h : Telling report hearers ds) {d : Deed}
    (hd : d ∈ ds) : d = .reported report hearers ∨ d.isSilent = true := by
  obtain ⟨rest, _, silent⟩ := h
  rcases List.mem_cons.1 hd with rfl | hd
  · exact .inl rfl
  · exact .inr (silent d hd)

/-- Whoever does not look at silent deeds sees no more than the report itself. -/
theorem Telling.filterMap_eq {α : Type} {f : Deed → Option α} (hf : ∀ d, d.isSilent = true → f d = none)
    {report : Report} {hearers : List Nat} {ds : List Deed} (h : Telling report hearers ds) :
    ds.filterMap f = [Deed.reported report hearers].filterMap f := by
  obtain ⟨rest, _, silent⟩ := h
  have none : rest.filterMap f = [] := List.filterMap_eq_nil_iff.2 fun d hd => hf d (silent d hd)
  rw [← List.singleton_append, List.filterMap_append, none, List.append_nil]

/-- The report of a telling comes first, and it is the only one. -/
theorem Telling.split {report other : Report} {hearers others : List Nat} {ds xs ys : List Deed}
    (h : Telling report hearers ds) (here : ds = xs ++ .reported other others :: ys) : xs = [] ∧ other = report := by
  obtain ⟨rest, _, silent⟩ := h
  cases xs with
  | nil =>
    cases here
    exact ⟨rfl, rfl⟩
  | cons x xs =>
    obtain ⟨-, rfl⟩ := List.cons.inj here
    cases silent (.reported other others) (by simp)

namespace Session

@[simp] theorem mapLink_id (s : Session) : s.mapLink (fun link => link) = s := by
  cases s <;> rfl

theorem mapLink_mapLink (s : Session) (f g : Link → Link) :
    (s.mapLink f).mapLink g = s.mapLink fun link => g (f link) := by
  cases s <;> rfl

theorem mapLink_congr {s : Session} {link : Link} (hl : s.link? = some link) {f g : Link → Link}
    (h : f link = g link) : s.mapLink f = s.mapLink g := by
  cases s <;> simp_all [link?, mapLink]

end Session

namespace Robot

/-- `s` is `r` after the deeds `ds`, and nothing has changed but the queue of the connection and the tasks
that are ready. -/
def Sends (r : Robot) (ds : List Deed) (s : Robot) : Prop :=
  ∃ (send : Outbox → Outbox) (ready : List Task),
    s = { r with
      session := r.session.mapLink fun link => link.withOutbox (send link.outbox)
      ready
      journal := r.journal ++ ds }

/-- `Sends` with none but calm deeds. -/
def SendsCalmly (r s : Robot) : Prop :=
  ∃ ds, (∀ d ∈ ds, d.isCalm = true) ∧ Sends r ds s

variable {r s t : Robot} {ds es : List Deed}

theorem Sends.record (h : Sends r ds s) (d : Deed) : Sends r (ds ++ [d]) (s.record d) := by
  obtain ⟨send, ready, rfl⟩ := h
  exact ⟨send, ready, by simp [Robot.record, recordAll]⟩

theorem Sends.withReady (h : Sends r ds s) (tasks : List Task) : Sends r ds { s with ready := tasks } := by
  obtain ⟨send, _, rfl⟩ := h
  exact ⟨send, tasks, rfl⟩

theorem Sends.refl (r : Robot) : Sends r [] r := by
  refine ⟨id, r.ready, ?_⟩
  have same : r.session.mapLink (fun link => link.withOutbox (id link.outbox)) = r.session := r.session.mapLink_id
  rw [same, List.append_nil]

theorem Sends.trans (h : Sends r ds s) (k : Sends s es t) : Sends r (ds ++ es) t := by
  obtain ⟨first, _, rfl⟩ := h
  obtain ⟨second, ready, rfl⟩ := k
  refine ⟨fun outbox => second (first outbox), ready, ?_⟩
  have both := r.session.mapLink_mapLink (fun link => link.withOutbox (first link.outbox))
    (fun link => link.withOutbox (second link.outbox))
  simp only [both, List.append_assoc]
  rfl

theorem SendsCalmly.refl (r : Robot) : SendsCalmly r r :=
  ⟨[], by simp, .refl r⟩

theorem SendsCalmly.trans (h : SendsCalmly r s) (k : SendsCalmly s t) : SendsCalmly r t := by
  obtain ⟨ds, calm, hs⟩ := h
  obtain ⟨es, calm', ht⟩ := k
  refine ⟨ds ++ es, ?_, hs.trans ht⟩
  intro d hd
  rcases List.mem_append.1 hd with hd | hd
  · exact calm d hd
  · exact calm' d hd

theorem sendsCalmly_note (r : Robot) {n : Note} (h : n.isMilestone = false) : SendsCalmly r (r.note n) := by
  refine ⟨[.noted n], ?_, (Sends.refl r).record (.noted n)⟩
  intro d hd
  rw [List.mem_singleton.1 hd]
  simp [Deed.isCalm, h]

/-! ## Commands -/

theorem sends_rouse (r : Robot) (task : Task) : Sends r [] (r.rouse task) := by
  unfold rouse
  split
  · exact .refl r
  · exact (Sends.refl r).withReady _

theorem sends_requeue {link : Link} (hl : r.link? = some link) (outbox : Outbox) :
    Sends r [] (r.requeue link outbox) := by
  have queued : Sends r [] (r.withLink (link.withOutbox outbox)) := by
    refine ⟨fun _ => outbox, r.ready, ?_⟩
    rw [List.append_nil, Session.mapLink_congr (g := fun _ => link.withOutbox outbox) hl rfl]
    rfl
  unfold requeue
  dsimp only
  split
  · exact queued.trans (sends_rouse _ _)
  · exact queued

theorem isMilestone_refusalNote (item : Outbox.Item) (e : Outbox.Refusal) :
    (refusalNote item e).isMilestone = false := by
  cases e <;> rfl

theorem sends_enqueue (r : Robot) (item : Outbox.Item) : SendsCalmly r (r.enqueue item).2 := by
  unfold enqueue
  split
  · exact .refl r
  · next link hl =>
    split
    · exact ⟨[], by simp, sends_requeue hl _⟩
    · exact sendsCalmly_note r (isMilestone_refusalNote _ _)

theorem sends_enqueueAll (items : List Outbox.Item) (r : Robot) : SendsCalmly r (r.enqueueAll items) := by
  induction items generalizing r with
  | nil => exact .refl r
  | cons item items ih => exact (sends_enqueue r item).trans (ih _)

theorem sends_force (r : Robot) (command : Command) : SendsCalmly r (r.force command) := by
  unfold force
  split
  · exact .refl r
  · next link hl =>
    split
    · exact ⟨[], by simp, sends_requeue hl _⟩
    · exact sendsCalmly_note r (isMilestone_refusalNote _ _)

theorem sends_submit (r : Robot) (item : Outbox.Item) : SendsCalmly r (r.submit item).2 := by
  unfold submit
  split
  · exact .refl r
  · split
    · exact .refl r
    · exact sends_enqueue r item

theorem sends_send (r : Robot) (command : Command) : SendsCalmly r (r.send command).2 :=
  sends_submit r _

/-! ## Reports -/

/-- One listener hears the report once. -/
theorem sends_tellOne (report : Report) (r : Robot) (hearer : Nat × Listener) :
    ∃ ds, ds.filterMap Deed.told? = [(hearer.1, report)] ∧ (∀ d ∈ ds, d.isSilent = true) ∧
      Sends r ds (r.tellOne report hearer) := by
  have heard := (Sends.refl r).record (.told hearer.1 report)
  unfold tellOne
  dsimp only
  split
  · exact ⟨_, rfl, by simp [Deed.isSilent], heard⟩
  · next trigger command _ =>
    split
    · obtain ⟨ds, calm, sent⟩ := sends_send (r.record (.told hearer.1 report)) command
      refine ⟨_, ?_, ?_, (heard.trans sent).record (.replied hearer.1 _)⟩
      · have none : ds.filterMap Deed.told? = [] :=
          List.filterMap_eq_nil_iff.2 fun d hd => Deed.told?_of_isCalm (calm d hd)
        simp [none, Deed.told?]
      · intro d hd
        simp only [List.nil_append, List.append_assoc, List.mem_append, List.mem_singleton] at hd
        rcases hd with rfl | hd | rfl
        · rfl
        · exact Deed.isSilent_of_isCalm (calm d hd)
        · rfl
    · exact ⟨_, rfl, by simp [Deed.isSilent], heard⟩

/-- One listener after the other hears the report. -/
theorem sends_foldl_tellOne (report : Report) (hearers : List (Nat × Listener)) (r : Robot) :
    ∃ ds, ds.filterMap Deed.told? = (hearers.map fun hearer => (hearer.1, report)) ∧
      (∀ d ∈ ds, d.isSilent = true) ∧ Sends r ds (hearers.foldl (tellOne report) r) := by
  induction hearers generalizing r with
  | nil => exact ⟨[], rfl, by simp, .refl r⟩
  | cons hearer hearers ih =>
    obtain ⟨ds, told, silent, sent⟩ := sends_tellOne report r hearer
    obtain ⟨es, told', silent', sent'⟩ := ih (r.tellOne report hearer)
    refine ⟨ds ++ es, ?_, ?_, sent.trans sent'⟩
    · rw [List.filterMap_append, told, told']
      rfl
    · intro d hd
      rcases List.mem_append.1 hd with hd | hd
      · exact silent d hd
      · exact silent' d hd

/-- Everyone who is registered hears a report, once for each registration and in their order, and no more is
changed than by a command that a listener sends. -/
theorem sends_tell (r : Robot) (report : Report) :
    ∃ ds, Telling report (r.audience.hearers.map fun hearer => hearer.1) ds ∧ Sends r ds (r.tell report) := by
  have reported := (Sends.refl r).record (.reported report (r.audience.hearers.map fun hearer => hearer.1))
  obtain ⟨ds, told, silent, sent⟩ := sends_foldl_tellOne report r.audience.hearers
    (r.record (.reported report (r.audience.hearers.map fun hearer => hearer.1)))
  refine ⟨_, .intro ds ?_ silent, reported.trans sent⟩
  rw [told, List.map_map]
  rfl

end Robot

end RobotDriver
