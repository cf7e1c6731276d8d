import RobotDriver.Proofs.Robot.News

/-!
# Where news comes from

`Stride.account` says once what a stride amounts to: its news, what the driver comes to believe and whether a macro
runs. All else about strides is read from that. The news of a run account for all that the driver believes at its end
(`Strides.believes`), and each piece of news has its `Source`: `Strides.source` finds for it the stride that it belongs
to, with the driver as it was before and after.
-/

namespace RobotDriver

namespace Robot

variable {r s : Robot} {before after fresh : List Deed} {g : Nat} {p : Packet}

/-- A macro is carried on: a marker of it is handled, or it has just been submitted. -/
inductive Advance (r : Robot) (upload : Macro.Upload) (progress : Macro.Progress) : Robot → Prop
  | marked {link : Link} (hl : r.link? = some link) {p : Packet} (marker : p.isMarker = true)
      (running : r.upload.running = true) (acknowledged : r.upload.acknowledge = (upload, progress)) :
      Advance r upload progress (r.handlePacket link.generation p)
  | played {m : Macro} (mode : m.mode = .streaming) (accepted : r.upload.submit m.steps = .ok (upload, progress))
      (there : r.link?.isSome = true) (enabled : r.settings.macroStreaming = true)
      (answer : (r.playMacro m).1 = .ok true) : Advance r upload progress (r.playMacro m).2

/-- What is done from `r` to `s` if a deed that is news is done there. -/
inductive Source (r s : Robot) : Deed → Prop
  | received {link : Link} (hl : r.link? = some link) {p : Packet} (same : s = r.handlePacket link.generation p) :
      Source r s (.received link.generation p)
  | answered {link : Link} (hl : r.link? = some link) {p : Packet} {entry : InFlight.Entry}
      {rest : List InFlight.Entry} (response : p.IsResponse) (oldest : r.inFlight.entries = entry :: rest)
      (same : s = r.handlePacket link.generation p) : Source r s (.answered link.generation entry p)
  | expired {link : Link} (hl : r.link? = some link) {timeout : Nat} (asked : r.settings.responseTimeout = some timeout)
      (entry : InFlight.Entry) : Source r s (.expired link.generation entry)
  | connected (down : r.session = .down) (address : String) (g : Nat) : Source r s (.noted (.connected address g))
  | done {upload : Macro.Upload} {progress : Macro.Progress} {followUps : List Command}
      (advance : Advance r upload progress s) (ended : progress.finished = some followUps) (hearers : List Nat) :
      Source r s (.reported (.event .macroDone) hearers)

/-- What a stride amounts to: its news, what the driver comes to believe, and whether a macro runs. -/
inductive Account (r s : Robot) : List Deed → Prop
  | aside (belief : s.belief = r.belief) (running : s.upload.running = true → r.upload.running = true) : Account r s []
  | received {link : Link} (hl : r.link? = some link) {p : Packet} (same : s = r.handlePacket link.generation p)
      (belief : s.belief = r.belief) (upload : s.upload = r.upload) : Account r s [.received link.generation p]
  | answered {link : Link} (hl : r.link? = some link) {p : Packet} {entry : InFlight.Entry}
      {rest : List InFlight.Entry} (response : p.IsResponse) (oldest : r.inFlight.entries = entry :: rest)
      (same : s = r.handlePacket link.generation p) (belief : s.belief = r.belief.learn entry p)
      (upload : s.upload = r.upload) :
      Account r s [.received link.generation p, .answered link.generation entry p]
  /-- The last news, if there are any, are the end of the macro. -/
  | marked {link : Link} (hl : r.link? = some link) {p : Packet} {dones : List Deed} (marker : p.isMarker = true)
      (running : r.upload.running = true) (same : s = r.handlePacket link.generation p)
      (belief : s.belief = r.belief) (upload : s.upload = r.upload.acknowledge.1)
      (done : ∀ d ∈ dones, d.tellsDone = true ∧ r.upload.acknowledge.2.finished.isSome = true) :
      Account r s (.received link.generation p :: dones)
  | expired {link : Link} (hl : r.link? = some link) {timeout : Nat} (asked : r.settings.responseTimeout = some timeout)
      (belief : s.belief = r.belief) (upload : s.upload = r.upload) (entries : List InFlight.Entry) :
      Account r s (entries.map (.expired link.generation))
  | connected (down : r.session = .down) (belief : s.belief = { r.belief with shadow := {} })
      (upload : s.upload = r.upload.clear) (address : String) (g : Nat) : Account r s [.noted (.connected address g)]
  | played {m : Macro} {upload : Macro.Upload} {progress : Macro.Progress} {dones : List Deed}
      (mode : m.mode = .streaming) (accepted : r.upload.submit m.steps = .ok (upload, progress))
      (there : r.link?.isSome = true) (enabled : r.settings.macroStreaming = true)
      (answer : (r.playMacro m).1 = .ok true) (same : s = (r.playMacro m).2) (belief : s.belief = r.belief)
      (carried : s.upload = upload) (done : ∀ d ∈ dones, d.tellsDone = true ∧ progress.finished.isSome = true) :
      Account r s dones

/-! ## One stride -/

/-- What becomes of a packet, as an account. -/
theorem account_handlePacket {link : Link} (hl : r.link? = some link) (p : Packet) :
    ∃ later, Brings (r.record (.received link.generation p)) later (r.handlePacket link.generation p) ∧
      Account r (r.handlePacket link.generation p) (.received link.generation p :: later) := by
  have handled := handled_handlePacket r link.generation p
  generalize same : r.handlePacket link.generation p = s at handled
  cases handled with
  | passed abides => exact ⟨[], abides.brings, .received hl same.symm abides.belief abides.upload⟩
  | marked marker running kind carried =>
    have noted : Abides (r.record (.received link.generation p))
        ((r.record (.received link.generation p)).note (.informationReceived kind)) := abides_note _ rfl
    obtain ⟨belief, upload, dones, brings, done⟩ := progressMacro_news
      ((r.record (.received link.generation p)).note (.informationReceived kind)) r.upload.acknowledge.1
      r.upload.acknowledge.2
    rw [← carried] at belief upload brings
    exact ⟨dones, noted.brings.trans brings,
      .marked hl marker running same.symm (belief.trans noted.belief) upload done⟩
  | answered response oldest belief upload brings =>
    exact ⟨_, brings, .answered hl response oldest same.symm belief upload⟩

/-- There is an account of each stride. -/
theorem Stride.account (h : Stride r s) : ∃ fresh, Brings r fresh s ∧ Account r s fresh := by
  cases h with
  | aside abides => exact ⟨[], abides.brings, .aside abides.belief fun running => abides.upload ▸ running⟩
  | @handled link hl p =>
    obtain ⟨later, brings, account⟩ := account_handlePacket hl p
    exact ⟨_, (brings_record r (d := .received link.generation p) rfl).trans brings, account⟩
  | @swept link hl timeout asked =>
    obtain ⟨belief, upload, brings⟩ := giveUpOverdue_news r link.generation timeout
    exact ⟨_, brings, .expired hl asked belief upload _⟩
  | opened =>
    cases opened_start r with
    | late abides => exact ⟨[], abides.brings, .aside abides.belief fun running => abides.upload ▸ running⟩
    | begun down belief upload brings => exact ⟨_, brings, .connected down belief upload _ _⟩
  | played m =>
    have played := played_playMacro r m
    generalize same : r.playMacro m = result at played
    cases played with
    | otherwise abides => exact ⟨[], abides.brings, .aside abides.belief fun running => abides.upload ▸ running⟩
    | @streamed upload progress notes mode accepted there enabled old =>
      have noted : Abides r (r.recordAll (notes.map .noted)) := abides_recordAll r (List.forall_mem_map.2 old)
      obtain ⟨belief, carried, dones, brings, done⟩ :=
        progressMacro_news (r.recordAll (notes.map .noted)) upload progress
      exact ⟨dones, noted.brings.trans brings, .played mode accepted there enabled (by rw [same]) (by rw [same])
        (belief.trans noted.belief) carried done⟩
  | stopped =>
    have aborted := abides_stopMacro r
    refine ⟨[], aborted.brings, .aside aborted.belief fun running => ?_⟩
    rw [aborted.upload] at running
    cases running
  | followed later =>
    refine ⟨[], ⟨[], (List.append_nil _).symm, rfl⟩, .aside rfl fun running => ?_⟩
    rcases later with ⟨command, rfl⟩ | rfl <;> exact running

/-- The news account for what the driver comes to believe. -/
theorem Account.believes (h : Account r s fresh) : s.belief = fresh.foldl Belief.after r.belief := by
  have dull {ds : List Deed} (belief : s.belief = r.belief) (none : ∀ d ∈ ds, d.teaches = false) :
      s.belief = ds.foldl Belief.after r.belief :=
    belief.trans (Belief.foldl_after _ none).symm
  cases h with
  | aside belief | received _ _ belief | answered _ _ _ _ belief | connected _ belief => exact belief
  | marked _ _ _ _ belief _ done =>
    exact dull belief (List.forall_mem_cons.2 ⟨rfl, fun d hd => Deed.teaches_of_tellsDone (done d hd).1⟩)
  | expired _ _ belief => exact dull belief (List.forall_mem_map.2 fun _ _ => rfl)
  | played _ _ _ _ _ _ belief _ done => exact dull belief fun d hd => Deed.teaches_of_tellsDone (done d hd).1

theorem Source.of_done {upload : Macro.Upload} {progress : Macro.Progress} {d : Deed}
    (advance : Advance r upload progress s) (done : d.tellsDone = true ∧ progress.finished.isSome = true) :
    Source r s d := by
  obtain ⟨tells, ended⟩ := done
  obtain ⟨followUps, ended⟩ := Option.isSome_iff_exists.1 ended
  unfold Deed.tellsDone at tells
  split at tells
  · exact .done advance ended _
  · cases tells

/-- The news come from what has been done. -/
theorem Account.source (h : Account r s fresh) : ∀ d ∈ fresh, Source r s d := by
  cases h with
  | aside => exact List.forall_mem_nil _
  | received hl same => exact List.forall_mem_singleton.2 (.received hl same)
  | answered hl response oldest same =>
    exact List.forall_mem_cons.2 ⟨.received hl same, List.forall_mem_singleton.2 (.answered hl response oldest same)⟩
  | marked hl marker running same _ _ done =>
    refine List.forall_mem_cons.2 ⟨.received hl same, fun d hd => ?_⟩
    rw [same]
    exact .of_done (.marked hl marker running rfl) (done d hd)
  | expired hl asked => exact List.forall_mem_map.2 fun entry _ => .expired hl asked entry
  | connected down _ _ address g => exact List.forall_mem_singleton.2 (.connected down address g)
  | played mode accepted there enabled answer same _ _ done =>
    rw [same]
    exact fun d hd => .of_done (.played mode accepted there enabled answer) (done d hd)

/-- A packet that is handled is the first of the news. -/
theorem Account.received_not_mem_tail (h : Account r s fresh) (g : Nat) (p : Packet) : .received g p ∉ fresh.tail := by
  have other {ds : List Deed} {b : Bool} (done : ∀ d ∈ ds, d.tellsDone = true ∧ b = true) : .received g p ∉ ds :=
    fun there => Bool.false_ne_true (done _ there).1
  cases h with
  | aside | received | connected => exact List.not_mem_nil
  | answered => simp
  | marked _ _ _ _ _ _ done => exact other done
  | expired => exact fun there => by simpa using List.mem_of_mem_tail there
  | played _ _ _ _ _ _ _ _ done => exact fun there => other done (List.mem_of_mem_tail there)

/-! ## All strides -/

/-- All along, the journal accounts for what the driver believes. -/
theorem Strides.believes (h : Strides r s) :
    ∃ ds, s.journal = r.journal ++ ds ∧ s.belief = ds.foldl Belief.after r.belief := by
  induction h with
  | refl => exact ⟨[], (List.append_nil _).symm, rfl⟩
  | @tail q s _ last ih =>
    obtain ⟨ds, journal, belief⟩ := ih
    obtain ⟨fresh, ⟨es, grown, rfl⟩, account⟩ := last.account
    refine ⟨ds ++ es, by rw [grown, journal, List.append_assoc], ?_⟩
    rw [account.believes, Belief.foldl_news, belief, List.foldl_append]

/-- Each deed of a run has been done in a stride: here is the driver before and after. -/
theorem Strides.origin (h : Strides r s) (new : r.journal = []) {before after : List Deed} {d : Deed}
    (here : s.journal = before ++ d :: after) : ∃ q t ds es, Strides r q ∧ Stride q t ∧ Strides t s ∧
      before = q.journal ++ ds ∧ t.journal = q.journal ++ (ds ++ d :: es) := by
  induction h generalizing after with
  | refl =>
    rw [new] at here
    simp at here
  | @tail q s first last ih =>
    obtain ⟨fresh, ⟨xs, grown, -⟩, -⟩ := last.account
    rw [grown] at here
    rcases List.append_eq_append_iff.1 here with ⟨ds, rfl, cut⟩ | ⟨rest, cut, later⟩
    · exact ⟨q, s, ds, after, first, last, .refl, rfl, by rw [grown, cut]⟩
    · cases rest with
      | nil =>
        rw [List.append_nil] at cut
        rw [List.nil_append] at later
        exact ⟨q, s, [], after, first, last, .refl, by rw [cut, List.append_nil], by rw [grown, ← later]; rfl⟩
      | cons e rest =>
        obtain ⟨rfl, -⟩ := List.cons.inj later
        obtain ⟨p, t, ds, es, before, here, between, split, journal⟩ := ih cut
        exact ⟨p, t, ds, es, before, here, between.tail last, split, journal⟩

/-- News in a journal has its source in a stride. -/
theorem Strides.source (h : Strides r s) (new : r.journal = []) {d : Deed} (here : s.journal = before ++ d :: after)
    (news : d.isNews = true) : ∃ q t ds es, Strides r q ∧ Source q t d ∧ Strides t s ∧
      before = q.journal ++ ds ∧ t.journal = q.journal ++ (ds ++ d :: es) := by
  obtain ⟨q, t, ds, es, first, stride, last, split, grown⟩ := h.origin new here
  obtain ⟨fresh, ⟨xs, same, rfl⟩, account⟩ := stride.account
  obtain rfl := List.append_cancel_left (same.symm.trans grown)
  refine ⟨q, t, ds, es, first, account.source d (List.mem_filter.2 ⟨?_, news⟩), last, split, grown⟩
  exact List.mem_append_right ds List.mem_cons_self

/-- A packet is handled with nothing done since the moment before, and then the run goes on. -/
theorem Strides.received (h : Strides r s) (new : r.journal = [])
    (here : s.journal = before ++ .received g p :: after) : ∃ q link, Strides r q ∧ q.journal = before ∧
      q.link? = some link ∧ link.generation = g ∧ Strides (q.handlePacket g p) s := by
  obtain ⟨q, t, ds, es, first, source, last, split, grown⟩ := h.source new here rfl
  cases source with
  | @received link hl _ same =>
    subst same
    refine ⟨q, link, first, ?_, hl, rfl, last⟩
    obtain ⟨later, ⟨xs, journal, rfl⟩, account⟩ := account_handlePacket hl p
    rw [grown] at journal
    have cut : ds ++ .received link.generation p :: es = .received link.generation p :: xs :=
      List.append_cancel_left (journal.trans (List.append_assoc _ _ _))
    cases ds with
    | nil => rw [split, List.append_nil]
    | cons d ds =>
      obtain ⟨-, rfl⟩ := List.cons.inj cut
      exact absurd (List.mem_filter.2 ⟨by simp, rfl⟩) (account.received_not_mem_tail link.generation p)

end Robot

end RobotDriver
