import RobotDriver.Proofs.Robot.Watching

/-!
# The strides of a run

A run can be told in strides. A stride is a packet that is handled, a search that gives up overdue answers, a channel
that is taken into use or a change of the macro that the user asks for; in between, what the driver knows of the robot
and of its macro abides. `strides_after` tells every run so.
-/

namespace RobotDriver

namespace Deed

/-- The deed tells of a packet, of a command that no longer awaits its answer, of a new connection or of the end of a
macro. -/
def isNews : Deed → Bool
  | received _ _ | answered _ _ _ | expired _ _ | noted (.connected _ _) | reported (.event .macroDone) _ => true
  | _ => false

theorem isNews_of_isCalm {d : Deed} (h : d.isCalm = true) : d.isNews = false := by
  cases d with
  | noted n => cases n <;> first | rfl | cases h
  | _ => first | rfl | cases h

theorem isNews_of_isSilent {d : Deed} (h : d.isSilent = true) : d.isNews = false := by
  cases d with
  | told => rfl
  | _ => exact isNews_of_isCalm h

end Deed

/-- The deeds that are news, in order. -/
def news (ds : List Deed) : List Deed :=
  ds.filter Deed.isNews

theorem news_append (xs ys : List Deed) : news (xs ++ ys) = news xs ++ news ys :=
  List.filter_append xs ys

theorem news_eq_nil {ds : List Deed} (h : ∀ d ∈ ds, d.isNews = false) : news ds = [] :=
  List.filter_eq_nil_iff.2 fun d hd => by simp [h d hd]

theorem Telling.news {report : Report} {hearers : List Nat} {ds : List Deed} (h : Telling report hearers ds) :
    news ds = news [.reported report hearers] := by
  obtain ⟨rest, _, silent⟩ := h
  have none : RobotDriver.news rest = [] := news_eq_nil fun d hd => Deed.isNews_of_isSilent (silent d hd)
  rw [← List.singleton_append, news_append, none, List.append_nil]

namespace Robot

variable {r s t : Robot} {link : Link} {ds fresh later : List Deed}

/-! ## What abides -/

/-- From `r` to `s` these deeds are the news. -/
def Brings (r : Robot) (fresh : List Deed) (s : Robot) : Prop :=
  ∃ ds, s.journal = r.journal ++ ds ∧ news ds = fresh

theorem Brings.trans (h : Brings r fresh s) (k : Brings s later t) : Brings r (fresh ++ later) t := by
  obtain ⟨ds, hs, rfl⟩ := h
  obtain ⟨es, ht, rfl⟩ := k
  exact ⟨ds ++ es, by rw [ht, hs, List.append_assoc], news_append ds es⟩

/-- Nothing new becomes known of the robot and of its macro. -/
structure Abides (r s : Robot) : Prop where
  shadow : s.shadow = r.shadow
  name : s.name = r.name
  upload : s.upload = r.upload
  brings : Brings r [] s

theorem Abides.of_eq (shadow : s.shadow = r.shadow) (name : s.name = r.name) (upload : s.upload = r.upload)
    (journal : s.journal = r.journal) : Abides r s :=
  ⟨shadow, name, upload, [], by rw [journal, List.append_nil], rfl⟩

theorem Abides.refl (r : Robot) : Abides r r :=
  .of_eq rfl rfl rfl rfl

theorem Abides.trans (h : Abides r s) (k : Abides s t) : Abides r t :=
  ⟨k.shadow.trans h.shadow, k.name.trans h.name, k.upload.trans h.upload, h.brings.trans k.brings⟩

theorem abides_recordAll (r : Robot) (old : ∀ d ∈ ds, d.isNews = false) : Abides r (r.recordAll ds) :=
  ⟨rfl, rfl, rfl, ds, rfl, news_eq_nil old⟩

theorem abides_record (r : Robot) {d : Deed} (old : d.isNews = false) : Abides r (r.record d) :=
  abides_recordAll r (List.forall_mem_singleton.2 old)

theorem abides_note (r : Robot) {n : Note} (old : (Deed.noted n).isNews = false) : Abides r (r.note n) :=
  abides_record r old

theorem lenient_abides : Lenient Abides where
  refl := .refl
  trans := .trans
  spare _ _ _ := .of_eq rfl rfl rfl rfl
  arrange _ _ _ _ := .of_eq rfl rfl rfl rfl
  note r _ calm := abides_note r (Deed.isNews_of_isCalm (by simp [Deed.isCalm, calm]))

/-- Sending and telling change nothing of what is known. -/
theorem Sends.knows (h : Sends r ds s) : s.shadow = r.shadow ∧ s.name = r.name ∧ s.upload = r.upload := by
  obtain ⟨send, ready, rfl⟩ := h
  exact ⟨rfl, rfl, rfl⟩

theorem SendsCalmly.abides (h : SendsCalmly r s) : Abides r s := by
  obtain ⟨ds, calm, sent⟩ := h
  obtain ⟨shadow, name, upload⟩ := sent.knows
  exact ⟨shadow, name, upload, ds, sent.journal, news_eq_nil fun d hd => Deed.isNews_of_isCalm (calm d hd)⟩

/-- A report that is no news is told by the way. -/
theorem abides_tell (r : Robot) {report : Report} (old : ∀ hearers, (Deed.reported report hearers).isNews = false) :
    Abides r (r.tell report) := by
  obtain ⟨ds, telling, sent⟩ := sends_tell r report
  obtain ⟨shadow, name, upload⟩ := sent.knows
  refine ⟨shadow, name, upload, ds, sent.journal, ?_⟩
  rw [telling.news]
  exact news_eq_nil (List.forall_mem_singleton.2 (old _))

/-! ## The end of a connection -/

theorem abides_release (r : Robot) : Abides r r.release := by
  rw [release_eq]
  exact .of_eq rfl rfl rfl rfl

theorem abides_part (r : Robot) {n : Note} {e : Event} (noted : (Deed.noted n).isNews = false)
    (told : ∀ hearers, (Deed.reported (.event e) hearers).isNews = false) : Abides r (r.part n e) :=
  ((abides_release r).trans (abides_note _ noted)).trans (abides_tell _ told)

theorem abides_finishDisconnect (r : Robot) : Abides r r.finishDisconnect := by
  unfold finishDisconnect
  split
  · exact abides_part r rfl fun _ => rfl
  · exact .refl r

theorem abides_connectionLost (r : Robot) (cause : TransportError) : Abides r (r.connectionLost cause) := by
  unfold connectionLost
  split
  · exact .refl r
  · exact abides_part r rfl fun _ => rfl
  · exact abides_part r rfl fun _ => rfl

theorem abides_shutdownEcho (r : Robot) : Abides r r.shutdownEcho := by
  unfold shutdownEcho
  split
  · split
    · exact abides_finishDisconnect r
    · exact .of_eq rfl rfl rfl rfl
  · exact .refl r

theorem abides_beginDisconnect (r : Robot) (link : Link) (waiter : Option Nat) :
    Abides r (r.beginDisconnect link waiter) := by
  let shut : Robot := { r with session := .closing link.shut { waiter } }
  have closed : Abides r shut := .of_eq rfl rfl rfl rfl
  have forced : Abides shut ((shut.force finalStop).force finalDark) :=
    ((sends_force shut finalStop).trans (sends_force _ finalDark)).abides
  exact ((closed.trans forced).trans (abides_note _ rfl)).trans (.of_eq rfl rfl rfl rfl)

theorem abides_closeBeforeSleep (r : Robot) (command : Command) : Abides r (r.closeBeforeSleep command) := by
  unfold closeBeforeSleep
  split
  · exact abides_beginDisconnect r _ none
  · exact abides_beginDisconnect r _ none
  · exact .refl r

theorem abides_graceOver (r : Robot) : Abides r r.graceOver := by
  exact graceOver_cases (.refl r) (fun _ _ _ _ => (abides_note r rfl).trans (abides_finishDisconnect _))
    fun _ _ _ _ => .of_eq rfl rfl rfl rfl

/-! ## Tasks -/

theorem abides_takeEmission (link : Link) (r : Robot) (emission : Outbox.Emission) :
    Abides r (takeEmission link r emission) := by
  cases emission with
  | dropped command e => exact abides_note r rfl
  | registered batch =>
    refine lenient_abides.foldl (fun r item => ?_) batch r
    have entered (inFlight : InFlight) : Abides r { r with inFlight } := .of_eq rfl rfl rfl rfl
    exact (entered _).trans (abides_record _ rfl)
  | wrote bytes => exact abides_record r rfl

theorem abides_runWriter (r : Robot) (link : Link) : Abides r (r.runWriter link) := by
  have worked : Abides r (r.withLink { link with writer := (link.writer.work false false).1 }) := .of_eq rfl rfl rfl rfl
  have taken := worked.trans (lenient_abides.foldl (abides_takeEmission link) (link.writer.work false false).2 _)
  unfold runWriter checkWriter
  dsimp only
  split
  · exact (taken.trans (abides_record _ rfl)).trans (abides_connectionLost _ _)
  · exact taken

theorem abides_finish (r : Robot) (call : Nat) (outcome : Outcome) : Abides r (r.finish call outcome) :=
  abides_record r rfl

theorem abides_disconnectCall (r : Robot) (call : Nat) : Abides r (r.disconnectCall call) := by
  unfold disconnectCall
  split
  · exact abides_beginDisconnect r _ _
  · exact ((abides_note r rfl).trans (abides_tell _ fun _ => rfl)).trans (abides_finish _ call _)

/-! ## Moves -/

theorem abides_quit (r : Robot) : Abides r r.quit := by
  have abandoned : Abides r r.abandonCalls := .of_eq rfl rfl rfl rfl
  have noted : Abides r.abandonCalls r.abandonCalls.noteDrop := onLink_cases (.refl _) fun _ _ => abides_note _ rfl
  exact (abandoned.trans noted).trans (.of_eq rfl rfl rfl rfl)

/-! ## Strides -/

/-- Whatever happens in between, something may become known only in one of these. -/
inductive Stride (r : Robot) : Robot → Prop
  | aside {s : Robot} (abides : Abides r s) (passages : Relation.ReflTransGen (Passage False) r s) : Stride r s
  | handled {link : Link} (hl : r.link? = some link) (p : Packet) : Stride r (r.handlePacket link.generation p)
  /-- Answers are given up, as the settings ask for. -/
  | swept {link : Link} (hl : r.link? = some link) {timeout : Nat} (asked : r.settings.responseTimeout = some timeout) :
      Stride r (r.giveUpOverdue link.generation timeout)
  /-- A channel is taken into use, or comes too late. -/
  | opened : Stride r (r.takeChannel.2.2.start r.takeChannel.1 r.takeChannel.2.1).2
  | played (m : Macro) : Stride r (r.playMacro m).2
  | stopped : Stride r r.stopMacro
  | followed {upload : Macro.Upload}
      (later : (∃ command, upload = r.upload.sendAfter command) ∨ upload = r.upload.clearAfter) :
      Stride r { r with upload }

/-- Strides one after the other. -/
abbrev Strides : Robot → Robot → Prop :=
  Relation.ReflTransGen Stride

theorem Stride.passages (h : Stride r s) : Relation.ReflTransGen (Passage False) r s := by
  cases h with
  | aside abides passages => exact passages
  | handled hl p => exact passages_acts (acts_handlePacket hl p)
  | swept hl => exact passages_acts (acts_giveUpOverdue hl _)
  | opened => exact passages_acts (acts_start r)
  | played m => exact passages_acts (acts_playMacro trivial r m)
  | stopped => exact passages_acts (acts_stopMacro trivial r)
  | followed later => exact passages_acts (.single (.followed later))

theorem strides_aside (abides : Abides r s) (acts : Acts Privilege.all r s) : Strides r s :=
  .single (.aside abides (passages_acts acts))

theorem strides_onCurrent (g : Nat) {f : Robot → Link → Robot}
    (hf : ∀ link, r.link? = some link → Strides r (f r link)) : Strides r (r.onCurrent g f) :=
  onCurrent_cases .refl fun link hl _ => hf link hl

theorem strides_handleFrames (g : Nat) (frames : List Frame) (r : Robot) : Strides r (r.handleFrames g frames) := by
  refine handleFrames_induction .refl (fun s link frame h hl => h.trans ?_) frames
  cases frame with
  | skipped header => exact strides_aside (abides_note s rfl) (acts_tends (tends_note s _ rfl))
  | packet packet => exact .single (.handled hl packet)

theorem strides_handleArrival (hl : r.link? = some link) (arrival : Arrival) :
    Strides r (r.handleArrival link arrival) := by
  have lost (d : Deed) (old : d.isNews = false) {cause : TransportError} (failed : Failure link.generation d cause) :
      Strides r ((r.record d).connectionLost cause) :=
    strides_aside ((abides_record r old).trans (abides_connectionLost _ cause))
      (.single (act_connectionLost hl (.inl rfl) failed))
  cases arrival with
  | bytes chunk =>
    have taken : Strides r (r.record (.took link.generation (.bytes chunk))) :=
      strides_aside (abides_record r rfl) (.single (.took hl chunk))
    have buffered (r : Robot) (buffer : Bytes) : Strides r (r.mapLink fun link => { link with buffer }) :=
      strides_aside (.of_eq rfl rfl rfl rfl) (acts_tends (tends_mapLink r fun _ _ => .of_eq rfl rfl rfl rfl))
    exact (taken.trans (buffered _ _)).trans (strides_handleFrames _ _ _)
  | ended => exact lost _ rfl (.ended link.buffer)
  | failed fault => exact lost _ rfl (.read fault)

theorem strides_runReader (r : Robot) (link : Link) : Strides r (r.runReader link) := by
  have emptied : Strides r (r.mapLink fun link => { link with inbox := [] }) :=
    strides_aside (.of_eq rfl rfl rfl rfl) (acts_tends (tends_mapLink r fun _ _ => .of_eq rfl rfl rfl rfl))
  exact runReader_induction emptied fun _ _ arrival h hl => h.trans (strides_handleArrival hl arrival)

theorem strides_runSweep (hl : r.link? = some link) : Strides r (r.runSweep link) := by
  have tended (sweep : Option Timer) := gentle_tends.withLink { link with sweep } hl (.of_eq rfl rfl rfl rfl)
  have looked (sweep : Option Timer) : Strides r (r.withLink { link with sweep }) :=
    strides_aside (.of_eq rfl rfl rfl rfl) (acts_tends (tended sweep))
  have rearmed (s : Robot) (deadline : Option Nat) : Strides s (s.rearm deadline .sweep) :=
    strides_aside (lenient_abides.rearm _ _ _) (acts_tends (gentle_tends.rearm _ _ _))
  refine runSweep_cases .refl (fun sweep _ => (looked sweep).trans (rearmed _ _)) fun timeout asked sweep _ => ?_
  obtain ⟨ds, -, tends⟩ := tended sweep
  obtain ⟨next, hn, same⟩ := tends.link? hl
  have swept : Stride _ _ := .swept hn asked
  rw [same.generation] at swept
  exact ((looked sweep).tail swept).trans (rearmed _ _)

theorem strides_dial (r : Robot) (call : Nat) : Strides r (r.dial call) := by
  have finished (s : Robot) (outcome : Outcome) : Stride s (s.finish call outcome) :=
    .aside (abides_finish s call outcome) (passages_acts (.single (.finished call outcome)))
  unfold dial
  split
  · refine Relation.ReflTransGen.tail (strides_aside ?_ (acts_tends ?_)) (finished _ _)
    · exact (abides_note r rfl).trans (abides_tell _ fun _ => rfl)
    · exact (tends_note r _ rfl).trans (tends_tell_aside _ fun _ => rfl)
  · exact .tail (.single .opened) (finished _ _)

theorem strides_connectCall (r : Robot) (call : Nat) : Strides r (r.connectCall call) := by
  unfold connectCall
  split
  · exact strides_aside ((abides_note r rfl).trans (abides_finish _ call _))
      ((acts_tends (tends_note r _ rfl)).tail (.finished call _))
  · dsimp only
    have noted : Abides r (r.note (.connecting r.address.digits)).noteDialled :=
      (abides_note r rfl).trans (.of_eq rfl rfl rfl rfl)
    have dialled : Strides r (r.note (.connecting r.address.digits)).noteDialled :=
      strides_aside noted ((acts_tends (tends_note r _ rfl)).trans (acts_withDialler _ _ rfl))
    split
    · exact dialled.trans (strides_aside (.of_eq rfl rfl rfl rfl) (acts_withDialler _ _ rfl))
    · exact dialled.trans (strides_dial _ call)

theorem strides_run {index : Nat} {task : Task} (here : r.ready[index]? = some task) :
    Strides r ({ r with ready := r.ready.eraseIdx index }.run task) := by
  let rest : Robot := { r with ready := r.ready.eraseIdx index }
  have erased : Abides r rest := .of_eq rfl rfl rfl rfl
  have taken (other : ∀ g, task ≠ .wake g .grace) (unfinished : ∀ call, task ≠ .disconnected call) : Strides r rest :=
    strides_aside erased (.single (.taken here (fun link _ _ => other link.generation) unfinished))
  have aside (abides : Abides rest (rest.run task)) : Strides r (rest.run task) :=
    strides_aside (erased.trans abides) (acts_run here (fun _ _ => trivial) fun _ _ => trivial)
  cases task with
  | connect call => exact (taken (fun _ => nofun) fun _ => nofun).trans (strides_connectCall _ call)
  | dial call => exact (taken (fun _ => nofun) fun _ => nofun).trans (strides_dial _ call)
  | disconnect call => exact aside (abides_disconnectCall rest call)
  | disconnected call => exact aside (abides_finish rest call _)
  | write g => exact aside (lenient_abides.onCurrent g fun _ _ => abides_runWriter _ _)
  | read g =>
    exact (taken (fun _ => nofun) fun _ => nofun).trans (strides_onCurrent g fun _ _ => strides_runReader _ _)
  | wake g alarm =>
    cases alarm with
    | timer number =>
      exact aside (lenient_abides.onCurrent g (f := fun r link => r.runTimer link number) fun _ hl =>
        lenient_abides.runTimer hl number)
    | sweep =>
      refine (taken (fun _ => nofun) fun _ => nofun).trans ?_
      exact strides_onCurrent g (f := fun r link => r.runSweep link) fun _ hl => strides_runSweep hl
    | grace => exact aside (lenient_abides.onCurrent g (f := fun r _ => r.graceOver) fun _ _ => abides_graceOver _)

theorem strides_ask (r : Robot) (request : Request) : Strides r (r.ask request).2 := by
  have aside (abides : Abides r (r.ask request).2) : Strides r (r.ask request).2 :=
    strides_aside abides (acts_ask r request fun _ => trivial)
  cases request with
  | connect | disconnect | addListener | registerAgain | removeListener => exact aside (.of_eq rfl rfl rfl rfl)
  | playMacro m =>
    rw [ask_playMacro]
    exact .single (.played m)
  | stopMacro => exact .single .stopped
  | afterMacro command => exact .single (.followed (.inl ⟨command, rfl⟩))
  | cancelAfterMacro => exact .single (.followed (.inr rfl))
  | _ => exact aside (lenient_abides.ask r rfl)

theorem strides_perform (r : Robot) {step : Step} (single : step.isSingle = true) : Strides r (r.perform step).2 := by
  have aside (abides : Abides r (r.perform step).2) : Strides r (r.perform step).2 :=
    strides_aside abides (acts_perform r single fun _ => trivial)
  cases step with
  | ask request =>
    simp only [Robot.perform]
    split
    · refine strides_aside ?_ (acts_askDropped r request)
      unfold askDropped
      split
      · exact .of_eq rfl rfl rfl rfl
      · exact .refl r
    · exact strides_ask r request
  | cancelTask task => exact aside (lenient_abides.cancelPlan r task)
  | arrive channel arrivals =>
    exact aside (lenient_abides.onChannel r channel (f := fun r link => r.arrive arrivals link) fun _ hl =>
      lenient_abides.arrive hl arrivals)
  | changeSink sink =>
    exact aside (lenient_abides.onChannel r none (f := fun r link => r.changeSink sink link) fun _ _ =>
      lenient_abides.changeSink (.of_eq rfl rfl rfl rfl))
  | changeNextSink | refuse | hold | release => exact aside (.of_eq rfl rfl rfl rfl)
  | tasks | dialled | settle => exact .refl
  | advance | group | drop => cases single

theorem strides_move (r : Robot) {m : Move} (single : m.isSingle = true) : Strides r (r.move m) := by
  cases m with
  | perform step => exact strides_perform r single
  | run index =>
    simp only [Robot.move]
    split
    · exact .refl
    · next task here => exact strides_run here
  | tick ms => exact .single (.aside (.of_eq rfl rfl rfl rfl) (.single (.tick ms)))
  | ring => exact .single (.aside (lenient_abides.ring r) (.single .ring))
  | abandon => exact .single (.aside (.of_eq rfl rfl rfl rfl) (.single (.abandon not_false)))
  | quit => exact .single (.aside (abides_quit r) (.single (.quit not_false)))

/-- Every run is made of strides. -/
theorem strides_after (moves : List Move) (r : Robot) : Strides r (r.after moves) :=
  singly_after False (fun before single _ => before.trans (strides_move _ single)) .refl moves False.elim

/-- What every passage keeps holds after all strides. -/
theorem Strides.keeps {P : Robot → Prop} (strides : Strides r s)
    (passage : ∀ {r s}, P r → Passage False r s → P s) (start : P r) : P s := by
  have along {q t : Robot} (passages : Relation.ReflTransGen (Passage False) q t) (held : P q) : P t := by
    induction passages with
    | refl => exact held
    | tail _ last ih => exact passage ih last
  induction strides with
  | refl => exact start
  | tail _ last ih => exact along last.passages ih

end Robot

end RobotDriver
