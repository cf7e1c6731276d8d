import RobotDriver.Proofs.Agenda
import RobotDriver.Proofs.Robot.Sending
import RobotDriver.Robot.Script

/-!
# What passes between two turning points

Between the points at which the life of a connection turns, commands are sent, scheduled and cancelled, alarms are set
and go off, and bytes arrive. All of this is made of little: items are offered to a queue, a connection changes in what
does not concern its writer, tasks become ready, something is noted. A relation between states of a driver that is
`Gentle` admits these few things as long as no alarm is lost, no task and no call, and then it admits all the rest; one
that is `Lenient` cares for neither tasks nor alarms.
-/

namespace RobotDriver

/-- No more has happened to the writer than that items have been offered to its queue. -/
structure Link.Spared (before after : Link) : Prop where
  generation : after.generation = before.generation
  channel : after.channel = before.channel
  writer : ∃ items : List Outbox.Item,
    after.writer = { before.writer with outbox := items.foldl Outbox.offer before.writer.outbox }

theorem Link.Spared.of_writer {before after : Link} (generation : after.generation = before.generation)
    (channel : after.channel = before.channel) (writer : after.writer = before.writer) : before.Spared after :=
  ⟨generation, channel, [], writer⟩

theorem Link.Spared.refl (link : Link) : link.Spared link :=
  .of_writer rfl rfl rfl

theorem Link.Spared.trans {l m n : Link} (h : l.Spared m) (k : m.Spared n) : l.Spared n := by
  obtain ⟨items, first⟩ := h.writer
  obtain ⟨more, second⟩ := k.writer
  refine ⟨k.generation.trans h.generation, k.channel.trans h.channel, items ++ more, ?_⟩
  rw [second, first, List.foldl_append]

/-- The writer is spared, and no alarm is lost. -/
structure Link.Tended (before after : Link) : Prop extends before.Spared after where
  alarms : ∀ a ∈ before.agenda.alarms, a ∈ after.agenda.alarms
  ordered : before.agenda.Ordered → after.agenda.Ordered

theorem Link.Tended.of_eq {before after : Link} (generation : after.generation = before.generation)
    (channel : after.channel = before.channel) (writer : after.writer = before.writer)
    (agenda : after.agenda = before.agenda) : before.Tended after :=
  ⟨.of_writer generation channel writer, agenda ▸ fun _ there => there, agenda ▸ id⟩

theorem Link.Tended.refl (link : Link) : link.Tended link :=
  .of_eq rfl rfl rfl rfl

theorem Link.Tended.trans {l m n : Link} (h : l.Tended m) (k : m.Tended n) : l.Tended n :=
  ⟨h.toSpared.trans k.toSpared, fun a there => k.alarms a (h.alarms a there), fun first => k.ordered (h.ordered first)⟩

theorem Link.tended_arm (link : Link) (deadline : Nat) (alarm : Alarm) : link.Tended (link.arm deadline alarm) :=
  ⟨.of_writer rfl rfl rfl, fun _ there => Agenda.mem_arm.2 (.inr there), fun first => first.arm deadline alarm⟩

/-- An item enters the queue through the gate. -/
theorem Link.tended_withOutbox {link : Link} {item : Outbox.Item} {outbox : Outbox}
    (entered : link.outbox.enqueue item = .ok outbox) : link.Tended (link.withOutbox outbox) := by
  have offered : [item].foldl Outbox.offer link.writer.outbox = outbox := by
    show link.outbox.offer item = outbox
    rw [Outbox.offer, entered]
  exact ⟨⟨rfl, rfl, [item], by rw [offered]; rfl⟩, fun _ there => there, id⟩

/-- The request sends or schedules commands of the user, or it asks what the driver knows. -/
def Request.isPlain : Request → Bool
  | connect | disconnect | playMacro _ | stopMacro | afterMacro _ | cancelAfterMacro | addListener _ | registerAgain _
  | removeListener _ => false
  | _ => true

namespace Robot

/-- The relation admits what happens to a driver at one moment while the life of its connection does not turn. -/
structure Gentle (R : Robot → Robot → Prop) : Prop where
  refl : ∀ r, R r r
  trans : ∀ {r s t}, R r s → R s t → R r t
  /-- The connection changes in what does not concern its writer. -/
  mapLink : ∀ r {f : Link → Link}, (∀ link, r.link? = some link → link.Tended (f link)) → R r (r.mapLink f)
  /-- A task of the connection becomes ready. -/
  spawn : ∀ r task, isCall task = false → R r (r.spawn task)
  reschedule : ∀ r schedule, R r { r with schedule }
  refuse : ∀ r item e, R r (r.note (refusalNote item e))

/-- The relation admits what happens to a driver while the life of its connection does not turn. -/
structure Lenient (R : Robot → Robot → Prop) : Prop extends Gentle R where
  /-- The connection changes in what does not concern its writer. -/
  spare : ∀ r {f : Link → Link}, (∀ link, r.link? = some link → link.Spared (f link)) → R r (r.mapLink f)
  /-- Tasks become ready and commands are scheduled, now or when the clock has moved. -/
  arrange : ∀ r ready schedule rung, R r { r with ready, schedule, rung }
  note : ∀ r {n : Note}, n.isMilestone = false → R r (r.note n)
  mapLink r _ h := spare r fun link hl => (h link hl).toSpared
  spawn r _ _ := arrange r _ r.schedule r.rung
  reschedule r schedule := arrange r r.ready schedule r.rung
  refuse r item e := note r (isMilestone_refusalNote item e)

/-- A driver that is made has a valid address and the settings that are asked for. -/
theorem eq_of_make {address : String} {settings : Settings} {start : Robot} (made : make address settings = .ok start) :
    ∃ address, start = { address, settings, upload := idleUpload } := by
  unfold make at made
  split at made
  · cases made
  · split at made
    · cases made
    · next valid =>
      cases made
      unfold Settings.validate at valid
      split at valid
      · cases valid
      split at valid
      · cases valid
      split at valid
      · cases valid
      cases valid
      exact ⟨_, rfl⟩

/-- What is done to the connection is done to the one that is there. -/
theorem forall_link? {r : Robot} {link : Link} (hl : r.link? = some link) {p : Link → Prop} (h : p link) :
    ∀ other, r.link? = some other → p other := by
  intro other ho
  rw [hl] at ho
  cases ho
  exact h

namespace Gentle

variable {R : Robot → Robot → Prop} (h : Gentle R) {r : Robot} {link : Link}
include h

theorem withLink (next : Link) (hl : r.link? = some link) (tended : link.Tended next) : R r (r.withLink next) :=
  h.mapLink r (forall_link? hl tended)

theorem rouse (r : Robot) (task : Task) (free : isCall task = false) : R r (r.rouse task) := by
  unfold Robot.rouse
  split
  · exact h.refl r
  · exact h.spawn r task free

theorem onLink {f : Robot → Link → Robot} (hf : ∀ link, r.link? = some link → R r (f r link)) : R r (r.onLink f) :=
  onLink_cases (h.refl r) hf

theorem onCurrent (n : Nat) {f : Robot → Link → Robot} (hf : ∀ link, r.link? = some link → R r (f r link)) :
    R r (r.onCurrent n f) :=
  onCurrent_cases (h.refl r) fun link hl _ => hf link hl

theorem foldl {α : Type} {f : Robot → α → Robot} (hf : ∀ r a, R r (f r a)) (as : List α) (r : Robot) :
    R r (as.foldl f r) :=
  List.foldlRecOn as f (h.refl r) fun s hs a _ => h.trans hs (hf s a)

/-! ## Commands -/

/-- An item that enters the queue through the gate. -/
theorem requeue (hl : r.link? = some link) {item : Outbox.Item} {outbox : Outbox}
    (entered : link.outbox.enqueue item = .ok outbox) : R r (r.requeue link outbox) := by
  have queued : R r (r.withLink (link.withOutbox outbox)) := h.withLink _ hl (Link.tended_withOutbox entered)
  unfold Robot.requeue
  dsimp only
  split
  · exact h.trans queued (h.rouse _ _ rfl)
  · exact queued

theorem enqueue (r : Robot) (item : Outbox.Item) : R r (r.enqueue item).2 := by
  unfold Robot.enqueue
  split
  · exact h.refl r
  · next link hl =>
    split
    · next entered => exact h.requeue hl entered
    · exact h.refuse r _ _

theorem enqueueAll (r : Robot) (items : List Outbox.Item) : R r (r.enqueueAll items) :=
  h.foldl h.enqueue items r

theorem submit (r : Robot) (item : Outbox.Item) : R r (r.submit item).2 := by
  unfold Robot.submit
  split
  · exact h.refl r
  · split
    · exact h.refl r
    · exact h.enqueue r item

theorem send (r : Robot) (command : Command) : R r (r.send command).2 :=
  h.submit r _

theorem sendEach (commands : List Command) (r : Robot) : R r (r.sendEach commands).2 := by
  induction commands generalizing r with
  | nil => exact h.refl r
  | cons command commands ih =>
    have first := h.send r command
    unfold Robot.sendEach
    split
    · next next e =>
      rw [e] at first
      exact h.trans first (ih next)
    · next next e =>
      rw [e] at first
      exact first

/-! ## Schedules and alarms -/

theorem plan (hl : r.link? = some link) (item : Outbox.Item) (timer : Timer) : R r (r.plan link item timer).2 :=
  h.trans (h.withLink { link with scheduler := (link.scheduler.add item timer).2 } hl (.of_eq rfl rfl rfl rfl))
    (h.spawn _ _ rfl)

theorem schedulePlan (r : Robot) (command : Command) (timer : Timer) : R r (r.schedulePlan command timer).2 := by
  unfold Robot.schedulePlan
  split
  · exact h.refl r
  · next link hl => exact h.trans (h.plan hl ⟨command, false⟩ timer) (h.reschedule _ _)

theorem cancelPlan (r : Robot) (number : Nat) : R r (r.cancelPlan number) := by
  unfold Robot.cancelPlan
  split
  · exact h.refl r
  · exact h.onCurrent _ fun _ hl => h.withLink _ hl (.of_eq rfl rfl rfl rfl)

theorem boost (r : Robot) (duration : Nat) : R r (r.boost duration).2 := by
  have first := h.submit r ⟨.roll r.shadow.heading .one false, true⟩
  unfold Robot.boost
  dsimp only
  split
  · next next e =>
    rw [e] at first
    exact first
  · next next e =>
    rw [e] at first
    dsimp only at first ⊢
    exact h.trans first (h.onLink fun link hl => h.plan hl _ _)

theorem rearm (r : Robot) (deadline : Option Nat) (alarm : Alarm) : R r (r.rearm deadline alarm) := by
  unfold Robot.rearm
  split
  · exact h.refl r
  · exact h.mapLink r fun link _ => link.tended_arm _ _

theorem runTimer (hl : r.link? = some link) (task : Nat) : R r (r.runTimer link task) := by
  have looked := h.withLink { link with scheduler := (link.scheduler.look r.rung r.clock task).2.2 } hl
    (.of_eq rfl rfl rfl rfl)
  exact h.trans (h.trans looked (h.enqueueAll _ _)) (h.rearm _ _ _)

theorem launch (r : Robot) (n : Nat) : R r (r.launch n) := by
  have reset : R r ((r.spawn (.write n)).spawn (.read n)).sendReset :=
    h.trans (h.trans (h.spawn _ _ rfl) (h.spawn _ _ rfl)) (h.enqueueAll _ _)
  refine h.trans (h.trans reset (h.onLink fun link hl => h.plan hl _ _)) (h.onLink fun link _ => ?_)
  unfold planSweep
  split
  · exact h.spawn _ _ rfl
  · exact h.refl _

theorem ask (r : Robot) {request : Request} (plain : request.isPlain = true) : R r (r.ask request).2 := by
  cases request with
  | shadow | name | address | state | settings | describe => exact h.refl r
  | send | roll | rotate | stopMotors | setRgbLed | setFrontLed | setRotationRate | stabilization | setName | sleep
  | jumpToBootloader => exact h.send r _
  | calibrate | resetHeading => exact h.sendEach _ r
  | refreshName => exact h.submit r _
  | boost duration => exact h.boost r duration
  | after | periodic => exact h.schedulePlan r _ _
  | _ => cases plain

/-! ## The channel -/

theorem onChannel (r : Robot) (channel : Option Nat) {f : Robot → Link → Robot}
    (hf : ∀ link, r.link? = some link → R r (f r link)) : R r (r.onChannel channel f) :=
  onChannel_cases (h.refl r) hf

theorem arrive (hl : r.link? = some link) (arrivals : List Arrival) : R r (r.arrive arrivals link) :=
  h.trans (h.withLink (link.arrive arrivals) hl (.of_eq rfl rfl rfl rfl)) (h.rouse _ _ rfl)

/-- Whoever admits that a channel comes to take bytes in another way admits that its writer is woken for it. -/
theorem changeSink {sink : Sink} (changed : R r (r.withLink { link with writer := { link.writer with sink } })) :
    R r (r.changeSink sink link) := by
  unfold Robot.changeSink
  dsimp only
  split
  · exact h.trans changed (h.rouse _ _ rfl)
  · exact changed

end Gentle

theorem Lenient.ring {R : Robot → Robot → Prop} (h : Lenient R) (r : Robot) : R r r.ring := by
  unfold Robot.ring
  refine h.trans (h.arrange r r.ready r.schedule r.clock) (h.onLink fun link hl => ?_)
  have later := h.spare { r with rung := r.clock } (f := fun _ => { link with agenda := link.agenda.later r.clock })
    (forall_link? hl (.of_writer rfl rfl rfl))
  exact h.trans later (h.arrange _ _ _ _)

end Robot

end RobotDriver
