import Mathlib.Data.List.Induction
import RobotDriver.Proofs.Robot.Confirmed
import RobotDriver.Proofs.Robot.Listing
import RobotDriver.Proofs.Robot.Submitting
import RobotDriver.Proofs.Shadow.Latest

/-!
# What a boost comes back to

A boost rolls at full speed and schedules a roll that is to restore the motion from before, which is what the shadow
shows when the boost is asked for. `Boosted` says of every moment how far the boosts of a connection have come, and
`restored_after` what the last roll is when all of them are over: the motion from before one of them, and from before
all of them if they are `Orderly`. A boost that is asked for when the full speed of another has been confirmed takes
that for the motion from before, so that the robot goes on at full speed; `boosted_for_ever` is such a run.
-/

namespace RobotDriver

/-! ## Rolls -/

def Command.isRoll : Command → Bool
  | roll _ _ _ => true
  | _ => false

/-- The rolls among some commands. -/
def rolls (commands : List Command) : List Command :=
  commands.filter Command.isRoll

/-- The last roll among some items. -/
def lastRoll? (items : List Outbox.Item) : Option Command :=
  (rolls (items.map (·.command))).getLast?

theorem rolls_append (cs ds : List Command) : rolls (cs ++ ds) = rolls cs ++ rolls ds :=
  List.filter_append ..

theorem lastRoll?_append_of_none {more : List Outbox.Item} (none : ∀ item ∈ more, item.command.isRoll = false)
    (items : List Outbox.Item) : lastRoll? (items ++ more) = lastRoll? items := by
  have empty : rolls (more.map (·.command)) = [] := by
    refine List.filter_eq_nil_iff.2 fun c there => ?_
    obtain ⟨item, hi, rfl⟩ := List.mem_map.1 there
    simp [none item hi]
  rw [lastRoll?, List.map_append, rolls_append, empty, List.append_nil, lastRoll?]

theorem lastRoll?_concat (items : List Outbox.Item) {item : Outbox.Item} (roll : item.command.isRoll = true) :
    lastRoll? (items ++ [item]) = some item.command := by
  have one : rolls ([item].map (·.command)) = [item.command] := by simp [rolls, roll]
  rw [lastRoll?, List.map_append, rolls_append, one, List.getLast?_concat]

/-- A robot is reset by a roll among others. -/
theorem exists_lastRoll? {items : List Outbox.Item} (first : resets <+: items) : ∃ c, lastRoll? items = some c := by
  obtain ⟨others, rfl⟩ := first
  have some : rolls (resets.map (·.command)) ≠ [] := by decide
  refine ⟨_, List.getLast?_eq_some_getLast ?_⟩
  rw [List.map_append, rolls_append]
  exact fun none => some (List.append_eq_nil_iff.1 none).1

theorem rolls_eq (commands : List Command) : rolls commands = commands.filter (·.kind = .roll) :=
  List.filter_congr fun c _ => by cases c <;> rfl

/-- The motion that the shadow shows is the last roll that has been confirmed. -/
theorem motion_shadowOf (entries : List InFlight.Entry) :
    (shadowOf entries).motion = (rolls (entries.map (·.command))).getLast?.getD ({} : Shadow).motion := by
  have confirmed : shadowOf entries = ({} : Shadow).after (entries.map (·.command)) := List.foldl_map.symm
  rw [confirmed, rolls_eq]
  exact Option.some.inj (({} : Shadow).held?_after _ .roll)

/-! ## Boosts -/

/-- A boost that has been asked for. -/
structure Boost where
  /-- The number of the scheduled command that restores the motion. -/
  task : Nat
  /-- The time at which the motion is restored. -/
  ends : Nat
  /-- The motion from before. -/
  motion : Command
  deriving DecidableEq

namespace Boost

/-- What restores the motion. -/
def item (b : Boost) : Outbox.Item :=
  ⟨b.motion, true⟩

/-- The scheduled command of a boost that is not over. -/
def waiting (b : Boost) : Scheduler.Task :=
  ⟨b.item, some ⟨b.ends, none⟩, false⟩

/-- The scheduled command of a boost when the motion has been restored. -/
def restored (b : Boost) : Scheduler.Task :=
  ⟨b.item, none, false⟩

variable {s : Scheduler} (b : Boost)

theorem look_restored (going : s.stopped = false) (here : s.tasks[b.task]? = some b.restored) (rung now : Nat) :
    s.look rung now b.task = ([], none, s) := by
  simp [Scheduler.look, Scheduler.isCancelled, going, here, restored]

/-- Before its time the scheduled command of a boost goes on waiting. -/
theorem look_early (going : s.stopped = false) (here : s.tasks[b.task]? = some b.waiting) {rung : Nat}
    (early : rung < b.ends) (now : Nat) : s.look rung now b.task =
      ([], some b.ends, { s with tasks := s.tasks.modify b.task fun t => { t with timer := some ⟨b.ends, none⟩ } }) := by
  simp [Scheduler.look, Scheduler.isCancelled, going, here, waiting, Timer.fire, early]

theorem look_passed (going : s.stopped = false) (here : s.tasks[b.task]? = some b.waiting) {rung : Nat}
    (passed : b.ends ≤ rung) (now : Nat) : s.look rung now b.task =
      ([b.item], none, { s with tasks := s.tasks.modify b.task fun t => { t with timer := none } }) := by
  simp [Scheduler.look, Scheduler.isCancelled, going, here, waiting, Timer.fire, Nat.not_lt.2 passed]

end Boost

/-- `p` holds of every move of a run and the moves before it. -/
def Throughout (p : List Move → Move → Prop) (moves : List Move) : Prop :=
  ∀ before m, before ++ [m] <+: moves → p before m

theorem throughout_iff {p : List Move → Move → Prop} {moves : List Move} :
    Throughout p moves ↔ ∀ n, (h : n < moves.length) → p (moves.take n) moves[n] := by
  refine ⟨fun all n h => all _ _ ?_, fun all before m first => ?_⟩
  · rw [List.take_append_getElem h]
    exact List.take_prefix _ _
  · obtain ⟨rest, rfl⟩ := first
    have here := all before.length (by simp)
    simpa using here

instance {p : List Move → Move → Prop} [∀ before m, Decidable (p before m)] (moves : List Move) :
    Decidable (Throughout p moves) :=
  decidable_of_iff _ throughout_iff.symm

theorem Throughout.concat {p : List Move → Move → Prop} {moves : List Move} {m : Move}
    (h : Throughout p (moves ++ [m])) : Throughout p moves ∧ p moves m :=
  ⟨fun before n first => h before n (first.trans (List.prefix_append _ _)), h moves m List.prefix_rfl⟩

namespace Robot

/-- The boost that a move asks for on a connection that is in use. -/
def boostOf? (g : Nat) (r : Robot) : Move → Option Boost
  | .perform (.ask (.boost duration)) =>
    match r.session with
    | .up link =>
      if link.generation = g ∧ r.dropped = false then
        some {
          task := link.scheduler.tasks.length
          ends := Timer.deadlineAfter r.clock duration
          motion := r.shadow.motion }
      else none
    | _ => none
  | _ => none

/-- The boosts of a connection that are asked for in a run, in order. -/
def boosts (g : Nat) (r : Robot) : List Move → List Boost
  | [] => []
  | m :: moves => (boostOf? g r m).toList ++ boosts g (r.move m) moves

/-- No roll enters the queue of the connection but by boosts: not by a move that neither asks for one nor looks at the
scheduled command of one. -/
def Undisturbed (g : Nat) (r : Robot) (moves : List Move) : Prop :=
  Throughout (fun before m =>
    boostOf? g (r.after before) m = none →
    (∀ b ∈ boosts g r before, looked? g (r.after before) m ≠ some b.task) →
    ∀ item ∈ entered g (r.after before) ((r.after before).move m), item.command.isRoll = false) moves

instance (g : Nat) (r : Robot) (moves : List Move) : Decidable (Undisturbed g r moves) :=
  inferInstanceAs (Decidable (Throughout _ moves))

/-- The robot has confirmed all rolls that a connection has accepted. -/
def RollsConfirmed (g : Nat) (accepted : List Outbox.Item) (r : Robot) : Prop :=
  rolls ((confirmed g r.journal).map (·.command)) = rolls (accepted.map (·.command))

instance (g : Nat) (accepted : List Outbox.Item) (r : Robot) : Decidable (RollsConfirmed g accepted r) :=
  inferInstanceAs (Decidable (_ = _))

/-- The boosts are over. -/
def BoostsOver (g : Nat) (bs : List Boost) (r : Robot) : Prop :=
  ∀ b ∈ bs, b.ends ≤ r.rung ∧ .wake g (.timer b.task) ∉ r.ready

instance (g : Nat) (bs : List Boost) (r : Robot) : Decidable (BoostsOver g bs r) :=
  inferInstanceAs (Decidable (∀ b ∈ bs, _))

/-- Every boost is asked for while the shadow shows the motion from before all of them, or when all boosts before it are
over and all rolls have been confirmed. -/
def Orderly (g : Nat) (start : Robot) (past moves : List Move) : Prop :=
  Throughout (fun before m =>
    ∀ b ∈ boostOf? g (start.after (past ++ before)) m,
      b.motion = (start.after past).shadow.motion ∨
      BoostsOver g (boosts g (start.after past) before) (start.after (past ++ before)) ∧
        RollsConfirmed g (acceptedOn g start (past ++ before)) (start.after (past ++ before))) moves

instance (g : Nat) (start : Robot) (past moves : List Move) : Decidable (Orderly g start past moves) :=
  inferInstanceAs (Decidable (Throughout _ moves))

variable {r s : Robot} {link next : Link} {g n : Nat} {m : Move} {b : Boost} {bs : List Boost}
  {before accepted : List Outbox.Item}

theorem boosts_concat (g : Nat) (moves : List Move) (m : Move) (r : Robot) :
    boosts g r (moves ++ [m]) = boosts g r moves ++ (boostOf? g (r.after moves) m).toList := by
  induction moves generalizing r with
  | nil => exact List.append_nil _
  | cons n moves ih =>
    rw [List.cons_append, boosts, ih, boosts, List.append_assoc]
    rfl

theorem of_boostOf? (boosted : boostOf? g r m = some b) : ∃ link duration, r.session = .up link ∧
    link.generation = g ∧ r.move m = (r.boost duration).2 ∧
    b = ⟨link.scheduler.tasks.length, Timer.deadlineAfter r.clock duration, r.shadow.motion⟩ := by
  unfold boostOf? at boosted
  split at boosted
  · next duration =>
    split at boosted
    · next link hs =>
      split at boosted
      · next own =>
        refine ⟨link, duration, hs, own.1, ?_, (Option.some.inj boosted).symm⟩
        simp only [move, perform, own.2]
        rfl
      · cases boosted
    · cases boosted
  · cases boosted

/-- A boost on a connection that is in use schedules what restores the motion, behind all other commands. -/
theorem boost_of_up (gated : Gated r) (hs : r.session = .up link) (going : link.scheduler.stopped = false)
    (duration : Nat) :
    let b : Boost := ⟨link.scheduler.tasks.length, Timer.deadlineAfter r.clock duration, r.shadow.motion⟩
    ∃ next, (r.boost duration).2.session = .up next ∧ next.generation = link.generation ∧
      next.scheduler.tasks = link.scheduler.tasks ++ [b.waiting] ∧
      .wake link.generation (.timer b.task) ∈ (r.boost duration).2.ready := by
  let item : Outbox.Item := ⟨.roll r.shadow.heading .one false, true⟩
  let mid := link.sent [item]
  let timer : Timer := .once r.clock duration
  have sent : r.submit item = (true, (r.submit item).2) := Prod.ext (submit_of_connected gated hs going item) rfl
  have used : (r.submit item).2.session = .up mid := by
    rw [session_submit, hs]
    rfl
  have there : (r.submit item).2.link? = some mid := link?_of_up used
  have clock : (r.submit item).2.clock = r.clock := by
    obtain ⟨ds, -, send, ready, sent⟩ := sends_submit r item
    rw [sent]
  have planned : (r.boost duration).2 = ((r.submit item).2.plan mid ⟨r.shadow.motion, true⟩ timer).2 := by
    unfold boost
    rw [sent]
    simp only [onLink, there, clock]
    rfl
  have scheduler : mid.scheduler = link.scheduler := link.scheduler_sent _
  have generation : mid.generation = link.generation := link.generation_sent _
  rw [planned]
  refine ⟨{ mid with scheduler := (mid.scheduler.add ⟨r.shadow.motion, true⟩ timer).2 }, ?_, generation, ?_, ?_⟩
  · simp [plan, spawn, withLink, mapLink, used, Session.mapLink]
  · rw [← scheduler]
    rfl
  · rw [← scheduler, ← generation]
    exact List.mem_append_right _ List.mem_cons_self

/-! ## One boost -/

/-- The scheduled command of a boost has been sent, or it is waited for. -/
structure Tracked (b : Boost) (r : Robot) (link : Link) : Prop where
  roll : b.motion.isRoll = true
  /-- The user does not have its number. -/
  unlisted : (link.generation, b.task) ∉ r.schedule
  task : link.scheduler.tasks[b.task]? = some b.restored ∨ link.scheduler.tasks[b.task]? = some b.waiting ∧
    (.wake link.generation (.timer b.task) ∈ r.ready ∨ r.rung < b.ends ∧ (b.ends, .timer b.task) ∈ link.agenda.alarms)

namespace Tracked

theorem lt (h : Tracked b r link) : b.task < link.scheduler.tasks.length := by
  rcases h.task with restored | ⟨waiting, -⟩
  · exact (List.getElem?_eq_some_iff.1 restored).1
  · exact (List.getElem?_eq_some_iff.1 waiting).1

/-- Nothing has changed that concerns the boost. -/
theorem go (h : Tracked b r link) (unlisted : (next.generation, b.task) ∉ s.schedule)
    (generation : next.generation = link.generation)
    (same : next.scheduler.tasks[b.task]? = link.scheduler.tasks[b.task]?)
    (ready : .wake link.generation (.timer b.task) ∈ r.ready → .wake link.generation (.timer b.task) ∈ s.ready)
    (alarm : r.rung < b.ends → (b.ends, .timer b.task) ∈ link.agenda.alarms →
      .wake link.generation (.timer b.task) ∈ s.ready ∨
        s.rung < b.ends ∧ (b.ends, .timer b.task) ∈ next.agenda.alarms) : Tracked b s next := by
  refine ⟨h.roll, unlisted, ?_⟩
  rw [same, generation]
  exact h.task.imp_right fun ⟨waiting, due⟩ => ⟨waiting, due.elim (fun there => .inl (ready there)) fun ⟨early, armed⟩ =>
    alarm early armed⟩

theorem minds (h : Tracked b r link) (hs : r.session = .up link) (watched : Watched r) (minds : Minds r s)
    (up : s.session = .up next) (same : next.generation = link.generation) :
    Tracked b s next ∧ next.scheduler.tasks[b.task]? = link.scheduler.tasks[b.task]? := by
  have known : link.generation ≤ r.generations := watched.session.known (by rw [hs]; rfl)
  rcases minds.session next up with ⟨here, used, goes, rung, ready⟩ | ⟨newer, -⟩
  · obtain rfl : here = link := Session.up.inj (used.symm.trans hs)
    have still : next.scheduler.tasks[b.task]? = here.scheduler.tasks[b.task]? := by
      obtain ⟨others, tasks⟩ := goes.tasks
      rw [← tasks, List.getElem?_append_left h.lt]
    refine ⟨h.go ?_ same still (ready b.task) fun early armed => .inr ⟨rung ▸ early, goes.alarms _ armed⟩, still⟩
    rw [minds.schedule, same]
    exact h.unlisted
  · omega

/-- A move that looks at no scheduled command leaves a boost as it is. -/
theorem disposes (h : Tracked b r link) (hs : r.session = .up link) (watched : Watched r) (disposes : Disposes r s)
    (up : s.session = .up next) (same : next.generation = link.generation) :
    Tracked b s next ∧ next.scheduler.tasks[b.task]? = link.scheduler.tasks[b.task]? := by
  have hl : r.link? = some link := link?_of_up hs
  cases disposes with
  | minds minds => exact h.minds hs watched minds up same
  | @listed here hh item timer =>
    obtain rfl : here = link := Option.some.inj (hh.symm.trans hl)
    obtain ⟨planned, still⟩ := h.minds hs watched (ample_minds.plan hl item timer) up same
    refine ⟨⟨planned.roll, fun there => ?_, planned.task⟩, still⟩
    rcases List.mem_append.1 there with old | new
    · exact planned.unlisted old
    · obtain ⟨-, number⟩ := Prod.mk.inj (List.mem_singleton.1 new)
      have := h.lt
      omega
  | @cancelled here hh task listed =>
    obtain rfl : here = link := Option.some.inj (hh.symm.trans hl)
    obtain ⟨-, rfl⟩ := session_of_withLink hl up
    have other : task ≠ b.task := by
      rintro rfl
      exact h.unlisted listed
    have still : (here.scheduler.cancelTask task).tasks[b.task]? = here.scheduler.tasks[b.task]? := by
      simp [Scheduler.cancelTask, other]
    exact ⟨h.go h.unlisted rfl still id fun early armed => .inr ⟨early, armed⟩, still⟩
  | rung =>
    have rings : r.ring = { r with
        rung := r.clock
        session := .up { link with agenda := link.agenda.later r.clock }
        ready := r.ready ++ (link.agenda.due r.clock).map (.wake link.generation) } := by
      simp [Robot.ring, onLink, link?, hs, Session.link?, withLink, mapLink, Session.mapLink]
    rw [rings] at up ⊢
    obtain rfl := Session.up.inj up
    have ordered : link.agenda.Ordered := by
      have session := watched.session
      rw [hs] at session
      exact session.2.1
    refine ⟨h.go h.unlisted rfl rfl (List.mem_append_left _) fun early armed => ?_, rfl⟩
    -- The alarm goes off now if it is due.
    by_cases passed : b.ends ≤ r.clock
    · exact .inl (List.mem_append_right _ (List.mem_map_of_mem (ordered.mem_due armed passed)))
    · exact .inr ⟨Nat.lt_of_not_le passed, Agenda.mem_later armed (Nat.lt_of_not_le passed)⟩

end Tracked

/-! ## The turn of a scheduled command -/

/-- The user's commands and those of other boosts have no part in a boost. -/
theorem Tracked.turn_other (h : Tracked b r link) (hs : r.session = .up link) (gated : Gated r) {index : Nat}
    (here : r.ready[index]? = some (.wake link.generation (.timer n))) (other : n ≠ b.task)
    (up : ({ r with ready := r.ready.eraseIdx index }.runTimer link n).session = .up next)
    (same : next.generation = link.generation) :
    Tracked b ({ r with ready := r.ready.eraseIdx index }.runTimer link n) next ∧
      next.scheduler.tasks[b.task]? = link.scheduler.tasks[b.task]? := by
  let turn := link.scheduler.look r.rung r.clock n
  let mid := { r with ready := r.ready.eraseIdx index }.withLink { link with scheduler := turn.2.2 }
  have used : mid.session = .up { link with scheduler := turn.2.2 } := by
    simp [mid, withLink, mapLink, hs, Session.mapLink]
  have still : turn.2.2.tasks[b.task]? = link.scheduler.tasks[b.task]? := Scheduler.look_other _ _ _ other
  have looked : Tracked b mid { link with scheduler := turn.2.2 } :=
    h.go h.unlisted rfl still (fun there => mem_eraseIdx_of_ne there here fun same => by cases same; exact other rfl)
      fun early armed => .inr ⟨early, armed⟩
  have watched : Watched mid := by
    have session := gated.watched.session
    rw [hs] at session
    refine ⟨gated.watched.rung, ?_⟩
    rw [used]
    exact session
  have minds := (ample_minds.enqueueAll mid turn.1).trans (ample_minds.rearm _ turn.2.1 (.timer n))
  obtain ⟨tracked, kept⟩ := looked.minds used watched minds up same
  exact ⟨tracked, kept.trans still⟩

/-- The motion is restored when the time has come. -/
theorem Tracked.turn (h : Tracked b r link) (hs : r.session = .up link) (going : link.scheduler.stopped = false)
    (tasks : List Task) (up : ({ r with ready := tasks }.runTimer link b.task).session = .up next) :
    Tracked b ({ r with ready := tasks }.runTimer link b.task) next ∧
      ((link.scheduler.look r.rung r.clock b.task).1 = [] ∧
          next.scheduler.tasks[b.task]? = link.scheduler.tasks[b.task]? ∨
        (link.scheduler.look r.rung r.clock b.task).1 = [b.item]) := by
  let rest : Robot := { r with ready := tasks }
  have hl : rest.link? = some link := link?_of_up hs
  have after := session_runTimer hl b.task
  rw [show rest.session = .up link from hs] at after
  obtain rfl : link.looked r.rung r.clock b.task = next := Session.up.inj (after.symm.trans up)
  have minds : Minds (rest.withLink { link with scheduler := (link.scheduler.look r.rung r.clock b.task).2.2 })
      (rest.runTimer link b.task) := (ample_minds.enqueueAll _ _).trans (ample_minds.rearm _ _ _)
  have unlisted : ((link.looked r.rung r.clock b.task).generation, b.task) ∉ (rest.runTimer link b.task).schedule := by
    rw [minds.schedule, Link.generation_looked]
    exact h.unlisted
  have rung : (rest.runTimer link b.task).rung = r.rung := by
    obtain ⟨ds, -, tends⟩ := gentle_tends.runTimer hl b.task
    rw [tends.rest]
  have tracks (task : (link.scheduler.look r.rung r.clock b.task).2.2.tasks[b.task]? = some b.restored ∨
      (link.scheduler.look r.rung r.clock b.task).2.2.tasks[b.task]? = some b.waiting ∧ r.rung < b.ends ∧
        (b.ends, .timer b.task) ∈ (link.looked r.rung r.clock b.task).agenda.alarms) :
      Tracked b (rest.runTimer link b.task) (link.looked r.rung r.clock b.task) := by
    refine ⟨h.roll, unlisted, ?_⟩
    rw [Link.scheduler_looked, rung]
    exact task.imp_right (And.imp_right .inr)
  rcases h.task with restored | ⟨waiting, -⟩
  · have turn := b.look_restored going restored r.rung r.clock
    refine ⟨tracks (.inl ?_), .inl ⟨?_, ?_⟩⟩ <;> simp [turn, restored]
  · by_cases passed : b.ends ≤ r.rung
    · have turn := b.look_passed going waiting passed r.clock
      refine ⟨tracks (.inl ?_), .inr ?_⟩
      · simp [turn, waiting, Boost.waiting, Boost.restored]
      · simp [turn]
    · have early := Nat.lt_of_not_le passed
      have turn := b.look_early going waiting early r.clock
      have same : (link.scheduler.look r.rung r.clock b.task).2.2.tasks[b.task]? = some b.waiting := by
        simp [turn, waiting, Boost.waiting]
      refine ⟨tracks (.inr ⟨same, early, ?_⟩), .inl ⟨?_, ?_⟩⟩
      · exact (link.mem_looked _ _ _).2 (.inl ⟨b.ends, by simp [turn], rfl⟩)
      · simp [turn]
      · rw [Link.scheduler_looked, same, waiting]

/-! ## All boosts -/

/-- The boosts that have been asked for are on their way, and if none is, then the last roll of all that the connection
has accepted restores the motion from before one of them, or there has been none; `before` was accepted before them. -/
structure Boosted (g : Nat) (bs : List Boost) (before accepted : List Outbox.Item) (r : Robot) (link : Link) :
    Prop where
  up : r.session = .up link
  own : link.generation = g
  tracked : ∀ b ∈ bs, Tracked b r link
  last : (∃ b ∈ bs, link.scheduler.tasks[b.task]? = some b.waiting) ∨
    bs = [] ∧ lastRoll? accepted = lastRoll? before ∨ ∃ b ∈ bs, lastRoll? accepted = some b.motion

namespace Boosted

/-- The boosts go on as they were, and no roll has been accepted. -/
theorem go (h : Boosted g bs before accepted r link) (up : s.session = .up next) (own : next.generation = g)
    (tracked : ∀ b ∈ bs, Tracked b s next ∧ next.scheduler.tasks[b.task]? = link.scheduler.tasks[b.task]?)
    {more : List Outbox.Item} (none : ∀ item ∈ more, item.command.isRoll = false) :
    Boosted g bs before (accepted ++ more) s next := by
  refine ⟨up, own, fun b hb => (tracked b hb).1, ?_⟩
  rw [lastRoll?_append_of_none none]
  exact h.last.imp_left fun ⟨b, hb, waiting⟩ => ⟨b, hb, (tracked b hb).2.trans waiting⟩

/-- When all boosts are over, the last roll is what one of them has restored. -/
theorem ended (h : Boosted g bs before accepted r link) (ended : BoostsOver g bs r) :
    bs = [] ∧ lastRoll? accepted = lastRoll? before ∨ ∃ b ∈ bs, lastRoll? accepted = some b.motion := by
  refine h.last.resolve_left fun ⟨b, hb, waiting⟩ => ?_
  obtain ⟨passed, unready⟩ := ended b hb
  rcases (h.tracked b hb).task with restored | ⟨-, ready | ⟨early, -⟩⟩
  · rw [restored] at waiting
    cases waiting
  · exact unready (h.own ▸ ready)
  · omega

/-- A boost is asked for: its full speed enters the queue, and it is waited for. -/
theorem boost (h : Boosted g bs before accepted r link) (gated : Gated r) (listed : Listed r)
    (boosted : boostOf? g r m = some b) (accepted' : List Outbox.Item) :
    ∃ next, Boosted g (bs ++ [b]) before accepted' (r.move m) next := by
  obtain ⟨here, duration, hs, own, moved, rfl⟩ := of_boostOf? boosted
  obtain rfl : here = link := Session.up.inj (hs.symm.trans h.up)
  let b : Boost := ⟨here.scheduler.tasks.length, Timer.deadlineAfter r.clock duration, r.shadow.motion⟩
  obtain ⟨next, up, generation, tasks, ready⟩ := boost_of_up gated hs (listed.going here hs) duration
  have minds := ample_minds.boost r duration
  have waiting : next.scheduler.tasks[b.task]? = some b.waiting := by
    rw [tasks]
    exact List.getElem?_concat_length
  rw [moved]
  refine ⟨next, up, generation.trans own, fun c hc => ?_, .inl ⟨b, List.mem_concat_self, waiting⟩⟩
  rcases List.mem_append.1 hc with old | new
  · exact ((h.tracked c old).minds hs gated.watched minds up generation).1
  · rw [List.mem_singleton.1 new]
    refine ⟨rfl, fun there => ?_, .inr ⟨waiting, .inl (generation ▸ ready)⟩⟩
    -- The user has no number as high as that of the new command.
    rw [minds.schedule, generation] at there
    exact Nat.lt_irrefl _ (listed.numbers here hs _ there)

/-- A scheduled command has its turn, that of a boost or another. -/
theorem turn (h : Boosted g bs before accepted r link) (gated : Gated r) (listed : Listed r) {index : Nat}
    (here : r.ready[index]? = some (.wake link.generation (.timer n)))
    (up : ({ r with ready := r.ready.eraseIdx index }.runTimer link n).session = .up next) (own : next.generation = g)
    (undisturbed : (∀ b ∈ bs, n ≠ b.task) →
      ∀ item ∈ (link.scheduler.look r.rung r.clock n).1, item.command.isRoll = false) :
    Boosted g bs before (accepted ++ (link.scheduler.look r.rung r.clock n).1)
      ({ r with ready := r.ready.eraseIdx index }.runTimer link n) next := by
  have going := listed.going link h.up
  have same : next.generation = link.generation := own.trans h.own.symm
  have each (b : Boost) (hb : b ∈ bs) : Tracked b ({ r with ready := r.ready.eraseIdx index }.runTimer link n) next ∧
      (next.scheduler.tasks[b.task]? = link.scheduler.tasks[b.task]? ∧
          (n = b.task → (link.scheduler.look r.rung r.clock n).1 = []) ∨
        (link.scheduler.look r.rung r.clock n).1 = [b.item]) := by
    by_cases mine : n = b.task
    · subst mine
      obtain ⟨tracked, outcome⟩ := (h.tracked b hb).turn h.up going _ up
      exact ⟨tracked, outcome.imp_left fun ⟨nothing, still⟩ => ⟨still, fun _ => nothing⟩⟩
    · obtain ⟨tracked, still⟩ := (h.tracked b hb).turn_other h.up gated here mine up same
      exact ⟨tracked, .inl ⟨still, fun same => absurd same mine⟩⟩
  by_cases restores : ∃ b ∈ bs, (link.scheduler.look r.rung r.clock n).1 = [b.item]
  · obtain ⟨b, hb, sent⟩ := restores
    refine ⟨up, own, fun c hc => (each c hc).1, .inr (.inr ⟨b, hb, ?_⟩)⟩
    rw [sent]
    exact lastRoll?_concat accepted (h.tracked b hb).roll
  · have still (b : Boost) (hb : b ∈ bs) := (each b hb).2.resolve_right fun sent => restores ⟨b, hb, sent⟩
    refine h.go up own (fun b hb => ⟨(each b hb).1, (still b hb).1⟩) ?_
    by_cases mine : ∃ b ∈ bs, n = b.task
    · obtain ⟨b, hb, turn⟩ := mine
      rw [(still b hb).2 turn]
      exact List.forall_mem_nil _
    · exact undisturbed fun b hb same => mine ⟨b, hb, same⟩

/-- One move of a connection that stays in use. -/
theorem move (h : Boosted g bs before accepted r link) (gated : Gated r) (listed : Listed r)
    (single : m.isSingle = true) (up : (r.move m).session = .up next) (own : next.generation = g)
    (undisturbed : boostOf? g r m = none → (∀ b ∈ bs, looked? g r m ≠ some b.task) →
      ∀ item ∈ entered g r (r.move m), item.command.isRoll = false) :
    Boosted g (bs ++ (boostOf? g r m).toList) before (accepted ++ entered g r (r.move m)) (r.move m) next := by
  have hl : r.link? = some link := link?_of_up h.up
  have same : next.generation = link.generation := own.trans h.own.symm
  cases boosted : boostOf? g r m with
  | some b =>
    obtain ⟨after, all⟩ := h.boost gated listed boosted (accepted ++ entered g r (r.move m))
    obtain rfl : after = next := Session.up.inj (all.up.symm.trans up)
    exact all
  | none =>
    rw [Option.toList_none, List.append_nil]
    cases looked : looked? g r m with
    | none =>
      have disposes := disposes_move r single (forall_link? hl (by rw [h.own]; exact looked))
      exact h.go up own (fun b hb => (h.tracked b hb).disposes h.up gated.watched disposes up same)
        (undisturbed boosted fun b _ => by simp [looked])
    | some n =>
      rw [← h.own] at looked
      obtain ⟨index, here, moved⟩ := move_looked hl looked
      have rest : Gated { r with ready := r.ready.eraseIdx index } := by
        refine ⟨gated.watched.of_session rfl rfl rfl (Nat.le_refl _) fun _ _ closing => ?_, gated.session⟩
        rw [h.up] at closing
        cases closing
      have sent : entered g r (r.move m) = (link.scheduler.look r.rung r.clock n).1 := by
        rw [moved, ← h.own]
        exact entered_runTimer rest h.up n
      rw [sent] at undisturbed ⊢
      rw [moved] at up ⊢
      refine h.turn gated listed here up own fun others => undisturbed boosted fun b hb there => ?_
      rw [← h.own, looked] at there
      exact others b hb (Option.some.inj there)

end Boosted

/-! ## Runs -/

variable {address : String} {settings : Settings} {start : Robot}

theorem exists_up (current : ((r.current? g).isSome && r.isConnected) = true) :
    ∃ link, r.session = .up link ∧ link.generation = g := by
  obtain ⟨there, connected⟩ := Bool.and_eq_true_iff.1 current
  obtain ⟨link, hs⟩ := session_of_connected connected
  obtain ⟨other, here⟩ := Option.isSome_iff_exists.1 there
  obtain ⟨hl, own⟩ := current?_eq_some.1 here
  obtain rfl : link = other := Option.some.inj ((link?_of_up hs).symm.trans hl)
  exact ⟨link, hs, own⟩

/-- A connection that is in use after a move and is no new one was in use before it. -/
theorem session_before {w : Prop} (scribes : Scribes w accepted r s) (up : s.session = .up next)
    (old : next.generation ≤ r.generations) : ∃ link, r.session = .up link ∧ link.generation = next.generation := by
  have hn : s.link? = some next := link?_of_up up
  cases scribes.fate with
  | @stays link after _ there here generation _ _ _ _ last =>
    obtain rfl : after = next := Option.some.inj (here.symm.trans hn)
    obtain hs | ⟨closure, hs⟩ := session_of_link? there
    · exact ⟨link, hs, generation.symm⟩
    · obtain ⟨closed, -⟩ := last (by rw [hs]; rfl)
      rw [up] at closed
      cases closed
  | gone none =>
    rw [none] at hn
    cases hn
  | @begins after here newer =>
    obtain rfl : after = next := Option.some.inj (here.symm.trans hn)
    omega

/-- The boosts of a connection, from a moment at which it is in use to any later one at which it still is. -/
theorem boosted_after (made : make address settings = .ok start) {past later : List Move}
    (single : ∀ m ∈ past ++ later, m.isSingle = true) {link : Link} (there : (start.after past).session = .up link)
    (undisturbed : Undisturbed link.generation (start.after past) later) :
    link.generation ≤ (start.after (past ++ later)).generations ∧
    ∀ next, (start.after (past ++ later)).session = .up next → next.generation = link.generation →
      Boosted link.generation (boosts link.generation (start.after past) later)
        (acceptedOn link.generation start past) (acceptedOn link.generation start (past ++ later))
        (start.after (past ++ later)) next := by
  induction later using List.reverseRecOn with
  | nil =>
    rw [List.append_nil]
    refine ⟨?_, fun next up own => ⟨up, own, List.forall_mem_nil _, .inr (.inl ⟨rfl, rfl⟩)⟩⟩
    exact (watched_after made past).session.known (by rw [there]; rfl)
  | append_singleton later m ih =>
    obtain ⟨before, last⟩ := undisturbed.concat
    rw [← List.append_assoc] at single
    obtain ⟨singles, alone⟩ := List.forall_mem_append.1 single
    have alone : m.isSingle = true := alone m List.mem_cons_self
    obtain ⟨known, all⟩ := ih singles before
    have whole : start.after (past ++ (later ++ [m])) = (start.after (past ++ later)).move m := by
      rw [← List.append_assoc, after_append]
      rfl
    obtain ⟨accepted, scribed, -⟩ := ((logged_make made).after (past ++ later) singles).scribed
    have scribes := scribed.move alone
    rw [whole]
    refine ⟨Nat.le_trans known scribes.generations, fun next up own => ?_⟩
    obtain ⟨mid, used, same⟩ := session_before scribes up (own ▸ known)
    have boosted := all mid used (same.trans own)
    have listed : Listed (start.after (past ++ later)) := (listed_make made).after (gated_make made) _ singles
    have gated : Gated (start.after (past ++ later)) := (strides_after _ start).gated (gated_make made)
    have next := boosted.move gated listed alone up own (by rw [after_append]; exact last)
    rw [boosts_concat, ← List.append_assoc, acceptedOn_append _ _ (past ++ later), acceptedOn, acceptedOn,
      List.append_nil, ← after_append]
    exact next

/-- Everything that a connection in use has accepted begins with the commands that reset the robot. -/
theorem begins_with_resets (made : make address settings = .ok start) {moves : List Move}
    (single : ∀ m ∈ moves, m.isSingle = true) {link : Link} (hl : (start.after moves).link? = some link) :
    resets <+: acceptedOn link.generation start moves := by
  obtain ⟨accepted, scribed, same⟩ := ((logged_make made).after moves single).scribed
  have first := (scribed.link link hl).first
  rw [← same link hl, List.nil_append] at first
  exact first

/-- When all rolls have been confirmed, the shadow shows the last one. -/
theorem lastRoll?_of_confirmed (made : make address settings = .ok start) {moves : List Move}
    (single : ∀ m ∈ moves, m.isSingle = true) {link : Link} (hl : (start.after moves).link? = some link)
    (all : RollsConfirmed link.generation (acceptedOn link.generation start moves) (start.after moves)) :
    lastRoll? (acceptedOn link.generation start moves) = some (start.after moves).shadow.motion := by
  obtain ⟨shadow, -, latest, -⟩ := confirmed_after made moves
  obtain ⟨c, last⟩ := exists_lastRoll? (begins_with_resets made single hl)
  rw [shadow, confirmedShadow, latest link hl, Option.elim_some, motion_shadowOf, all, ← lastRoll?, last]
  rfl

/-- Boosts that are orderly restore the motion from before all of them. -/
theorem Orderly.motion (made : make address settings = .ok start) {past later : List Move}
    (single : ∀ m ∈ past ++ later, m.isSingle = true) {link : Link} (there : (start.after past).session = .up link)
    (undisturbed : Undisturbed link.generation (start.after past) later)
    (all : RollsConfirmed link.generation (acceptedOn link.generation start past) (start.after past))
    (orderly : Orderly link.generation start past later) :
    ∀ b ∈ boosts link.generation (start.after past) later, b.motion = (start.after past).shadow.motion := by
  have before : lastRoll? (acceptedOn link.generation start past) = some (start.after past).shadow.motion :=
    lastRoll?_of_confirmed made (List.forall_mem_append.1 single).1 (link?_of_up there) all
  induction later using List.reverseRecOn with
  | nil => exact List.forall_mem_nil _
  | append_singleton later m ih =>
    obtain ⟨calm, -⟩ := undisturbed.concat
    obtain ⟨first, last⟩ := Throughout.concat orderly
    rw [← List.append_assoc] at single
    obtain ⟨singles, -⟩ := List.forall_mem_append.1 single
    have earlier := ih singles calm first
    intro b hb
    rw [boosts_concat, ← after_append] at hb
    rcases List.mem_append.1 hb with old | new
    · exact earlier b old
    have boosted : boostOf? link.generation (start.after (past ++ later)) m = some b := Option.mem_toList.1 new
    rcases last b boosted with shown | ⟨ended, confirmed⟩
    · exact shown
    -- The shadow shows the last roll, which is the motion from before or what a boost has restored.
    obtain ⟨mid, duration, up, own, -, rfl⟩ := of_boostOf? boosted
    have hm : (start.after (past ++ later)).link? = some mid := link?_of_up up
    rw [← own] at confirmed
    have shown := lastRoll?_of_confirmed made singles hm confirmed
    rw [own] at shown
    rcases ((boosted_after made singles there calm).2 mid up own).ended ended with ⟨-, same⟩ | ⟨c, hc, restored⟩
    · exact Option.some.inj (shown.symm.trans (same.trans before))
    · exact (Option.some.inj (shown.symm.trans restored)).trans (earlier c hc)

/-- **What a boost comes back to**, in every run. From a moment at which a connection is in use to a later one at which
it still is, no roll enters its queue but by boosts, of any durations and at any times, and in the end all of them are
over. Then the last roll that it has accepted is the motion from before one of the boosts, if there was any. If all
rolls had been confirmed and the boosts were orderly, it is the motion that the shadow showed before all of them. What
has been accepted is what is written, what is left of the batch that is being written, and what is queued. -/
theorem restored_after (made : make address settings = .ok start) (moves : List Move) {past later : List Move}
    (cut : start.singles moves = past ++ later) {link next : Link} (there : (start.after past).session = .up link)
    (still : (start.after moves).session = .up next) (own : next.generation = link.generation)
    (undisturbed : Undisturbed link.generation (start.after past) later)
    (ended : BoostsOver link.generation (boosts link.generation (start.after past) later) (start.after moves)) :
    let g := link.generation
    let r := start.after past
    let before := acceptedOn g start past
    let accepted := acceptedOn g start (past ++ later)
    (boosts g r later = [] ∧ lastRoll? accepted = lastRoll? before ∨
      ∃ b ∈ boosts g r later, lastRoll? accepted = some b.motion) ∧
    (RollsConfirmed g before r → Orderly g start past later → lastRoll? accepted = some r.shadow.motion) ∧
    ∃ rest, next.writer.activity.pending = some rest ∧
      wireOn next.channel (start.after moves).journal ++ rest ++
        Outbox.packets (Outbox.encodable next.outbox.queue) = Outbox.packets (Outbox.encodable accepted) := by
  intro g r before accepted
  have singles : Single False (start.singles moves) := single_singles moves start nofun
  have single : ∀ m ∈ past ++ later, m.isSingle = true := fun m hm => (singles m (cut ▸ hm)).1
  have whole : start.after moves = start.after (past ++ later) := by rw [← cut, after_singles]
  rw [whole] at still ended ⊢
  have last := ((boosted_after made single there undisturbed).2 next still own).ended ended
  refine ⟨last, fun all orderly => ?_, ?_⟩
  · have motion := orderly.motion made single there undisturbed all
    rcases last with ⟨-, same⟩ | ⟨b, hb, restored⟩
    · exact same.trans (lastRoll?_of_confirmed made (List.forall_mem_append.1 single).1 (link?_of_up there) all)
    · rw [← motion b hb]
      exact restored
  · obtain ⟨log, scribed, same⟩ := ((logged_make made).after (past ++ later) single).scribed
    have hn : (start.after (past ++ later)).link? = some next := link?_of_up still
    have accounted := (scribed.link next hn).accounted
    rw [← same next hn, own, List.nil_append] at accounted
    exact accounted

/-- Two boosts at once, and when both are over and all rolls have been confirmed, a third one. -/
def thrice : List Move :=
  [.perform (.ask (.boost 100)), .perform (.ask (.boost 50)), .run 0, .run 0, .run 0, acceptances 2, .run 0, .tick 100,
    .ring, .run 0, .run 0, .run 0, acceptances 2, .run 0, .perform (.ask (.boost 10)), .run 0, .run 0, .tick 10, .ring,
    .run 0, .run 0]

theorem restored_after_thrice :
    ∃ start link next, make "00:06:66:AA:BB:CC" {} = .ok start ∧
      (start.after (start.singles inUse)).session = .up link ∧ (start.after (inUse ++ thrice)).session = .up next ∧
      next.generation = link.generation ∧
      Undisturbed link.generation (start.after (start.singles inUse)) thrice ∧
      BoostsOver link.generation (boosts link.generation (start.after (start.singles inUse)) thrice)
        (start.after (inUse ++ thrice)) ∧
      (boosts link.generation (start.after (start.singles inUse)) thrice).length = 3 ∧
      lastRoll? (acceptedOn link.generation start (start.singles inUse ++ thrice)) =
        some (start.after (start.singles inUse)).shadow.motion := by
  obtain ⟨link, there, generation⟩ :=
    exists_up (r := System.unused.after (System.unused.singles inUse)) (g := 1) (by decide +kernel)
  obtain ⟨next, still, own⟩ := exists_up (r := System.unused.after (inUse ++ thrice)) (g := 1) (by decide +kernel)
  have undisturbed : Undisturbed 1 (System.unused.after (System.unused.singles inUse)) thrice := by decide +kernel
  have ended : BoostsOver 1 (boosts 1 (System.unused.after (System.unused.singles inUse)) thrice)
      (System.unused.after (inUse ++ thrice)) := by decide +kernel
  have cut : System.unused.singles (inUse ++ thrice) = System.unused.singles inUse ++ thrice :=
    (singles_append _ _ _).trans (congrArg _ (singles_of_single (by decide) _))
  rw [← generation] at undisturbed ended own
  refine ⟨_, link, next, System.make_unused, there, still, own, undisturbed, ended, ?_,
    (restored_after System.make_unused (inUse ++ thrice) cut there still own undisturbed ended).2.1 ?_ ?_⟩ <;>
    rw [generation] <;> decide +kernel

/-- A second boost is asked for while the robot is known to go at full speed. -/
def overlapping : List Move :=
  [.perform (.ask (.boost 100)), settling, acceptances 1, settling, .perform (.advance 50),
    .perform (.ask (.boost 100)), settling, acceptances 1, settling, .perform (.advance 50), settling, acceptances 1,
    settling, .perform (.advance 50), settling, acceptances 1, settling]

/-- The second boost takes full speed for the motion from before: when both are over, with every roll confirmed and no
other asked for, the robot stands still for half the time of a boost and then goes at full speed for ever. -/
theorem boosted_for_ever :
    ∃ start, make "00:06:66:AA:BB:CC" {} = .ok start ∧
      let r := start.after inUse
      let s := r.after overlapping
      Undisturbed 1 r (r.singles overlapping) ∧ BoostsOver 1 (boosts 1 r (r.singles overlapping)) s ∧
        RollsConfirmed 1 (acceptedOn 1 start (start.singles (inUse ++ overlapping))) s ∧
        r.shadow.motion = .roll .zero .zero true ∧ s.isConnected = true ∧ s.ready = [] ∧
        lastRoll? (acceptedOn 1 start (start.singles (inUse ++ overlapping))) = some (.roll .zero .one false) :=
  ⟨_, System.make_unused, by decide +kernel⟩

end Robot

end RobotDriver
