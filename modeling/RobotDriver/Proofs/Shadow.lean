import Mathlib.Data.List.Nodup
import RobotDriver.Shadow

/-!
# What the reset sequence brings back

The shadow tracks five kinds of commands. The reset sequence repeats three of them: played to a robot in any state, it
sets the roll, the colour and the front light and leaves the rotation rate and the motors as they are
(`after_resetSequence`). So what a robot has after it is what it would have if the commands of the other two kinds had
never been confirmed (`settled_after`). The commands of the sequence write different fields, so their order is of no
account (`after_perm`).
-/

namespace RobotDriver

/-- Of the tracked commands, those that the reset sequence does not repeat. -/
def Command.isTransient : Command → Bool
  | .rotationRate _ | .rawMotor _ _ => true
  | _ => false

namespace Shadow

/-- The state after some confirmed commands. -/
def after (s : Shadow) (commands : List Command) : Shadow :=
  commands.foldl apply s

/-- The state with the rotation rate and the motors of a robot that was just switched on. -/
def settled (s : Shadow) : Shadow :=
  { s with rotationRate := .zero, left := ⟨.forward, 0⟩, right := ⟨.forward, 0⟩ }

theorem settled_eq_iff {s : Shadow} :
    s.settled = s ↔ s.rotationRate = .zero ∧ s.left = ⟨.forward, 0⟩ ∧ s.right = ⟨.forward, 0⟩ := by
  constructor
  · intro same
    rw [← same]
    exact ⟨rfl, rfl, rfl⟩
  · obtain ⟨heading, velocity, rotationRate, stopped, left, right, red, green, blue, front⟩ := s
    rintro ⟨rfl, rfl, rfl⟩
    rfl

/-- Each command of the sequence sets its own fields, whatever the state it is played to. -/
theorem after_resetSequence (s t : Shadow) :
    t.after s.resetSequence = { s with rotationRate := t.rotationRate, left := t.left, right := t.right } := rfl

theorem settled_apply (s : Shadow) (c : Command) :
    (s.apply c).settled = if c.isTransient then s.settled else s.settled.apply c := by
  cases c <;> rfl

/-- What is settled does not depend on the commands that are not repeated. -/
theorem settled_after (s : Shadow) (commands : List Command) :
    (s.after commands).settled = s.settled.after (commands.filter (!·.isTransient)) := by
  induction commands generalizing s with
  | nil => rfl
  | cons c commands ih =>
    have rest : (s.after (c :: commands)).settled = (s.apply c).settled.after (commands.filter (!·.isTransient)) := ih _
    rw [rest, settled_apply]
    cases transient : c.isTransient with
    | true => rw [List.filter_cons_of_neg (by simp [transient]), if_pos rfl]
    | false =>
      rw [List.filter_cons_of_pos (by simp [transient]), if_neg Bool.false_ne_true]
      rfl

/-- Commands of different kinds write different fields. -/
theorem apply_comm (s : Shadow) {c d : Command} (other : c.kind ≠ d.kind) :
    (s.apply c).apply d = (s.apply d).apply c := by
  cases c <;> cases d <;> first | rfl | exact absurd rfl other

/-- Commands of which no two are of one kind may come in any order. -/
theorem after_perm {commands sequence : List Command} (kinds : (commands.map (·.kind)).Nodup)
    (order : sequence.Perm commands) (s : Shadow) : s.after sequence = s.after commands := by
  refine (order.symm.foldl_eq' ?_ s).symm
  intro c hc d hd t
  by_cases same : c.kind = d.kind
  · rw [List.inj_on_of_nodup_map kinds hc hd same]
  · exact t.apply_comm same

/-- **What the reset sequence brings back.** Played in any order to a robot in any state, the reset sequence of a shadow
brings back all of the shadow but the rotation rate and the motors. Played to a robot that was just switched on, it leads
to the shadow of the commands without those two kinds, whatever commands were confirmed. That is the whole shadow if and
only if the rotation rate and the motors are those of a robot that was just switched on. -/
theorem resetSequence_restores (commands sequence : List Command) :
    let s := ({} : Shadow).after commands
    sequence.Perm s.resetSequence →
      (∀ t : Shadow, t.after sequence = { s with rotationRate := t.rotationRate, left := t.left, right := t.right }) ∧
      ({} : Shadow).after sequence = ({} : Shadow).after (commands.filter (!·.isTransient)) ∧
      (({} : Shadow).after sequence = s ↔
        s.rotationRate = .zero ∧ s.left = ⟨.forward, 0⟩ ∧ s.right = ⟨.forward, 0⟩) := by
  intro s order
  have replay (t : Shadow) : t.after sequence = t.after s.resetSequence :=
    after_perm (by simp [resetSequence, motion, Command.kind]) order t
  have fresh : ({} : Shadow).after sequence = s.settled := replay {}
  refine ⟨fun t => (replay t).trans (s.after_resetSequence t), ?_, ?_⟩
  · rw [fresh]
    exact settled_after {} commands
  · rw [fresh]
    exact settled_eq_iff

/-- After a roll, a rotation rate and a colour, the sequence played backwards brings back the roll and the colour. -/
theorem resetSequence_restores_backwards :
    let commands : List Command :=
      [.roll ⟨0x42b40000⟩ ⟨0x3f000000⟩ false, .rotationRate ⟨0x3f000000⟩, .ping, .rgbLed 1 2 3]
    let s := ({} : Shadow).after commands
    s.resetSequence.reverse.Perm s.resetSequence ∧
    ({} : Shadow).after s.resetSequence.reverse =
      { heading := ⟨0x42b40000⟩, velocity := ⟨0x3f000000⟩, stopped := false, red := 1, green := 2, blue := 3 } ∧
    ({} : Shadow).after s.resetSequence.reverse ≠ s := by
  intro commands s
  have order := s.resetSequence.reverse_perm
  obtain ⟨-, rest, whole⟩ := resetSequence_restores commands s.resetSequence.reverse order
  refine ⟨order, rest.trans (by decide), ?_⟩
  rw [ne_eq, whole]
  decide

/-- A rotation rate that was confirmed is not brought back. -/
theorem resetSequence_forgets_rotation :
    ¬ ∀ commands : List Command,
      ({} : Shadow).after (({} : Shadow).after commands).resetSequence = ({} : Shadow).after commands := by
  intro restores
  exact absurd (restores [.rotationRate ⟨0x3f000000⟩]) (by decide)

end Shadow

end RobotDriver
