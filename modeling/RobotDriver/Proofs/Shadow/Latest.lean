import RobotDriver.Proofs.Shadow

/-!
# The last command of a kind wins

Each tracked kind of commands has fields of its own in the shadow. `held?` shows them as the command of that kind that
would set them to what they are; a confirmed command replaces what is held of its own kind and leaves the rest
(`held?_apply`). So after any commands the shadow holds the last one of each kind (`held?_after`), and as it is no more
than what it holds (`eq_of_held?_eq`), only the order within each kind matters.
-/

namespace RobotDriver.Shadow

/-- What is held of a kind: the command of this kind that sets its fields to what they are. -/
def held? (s : Shadow) : Command.Kind → Option Command
  | .roll => some s.motion
  | .rotationRate => some (.rotationRate s.rotationRate)
  | .rawMotor => some (.rawMotor s.left s.right)
  | .rgbLed => some (.rgbLed s.red s.green s.blue)
  | .frontLed => some (.frontLed s.front)
  | _ => none

/-- The last command of a kind, or else `initial`. -/
def latest (kind : Command.Kind) (commands : List Command) (initial : Command) : Command :=
  (commands.filter (·.kind = kind)).getLast?.getD initial

/-- A shadow is what it holds. -/
theorem eq_of_held?_eq {s t : Shadow} (same : ∀ kind, s.held? kind = t.held? kind) : s = t := by
  obtain ⟨heading, velocity, rotationRate, stopped, left, right, red, green, blue, front⟩ := s
  have roll := same .roll
  have rate := same .rotationRate
  have motors := same .rawMotor
  have colour := same .rgbLed
  have light := same .frontLed
  simp only [held?, motion, Option.some.injEq, Command.roll.injEq, Command.rotationRate.injEq, Command.rawMotor.injEq,
    Command.rgbLed.injEq, Command.frontLed.injEq] at roll rate motors colour light
  obtain ⟨rfl, rfl, rfl⟩ := roll
  obtain ⟨rfl, rfl⟩ := motors
  obtain ⟨rfl, rfl, rfl⟩ := colour
  subst rate light
  rfl

/-- What is held of a kind is a tracked command of this kind. -/
theorem kind_of_held? {s : Shadow} {kind : Command.Kind} {c : Command} (held : s.held? kind = some c) :
    c.kind = kind ∧ c.updatesShadow = true := by
  cases kind with
  | roll | rotationRate | rawMotor | rgbLed | frontLed =>
    cases held
    exact ⟨rfl, rfl⟩
  | _ => cases held

theorem isSome_track? (s : Shadow) (c : Command) : (s.track? c).isSome = c.updatesShadow := by
  cases c <;> rfl

theorem apply_of_untracked (s : Shadow) {c : Command} (untracked : c.updatesShadow = false) : s.apply c = s := by
  rw [← s.isSome_track?, Option.isSome_eq_false_iff, Option.isNone_iff_eq_none] at untracked
  rw [apply, untracked, Option.getD_none]

/-- A command replaces what is held of its own kind. -/
theorem held?_apply (s : Shadow) (c : Command) (kind : Command.Kind) :
    (s.apply c).held? kind = (s.held? kind).map fun held => if c.kind = kind then c else held := by
  cases kind with
  | roll | rotationRate | rawMotor | rgbLed | frontLed => cases c <;> rfl
  | _ => rfl

theorem latest_cons (c : Command) (kind : Command.Kind) (commands : List Command) (initial : Command) :
    latest kind (c :: commands) initial = latest kind commands (if c.kind = kind then c else initial) := by
  by_cases own : c.kind = kind
  · rw [latest, List.filter_cons_of_pos (by simp [own]), List.getLast?_cons, Option.getD_some, if_pos own, latest]
  · rw [latest, List.filter_cons_of_neg (by simp [own]), if_neg own, latest]

/-- After some commands, the last one of a kind is what is held of it. -/
theorem held?_after (s : Shadow) (commands : List Command) (kind : Command.Kind) :
    (s.after commands).held? kind = (s.held? kind).map (latest kind commands) := by
  induction commands generalizing s with
  | nil => exact (congrFun Option.map_id (s.held? kind)).symm
  | cons c commands ih =>
    have first : (s.after (c :: commands)).held? kind = ((s.apply c).held? kind).map (latest kind commands) := ih _
    rw [first, held?_apply, Option.map_map]
    congr 1
    funext initial
    exact (latest_cons c kind commands initial).symm

/-- **The last command of a kind wins.** After any commands, the roll, the rotation rate, the two motors, the colour and
the front light are those of the last command of their own kind, or what they were if there is none. A command is
recorded just if it is of a tracked kind, and any other leaves the shadow as it is. So commands that come in the same
order within each tracked kind lead to the same shadow, however the kinds are mixed. -/
theorem last_of_kind_wins (s : Shadow) (commands : List Command) :
    let t := s.after commands
    (.roll t.heading t.velocity t.stopped = latest .roll commands (.roll s.heading s.velocity s.stopped) ∧
      .rotationRate t.rotationRate = latest .rotationRate commands (.rotationRate s.rotationRate) ∧
      .rawMotor t.left t.right = latest .rawMotor commands (.rawMotor s.left s.right) ∧
      .rgbLed t.red t.green t.blue = latest .rgbLed commands (.rgbLed s.red s.green s.blue) ∧
      .frontLed t.front = latest .frontLed commands (.frontLed s.front)) ∧
    (∀ c : Command, (s.track? c).isSome = c.updatesShadow ∧ (c.updatesShadow = false → s.apply c = s)) ∧
    (∀ others : List Command,
      (∀ c : Command, c.updatesShadow = true →
        commands.filter (·.kind = c.kind) = others.filter (·.kind = c.kind)) →
      s.after others = t) := by
  intro t
  have held := s.held?_after commands
  refine ⟨⟨Option.some.inj (held .roll), Option.some.inj (held .rotationRate), Option.some.inj (held .rawMotor),
    Option.some.inj (held .rgbLed), Option.some.inj (held .frontLed)⟩,
    fun c => ⟨s.isSome_track? c, s.apply_of_untracked⟩, fun others alike => eq_of_held?_eq fun kind => ?_⟩
  rw [held, held?_after]
  cases initial : s.held? kind with
  | none => rfl
  | some c =>
    obtain ⟨rfl, tracked⟩ := kind_of_held? initial
    rw [Option.map_some, Option.map_some, latest, latest, alike c tracked]

/-- Two rolls and a colour, mixed in two ways with commands that are not tracked. -/
theorem last_of_kind_wins_mixed :
    ({} : Shadow).after [.roll .zero .zero false, .rgbLed 1 2 3, .ping, .roll ⟨0x42b40000⟩ ⟨0x3f000000⟩ false] =
      ({} : Shadow).after [.rgbLed 1 2 3, .roll .zero .zero false, .roll ⟨0x42b40000⟩ ⟨0x3f000000⟩ false, .abortMacro] := by
  refine (last_of_kind_wins {} _).2.2 _ fun c tracked => ?_
  cases c with
  | roll | rotationRate | rawMotor | rgbLed | frontLed => rfl
  | _ => cases tracked

end RobotDriver.Shadow
