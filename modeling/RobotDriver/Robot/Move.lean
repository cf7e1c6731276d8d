import RobotDriver.Robot.Script

/-!
# Moves

`Robot.play` lets tasks run in one order, the one of the queue. A `Move` is the least that can happen to a
driver: someone takes a step, any task that is ready runs, the clock moves, the alarms that are due go off,
calls are abandoned, the driver goes away. `Robot.after` makes moves one after the other, in whatever order
they are given.
-/

namespace RobotDriver

/-- The least that can happen to a driver. -/
inductive Move where
  | perform (step : Step)
  /-- One of the tasks that are ready runs; nothing happens if there are not so many. -/
  | run (index : Nat)
  | tick (ms : Nat)
  | ring
  | abandon
  | quit

namespace Robot

/-- Makes a move. -/
def move (r : Robot) : Move → Robot
  | .perform step => (r.perform step).2
  | .run index =>
    match r.ready[index]? with
    | none => r
    | some task => { r with ready := r.ready.eraseIdx index }.run task
  | .tick ms => { r with clock := r.clock + ms }
  | .ring => r.ring
  | .abandon => r.abandonCalls
  | .quit => r.quit

theorem move_run {r : Robot} {index : Nat} {task : Task} (here : r.ready[index]? = some task) :
    r.move (.run index) = { r with ready := r.ready.eraseIdx index }.run task := by
  simp only [move, here]

/-- Makes moves one after the other. -/
def after (r : Robot) (moves : List Move) : Robot :=
  moves.foldl move r

theorem after_append (r : Robot) (ms ns : List Move) : r.after (ms ++ ns) = (r.after ms).after ns :=
  List.foldl_append

/-- Running the tasks in the order of the queue is a run of moves. -/
theorem turns_eq_after (n : Nat) (r : Robot) : ∃ ms, turns n r = r.after ms := by
  induction n generalizing r with
  | zero => exact ⟨[], rfl⟩
  | succ n ih =>
    cases h : r.ready with
    | nil => exact ⟨[], by simp [turns, h, after]⟩
    | cons task others =>
      obtain ⟨ms, hms⟩ := ih ({ r with ready := others }.run task)
      refine ⟨.run 0 :: ms, ?_⟩
      have first : r.move (.run 0) = { r with ready := others }.run task := by
        simp [move, h]
      rw [after, List.foldl_cons, first]
      simp only [turns, h]
      exact hms

theorem settle_eq_after (r : Robot) : ∃ ms, r.settle = r.after ms :=
  turns_eq_after r.load r

/-- Every state that a script goes through is reached by moves. -/
theorem playAll_eq_after (steps : List Step) (r : Robot) :
    ∀ turn ∈ r.playAll steps, ∃ ms, turn.2.2 = r.after ms := by
  induction steps generalizing r with
  | nil => simp [playAll]
  | cons step steps ih =>
    obtain ⟨settling, hs⟩ := (r.perform step).2.settle_eq_after
    have played : (r.play step).2.2 = r.after (.perform step :: settling) := hs
    intro turn ht
    rw [playAll, List.mem_cons] at ht
    rcases ht with rfl | ht
    · exact ⟨_, played⟩
    · obtain ⟨ms, hm⟩ := ih _ turn ht
      refine ⟨.perform step :: settling ++ ms, ?_⟩
      rw [hm, played, after_append]

end Robot

end RobotDriver
