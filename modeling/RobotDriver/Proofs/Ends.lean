import Mathlib.Data.List.DropRight

/-!
# What is left when the ends of a list go

Elements are dropped from an end of a list as long as they are of a kind. What is left is told by the list: the rest
goes with it in one piece, all of it of the kind, and the element where the dropping stopped is not.
-/

namespace RobotDriver

variable {α : Type} {p : α → Bool} {as rest : List α}

theorem dropWhile_eq_iff :
    as.dropWhile p = rest ↔
      (∃ before, as = before ++ rest ∧ ∀ a ∈ before, p a = true) ∧ ∀ a ∈ rest.head?, p a = false := by
  constructor
  · rintro rfl
    refine ⟨⟨as.takeWhile p, List.takeWhile_append_dropWhile.symm, fun _ => List.mem_takeWhile_imp⟩, fun a first => ?_⟩
    have stops := List.head?_dropWhile_not p as
    rw [Option.mem_def.1 first] at stops
    exact stops
  · rintro ⟨⟨before, rfl, inside⟩, boundary⟩
    rw [List.dropWhile_append_of_pos inside]
    cases rest with
    | nil => rfl
    | cons a rest => exact List.dropWhile_cons_of_neg (by simp [boundary a rfl])

theorem rdropWhile_eq_iff :
    as.rdropWhile p = rest ↔
      (∃ after, as = rest ++ after ∧ ∀ a ∈ after, p a = true) ∧ ∀ a ∈ rest.getLast?, p a = false := by
  rw [List.rdropWhile, List.reverse_eq_iff, dropWhile_eq_iff, List.head?_reverse]
  refine and_congr_left fun _ => ⟨?_, ?_⟩
  · rintro ⟨before, split, inside⟩
    refine ⟨before.reverse, ?_, fun a present => inside a (List.mem_reverse.1 present)⟩
    rw [← List.reverse_inj, split, List.reverse_append, List.reverse_reverse]
  · rintro ⟨after, rfl, inside⟩
    exact ⟨after.reverse, List.reverse_append, fun a present => inside a (List.mem_reverse.1 present)⟩

end RobotDriver
