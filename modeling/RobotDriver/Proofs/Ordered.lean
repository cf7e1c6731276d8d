/-!
# Beginnings of ordered lists

What is true of an element of an ordered list and of all before it is true of a beginning of the list, so that to take
elements from the front as long as it is true is to take all of which it is.
-/

namespace RobotDriver

variable {α : Type} {r : α → α → Prop} {p : α → Bool} {as : List α}

theorem takeWhile_eq_filter (ordered : as.Pairwise r) (before : ∀ a b, r a b → p b = true → p a = true) :
    as.takeWhile p = as.filter p := by
  induction as with
  | nil => rfl
  | cons a as ih =>
    obtain ⟨first, rest⟩ := List.pairwise_cons.1 ordered
    cases holds : p a with
    | true => rw [List.takeWhile_cons_of_pos holds, List.filter_cons_of_pos holds, ih rest]
    | false =>
      have none : as.filter p = [] := by
        rw [List.filter_eq_nil_iff]
        intro b later true
        have := before a b (first b later) true
        rw [holds] at this
        cases this
      rw [List.takeWhile_cons_of_neg (by simp [holds]), List.filter_cons_of_neg (by simp [holds]), none]

theorem dropWhile_eq_filter (ordered : as.Pairwise r) (before : ∀ a b, r a b → p b = true → p a = true) :
    as.dropWhile p = as.filter fun a => !p a := by
  induction as with
  | nil => rfl
  | cons a as ih =>
    obtain ⟨first, rest⟩ := List.pairwise_cons.1 ordered
    cases holds : p a with
    | true => rw [List.dropWhile_cons_of_pos holds, List.filter_cons_of_neg (by simp [holds]), ih rest]
    | false =>
      have all : as.filter (fun b => !p b) = as := by
        rw [List.filter_eq_self]
        intro b later
        cases also : p b with
        | false => rfl
        | true =>
          have := before a b (first b later) also
          rw [holds] at this
          cases this
      rw [List.dropWhile_cons_of_neg (by simp [holds]), List.filter_cons_of_pos (by simp [holds]), all]

end RobotDriver
