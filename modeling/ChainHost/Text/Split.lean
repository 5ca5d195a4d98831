/-
  Lists split at every occurrence of an element.
-/
set_option autoImplicit false

namespace ChainHost.Text

variable {α : Type} [DecidableEq α]

/-- The parts between the occurrences of a separator, one more than there are. -/
def splitAt (sep : α) : List α → List (List α)
  | [] => [[]]
  | x :: rest =>
      if x = sep then [] :: splitAt sep rest
      else
        match splitAt sep rest with
        | [] => [[x]]
        | part :: parts => (x :: part) :: parts

theorem length_splitAt (sep : α) (xs : List α) : (splitAt sep xs).length = xs.count sep + 1 := by
  induction xs with
  | nil => rfl
  | cons x rest ih =>
      unfold splitAt
      split
      · next h =>
          rw [List.length_cons, ih, h, List.count_cons_self]
      · next h =>
          rw [List.count_cons_of_ne h]
          split
          · next heq => rw [heq] at ih; simp at ih
          · next heq => rw [heq] at ih; exact ih

end ChainHost.Text
