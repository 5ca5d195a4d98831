/-
  Lists cut at an element.

  A list is the part in front of the first occurrence of an element, that element and
  the rest; and it is what all its parts make up with the element between them again.
-/
import ChainHost.Text.Split
import Mathlib.Data.List.TakeWhile

set_option autoImplicit false

namespace ChainHost.Text

variable {α : Type}

/-! ## At the first occurrence -/

section First

variable [BEq α] [LawfulBEq α]

theorem all_ne_of_notMem {x : α} {xs : List α} (h : x ∉ xs) : ∀ y ∈ xs, (y != x) = true :=
  fun _ hy => bne_iff_ne.mpr fun heq => h (heq ▸ hy)

/-- What stands in front of the first occurrence of an element. -/
theorem takeWhile_ne_append {x : α} {front : List α} (h : x ∉ front) (back : List α) :
    (front ++ x :: back).takeWhile (· != x) = front := by
  rw [List.takeWhile_append_of_pos (all_ne_of_notMem h), List.takeWhile_cons_of_neg (by simp),
    List.append_nil]

theorem takeWhile_ne_of_notMem {x : α} {xs : List α} (h : x ∉ xs) :
    xs.takeWhile (· != x) = xs :=
  List.takeWhile_eq_self_iff.mpr (all_ne_of_notMem h)

end First

/-! ## At all occurrences -/

theorem mem_intercalate {sep : List α} {parts : List (List α)} {x : α}
    (h : x ∈ List.intercalate sep parts) : x ∈ sep ∨ ∃ part ∈ parts, x ∈ part := by
  induction parts with
  | nil => cases h
  | cons part rest ih =>
      cases rest with
      | nil =>
          rw [List.intercalate_singleton] at h
          exact .inr ⟨part, List.mem_cons_self, h⟩
      | cons next more =>
          rw [List.intercalate_cons_cons] at h
          rcases List.mem_append.mp h with h | h
          · rcases List.mem_append.mp h with h | h
            · exact .inr ⟨part, List.mem_cons_self, h⟩
            · exact .inl h
          · rcases ih h with h | ⟨found, hfound, h⟩
            · exact .inl h
            · exact .inr ⟨found, List.mem_cons_of_mem _ hfound, h⟩

variable [DecidableEq α]

theorem splitAt_ne_nil (sep : α) (xs : List α) : splitAt sep xs ≠ [] := by
  intro h
  have hlength := length_splitAt sep xs
  rw [h] at hlength
  cases hlength

/-- The parts with separators between them are the list. -/
theorem intercalate_splitAt (sep : α) (xs : List α) :
    List.intercalate [sep] (splitAt sep xs) = xs := by
  induction xs with
  | nil => rfl
  | cons x rest ih =>
      unfold splitAt
      obtain ⟨part, parts, hparts⟩ := List.exists_cons_of_ne_nil (splitAt_ne_nil sep rest)
      rw [hparts] at ih ⊢
      split
      · next heq =>
          rw [List.intercalate_cons_cons, ih, heq]
          rfl
      · cases parts with
        | nil =>
            rw [List.intercalate_singleton] at ih ⊢
            rw [ih]
        | cons next parts =>
            rw [List.intercalate_cons_cons] at ih ⊢
            rw [← ih]
            rfl

end ChainHost.Text
