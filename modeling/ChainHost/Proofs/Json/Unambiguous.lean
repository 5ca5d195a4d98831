/-
  Which formats lose nothing.

  Whether every value comes back from its document can be told from the
  description: the fields of a record need different names, and an optional
  value must not be written as `null` itself.  `isUnambiguous` looks for this in
  the whole description, and `lawful_of_isUnambiguous` says that it is enough.
-/
import ChainHost.Proofs.Json.Format

set_option autoImplicit false

namespace ChainHost.Json

/-- Every value is among those that have names. -/
theorem Names.mem_all {α : Type} (names : Names α) (a : α) : a ∈ names.all :=
  List.mem_of_find?_eq_some (names.find_name a)

/-- Whether a value may be written as `null`. -/
def Format.mayBeNull : {α : Type} → Format α → Bool
  | _, .optional _ => true
  | _, .void => true
  | _, .refine base _ _ _ => base.mayBeNull
  | _, _ => false

mutual
/-- Whether no two values of a format have the same document. -/
def Format.isUnambiguous : {α : Type} → Format α → Bool
  | _, .list element => element.isUnambiguous
  | _, .optional value => !value.mayBeNull && value.isUnambiguous
  | _, .record _ fields => fields.isUnambiguous
  | _, .tagged names body => names.all.all fun i => (body i).isUnambiguous
  | _, .refine base _ _ _ => base.isUnambiguous
  | _, _ => true

/-- Whether the fields have different names, and none is ambiguous itself. -/
def Fields.isUnambiguous : {α : Type} → Fields α → Bool
  | _, .nil => true
  | _, .cons name format _ _ rest =>
      !rest.names.contains name && format.isUnambiguous && rest.isUnambiguous
end

namespace Format

theorem write_ne_null : {α : Type} → (format : Format α) → format.mayBeNull = false →
    (v : α) → format.write v ≠ .null
  | _, .word _, _, _ | _, .text, _, _ | _, .flag, _, _ | _, .list _, _, _ | _, .choice _, _, _
  | _, .record _ _, _, _ | _, .tagged _ _, _, ⟨_, _⟩ => nofun
  | _, .refine base _ parts _, h, v => write_ne_null base h (parts v)

end Format

mutual
theorem Format.lawful_of_isUnambiguous : {α : Type} → (format : Format α) →
    format.isUnambiguous = true → format.Lawful
  | _, .word bits, _ => Format.lawful_word bits
  | _, .text, _ => Format.lawful_text
  | _, .flag, _ => Format.lawful_flag
  | _, .list element, h => (element.lawful_of_isUnambiguous h).list
  | _, .optional value, h => by
      obtain ⟨hnull, hvalue⟩ := Bool.and_eq_true_iff.mp h
      have hne : value.mayBeNull = false := by simpa using hnull
      exact (value.lawful_of_isUnambiguous hvalue).optional (value.write_ne_null hne)
  | _, .choice names, _ => Format.lawful_choice names
  | _, .record closed fields, h => (fields.lawful_of_isUnambiguous h).record closed
  | _, .tagged names body, h =>
      Format.lawful_tagged names fun i =>
        (body i).lawful_of_isUnambiguous (List.all_eq_true.mp h i (names.mem_all i))
  | _, .void, _ => Format.lawful_void
  | _, .refine base _ _ _, h => (base.lawful_of_isUnambiguous h).refine

theorem Fields.lawful_of_isUnambiguous : {α : Type} → (fields : Fields α) →
    fields.isUnambiguous = true → fields.Lawful
  | _, .nil, _ => .nil
  | _, .cons name format _ _ rest, h => by
      obtain ⟨hfront, hrest⟩ := Bool.and_eq_true_iff.mp h
      obtain ⟨hname, hformat⟩ := Bool.and_eq_true_iff.mp hfront
      have hfresh : name ∉ rest.names := by simpa using hname
      exact .cons (format.lawful_of_isUnambiguous hformat) hfresh
        (rest.lawful_of_isUnambiguous hrest)
end

end ChainHost.Json
