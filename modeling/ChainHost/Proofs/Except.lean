/-
  Results and faults.

  What a chain of steps comes to without a fault, each of its steps comes to something.  A
  fault that is put in other words stays one, and a result is left as it is.
-/
set_option autoImplicit false

namespace ChainHost

variable {ε φ α β : Type}

theorem exists_of_bind_eq_ok {x : Except ε α} {f : α → Except ε β} {b : β}
    (h : (x >>= f) = .ok b) : ∃ a, x = .ok a ∧ f a = .ok b := by
  cases x with
  | error fault => cases h
  | ok a => exact ⟨a, rfl, h⟩

theorem exists_of_map_eq_ok {x : Except ε α} {f : α → β} {b : β} (h : x.map f = .ok b) :
    ∃ a, x = .ok a ∧ f a = b := by
  cases x with
  | error fault => cases h
  | ok a => exact ⟨a, rfl, Except.ok.inj h⟩

theorem bind_ok_eq_map (x : Except ε α) (f : α → β) : (x.bind fun a => .ok (f a)) = x.map f := by
  cases x <;> rfl

theorem map_eq_error_iff {x : Except ε α} {f : α → β} {fault : ε} :
    x.map f = .error fault ↔ x = .error fault := by
  cases x with
  | error cause =>
      exact ⟨fun h => congrArg _ (Except.error.inj h), fun h => congrArg _ (Except.error.inj h)⟩
  | ok a => constructor <;> intro h <;> cases h

theorem mapError_eq_ok_iff {x : Except ε α} {f : ε → φ} {a : α} :
    x.mapError f = .ok a ↔ x = .ok a := by
  cases x with
  | error fault => constructor <;> intro h <;> cases h
  | ok b => exact ⟨fun h => congrArg _ (Except.ok.inj h), fun h => congrArg _ (Except.ok.inj h)⟩

theorem mapError_eq_error_iff {x : Except ε α} {f : ε → φ} {fault : φ} :
    x.mapError f = .error fault ↔ ∃ cause, x = .error cause ∧ f cause = fault := by
  constructor
  · intro h
    cases x with
    | error cause => exact ⟨cause, rfl, Except.error.inj h⟩
    | ok a => cases h
  · rintro ⟨cause, rfl, rfl⟩
    rfl

/-! ## Results without their faults -/

theorem toOption_map (x : Except ε α) (f : α → β) : (x.map f).toOption = x.toOption.map f := by
  cases x <;> rfl

theorem toOption_eq_some_iff {x : Except ε α} {a : α} : x.toOption = some a ↔ x = .ok a := by
  cases x with
  | error fault => constructor <;> intro h <;> cases h
  | ok b => exact ⟨fun h => congrArg _ (Option.some.inj h), fun h => congrArg _ (Except.ok.inj h)⟩

end ChainHost
