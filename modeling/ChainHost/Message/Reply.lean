/-
  What a call of the application returns: a payload and, apart from it, error
  fields.  A rejection keeps its payload.
-/
import ChainHost.Message.Fault

set_option autoImplicit false

namespace ChainHost

/-- A payload and error fields. -/
structure Reply (α : Type) where
  value : α
  error : Option Fault := none
  deriving DecidableEq, Repr

/-- Whether error fields report no error. -/
def Fault.noneOf (error : Option Fault) : Bool := error.all Fault.isOk

namespace Reply

variable {α β : Type}

/-- A payload without error fields. -/
def ok (value : α) : Reply α := ⟨value, none⟩

/-- A payload with error fields. -/
def rejected (value : α) (error : Fault) : Reply α := ⟨value, some error⟩

/-- Whether the reply reports no error. -/
def isOk (r : Reply α) : Bool := Fault.noneOf r.error

/-- The payload, or the error if there is one. -/
def toExcept (r : Reply α) : Except Fault α :=
  match r.error with
  | some error => if error.isOk then .ok r.value else .error error
  | none => .ok r.value

/-- Changes the payload and keeps the error fields. -/
def map (f : α → β) (r : Reply α) : Reply β := ⟨f r.value, r.error⟩

end Reply

end ChainHost
