/-
  The heights that can be read.

  Once a block is committed, a query is answered at a height between the
  retained and the latest one; zero stands for the latest.  Before that every
  height is passed on.
-/
import ChainHost.Message.Fault

set_option autoImplicit false

namespace ChainHost

/-- The committed heights that are still kept. -/
structure Window where
  /-- The latest committed height, if there is one. -/
  latest : Option UInt64 := none
  /-- The lowest height that is kept; zero keeps all. -/
  retain : UInt64 := 0
  deriving DecidableEq, Repr

namespace Window

/-- Why a height cannot be read. -/
inductive Refusal where
  | future (requested latest : UInt64)
  | pruned (requested retain : UInt64)
  deriving DecidableEq, Repr

/-- The words for a refusal. -/
def Refusal.message : Refusal → String
  | future requested latest =>
      "height " ++ toString requested.toNat ++ " is above the latest committed height "
        ++ toString latest.toNat
  | pruned requested retain =>
      "height " ++ toString requested.toNat ++ " was pruned; the lowest retained height is "
        ++ toString retain.toNat

/-- The fault that answers a refused query. -/
def Refusal.fault (r : Refusal) : Fault := .heightUnavailable r.message

/-- The height at which a query is answered. -/
def resolve (w : Window) (requested : UInt64) : Except Refusal UInt64 :=
  match w.latest with
  | none => .ok requested
  | some latest =>
      if requested = 0 then .ok latest
      else if requested > latest then .error (.future requested latest)
      else if requested < w.retain then .error (.pruned requested w.retain)
      else .ok requested

end Window

end ChainHost
