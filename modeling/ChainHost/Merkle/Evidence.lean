/-
  The steps of a proof.

  A step of the kind `kv:exists` shows where a key stands.  One of the kind
  `kv:absent` shows the entries around the place where the key would stand.
-/
import ChainHost.Merkle.Path

set_option autoImplicit false

namespace ChainHost.Merkle

open Json (Format Fields)
open Json.Format (word64 bytes)

/-- What a step of a proof shows. -/
inductive StepKind where
  | inclusion
  | exclusion
  deriving DecidableEq, Repr

/-- The name of a kind of step. -/
def StepKind.name : StepKind → String
  | inclusion => "kv:exists"
  | exclusion => "kv:absent"

/-- An entry beside the place of a missing key. -/
structure Neighbour where
  key : Bytes
  value : Bytes
  path : Path
  deriving DecidableEq, Repr

def Neighbour.wire : Format Neighbour :=
  .image
    (.record false
      (.mandatory "key" bytes
        (.mandatory "value" bytes (.mandatory "path" Path.wire .nil))))
    (fun (key, value, path, ()) => ⟨key, value, path⟩)
    (fun n => (n.key, n.value, n.path, ()))
    fun _ => rfl

/-- The entries around the place of a missing key. -/
structure Gap where
  total : UInt64
  left : Option Neighbour
  right : Option Neighbour
  deriving DecidableEq, Repr

/-- A neighbour may be left out of an object, but not of an array. -/
def Gap.wire : Format Gap :=
  .image
    (.record false
      (.mandatory "total" word64
        (.cons "left" (.optional Neighbour.wire) (some none) none
          (.cons "right" (.optional Neighbour.wire) (some none) none .nil))))
    (fun (total, left, right, ()) => ⟨total, left, right⟩)
    (fun g => (g.total, g.left, g.right, ()))
    fun _ => rfl

namespace Tree

/-- The entry at a place, as a neighbour. -/
def neighbour? (t : Tree) (index : Nat) : Option Neighbour :=
  t.table.entries[index]?.map fun e => ⟨e.1, e.2, Path.ofTree t index⟩

/-- The entries around the place where a key would stand. -/
def gap (t : Tree) (key : Bytes) : Gap :=
  let place := t.table.rank key
  { total := UInt64.ofNat t.size
    left := if place = 0 then none else t.neighbour? (place - 1)
    right := t.neighbour? place }

/-- The step that shows what a tree says about a key. -/
def prove (t : Tree) (key : Bytes) : ProofOp :=
  match t.index? key with
  | some index =>
      ⟨StepKind.inclusion.name, key, Path.wire.encode (Path.ofTree t index)⟩
  | none => ⟨StepKind.exclusion.name, key, Gap.wire.encode (t.gap key)⟩

end Tree

end ChainHost.Merkle
