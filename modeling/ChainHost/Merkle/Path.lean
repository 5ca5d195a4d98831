/-
  Paths: the place of a leaf with the siblings on its way to the root.

  All numbers of a path come from whoever shows it.  `climb` takes the siblings
  from the root down, and halves the tree at each of them.  A tree is halved at a
  power of two, which has no room in a word above 2^63 leaves.
-/
import ChainHost.Message.Record
import ChainHost.Merkle.Tree

set_option autoImplicit false

namespace ChainHost

open Json (Format Fields)
open Json.Format (word8 word64 bytes)

/-- Digests stand in documents as lists of exactly thirty-two numbers. -/
def Digest.wire : Format Digest :=
  .refine Json.Format.bytes (fun b => if h : b.length = 32 then some ⟨b, h⟩ else none) Digest.bytes
    fun d => by simp [d.length_bytes]

namespace Merkle

/-- Where a tree of so many leaves splits, if there is room for the power of two
that is halved for it. -/
def splitPoint? (total : UInt64) : Option UInt64 :=
  if powerAbove total.toNat < 2 ^ 64 then some (UInt64.ofNat (powerAbove total.toNat) >>> 1)
  else none

/-- Why a path leads to no root. -/
inductive PathFault where
  /-- The siblings do not fit the place. -/
  | misfit
  /-- The power of two for the number of leaves has no room.  This is no answer: a
  check that comes to it panics. -/
  | overflow
  deriving DecidableEq, Repr

/-- The root of a tree of `total` leaves that holds `leaf` at `index`, with the
siblings from the root down. -/
def climb (index total : UInt64) (leaf : Digest) (siblings : List Digest) :
    Except PathFault Digest :=
  if index ≥ total then .error .misfit
  else if total = 1 then if siblings.isEmpty then .ok leaf else .error .misfit
  else
    match siblings with
    | [] => .error .misfit
    | sibling :: rest =>
        match splitPoint? total with
        | none => .error .overflow
        | some split =>
            if index < split then
              (climb index split leaf rest).map fun left => innerHash left sibling
            else
              (climb (index - split) (total - split) leaf rest).map fun right =>
                innerHash sibling right

/-- The place of a leaf, with its siblings from the leaf up. -/
structure Path where
  index : UInt64
  total : UInt64
  aunts : List Digest
  deriving DecidableEq, Repr

namespace Path

/-- The root that a path leads to. -/
def root (p : Path) (leaf : Digest) : Except PathFault Digest :=
  climb p.index p.total leaf p.aunts.reverse

/-- The path of a leaf of a tree. -/
def ofTree (t : Tree) (index : Nat) : Path where
  index := UInt64.ofNat index
  total := UInt64.ofNat t.size
  aunts := auntsOf t.leaves index

def wire : Format Path :=
  .image
    (.record false
      (.mandatory "index" word64
        (.mandatory "total" word64 (.mandatory "aunts" (.list Digest.wire) .nil))))
    (fun (index, total, aunts, ()) => ⟨index, total, aunts⟩)
    (fun p => (p.index, p.total, p.aunts, ()))
    fun _ => rfl

end Path

end Merkle

end ChainHost
