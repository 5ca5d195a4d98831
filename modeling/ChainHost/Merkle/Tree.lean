/-
  Merkle trees over sorted key/value entries.

  A leaf binds a key to a value, an inner node binds two subtrees, and first
  bytes keep the two apart.  A tree of more than one leaf splits at the largest
  power of two below their number.
-/
import ChainHost.Table
import ChainHost.Frame.Length
import ChainHost.Merkle.Sha256

set_option autoImplicit false

namespace ChainHost.Merkle

/-- The text that the digest of a leaf is taken of. -/
def leafText (key value : Bytes) : Bytes :=
  0 :: (Frame.Length.encode key.length ++ key ++ Frame.Length.encode value.length ++ value)

/-- The digest of a leaf. -/
def leafHash (key value : Bytes) : Digest := Sha256.hash (leafText key value)

/-- The digest of an inner node. -/
def innerHash (left right : Digest) : Digest :=
  Sha256.hash (1 :: (left.bytes ++ right.bytes))

/-- The root of the tree without leaves. -/
def emptyRoot : Digest := Sha256.hash []

/-- The least power of two that is not below a number. -/
def powerAbove (n : Nat) : Nat := if n ≤ 1 then 1 else 2 ^ ((n - 1).log2 + 1)

/-- Where so many leaves split. -/
def splitIndex (count : Nat) : Nat := powerAbove count / 2

theorem splitIndex_eq {n : Nat} (h : 2 ≤ n) : splitIndex n = 2 ^ (n - 1).log2 := by
  have : ¬ n ≤ 1 := by omega
  simp [splitIndex, powerAbove, this, Nat.pow_succ]

theorem splitIndex_pos {n : Nat} (h : 2 ≤ n) : 0 < splitIndex n := by
  rw [splitIndex_eq h]
  exact Nat.two_pow_pos _

theorem splitIndex_lt {n : Nat} (h : 2 ≤ n) : splitIndex n < n := by
  rw [splitIndex_eq h]
  have : 2 ^ (n - 1).log2 ≤ n - 1 := Nat.log2_self_le (by omega)
  omega

/-- The root over some leaves. -/
def rootOf (leaves : List Digest) : Digest :=
  match _h : leaves with
  | [] => emptyRoot
  | [leaf] => leaf
  | _ :: _ :: _ =>
      let split := splitIndex leaves.length
      innerHash (rootOf (leaves.take split)) (rootOf (leaves.drop split))
termination_by leaves.length
decreasing_by
  all_goals
    have hlen : 2 ≤ leaves.length := by subst _h; simp
    have h1 := splitIndex_lt hlen
    have h2 := splitIndex_pos hlen
    subst _h
    simp only [List.length_take, List.length_drop] at *
    omega

/-- The siblings on the way from a leaf up to the root. -/
def auntsOf (leaves : List Digest) (index : Nat) : List Digest :=
  if _h : leaves.length ≤ 1 then []
  else
    let split := splitIndex leaves.length
    let left := leaves.take split
    let right := leaves.drop split
    if index < split then auntsOf left index ++ [rootOf right]
    else auntsOf right (index - split) ++ [rootOf left]
termination_by leaves.length
decreasing_by
  all_goals
    have hlen : 2 ≤ leaves.length := by omega
    have h1 := splitIndex_lt hlen
    have h2 := splitIndex_pos hlen
    simp only [List.length_take, List.length_drop]
    omega

/-- A Merkle tree. -/
structure Tree where
  table : Table Bytes Bytes := .empty
  deriving DecidableEq

namespace Tree

/-- The digests of the entries, in order. -/
def leaves (t : Tree) : List Digest := t.table.entries.map fun e => leafHash e.1 e.2

/-- The digest that stands for all entries. -/
def root (t : Tree) : Digest := rootOf t.leaves

/-- The number of entries. -/
def size (t : Tree) : Nat := t.table.size

/-- The value of a key. -/
def find? (t : Tree) (key : Bytes) : Option Bytes := t.table.find? key

/-- The place of a key among the leaves. -/
def index? (t : Tree) (key : Bytes) : Option Nat := t.table.index? key

end Tree

end ChainHost.Merkle
