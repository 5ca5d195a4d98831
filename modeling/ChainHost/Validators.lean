/-
  The set of active validators.

  Members are ordered by key.  Of several updates of one key the last decides,
  and the power zero removes the member.
-/
import ChainHost.Table
import ChainHost.Word
import ChainHost.Message.Record

set_option autoImplicit false

namespace ChainHost

/-- Keys are ordered by their type, and by their bytes within one type. -/
instance : Ord PublicKey :=
  ⟨compareLex (compareOn PublicKey.keyType) (compareOn PublicKey.data)⟩

instance : Std.TransOrd PublicKey :=
  inferInstanceAs (Std.TransCmp (compareLex (compareOn PublicKey.keyType)
    (compareOn PublicKey.data)))

instance : Std.LawfulEqOrd PublicKey where
  eq_of_compare {a b} h := by
    have h : (compareLex (compareOn PublicKey.keyType) (compareOn PublicKey.data)) a b = .eq := h
    obtain ⟨hType, hData⟩ := compareLex_eq_eq.mp h
    obtain ⟨aType, aData⟩ := a
    obtain ⟨bType, bData⟩ := b
    simp only [compareOn, Std.LawfulEqCmp.compare_eq_iff_eq] at hType hData
    rw [hType, hData]

/-- The active validators with their powers. -/
structure ValidatorSet where
  members : Table PublicKey UInt64 := .empty
  deriving DecidableEq

namespace ValidatorSet

/-- The set after one update. -/
def update (set : ValidatorSet) (u : ValidatorUpdate) : ValidatorSet :=
  if u.isRemoval then ⟨set.members.erase u.publicKey⟩
  else ⟨set.members.insert u.publicKey u.power⟩

/-- The set after a batch of updates, from the first to the last. -/
def apply (set : ValidatorSet) (batch : List ValidatorUpdate) : ValidatorSet :=
  batch.foldl update set

/-- The set that a batch of updates makes of the empty one. -/
def ofUpdates (batch : List ValidatorUpdate) : ValidatorSet := apply {} batch

/-- The power of a member. -/
def power? (set : ValidatorSet) (key : PublicKey) : Option UInt64 := set.members.find? key

/-- Whether a key belongs to a member. -/
def contains (set : ValidatorSet) (key : PublicKey) : Bool := set.members.contains key

/-- The number of members. -/
def size (set : ValidatorSet) : Nat := set.members.size

/-- The sum of the powers, or the largest number if there is no room for it. -/
def totalPower (set : ValidatorSet) : UInt64 :=
  set.members.entries.foldl (fun total e => Word.addSaturating total e.2) 0

/-- One update for each member, in the order of keys. -/
def toUpdates (set : ValidatorSet) : List ValidatorUpdate :=
  set.members.entries.map fun e => ⟨e.1, e.2⟩

theorem apply_append (set : ValidatorSet) (first second : List ValidatorUpdate) :
    set.apply (first ++ second) = (set.apply first).apply second := by
  simp [apply]

end ValidatorSet

end ChainHost
