/-
  What updates make of the active validators.

  One update decides the power under its key and no other.  So after a batch a key
  has the power of the last update on it, and batches come to what one batch of all
  their updates comes to.  A set that grew from updates has no member without power;
  this is why its list of members, in whatever order, leads back to it.
-/
import ChainHost.Proofs.Table
import ChainHost.Validators
import Mathlib.Algebra.GroupWithZero.Nat

set_option autoImplicit false

namespace ChainHost

/-! ## The order of keys -/

theorem Bytes.compare_eq_lt_iff {a b : Bytes} : compare a b = .lt ↔ a < b := by
  induction a generalizing b with
  | nil =>
      cases b with
      | nil => exact ⟨nofun, nofun⟩
      | cons y ys => exact ⟨fun _ => List.nil_lt_cons y ys, fun _ => rfl⟩
  | cons x xs ih =>
      cases b with
      | nil => exact ⟨nofun, nofun⟩
      | cons y ys =>
          have hlt : compare x y = .lt ↔ x < y := compareOfLessAndEq_eq_lt
          rw [List.cons_lt_cons_iff, List.compare_cons_cons, Ordering.then_eq_lt, hlt,
            Table.compare_eq_iff, ih]

namespace PublicKey

/-- One key comes before another: by its type, and within one type by its bytes. -/
def Before (a b : PublicKey) : Prop :=
  a.keyType < b.keyType ∨ a.keyType = b.keyType ∧ a.data < b.data

theorem compare_eq_lt_iff {a b : PublicKey} : compare a b = .lt ↔ a.Before b := by
  have htype : compare a.keyType b.keyType = .lt ↔ a.keyType < b.keyType :=
    compareOfLessAndEq_eq_lt
  show (compare a.keyType b.keyType).then (compare a.data b.data) = .lt ↔ _
  rw [Ordering.then_eq_lt, htype, Table.compare_eq_iff, Bytes.compare_eq_lt_iff]
  rfl

end PublicKey

/-! ## Sums that stop at the largest number -/

/-- Stopping at the largest number on the way comes to the same as stopping there once,
at the end. -/
theorem Word.toNat_foldl_addSaturating (numbers : List UInt64) (start : UInt64) :
    (numbers.foldl addSaturating start).toNat
      = min (start.toNat + (numbers.map UInt64.toNat).sum) (2 ^ 64 - 1) := by
  induction numbers generalizing start with
  | nil =>
      have := start.toNat_lt
      simp only [List.foldl_nil, List.map_nil, List.sum_nil]
      omega
  | cons number rest ih =>
      rw [List.foldl_cons, ih, toNat_addSaturating, List.map_cons, List.sum_cons]
      omega

namespace ValidatorSet

/-! ## One update -/

theorem power?_update_self (set : ValidatorSet) (u : ValidatorUpdate) :
    (set.update u).power? u.publicKey = if u.isRemoval then none else some u.power := by
  rw [update]
  split
  · exact Table.find?_erase_self ..
  · exact Table.find?_insert_self ..

theorem power?_update_of_ne (set : ValidatorSet) {u : ValidatorUpdate} {key : PublicKey}
    (hne : key ≠ u.publicKey) : (set.update u).power? key = set.power? key := by
  rw [update]
  split
  · exact Table.find?_erase_of_ne _ hne
  · exact Table.find?_insert_of_ne _ _ hne

/-! ## Batches -/

/-- The last of some updates on a key. -/
def latestOn (key : PublicKey) (batch : List ValidatorUpdate) : Option ValidatorUpdate :=
  batch.reverse.find? fun u => u.publicKey == key

/-- After a batch a key has the power of the last update on it; without one it has
what it had. -/
theorem power?_apply (set : ValidatorSet) (batch : List ValidatorUpdate) (key : PublicKey) :
    (set.apply batch).power? key
      = match latestOn key batch with
        | some u => if u.isRemoval then none else some u.power
        | none => set.power? key := by
  rw [apply, latestOn, Table.view_foldl_write power?_update_self fun set _ _ =>
    set.power?_update_of_ne]
  cases batch.reverse.find? fun u => u.publicKey == key <;> rfl

/-- The set that genesis and later batches lead to. -/
def grown (genesis : List ValidatorUpdate) (batches : List (List ValidatorUpdate)) :
    ValidatorSet :=
  batches.foldl apply (ofUpdates genesis)

/-- Batches come to what one batch of all their updates comes to. -/
theorem grown_eq (genesis : List ValidatorUpdate) (batches : List (List ValidatorUpdate)) :
    grown genesis batches = ofUpdates (genesis ++ batches.flatten) := by
  rw [ofUpdates, apply_append, apply, apply, List.foldl_flatten]
  rfl

/-! ## Members -/

/-- No member is without power. -/
def Positive (set : ValidatorSet) : Prop := ∀ key, set.power? key ≠ some 0

namespace Positive

theorem update {set : ValidatorSet} (h : set.Positive) (u : ValidatorUpdate) :
    (set.update u).Positive := by
  intro key
  by_cases hkey : key = u.publicKey
  · subst hkey
    rw [power?_update_self]
    split
    · nofun
    · next hkept =>
        intro hzero
        exact hkept (beq_iff_eq.mpr (Option.some.inj hzero))
  · rw [power?_update_of_ne set hkey]
    exact h key

theorem apply {set : ValidatorSet} (h : set.Positive) (batch : List ValidatorUpdate) :
    (set.apply batch).Positive := by
  induction batch generalizing set with
  | nil => exact h
  | cons u rest ih => exact ih (h.update u)

end Positive

theorem positive_grown (genesis : List ValidatorUpdate) (batches : List (List ValidatorUpdate)) :
    (grown genesis batches).Positive := by
  have hempty : Positive {} := fun _ => nofun
  rw [grown_eq]
  exact hempty.apply _

/-- Sets of the same powers are one set. -/
theorem ext_power {s t : ValidatorSet} (h : ∀ key, s.power? key = t.power? key) : s = t :=
  congrArg ValidatorSet.mk (Table.ext_find h)

theorem mem_toUpdates_iff {set : ValidatorSet} {u : ValidatorUpdate} :
    u ∈ set.toUpdates ↔ set.power? u.publicKey = some u.power := by
  rw [power?, Table.find?_eq_some_iff, toUpdates, List.mem_map]
  constructor
  · rintro ⟨e, hentry, rfl⟩
    exact hentry
  · intro hentry
    exact ⟨_, hentry, rfl⟩

theorem ordered_toUpdates (set : ValidatorSet) :
    set.toUpdates.Pairwise fun u v => u.publicKey.Before v.publicKey :=
  List.pairwise_map.mpr (set.members.ordered.imp PublicKey.compare_eq_lt_iff.mp)

/-- The list of members tells the powers: it names each key once, in order and with a
power. -/
structure Listed (set : ValidatorSet) : Prop where
  members : ∀ u, u ∈ set.toUpdates ↔ set.power? u.publicKey = some u.power
  ordered : set.toUpdates.Pairwise fun u v => u.publicKey.Before v.publicKey
  unique : (set.toUpdates.map ValidatorUpdate.publicKey).Nodup
  positive : ∀ u ∈ set.toUpdates, u.power ≠ 0

theorem Positive.listed {set : ValidatorSet} (h : set.Positive) : set.Listed := by
  refine ⟨fun _ => mem_toUpdates_iff, set.ordered_toUpdates, ?_, ?_⟩
  · refine List.pairwise_map.mpr (set.ordered_toUpdates.imp ?_)
    intro u v hbefore hsame
    have hlt := PublicKey.compare_eq_lt_iff.mpr hbefore
    rw [Table.compare_eq_iff.mpr hsame] at hlt
    cases hlt
  · intro u hmember hzero
    exact h u.publicKey (hzero ▸ mem_toUpdates_iff.mp hmember)

/-- Updates that are the members of a set lead to it, in whatever order they come. -/
theorem Positive.ofUpdates_eq {set : ValidatorSet} (h : set.Positive)
    {updates : List ValidatorUpdate} (hsame : ∀ u, u ∈ updates ↔ u ∈ set.toUpdates) :
    ofUpdates updates = set := by
  apply ext_power
  intro key
  rw [ofUpdates, power?_apply]
  cases hlatest : latestOn key updates with
  | some u =>
      -- Any update on the key is the member itself, so it does not matter which is last.
      have hkey : u.publicKey = key := by simpa using List.find?_some hlatest
      have hmember : u ∈ updates := List.mem_reverse.mp (List.mem_of_find?_eq_some hlatest)
      have hpower := mem_toUpdates_iff.mp ((hsame u).mp hmember)
      have hkept : ¬ u.isRemoval := fun hzero => h u.publicKey (beq_iff_eq.mp hzero ▸ hpower)
      show (if u.isRemoval then none else some u.power) = _
      rw [if_neg hkept, ← hkey, hpower]
  | none =>
      cases hpower : set.power? key with
      | none => rfl
      | some power =>
          have hmember := (hsame ⟨key, power⟩).mpr (mem_toUpdates_iff.mpr hpower)
          have hother := List.find?_eq_none.mp hlatest _ (List.mem_reverse.mpr hmember)
          simp at hother

/-! ## The sum of the powers -/

theorem totalPower_eq (set : ValidatorSet) :
    set.totalPower
      = (set.toUpdates.map ValidatorUpdate.power).foldl Word.addSaturating 0 := by
  rw [totalPower, toUpdates, List.map_map, List.foldl_map]
  rfl

theorem toNat_totalPower (set : ValidatorSet) :
    set.totalPower.toNat
      = min (set.toUpdates.map fun u => u.power.toNat).sum (2 ^ 64 - 1) := by
  rw [totalPower_eq, Word.toNat_foldl_addSaturating, List.map_map, UInt64.toNat_zero, Nat.zero_add]
  rfl

/-- The powers come to the same sum in whatever order they are added. -/
theorem foldl_addSaturating_of_perm {set : ValidatorSet} {listing : List ValidatorUpdate}
    (h : listing.Perm set.toUpdates) :
    (listing.map ValidatorUpdate.power).foldl Word.addSaturating 0 = set.totalPower := by
  rw [totalPower_eq]
  apply UInt64.toNat_inj.mp
  rw [Word.toNat_foldl_addSaturating, Word.toNat_foldl_addSaturating,
    ((h.map ValidatorUpdate.power).map UInt64.toNat).sum_nat]

/-! ## Sets that grew -/

/-- A set that grew from genesis by batches lists its members once, in the order of their
keys and with their powers.  A further batch gives each key what the last update on it
says, and a second batch goes on as if it were part of the first.  The members lead
back to the set and their powers come to its total, in whatever order they are listed. -/
theorem last_update_rules (genesis : List ValidatorUpdate)
    (batches : List (List ValidatorUpdate)) :
    let set := grown genesis batches
    set.Listed
      ∧ (∀ batch key, (set.apply batch).power? key
          = match latestOn key batch with
            | some u => if u.power = 0 then none else some u.power
            | none => set.power? key)
      ∧ (∀ first second, (set.apply first).apply second = set.apply (first ++ second))
      ∧ ofUpdates set.toUpdates = set
      ∧ set.totalPower.toNat
          = min (set.toUpdates.map fun u => u.power.toNat).sum (2 ^ 64 - 1)
      ∧ ∀ listing, listing.Perm set.toUpdates →
          ofUpdates listing = set
            ∧ (listing.map ValidatorUpdate.power).foldl Word.addSaturating 0 = set.totalPower := by
  intro set
  have hpositive : set.Positive := positive_grown genesis batches
  refine ⟨hpositive.listed, ?_, ?_, hpositive.ofUpdates_eq fun _ => .rfl, set.toNat_totalPower, ?_⟩
  · intro batch key
    rw [power?_apply]
    cases latestOn key batch with
    | none => rfl
    | some u => simp [ValidatorUpdate.isRemoval]
  · intro first second
    exact (set.apply_append first second).symm
  · intro listing hlisting
    exact ⟨hpositive.ofUpdates_eq fun _ => hlisting.mem_iff, foldl_addSaturating_of_perm hlisting⟩

/-- A key that comes without power, one that is named twice in a batch and one that is
removed and comes back; the powers have no room in a 64-bit number, in either order. -/
theorem last_update_rules_overfull :
    let genesis : List ValidatorUpdate :=
      [⟨.ed25519 [2], Word.largest⟩, ⟨.ed25519 [1], 0⟩, ⟨.ed25519 [3], 9⟩]
    let batches : List (List ValidatorUpdate) :=
      [[⟨.ed25519 [3], 0⟩, ⟨.ed25519 [1], 7⟩, ⟨.ed25519 [1], 4⟩], [⟨.ed25519 [3], 5⟩]]
    let listing : List ValidatorUpdate :=
      [⟨.ed25519 [3], 5⟩, ⟨.ed25519 [2], Word.largest⟩, ⟨.ed25519 [1], 4⟩]
    let leaving : List ValidatorUpdate := [⟨.ed25519 [3], 6⟩, ⟨.ed25519 [1], 8⟩, ⟨.ed25519 [3], 0⟩]
    let set := grown genesis batches
    listing.Perm set.toUpdates
      ∧ (ofUpdates listing = set
        ∧ (listing.map ValidatorUpdate.power).foldl Word.addSaturating 0 = set.totalPower)
      ∧ set.totalPower.toNat = 2 ^ 64 - 1
      ∧ (set.apply leaving).power? (.ed25519 [3]) = none := by
  intro genesis batches listing leaving set
  obtain ⟨-, hpower, -, -, htotal, hlistings⟩ := last_update_rules genesis batches
  have hmembers : set.toUpdates = listing.reverse := by decide +kernel
  have hperm : listing.Perm set.toUpdates := hmembers ▸ (List.reverse_perm listing).symm
  refine ⟨hperm, hlistings listing hperm, ?_, hpower leaving (.ed25519 [3])⟩
  rw [htotal, hmembers]
  decide

end ValidatorSet

end ChainHost
