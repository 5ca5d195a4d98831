/-
  Sums of 64-bit numbers that stop at the largest one.
-/
import ChainHost.Bytes

set_option autoImplicit false

namespace ChainHost.Word

/-- The largest 64-bit number. -/
def largest : UInt64 := 0xFFFFFFFFFFFFFFFF

/-- The sum of two numbers, or the largest number if there is no room for it. -/
def addSaturating (a b : UInt64) : UInt64 :=
  if a.toNat + b.toNat < 2 ^ 64 then a + b else largest

theorem toNat_addSaturating (a b : UInt64) :
    (addSaturating a b).toNat = min (a.toNat + b.toNat) (2 ^ 64 - 1) := by
  unfold addSaturating
  split
  · next h =>
      rw [UInt64.toNat_add, Nat.mod_eq_of_lt h]
      omega
  · next h =>
      have : largest.toNat = 2 ^ 64 - 1 := rfl
      omega

/-- The next number, or the largest one again. -/
def next (a : UInt64) : UInt64 := addSaturating a 1

theorem max_le_iff {a b c : UInt64} : max a b ≤ c ↔ a ≤ c ∧ b ≤ c := by
  show (if a ≤ b then b else a) ≤ c ↔ _
  split
  · next hab => exact ⟨fun hb => ⟨UInt64.le_trans hab hb, hb⟩, And.right⟩
  · next hab =>
      have hba : b ≤ a := UInt64.le_of_lt (UInt64.not_le.mp hab)
      exact ⟨fun ha => ⟨ha, UInt64.le_trans hba ha⟩, And.left⟩

theorem compare_ne_lt_iff {a b : UInt64} : compare a b ≠ .lt ↔ b ≤ a := by
  rw [← UInt64.not_lt]
  exact not_congr compareOfLessAndEq_eq_lt

theorem le_max_left (a b : UInt64) : a ≤ max a b := (max_le_iff.mp (UInt64.le_refl _)).1

end ChainHost.Word
