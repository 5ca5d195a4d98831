/-
  What a length prefix says.

  `Says` is the grammar of prefixes from a place on: bytes with their top bit set and
  one without it, ten in all at most, where the tenth holds a single bit.  A prefix need
  not be the shortest one of its number.  Putting the groups of seven bits together in a
  number of 64 bits loses nothing, since each group lies above all before it.
-/
import ChainHost.Frame.Length
import Mathlib.Data.Nat.Bitwise

set_option autoImplicit false

namespace ChainHost.Frame.Length

/-- From a place on, the bytes are the rest of a prefix, and say a number. -/
inductive Says : Nat → Bytes → Nat → Prop where
  | last {place : Nat} {b : UInt8} (hlast : b.toNat < 128)
      (hfits : place < 9 ∨ (place = 9 ∧ b.toNat ≤ 1)) : Says place [b] b.toNat
  | more {place : Nat} {b : UInt8} {rest : Bytes} {n : Nat} (hmore : 128 ≤ b.toNat)
      (hplace : place < 9) (hrest : Says (place + 1) rest n) :
      Says place (b :: rest) (b.toNat - 128 + 128 * n)

/-- The exact sum of the groups of seven bits, the lowest group first. -/
def groups : Bytes → Nat
  | [] => 0
  | b :: rest => b.toNat % 128 + 128 * groups rest

/-- The number that a prefix says is the sum of its groups. -/
theorem Says.eq_groups {place n : Nat} {bytes : Bytes} (h : Says place bytes n) :
    n = groups bytes := by
  induction h with
  | last hlast _ => rw [groups, groups, Nat.mod_eq_of_lt hlast, Nat.mul_zero, Nat.add_zero]
  | @more place b rest n hmore _ _ ih =>
      have hbound := b.toNat_lt
      have hgroup : b.toNat % 128 = b.toNat - 128 := by omega
      rw [groups, hgroup, ← ih]

/-- What is left of a prefix says a number of the bits that are left. -/
theorem Says.lt {place n : Nat} {bytes : Bytes} (h : Says place bytes n) :
    n < 2 ^ (64 - 7 * place) := by
  induction h with
  | @last place b hlast hfits =>
      rcases hfits with hearly | ⟨rfl, hbit⟩
      · have hroom : 2 ^ 7 ≤ 2 ^ (64 - 7 * place) := Nat.pow_le_pow_right (by omega) (by omega)
        omega
      · omega
  | @more place b rest n hmore hplace hrest ih =>
      have hbound := b.toNat_lt
      have hbits : 64 - 7 * place = 64 - 7 * (place + 1) + 7 := by omega
      rw [hbits, Nat.pow_add]
      omega

/-- A length that is written says its number. -/
theorem says_encode {place n : Nat} (hplace : place ≤ 9) (hn : n < 2 ^ (64 - 7 * place)) :
    Says place (encode n) n := by
  -- Each byte leaves seven bits fewer, so that the tenth has room for one.
  fun_induction encode n generalizing place with
  | case1 n hlow =>
      have hbyte : (UInt8.ofNat n).toNat = n :=
        UInt8.toNat_ofNat_of_lt' (show n < 256 by omega)
      have hsaid : Says place [UInt8.ofNat n] (UInt8.ofNat n).toNat := by
        refine .last (hbyte.symm ▸ hlow) ?_
        rcases Nat.lt_or_eq_of_le hplace with hearly | rfl
        · exact .inl hearly
        · refine .inr ⟨rfl, ?_⟩
          rw [hbyte]
          omega
      rwa [hbyte] at hsaid
  | case2 n hhigh ih =>
      have hearly : place < 9 := by
        refine Nat.lt_of_le_of_ne hplace ?_
        rintro rfl
        omega
      have hbits : 64 - 7 * place = 64 - 7 * (place + 1) + 7 := by omega
      have hrest : n / 128 < 2 ^ (64 - 7 * (place + 1)) := by
        rw [hbits, Nat.pow_add] at hn
        exact Nat.div_lt_of_lt_mul (Nat.mul_comm _ _ ▸ hn)
      have hbyte : (UInt8.ofNat (128 + n % 128)).toNat = 128 + n % 128 :=
        UInt8.toNat_ofNat_of_lt' (show 128 + n % 128 < 256 by omega)
      have hnumber : 128 + n % 128 - 128 + 128 * (n / 128) = n := by omega
      have hsaid := Says.more (b := UInt8.ofNat (128 + n % 128)) (by omega) hearly
        (ih hearly hrest)
      rwa [hbyte, hnumber] at hsaid

/-- Bytes start with the rest of a prefix, or go wrong at the tenth byte, or are all that
there is of a prefix. -/
theorem says_or (place : Nat) (hplace : place ≤ 9) (bytes : Bytes) :
    (∃ length n rest, bytes = length ++ rest ∧ Says place length n)
      ∨ (∃ front b rest, bytes = front ++ b :: rest ∧ (∀ c ∈ front, 128 ≤ c.toNat)
          ∧ place + front.length = 9 ∧ 1 < b.toNat)
      ∨ ((∀ c ∈ bytes, 128 ≤ c.toNat) ∧ place + bytes.length ≤ 9) := by
  induction bytes generalizing place with
  | nil => exact .inr (.inr ⟨nofun, hplace⟩)
  | cons b rest ih =>
      rcases Nat.lt_or_eq_of_le hplace with hearly | rfl
      · rcases Nat.lt_or_ge b.toNat 128 with hlast | hmore
        · exact .inl ⟨[b], b.toNat, rest, rfl, .last hlast (.inl hearly)⟩
        · rcases ih (place + 1) hearly with
            ⟨length, n, after, rfl, hsaid⟩ | ⟨front, c, after, rfl, hfront, hten, hlarge⟩
            | ⟨hall, hshort⟩
          · exact .inl ⟨b :: length, _, after, rfl, .more hmore hearly hsaid⟩
          · refine .inr (.inl ⟨b :: front, c, after, rfl, ?_, ?_, hlarge⟩)
            · exact List.forall_mem_cons.mpr ⟨hmore, hfront⟩
            · rw [List.length_cons]
              omega
          · refine .inr (.inr ⟨List.forall_mem_cons.mpr ⟨hmore, hall⟩, ?_⟩)
            rw [List.length_cons]
            omega
      · rcases Nat.lt_or_ge 1 b.toNat with hlarge | hbit
        · exact .inr (.inl ⟨[], b, rest, rfl, nofun, rfl, hlarge⟩)
        · exact .inl ⟨[b], b.toNat, rest, rfl, .last (by omega) (.inr ⟨rfl, hbit⟩)⟩

/-! ## One byte -/

theorem and_top_eq_zero_iff (b : UInt8) : b &&& 0x80 = 0 ↔ b.toNat < 128 := by
  have hbound := b.toNat_lt
  have htop : (b &&& 0x80).toNat = (b.toNat.testBit 7).toNat * 2 ^ 7 := by
    rw [UInt8.toNat_and, ← Nat.and_two_pow]
    rfl
  rw [← UInt8.toNat_inj, htop, Nat.testBit_eq_decide_div_mod_eq]
  by_cases hlow : b.toNat < 128
  · have hquotient : b.toNat / 2 ^ 7 % 2 = 0 := by omega
    simp [hquotient, hlow]
  · have hquotient : b.toNat / 2 ^ 7 % 2 = 1 := by omega
    simp [hquotient, hlow]

/-- A group of seven bits lands above what was read before it. -/
theorem toNat_join {place : Nat} (hplace : place ≤ 9) {value : UInt64}
    (hvalue : value.toNat < 2 ^ (7 * place)) {b : UInt8}
    (hfits : b.toNat % 128 * 2 ^ (7 * place) < 2 ^ 64) :
    (value ||| ((b &&& 0x7F).toUInt64 <<< UInt64.ofNat (7 * place))).toNat
      = value.toNat + 2 ^ (7 * place) * (b.toNat % 128) := by
  have hgroup : (b &&& 0x7F).toNat = b.toNat % 128 := by
    rw [UInt8.toNat_and]
    exact Nat.and_two_pow_sub_one_eq_mod b.toNat 7
  have hshift : (UInt64.ofNat (7 * place)).toNat = 7 * place :=
    UInt64.toNat_ofNat_of_lt' (show 7 * place < 2 ^ 64 by omega)
  rw [UInt64.toNat_or, UInt64.toNat_shiftLeft, UInt8.toNat_toUInt64, hgroup, hshift,
    Nat.mod_eq_of_lt (show 7 * place < 64 by omega), Nat.shiftLeft_eq, Nat.mod_eq_of_lt hfits,
    Nat.or_comm, Nat.mul_comm, ← Nat.two_pow_add_eq_or_of_lt hvalue, Nat.add_comm]

theorem two_pow_place (place : Nat) : 2 ^ (7 * (place + 1)) = 128 * 2 ^ (7 * place) := by
  rw [Nat.mul_add, Nat.pow_add, Nat.mul_comm]

theorem mul_two_pow_place_lt {place n : Nat} (hplace : place < 9) (hn : n < 128) :
    n * 2 ^ (7 * place) < 2 ^ 64 := by
  have hle : n * 2 ^ (7 * place) ≤ 2 ^ (7 * (place + 1)) := by
    rw [two_pow_place]
    exact Nat.mul_le_mul_right _ (Nat.le_of_lt hn)
  exact Nat.lt_of_le_of_lt hle (Nat.pow_lt_pow_right (by omega) (by omega))

theorem step_more {place : Nat} (hplace : place < 9) {value : UInt64}
    (hvalue : value.toNat < 2 ^ (7 * place)) {b : UInt8} (hmore : 128 ≤ b.toNat) :
    ∃ more, step place value b = .more more ∧ more.toNat < 2 ^ (7 * (place + 1))
      ∧ more.toNat = value.toNat + 2 ^ (7 * place) * (b.toNat - 128) := by
  have hbound := b.toNat_lt
  have hgroup : b.toNat % 128 = b.toNat - 128 := by omega
  have hfits : b.toNat % 128 * 2 ^ (7 * place) < 2 ^ 64 :=
    mul_two_pow_place_lt hplace (Nat.mod_lt _ (by omega))
  have htop : ¬ b &&& 0x80 = 0 := by
    rw [and_top_eq_zero_iff]
    omega
  have hearly : ¬ place + 1 ≥ maxBytes := by
    rw [maxBytes]
    omega
  have hsum := toNat_join (Nat.le_of_lt hplace) hvalue hfits
  rw [hgroup] at hsum
  refine ⟨_, ?_, ?_, hsum⟩
  · simp only [step, hearly, htop, false_and, if_false]
  · have hle : 2 ^ (7 * place) * (b.toNat - 128) ≤ 2 ^ (7 * place) * 127 :=
      Nat.mul_le_mul_left _ (by omega)
    rw [hsum, two_pow_place]
    omega

theorem step_last {place : Nat} {value : UInt64} (hvalue : value.toNat < 2 ^ (7 * place))
    {b : UInt8} (hlast : b.toNat < 128) (hfits : place < 9 ∨ (place = 9 ∧ b.toNat ≤ 1)) :
    ∃ length, step place value b = .complete length
      ∧ length.toNat = value.toNat + 2 ^ (7 * place) * b.toNat := by
  have hgroup : b.toNat % 128 = b.toNat := Nat.mod_eq_of_lt hlast
  have hplace : place ≤ 9 := by omega
  have hroom : b.toNat % 128 * 2 ^ (7 * place) < 2 ^ 64 := by
    rw [hgroup]
    rcases hfits with hearly | ⟨rfl, hbit⟩
    · exact mul_two_pow_place_lt hearly hlast
    · omega
  have htop : b &&& 0x80 = 0 := (and_top_eq_zero_iff b).mpr hlast
  have hformed : ¬ (place + 1 ≥ maxBytes ∧ b > 1) := by
    rintro ⟨hlate, hlarge⟩
    have hlarge' : 1 < b.toNat := UInt8.lt_iff_toNat_lt.mp hlarge
    rw [maxBytes] at hlate
    omega
  refine ⟨_, ?_, hgroup ▸ toNat_join hplace hvalue hroom⟩
  simp only [step, hformed, htop, if_false, if_true]

theorem step_malformed (value : UInt64) {b : UInt8} (hlarge : 1 < b.toNat) :
    step 9 value b = .malformed := by
  have hlarge : b > 1 := UInt8.lt_iff_toNat_lt.mpr hlarge
  rw [step, if_pos ⟨Nat.le_refl _, hlarge⟩]

end ChainHost.Frame.Length
