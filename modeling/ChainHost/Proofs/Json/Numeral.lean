/-
  How numerals are spelled.

  A numeral has a sign, digits, digits after a point and a power of ten.  `Parts`
  holds them as the grammar of documents has them, and says how large the number
  is that they stand for.
-/
import ChainHost.Json.Numeral
import ChainHost.Proofs.Text.Utf8

set_option autoImplicit false

namespace ChainHost

namespace Decimal

theorem isDigit_iff {d : UInt8} : isDigit d = true ↔ 48 ≤ d.toNat ∧ d.toNat ≤ 57 := by
  simp [isDigit]

/-- Only the number zero starts with the digit zero. -/
theorem digits_eq_cons {n : Nat} (h : n ≠ 0) : ∃ d ds, digits n = d :: ds ∧ d ≠ 48 := by
  rw [digits]
  split
  · next hlow =>
      refine ⟨UInt8.ofNat (48 + n), [], rfl, fun heq => ?_⟩
      have hnat := congrArg UInt8.toNat heq
      rw [Utf8.toNat_byte (by omega)] at hnat
      have : (48 : UInt8).toNat = 48 := rfl
      omega
  · next hhigh =>
      obtain ⟨d, ds, hdigits, hne⟩ := digits_eq_cons (n := n / 10) (by omega)
      rw [hdigits]
      exact ⟨d, _, rfl, hne⟩
termination_by n
decreasing_by omega

theorem digits_zero : digits 0 = [48] := by
  rw [digits]
  rfl

end Decimal

namespace Json.Numeral

/-! ## Parts -/

/-- A run of digits. -/
structure Run where
  digits : Bytes
  isDigit : ∀ d ∈ digits, Decimal.isDigit d = true
  ne_nil : digits ≠ []

/-- The digits of a number. -/
def Run.ofNat (n : Nat) : Run :=
  ⟨Decimal.digits n, Decimal.isDigit_of_mem_digits n, Decimal.digits_ne_nil n⟩

/-- A power of ten. -/
structure Power where
  /-- The letter that starts it. -/
  letter : UInt8
  /-- Its sign, if it has one. -/
  sign : Option UInt8
  run : Run
  letter_eq : letter = 101 ∨ letter = 69
  sign_eq : ∀ b ∈ sign, b = 43 ∨ b = 45

/-- A numeral by its parts. -/
structure Parts where
  negative : Bool
  whole : Run
  fraction : Option Run
  power : Option Power
  /-- There are no leading zeros. -/
  whole_eq : whole.digits.head? = some 48 → whole.digits = [48]

/-- The bytes of a power of ten. -/
def Power.spelling (p : Power) : Bytes := p.letter :: (p.sign.toList ++ p.run.digits)

/-- The exponent that a power of ten stands for. -/
def Power.exponent (p : Power) : Int :=
  if p.sign = some 45 then -Decimal.value p.run.digits else Decimal.value p.run.digits

namespace Parts

/-- The digits after the point. -/
def places (p : Parts) : Bytes := p.fraction.elim [] Run.digits

/-- The bytes of a numeral after its sign. -/
def unsigned (p : Parts) : Bytes :=
  p.whole.digits ++ (p.fraction.elim [] (fun run => 46 :: run.digits)
    ++ p.power.elim [] Power.spelling)

/-- The bytes of a numeral. -/
def spelling (p : Parts) : Bytes := if p.negative then 45 :: p.unsigned else p.unsigned

/-- All digits of a numeral as one number. -/
def significand (p : Parts) : Nat := Decimal.value (p.whole.digits ++ p.places)

/-- The power of ten that the last digit stands for. -/
def exponent (p : Parts) : Int := p.power.elim 0 Power.exponent - p.places.length

end Parts

/-- The spellings of numerals. -/
def Spelled (spelling : Bytes) : Prop := ∃ parts : Parts, parts.spelling = spelling

/-- Whether a number is a bound at most, without its sign. -/
def Parts.AtMost (p : Parts) (bound : Nat) : Prop :=
  p.significand * 10 ^ p.exponent.toNat ≤ bound * 10 ^ (-p.exponent).toNat

instance (p : Parts) (bound : Nat) : Decidable (p.AtMost bound) :=
  inferInstanceAs (Decidable (_ ≤ _))

/-- The numerals whose number is a bound at most, without its sign. -/
def Within (bound : Nat) (spelling : Bytes) : Prop :=
  ∃ parts : Parts, parts.spelling = spelling ∧ parts.AtMost bound

/-- The numerals that the reader takes for finite numbers. -/
def ReadsFinite (spelling : Bytes) : Prop := Spelled spelling ∧ isFinite spelling = true

theorem Within.spelled {bound : Nat} {spelling : Bytes} (h : Within bound spelling) :
    Spelled spelling := by
  obtain ⟨parts, hspelling, -⟩ := h
  exact ⟨parts, hspelling⟩

/-! ## Whole numbers -/

/-- The parts of a whole number as it is written. -/
def partsOf (n : Nat) : Parts where
  negative := false
  whole := .ofNat n
  fraction := none
  power := none
  whole_eq h := by
    by_cases hn : n = 0
    · subst hn
      exact Decimal.digits_zero
    · obtain ⟨d, ds, hdigits, hne⟩ := Decimal.digits_eq_cons hn
      have hhead : (Decimal.digits n).head? = some d := by rw [hdigits, List.head?_cons]
      exact absurd (Option.some.inj (hhead.symm.trans h)) hne

theorem within_digits {n bound : Nat} (h : n ≤ bound) : Within bound (Decimal.digits n) := by
  refine ⟨partsOf n, by simp [Parts.spelling, Parts.unsigned, partsOf, Run.ofNat], ?_⟩
  have hsignificand : (partsOf n).significand = n := by
    simp [Parts.significand, Parts.places, partsOf, Run.ofNat, Decimal.value_digits]
  have hexponent : (partsOf n).exponent = 0 := by simp [Parts.exponent, Parts.places, partsOf]
  rw [Parts.AtMost, hsignificand, hexponent]
  simpa using h

theorem spelled_digits (n : Nat) : Spelled (Decimal.digits n) :=
  (within_digits (Nat.le_refl n)).spelled

end Json.Numeral

end ChainHost
