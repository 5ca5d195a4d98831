/-
  Which numerals the reader takes for finite numbers.

  The reader keeps the leading digits that fit into 64 bits, counts the whole
  digits that it drops as zeros, and rounds these digits and the power of ten
  before it multiplies them.  Dropping digits makes a number smaller, but rounding
  may make it larger, so that numbers next to the largest double are refused.  All
  numbers up to `largestRead` pass, and the next number of twenty digits does not.
-/
import ChainHost.Proofs.Json.Numeral
import Mathlib.Data.List.TakeWhile

set_option autoImplicit false

namespace ChainHost.Json.Numeral

/-! ## Digits that are taken -/

/-- A number with more digits. -/
def extend (n : Nat) (ds : Bytes) : Nat := ds.foldl (fun n d => n * 10 + (d.toNat - 48)) n

theorem extend_append (n : Nat) (front back : Bytes) :
    extend n (front ++ back) = extend (extend n front) back := by
  rw [extend, extend, extend, List.foldl_append]

theorem extend_cons (n : Nat) (d : UInt8) (ds : Bytes) :
    extend n (d :: ds) = extend (n * 10 + (d.toNat - 48)) ds := by
  rw [extend, extend, List.foldl_cons]

theorem mul_pow_le_extend (n : Nat) (ds : Bytes) : n * 10 ^ ds.length ≤ extend n ds := by
  induction ds generalizing n with
  | nil => simp [extend]
  | cons d ds ih =>
      rw [extend_cons, List.length_cons, Nat.pow_succ', ← Nat.mul_assoc]
      calc n * 10 * 10 ^ ds.length
          ≤ (n * 10 + (d.toNat - 48)) * 10 ^ ds.length :=
            Nat.mul_le_mul_right _ (Nat.le_add_right ..)
        _ ≤ extend (n * 10 + (d.toNat - 48)) ds := ih _

/-- The digits that are taken fit, and the next one does not. -/
theorem takeDigits_spec {n : Nat} (h : n < 2 ^ 64) (ds : Bytes) :
    ∃ front back, ds = front ++ back ∧ takeDigits n ds = (extend n front, front.length) ∧
      extend n front < 2 ^ 64 ∧
      ∀ d rest, back = d :: rest → 2 ^ 64 ≤ extend n front * 10 + (d.toNat - 48) := by
  induction ds generalizing n with
  | nil => exact ⟨[], [], rfl, rfl, h, nofun⟩
  | cons d ds ih =>
      by_cases hnext : n * 10 + (d.toNat - 48) < 2 ^ 64
      · obtain ⟨front, back, rfl, htake, hfits, hback⟩ := ih hnext
        refine ⟨d :: front, back, rfl, ?_, hfits, hback⟩
        simp only [takeDigits, hnext, if_true, htake]
        rfl
      · refine ⟨[], d :: ds, rfl, ?_, h, ?_⟩
        · simp only [takeDigits, hnext, if_false]
          rfl
        · rintro _ _ ⟨⟩
          exact Nat.le_of_not_lt hnext

/-- Dropped digits count as zeros, so what is left is not larger.  When whole
digits were dropped, digits of the fraction may still be taken in their places. -/
theorem taken_le {n : Nat} {whole taken dropped : Bytes} (hfits : extend n taken < 2 ^ 64)
    (hfull : ∀ d rest, whole = d :: rest → 2 ^ 64 ≤ n * 10 + (d.toNat - 48)) :
    extend n taken * 10 ^ (whole.length + dropped.length)
      ≤ extend n (whole ++ (taken ++ dropped)) := by
  cases whole with
  | nil =>
      rw [List.nil_append, extend_append, List.length_nil, Nat.zero_add]
      exact mul_pow_le_extend _ dropped
  | cons d rest =>
      cases taken with
      | nil =>
          rw [List.nil_append, ← List.length_append]
          exact mul_pow_le_extend n _
      | cons g taken =>
          have hlength : (d :: rest).length + dropped.length
              ≤ (rest ++ (g :: taken ++ dropped)).length := by
            simp only [List.length_cons, List.length_append]
            omega
          calc extend n (g :: taken) * 10 ^ ((d :: rest).length + dropped.length)
              ≤ 2 ^ 64 * 10 ^ (rest ++ (g :: taken ++ dropped)).length :=
                Nat.mul_le_mul hfits.le (Nat.pow_le_pow_right (by decide) hlength)
            _ ≤ (n * 10 + (d.toNat - 48)) * 10 ^ (rest ++ (g :: taken ++ dropped)).length :=
                Nat.mul_le_mul_right _ (hfull d rest rfl)
            _ ≤ extend n ((d :: rest) ++ (g :: taken ++ dropped)) := by
                have hcons : (d :: rest) ++ (g :: taken ++ dropped)
                    = d :: (rest ++ (g :: taken ++ dropped)) := rfl
                rw [hcons, extend_cons]
                exact mul_pow_le_extend _ _

/-! ## Parts that are found -/

theorem takeWhile_digits {ds rest : Bytes} (hds : ∀ d ∈ ds, Decimal.isDigit d = true)
    (hrest : ∀ b ∈ rest.head?, Decimal.isDigit b = false) :
    (ds ++ rest).takeWhile Decimal.isDigit = ds := by
  rw [List.takeWhile_append_of_pos hds]
  cases rest with
  | nil => simp
  | cons b rest => simp [hrest b rfl]

/-- The bytes behind the whole digits. -/
def Parts.behindWhole (p : Parts) : Bytes :=
  p.fraction.elim [] (fun run => 46 :: run.digits) ++ p.power.elim [] Power.spelling

theorem Power.isDigit_letter (p : Power) : Decimal.isDigit p.letter = false := by
  rcases p.letter_eq with h | h <;> rw [h] <;> rfl

theorem isDigit_head_power (power : Option Power) :
    ∀ b ∈ (power.elim [] Power.spelling).head?, Decimal.isDigit b = false := by
  intro b hb
  cases power with
  | none => cases hb
  | some power =>
      cases hb
      exact power.isDigit_letter

theorem isDigit_head_behindWhole (p : Parts) :
    ∀ b ∈ p.behindWhole.head?, Decimal.isDigit b = false := by
  intro b hb
  rw [Parts.behindWhole] at hb
  cases hfraction : p.fraction with
  | none =>
      rw [hfraction] at hb
      exact isDigit_head_power p.power b hb
  | some run =>
      rw [hfraction] at hb
      cases hb
      rfl

section Found

variable (p : Parts)

theorem unsigned_found :
    (if p.spelling.head? = some 45 then p.spelling.drop 1 else p.spelling) = p.unsigned := by
  rw [Parts.spelling]
  split
  case isTrue => rfl
  case isFalse =>
      obtain ⟨d, ds, hwhole⟩ := List.exists_cons_of_ne_nil p.whole.ne_nil
      have hdigit := p.whole.isDigit d (hwhole ▸ List.mem_cons_self)
      have hne : p.unsigned.head? ≠ some 45 := by
        rw [Parts.unsigned, hwhole]
        rintro ⟨⟩
        exact absurd hdigit (by decide)
      rw [if_neg hne]

theorem whole_found : p.unsigned.takeWhile Decimal.isDigit = p.whole.digits :=
  takeWhile_digits p.whole.isDigit (isDigit_head_behindWhole p)

theorem behindWhole_found : p.unsigned.drop p.whole.digits.length = p.behindWhole :=
  List.drop_left

/-- There is a point behind the whole digits if there is a fraction. -/
theorem point_found : p.behindWhole.head? = some 46 ↔ p.fraction.isSome = true := by
  rw [Parts.behindWhole]
  cases p.fraction with
  | some run => simp
  | none =>
      refine ⟨fun h => ?_, nofun⟩
      cases hpower : p.power with
      | none => simp [hpower] at h
      | some power =>
          rcases power.letter_eq with hletter | hletter <;>
            simp [hpower, Power.spelling, hletter] at h

theorem fraction_found :
    (if p.behindWhole.head? = some 46 then (p.behindWhole.drop 1).takeWhile Decimal.isDigit else [])
      = p.places := by
  simp only [point_found]
  cases hfraction : p.fraction with
  | none => simp [Parts.places, hfraction]
  | some run =>
      have hbehind : p.behindWhole.drop 1 = run.digits ++ p.power.elim [] Power.spelling := by
        rw [Parts.behindWhole, hfraction]
        rfl
      rw [if_pos Option.isSome_some, hbehind,
        takeWhile_digits run.isDigit (isDigit_head_power p.power), Parts.places, hfraction]
      rfl

theorem power_found :
    (if p.behindWhole.head? = some 46 then p.behindWhole.drop (1 + p.places.length)
      else p.behindWhole) = p.power.elim [] Power.spelling := by
  simp only [point_found]
  cases hfraction : p.fraction with
  | none => simp [Parts.behindWhole, hfraction]
  | some run =>
      have hplaces : p.places = run.digits := by rw [Parts.places, hfraction]; rfl
      have hbehind : p.behindWhole = (46 :: run.digits) ++ p.power.elim [] Power.spelling := by
        rw [Parts.behindWhole, hfraction]
        rfl
      rw [if_pos Option.isSome_some, hbehind, hplaces, Nat.add_comm, ← List.length_cons,
        List.drop_left]

end Found

/-- The exponent behind the letter, with its sign. -/
theorem exponent_found (power : Option Power) :
    let found := (power.elim [] Power.spelling).drop 1
    let digits := if found.head? = some 43 ∨ found.head? = some 45 then found.drop 1 else found
    (if found.head? = some 45 then -(Decimal.value digits : Int) else Decimal.value digits)
      = power.elim 0 Power.exponent := by
  cases power with
  | none => rfl
  | some power =>
      obtain ⟨letter, sign, run, hletter, hsign⟩ := power
      cases sign with
      | some b =>
          rcases hsign b rfl with rfl | rfl <;> simp [Power.spelling, Power.exponent]
      | none =>
          obtain ⟨d, ds, hdigits⟩ := List.exists_cons_of_ne_nil run.ne_nil
          have hdigit := run.isDigit d (hdigits ▸ List.mem_cons_self)
          have hplus : d ≠ 43 := by
            rintro rfl
            exact absurd hdigit (by decide)
          have hminus : d ≠ 45 := by
            rintro rfl
            exact absurd hdigit (by decide)
          simp [Power.spelling, Power.exponent, hdigits, hplus, hminus]

/-- The parts of a numeral are found by the reader. -/
theorem scientific_spelling (p : Parts) :
    scientific p.spelling =
      let front := takeDigits 0 p.whole.digits
      let all := takeDigits front.1 p.places
      { significand := all.1
        exponent := ((p.whole.digits.length - front.2 : Nat) : Int) - (all.2 : Int)
          + p.power.elim 0 Power.exponent } := by
  rw [← exponent_found]
  simp only [scientific, unsigned_found, whole_found, behindWhole_found, fraction_found,
    power_found]

/-- The reader drops digits and never makes a number larger by that. -/
theorem scientific_le (p : Parts) :
    ∃ significand dropped : Nat, scientific p.spelling = ⟨significand, p.exponent + dropped⟩ ∧
      significand < 2 ^ 64 ∧ significand * 10 ^ dropped ≤ p.significand := by
  obtain ⟨front, back, hwhole, htake, hfits, hfull⟩ :=
    takeDigits_spec (n := 0) (by decide) p.whole.digits
  obtain ⟨taken, rest, hplaces, htakeAll, hfitsAll, -⟩ := takeDigits_spec hfits p.places
  refine ⟨extend (extend 0 front) taken, back.length + rest.length, ?_, hfitsAll, ?_⟩
  · rw [scientific_spelling, htake]
    dsimp only
    rw [htakeAll]
    simp only [Parts.exponent, hwhole, hplaces, List.length_append]
    congr 1
    omega
  · have hvalue : p.significand = extend (extend 0 front) (back ++ (taken ++ rest)) := by
      rw [← extend_append, ← List.append_assoc, ← hwhole, ← hplaces]
      rfl
    rw [hvalue]
    exact taken_le hfitsAll hfull

/-! ## Rounding -/

/-- The nearest multiple of a unit, of two the even one. -/
def roundTo (unit n : Nat) : Nat :=
  (if unit < 2 * (n % unit) ∨ (2 * (n % unit) = unit ∧ n / unit % 2 = 1) then n / unit + 1
    else n / unit) * unit

theorem nearest_of_large {n : Nat} (h : 2 ^ 53 ≤ n) :
    nearest n = roundTo (2 ^ (n.log2 - 52)) n := by
  rw [nearest, if_neg (Nat.not_lt.mpr h)]
  rfl

theorem le_roundTo (unit n : Nat) : n / unit * unit ≤ roundTo unit n := by
  rw [roundTo]
  exact Nat.mul_le_mul_right _ (by split <;> omega)

theorem roundTo_le (unit n : Nat) : roundTo unit n ≤ (n / unit + 1) * unit := by
  rw [roundTo]
  exact Nat.mul_le_mul_right _ (by split <;> omega)

theorem roundTo_mono (unit : Nat) {a b : Nat} (h : a ≤ b) : roundTo unit a ≤ roundTo unit b := by
  have hquotient : a / unit ≤ b / unit := Nat.div_le_div_right h
  rcases Nat.lt_or_eq_of_le hquotient with hlt | heq
  · calc roundTo unit a ≤ (a / unit + 1) * unit := roundTo_le unit a
      _ ≤ b / unit * unit := Nat.mul_le_mul_right _ hlt
      _ ≤ roundTo unit b := le_roundTo unit b
  · -- between two multiples the larger rest decides
    have ha := Nat.div_add_mod a unit
    have hb := Nat.div_add_mod b unit
    rw [heq] at ha
    have hrest : a % unit ≤ b % unit := by omega
    rw [roundTo, roundTo, heq]
    refine Nat.mul_le_mul_right _ ?_
    split <;> split <;> omega

/-- The unit of a number of more than 53 bits. -/
theorem pow_log2 {n : Nat} (h : 2 ^ 53 ≤ n) : 2 ^ n.log2 = 2 ^ 52 * 2 ^ (n.log2 - 52) := by
  have hlog : 53 ≤ n.log2 := (Nat.le_log2 (by omega)).mpr h
  rw [← Nat.pow_add]
  congr 1
  omega

theorem pow_log2_le_nearest {n : Nat} (h : 2 ^ 53 ≤ n) : 2 ^ n.log2 ≤ nearest n := by
  have hself := Nat.log2_self_le (show n ≠ 0 by omega)
  rw [pow_log2 h] at hself ⊢
  rw [nearest_of_large h]
  calc 2 ^ 52 * 2 ^ (n.log2 - 52)
      ≤ n / 2 ^ (n.log2 - 52) * 2 ^ (n.log2 - 52) :=
        Nat.mul_le_mul_right _ ((Nat.le_div_iff_mul_le (Nat.two_pow_pos _)).mpr hself)
    _ ≤ roundTo (2 ^ (n.log2 - 52)) n := le_roundTo _ n

theorem nearest_le_pow_log2 {n : Nat} (h : 2 ^ 53 ≤ n) : nearest n ≤ 2 ^ (n.log2 + 1) := by
  have hself := Nat.lt_log2_self (n := n)
  rw [Nat.pow_succ, pow_log2 h, Nat.mul_right_comm] at hself ⊢
  rw [nearest_of_large h]
  calc roundTo (2 ^ (n.log2 - 52)) n
      ≤ (n / 2 ^ (n.log2 - 52) + 1) * 2 ^ (n.log2 - 52) := roundTo_le _ n
    _ ≤ 2 ^ 52 * 2 * 2 ^ (n.log2 - 52) :=
        Nat.mul_le_mul_right _ ((Nat.div_lt_iff_lt_mul (Nat.two_pow_pos _)).mpr hself)

/-- Rounding keeps the order. -/
theorem nearest_mono {a b : Nat} (h : a ≤ b) : nearest a ≤ nearest b := by
  by_cases hb : b < 2 ^ 53
  · rw [nearest, nearest, if_pos (Nat.lt_of_le_of_lt h hb), if_pos hb]
    exact h
  replace hb := Nat.le_of_not_lt hb
  by_cases ha : a < 2 ^ 53
  · calc nearest a = a := by rw [nearest, if_pos ha]
      _ ≤ 2 ^ 53 := ha.le
      _ ≤ 2 ^ b.log2 := Nat.pow_le_pow_right (by decide) ((Nat.le_log2 (by omega)).mpr hb)
      _ ≤ nearest b := pow_log2_le_nearest hb
  replace ha := Nat.le_of_not_lt ha
  have hlog : a.log2 ≤ b.log2 :=
    (Nat.le_log2 (by omega)).mpr ((Nat.log2_self_le (by omega)).trans h)
  rcases Nat.lt_or_eq_of_le hlog with hlt | heq
  · calc nearest a ≤ 2 ^ (a.log2 + 1) := nearest_le_pow_log2 ha
      _ ≤ 2 ^ b.log2 := Nat.pow_le_pow_right (by decide) hlt
      _ ≤ nearest b := pow_log2_le_nearest hb
  · rw [nearest_of_large ha, nearest_of_large hb, heq]
    exact roundTo_mono _ h

/-! ## Finite numbers -/

/-- The largest number of twenty digits and a power of ten up to which every
number is read. -/
def largestRead : Nat := 17976931348623156224 * 10 ^ 289

/-- The largest double. -/
def largestDouble : Nat := (2 ^ 53 - 1) * 2 ^ 971

/-- For every power of ten, the largest digits that `largestRead` admits are read. -/
theorem product_lt_overflow : ∀ exponent < 309,
    nearest (min (largestRead / 10 ^ exponent) (2 ^ 64 - 1)) * nearest (10 ^ exponent)
      < Double.overflow := by
  decide +kernel

/-- What is left of a number, at its power of ten, is not larger than the number. -/
theorem left_le {p : Parts} {significand dropped bound : Nat} (hbound : p.AtMost bound)
    (hle : significand * 10 ^ dropped ≤ p.significand) (hexponent : 0 ≤ p.exponent + dropped) :
    significand * 10 ^ (p.exponent + dropped).toNat ≤ bound := by
  rw [Parts.AtMost] at hbound
  by_cases hnonneg : 0 ≤ p.exponent
  · have hsum : (p.exponent + dropped).toNat = dropped + p.exponent.toNat := by omega
    have hzero : (-p.exponent).toNat = 0 := by omega
    rw [hzero, Nat.pow_zero, Nat.mul_one] at hbound
    calc significand * 10 ^ (p.exponent + dropped).toNat
        = significand * 10 ^ dropped * 10 ^ p.exponent.toNat := by
          rw [hsum, Nat.pow_add, Nat.mul_assoc]
      _ ≤ p.significand * 10 ^ p.exponent.toNat := Nat.mul_le_mul_right _ hle
      _ ≤ bound := hbound
  · have hsum : dropped = (p.exponent + dropped).toNat + (-p.exponent).toNat := by omega
    have hzero : p.exponent.toNat = 0 := by omega
    rw [hzero, Nat.pow_zero, Nat.mul_one] at hbound
    have hpos : 0 < 10 ^ (-p.exponent).toNat := Nat.pow_pos (by decide)
    refine Nat.le_of_mul_le_mul_right ?_ hpos
    calc significand * 10 ^ (p.exponent + dropped).toNat * 10 ^ (-p.exponent).toNat
        = significand * 10 ^ dropped := by rw [Nat.mul_assoc, ← Nat.pow_add, ← hsum]
      _ ≤ p.significand := hle
      _ ≤ bound * 10 ^ (-p.exponent).toNat := hbound

/-- Numbers up to `largestRead` are read. -/
theorem isFinite_of_within {spelling : Bytes} (h : Within largestRead spelling) :
    isFinite spelling = true := by
  obtain ⟨parts, rfl, hbound⟩ := h
  obtain ⟨significand, dropped, hscientific, hfits, hle⟩ := scientific_le parts
  simp only [isFinite, hscientific]
  split
  case isTrue => rfl
  case isFalse hrelevant =>
      obtain ⟨hne, hexponent⟩ := not_or.mp hrelevant
      have hleft := left_le hbound hle (Int.not_lt.mp hexponent)
      generalize (parts.exponent + dropped) = exponent at *
      have hsmall : exponent.toNat < 309 := by
        refine (Nat.pow_lt_pow_iff_right (show 1 < 10 by decide)).mp ?_
        calc 10 ^ exponent.toNat ≤ significand * 10 ^ exponent.toNat :=
              Nat.le_mul_of_pos_left _ (Nat.pos_of_ne_zero hne)
          _ ≤ largestRead := hleft
          _ < 10 ^ 309 := by decide +kernel
      -- the digits are bounded for this power of ten, and rounding keeps the order
      have hmin : significand ≤ min (largestRead / 10 ^ exponent.toNat) (2 ^ 64 - 1) :=
        Nat.le_min.mpr ⟨(Nat.le_div_iff_mul_le (Nat.pow_pos (by decide))).mpr hleft, by omega⟩
      rw [Bool.and_eq_true, decide_eq_true_iff, decide_eq_true_iff]
      refine ⟨by omega, ?_⟩
      calc nearest significand * nearest (10 ^ exponent.toNat)
          ≤ nearest (min (largestRead / 10 ^ exponent.toNat) (2 ^ 64 - 1))
            * nearest (10 ^ exponent.toNat) := Nat.mul_le_mul_right _ (nearest_mono hmin)
        _ < Double.overflow := product_lt_overflow _ hsmall

/-- The next number of twenty digits after `largestRead`. -/
def refused : Parts where
  negative := false
  whole := .ofNat 1
  fraction := some (.ofNat 7976931348623156225)
  power := some ⟨101, none, .ofNat 308, .inl rfl, nofun⟩
  whole_eq h := absurd h (by decide +kernel)

/-- The bound is sharp, and less than the largest double. -/
theorem refused_sharp :
    refused.AtMost (largestRead + 10 ^ 289) ∧ largestRead + 10 ^ 289 ≤ largestDouble ∧
      isFinite refused.spelling = false := by
  decide +kernel

theorem readsFinite_of_within {spelling : Bytes} (h : Within largestRead spelling) :
    ReadsFinite spelling := ⟨h.spelled, isFinite_of_within h⟩

/-- Whole numbers of 64 bits are finite. -/
theorem isFinite_digits {n : Nat} (h : n < 2 ^ 64) : isFinite (Decimal.digits n) = true := by
  have hle : 2 ^ 64 ≤ largestRead := by decide +kernel
  exact isFinite_of_within (within_digits (h.le.trans hle))

end ChainHost.Json.Numeral
