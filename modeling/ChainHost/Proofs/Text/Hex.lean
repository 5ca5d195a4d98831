/-
  Bytes and their digits.

  Bytes are read back from the digits that are written for them, and from any other
  spelling with two digits for each: `Spells` is the grammar of what is read.
-/
import ChainHost.Text.Hex

set_option autoImplicit false

namespace ChainHost.Hex

/-- A digit has the value that it was written for. -/
theorem digitValue?_digit {n : Nat} (h : n < 16) : digitValue? (digit n) = some n := by
  by_cases hten : n < 10
  · have hbyte : (UInt8.ofNat (48 + n)).toNat = 48 + n :=
      UInt8.toNat_ofNat_of_lt' (show _ < 256 by omega)
    rw [digit, if_pos hten, digitValue?, hbyte, if_pos (by omega), Nat.add_sub_cancel_left]
  · have hbyte : (UInt8.ofNat (87 + n)).toNat = 87 + n :=
      UInt8.toNat_ofNat_of_lt' (show _ < 256 by omega)
    rw [digit, if_neg hten, digitValue?, hbyte, if_neg (by omega), if_pos (by omega),
      Nat.add_sub_cancel_left]

theorem encode_cons (b : UInt8) (rest : Bytes) :
    encode (b :: rest) = digit (b.toNat / 16) :: digit (b.toNat % 16) :: encode rest := rfl

theorem length_encode (bytes : Bytes) : (encode bytes).length = 2 * bytes.length := by
  induction bytes with
  | nil => rfl
  | cons b rest ih =>
      rw [encode_cons, List.length_cons, List.length_cons, List.length_cons, ih]
      omega

theorem pairs_encode (bytes : Bytes) (position : Nat) :
    pairs position (encode bytes) = .ok bytes := by
  induction bytes generalizing position with
  | nil => rfl
  | cons b rest ih =>
      have hbound := b.toNat_lt
      have hhigh := digitValue?_digit (n := b.toNat / 16) (by omega)
      have hlow := digitValue?_digit (n := b.toNat % 16) (by omega)
      have hbyte : 16 * (b.toNat / 16) + b.toNat % 16 = b.toNat := Nat.div_add_mod ..
      simp only [encode_cons, pairs, hhigh, hlow, ih, hbyte, UInt8.ofNat_toNat]

/-- What was written is read back. -/
theorem decode_encode (bytes : Bytes) : decode (encode bytes) = .ok bytes := by
  rw [decode, length_encode, if_neg (by omega)]
  exact pairs_encode bytes 0

theorem encode_injective {bytes other : Bytes} (h : encode bytes = encode other) :
    bytes = other := by
  have hread := congrArg decode h
  rw [decode_encode, decode_encode] at hread
  exact Except.ok.inj hread

/-! ## Spellings -/

/-- The digits of a value, small and capital. -/
def Digit (value : Nat) (b : UInt8) : Prop :=
  (Bytes.ofText "0123456789abcdef")[value]? = some b
    ∨ (Bytes.ofText "0123456789ABCDEF")[value]? = some b

theorem digits_small : Bytes.ofText "0123456789abcdef" = (List.range 16).map digit := by decide

theorem digits_capital : Bytes.ofText "0123456789ABCDEF"
    = (List.range 16).map fun n => if n < 10 then UInt8.ofNat (48 + n) else UInt8.ofNat (55 + n) := by
  decide

theorem digit_iff {value : Nat} {b : UInt8} :
    Digit value b ↔ (value < 10 ∧ b.toNat = 48 + value)
      ∨ (10 ≤ value ∧ value < 16 ∧ (b.toNat = 87 + value ∨ b.toNat = 55 + value)) := by
  have hbyte {n : Nat} (h : n < 256) : UInt8.ofNat n = b ↔ b.toNat = n := by
    rw [← UInt8.toNat_inj, UInt8.toNat_ofNat_of_lt' h, eq_comm]
  by_cases hvalue : value < 16
  · rw [Digit, digits_small, digits_capital, List.getElem?_map, List.getElem?_map,
      List.getElem?_range hvalue]
    simp only [Option.map_some, Option.some.injEq, digit]
    by_cases hten : value < 10
    · rw [if_pos hten, if_pos hten, hbyte (by omega)]
      omega
    · rw [if_neg hten, if_neg hten, hbyte (by omega), hbyte (by omega)]
      omega
  · constructor
    · intro h
      rcases h with h | h
      all_goals
        have hlength := (List.getElem?_eq_some_iff.mp h).1
        first | rw [digits_small] at hlength | rw [digits_capital] at hlength
        rw [List.length_map, List.length_range] at hlength
        exact absurd hlength hvalue
    · omega

/-- A byte has a value as a digit of it alone. -/
theorem digitValue?_eq_some_iff {b : UInt8} {value : Nat} :
    digitValue? b = some value ↔ Digit value b := by
  rw [digit_iff]
  unfold digitValue?
  dsimp only
  split
  · rw [Option.some.injEq]
    omega
  · split
    · rw [Option.some.injEq]
      omega
    · split
      · rw [Option.some.injEq]
        omega
      · simp only [reduceCtorEq, false_iff]
        omega

/-- The spellings of bytes: two digits for each. -/
inductive Spells : Bytes → Bytes → Prop
  | nil : Spells [] []
  | cons {hi lo : UInt8} {high low : Nat} {rest bytes : Bytes} (hhigh : Digit high hi)
      (hlow : Digit low lo) (hrest : Spells rest bytes) :
      Spells (hi :: lo :: rest) (UInt8.ofNat (16 * high + low) :: bytes)

theorem pairs_of_spells {text bytes : Bytes} (h : Spells text bytes) (position : Nat) :
    pairs position text = .ok bytes := by
  induction h generalizing position with
  | nil => rfl
  | cons hhigh hlow hrest ih =>
      simp only [pairs, digitValue?_eq_some_iff.mpr hhigh, digitValue?_eq_some_iff.mpr hlow, ih]

theorem spells_of_pairs {text bytes : Bytes} {position : Nat} (h : pairs position text = .ok bytes) :
    Spells text bytes := by
  fun_induction pairs position text generalizing bytes with
  | case1 position =>
      cases h
      exact .nil
  | case5 position hi lo rest high hhigh low hlow fault hrest => cases h
  | case6 position hi lo rest high hhigh low hlow more hrest ih =>
      cases h
      exact .cons (digitValue?_eq_some_iff.mp hhigh) (digitValue?_eq_some_iff.mp hlow) (ih hrest)
  | _ => cases h

theorem Spells.length_eq {text bytes : Bytes} (h : Spells text bytes) :
    text.length = 2 * bytes.length := by
  induction h with
  | nil => rfl
  | cons hhigh hlow hrest ih =>
      rw [List.length_cons, List.length_cons, List.length_cons, ih]
      omega

/-- What is read is spelled, and what is spelled is read. -/
theorem decode_eq_ok_iff {text bytes : Bytes} : decode text = .ok bytes ↔ Spells text bytes := by
  constructor
  · intro h
    unfold decode at h
    split at h
    · cases h
    · exact spells_of_pairs h
  · intro h
    have hlength := h.length_eq
    rw [decode, if_neg (by omega)]
    exact pairs_of_spells h 0

theorem Spells.digits {text bytes : Bytes} (h : Spells text bytes) :
    ∀ b ∈ text, ∃ value, Digit value b := by
  induction h with
  | nil => exact fun b hb => absurd hb List.not_mem_nil
  | cons hhigh hlow hrest ih =>
      intro b hb
      rcases List.mem_cons.mp hb with rfl | hb
      · exact ⟨_, hhigh⟩
      · rcases List.mem_cons.mp hb with rfl | hb
        · exact ⟨_, hlow⟩
        · exact ih b hb

/-- Digits are ASCII, and none of them is a sign. -/
theorem Spells.bounds {text bytes : Bytes} (h : Spells text bytes) :
    ∀ b ∈ text, 48 ≤ b.toNat ∧ b.toNat < 0x80 := by
  intro b hb
  obtain ⟨value, hvalue⟩ := h.digits b hb
  have := digit_iff.mp hvalue
  omega

theorem spells_encode (bytes : Bytes) : Spells (encode bytes) bytes :=
  decode_eq_ok_iff.mp (decode_encode bytes)

/-- An even number of digits spells bytes. -/
theorem exists_spells : ∀ {text : Bytes}, text.length % 2 = 0 →
    (∀ b ∈ text, ∃ value, Digit value b) → ∃ bytes, Spells text bytes
  | [], _, _ => ⟨[], .nil⟩
  | [_], hodd, _ => absurd hodd (by simp)
  | hi :: lo :: rest, heven, hdigits => by
      obtain ⟨high, hhigh⟩ := hdigits hi List.mem_cons_self
      obtain ⟨low, hlow⟩ := hdigits lo (List.mem_cons_of_mem _ List.mem_cons_self)
      have hrest : rest.length % 2 = 0 := by
        rw [List.length_cons, List.length_cons] at heven
        omega
      obtain ⟨bytes, hbytes⟩ := exists_spells hrest fun b hb =>
        hdigits b (List.mem_cons_of_mem _ (List.mem_cons_of_mem _ hb))
      exact ⟨_, .cons hhigh hlow hbytes⟩

end ChainHost.Hex
