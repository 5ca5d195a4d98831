/-
  How 64-bit numbers are spelled in decimal.

  Zeros may lead, and one plus sign.  The text of a number is spelled by its digits.
-/
import ChainHost.Proofs.Text.Utf8
import ChainHost.Text.Decimal

set_option autoImplicit false

namespace ChainHost.Decimal

/-! ## Numbers of 64 bits -/

/-- The spellings of a number: its digits, after any number of zeros and one plus sign at
most. -/
def SpellsWord (text : Bytes) (n : UInt64) : Prop :=
  ∃ ds, (text = ds ∨ text = 43 :: ds) ∧ ds ≠ [] ∧ (∀ d ∈ ds, isDigit d = true)
    ∧ value ds = n.toNat

theorem natural?_eq_some_iff {ds : Bytes} {n : Nat} :
    natural? ds = some n ↔ ds ≠ [] ∧ (∀ d ∈ ds, isDigit d = true) ∧ value ds = n := by
  rw [natural?, ← List.all_eq_true]
  by_cases h : ds ≠ [] ∧ ds.all isDigit = true
  · simp [h]
  · rw [if_neg h]
    simp only [reduceCtorEq, false_iff]
    rintro ⟨hne, hall, -⟩
    exact h ⟨hne, hall⟩

/-- The plus sign is no digit, so it is clear where the digits start. -/
theorem upTo?_eq_some_iff {limit n : Nat} {text : Bytes} : upTo? limit text = some n
    ↔ ∃ ds, (text = ds ∨ text = 43 :: ds) ∧ natural? ds = some n ∧ n ≤ limit := by
  have hread (ds : Bytes) : (natural? ds).filter (· ≤ limit) = some n
      ↔ natural? ds = some n ∧ n ≤ limit := by
    rw [Option.filter_eq_some_iff, decide_eq_true_eq]
  unfold upTo?
  dsimp only
  split
  · next rest =>
      rw [hread]
      constructor
      · rintro ⟨hrest, hle⟩
        exact ⟨rest, .inr rfl, hrest, hle⟩
      · rintro ⟨ds, rfl | heq, hds, hle⟩
        · have hplus := (natural?_eq_some_iff.mp hds).2.1 43 List.mem_cons_self
          exact absurd hplus (by decide)
        · cases heq
          exact ⟨hds, hle⟩
  · next hplus =>
      rw [hread]
      constructor
      · rintro ⟨htext, hle⟩
        exact ⟨text, .inl rfl, htext, hle⟩
      · rintro ⟨ds, rfl | rfl, hds, hle⟩
        · exact ⟨hds, hle⟩
        · exact absurd rfl (hplus ds)

/-- What is read is spelled, and what is spelled is read. -/
theorem word?_eq_some_iff {text : Bytes} {n : UInt64} :
    word? text = some n ↔ SpellsWord text n := by
  have hbound := n.toNat_lt
  rw [word?, Option.map_eq_some_iff]
  constructor
  · rintro ⟨m, hm, rfl⟩
    obtain ⟨ds, htext, hds, hle⟩ := upTo?_eq_some_iff.mp hm
    obtain ⟨hne, hall, rfl⟩ := natural?_eq_some_iff.mp hds
    refine ⟨ds, htext, hne, hall, ?_⟩
    rw [UInt64.toNat_ofNat_of_lt' (show _ < 2 ^ 64 by omega)]
  · rintro ⟨ds, htext, hne, hall, hvalue⟩
    refine ⟨n.toNat, upTo?_eq_some_iff.mpr ⟨ds, htext, ?_, by omega⟩, UInt64.ofNat_toNat⟩
    exact natural?_eq_some_iff.mpr ⟨hne, hall, hvalue⟩

/-- A number is spelled by its digits. -/
theorem spellsWord_digits (n : UInt64) : SpellsWord (digits n.toNat) n :=
  ⟨digits n.toNat, .inl rfl, digits_ne_nil _, isDigit_of_mem_digits _, value_digits _⟩

/-- The spelling of a number is ASCII. -/
theorem SpellsWord.plain {text : Bytes} {n : UInt64} (h : SpellsWord text n) : Utf8.Plain text := by
  obtain ⟨ds, htext, -, hdigits, -⟩ := h
  have hds : Utf8.Plain ds := by
    intro d hd
    have := hdigits d hd
    simp only [isDigit, Bool.and_eq_true, decide_eq_true_eq] at this
    omega
  rcases htext with rfl | rfl
  · exact hds
  · intro b hb
    rcases List.mem_cons.mp hb with rfl | hb
    · decide
    · exact hds b hb

/-! ## Texts of numbers -/

theorem encode_digitChar {n : Nat} (h : n < 10) :
    String.utf8EncodeChar n.digitChar = [UInt8.ofNat (48 + n)] := by
  have hchar := Nat.toNat_digitChar_of_lt_ten h
  rw [String.utf8EncodeChar.eq_1, show n.digitChar.val.toNat = 48 + n from hchar,
    if_pos (by omega)]

/-- The text of a number is its digits. -/
theorem ofText_toString (n : Nat) : Bytes.ofText (toString n) = digits n := by
  induction n using Nat.strongRecOn with
  | ind n ih =>
      rw [digits]
      by_cases hlow : n < 10
      · rw [if_pos hlow, Nat.toString_eq_ofList_toDigits, Nat.toDigits_of_lt_base hlow]
        rw [Bytes.ofText, String.toList_ofList, List.flatMap_singleton]
        exact encode_digitChar hlow
      · have hfront := ih (n / 10) (by omega)
        rw [Nat.toString_eq_ofList_toDigits, Bytes.ofText, String.toList_ofList] at hfront ⊢
        rw [if_neg hlow, Nat.toDigits_of_base_le (by omega) (by omega), List.flatMap_append, hfront,
          List.flatMap_singleton, encode_digitChar (by omega)]

end ChainHost.Decimal
