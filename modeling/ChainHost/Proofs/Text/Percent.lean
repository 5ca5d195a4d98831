/-
  What percent escapes change.

  Resolving them makes a text shorter, and leaves alone only what holds no escape.
  Escaping leaves printed ASCII characters.
-/
import ChainHost.Proofs.Text.Hex
import ChainHost.Text.Percent

set_option autoImplicit false

namespace ChainHost.Percent

/-! ## Resolving -/

/-- An escape stands in some bytes. -/
def Escaped (bytes : Bytes) : Prop :=
  ∃ front hi lo back, bytes = front ++ 37 :: hi :: lo :: back
    ∧ (∃ value, Hex.Digit value hi) ∧ ∃ value, Hex.Digit value lo

theorem Escaped.cons {bytes : Bytes} (h : Escaped bytes) (b : UInt8) : Escaped (b :: bytes) := by
  obtain ⟨front, hi, lo, back, rfl, hhi, hlo⟩ := h
  exact ⟨b :: front, hi, lo, back, rfl, hhi, hlo⟩

theorem decode_cons {b : UInt8} (h : b ≠ 37) (rest : Bytes) :
    decode (b :: rest) = b :: decode rest := by
  rw [decode]
  rintro hi lo back rfl
  exact absurd rfl h

theorem length_decode_le (bytes : Bytes) : (decode bytes).length ≤ bytes.length := by
  fun_induction decode bytes with
  | case1 => exact Nat.le_refl _
  | case2 hi lo rest high low hhigh hlow ih =>
      simp only [List.length_cons]
      omega
  | case3 hi lo rest hnone ih => exact Nat.succ_le_succ ih
  | case4 b rest hother ih => exact Nat.succ_le_succ ih

theorem decode_of_not_escaped {bytes : Bytes} (h : ¬Escaped bytes) : decode bytes = bytes := by
  fun_induction decode bytes with
  | case1 => rfl
  | case2 hi lo rest high low hhigh hlow ih =>
      exact absurd ⟨[], hi, lo, rest, rfl, ⟨_, Hex.digitValue?_eq_some_iff.mp hlow⟩,
        ⟨_, Hex.digitValue?_eq_some_iff.mp hhigh⟩⟩ h
  | case3 hi lo rest hnone ih => rw [ih (fun hrest => h (hrest.cons 37))]
  | case4 b rest hother ih => rw [ih (fun hrest => h (hrest.cons b))]

/-- An escape stands at the first byte or behind it. -/
theorem escaped_cons_iff {b : UInt8} {rest : Bytes} : Escaped (b :: rest)
    ↔ (∃ hi lo back, b = 37 ∧ rest = hi :: lo :: back ∧ (∃ value, Hex.Digit value hi)
        ∧ ∃ value, Hex.Digit value lo) ∨ Escaped rest := by
  constructor
  · rintro ⟨front, hi, lo, back, heq, hhi, hlo⟩
    cases front with
    | nil =>
        cases heq
        exact .inl ⟨hi, lo, back, rfl, rfl, hhi, hlo⟩
    | cons first front =>
        cases heq
        exact .inr ⟨front, hi, lo, back, rfl, hhi, hlo⟩
  · rintro (⟨hi, lo, back, rfl, rfl, hhi, hlo⟩ | h)
    · exact ⟨[], hi, lo, back, rfl, hhi, hlo⟩
    · exact h.cons b

/-- An escape is three bytes that are read as one. -/
theorem length_decode_lt {bytes : Bytes} (h : Escaped bytes) :
    (decode bytes).length < bytes.length := by
  fun_induction decode bytes with
  | case1 =>
      obtain ⟨front, hi, lo, back, heq, -⟩ := h
      cases front <;> cases heq
  | case2 hi lo rest high low hhigh hlow ih =>
      have hle := length_decode_le rest
      simp only [List.length_cons]
      omega
  | case3 hi lo rest hnone ih =>
      rcases escaped_cons_iff.mp h with ⟨hi', lo', back, -, heq, ⟨high, hhigh⟩, ⟨low, hlow⟩⟩ | hrest
      · cases heq
        exact absurd (Hex.digitValue?_eq_some_iff.mpr hlow)
          (hnone high low (Hex.digitValue?_eq_some_iff.mpr hhigh))
      · exact Nat.succ_lt_succ (ih hrest)
  | case4 b rest hother ih =>
      rcases escaped_cons_iff.mp h with ⟨hi, lo, back, rfl, rfl, -⟩ | hrest
      · exact absurd rfl (hother hi lo back rfl)
      · exact Nat.succ_lt_succ (ih hrest)

/-- Only what holds no escape is read as it is. -/
theorem decode_eq_self_iff {bytes : Bytes} : decode bytes = bytes ↔ ¬Escaped bytes :=
  ⟨fun heq h => Nat.ne_of_lt (length_decode_lt h) (congrArg List.length heq), decode_of_not_escaped⟩

/-! ## Escaping -/

theorem digit_bounds {value : Nat} (h : value < 16) :
    (48 ≤ (digit value).toNat ∧ (digit value).toNat ≤ 57)
      ∨ (65 ≤ (digit value).toNat ∧ (digit value).toNat ≤ 70) := by
  have hall : ∀ value < 16, (48 ≤ (digit value).toNat ∧ (digit value).toNat ≤ 57)
      ∨ (65 ≤ (digit value).toNat ∧ (digit value).toNat ≤ 70) := by decide
  exact hall value h

/-- Escaping leaves the printed ASCII characters, and writes with those. -/
theorem mem_encode {bytes : Bytes} {b : UInt8} (h : b ∈ encode bytes) :
    (b ∈ bytes ∧ 32 ≤ b.toNat ∧ b.toNat < 127) ∨ b = 37
      ∨ ∃ value < 16, b = digit value := by
  obtain ⟨source, hsource, h⟩ := List.mem_flatMap.mp h
  have hbound := source.toNat_lt
  split at h
  · simp only [List.mem_cons, List.not_mem_nil, or_false] at h
    rcases h with h | h | h
    · exact .inr (.inl h)
    · exact .inr (.inr ⟨_, by omega, h⟩)
    · exact .inr (.inr ⟨_, by omega, h⟩)
  · next hplain =>
      obtain rfl := List.mem_singleton.mp h
      obtain ⟨hlow, hhigh⟩ := not_or.mp hplain
      have hlow' := UInt8.le_iff_toNat_le.mp (UInt8.not_lt.mp hlow)
      have hhigh' := UInt8.lt_iff_toNat_lt.mp (UInt8.not_le.mp hhigh)
      exact .inl ⟨hsource, hlow', hhigh'⟩

theorem encode_of_printed {bytes : Bytes} (h : ∀ b ∈ bytes, 32 ≤ b.toNat ∧ b.toNat < 127) :
    encode bytes = bytes := by
  induction bytes with
  | nil => rfl
  | cons b rest ih =>
      obtain ⟨hlow, hhigh⟩ := h b List.mem_cons_self
      have hplain : ¬(b < 32 ∨ b ≥ 127) := by
        rw [UInt8.lt_iff_toNat_lt, ge_iff_le, UInt8.le_iff_toNat_le]
        exact not_or.mpr ⟨Nat.not_lt.mpr hlow, Nat.not_le.mpr hhigh⟩
      rw [encode, List.flatMap_cons, if_neg hplain]
      exact congrArg (b :: ·) (ih fun c hc => h c (List.mem_cons_of_mem _ hc))

end ChainHost.Percent
