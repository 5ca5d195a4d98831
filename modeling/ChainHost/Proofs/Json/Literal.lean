/-
  A literal says what was written into it.

  A character has many spellings: its own bytes, one letter behind a backslash,
  or its code in digits.  `resolve?` takes each of them back to the bytes of the
  character, whatever follows, so the body of a literal resolves to the bytes of
  the text that it spells.  What `escape` writes is one of these spellings.
-/
import ChainHost.Json.Literal
import ChainHost.Proofs.Text.Hex
import ChainHost.Proofs.Text.Utf8

set_option autoImplicit false

namespace ChainHost.Json.Literal

/-! ## Bytes that stand for themselves -/

theorem resolve?_cons_of_ne {b : UInt8} (h : b ≠ 92) (rest : Bytes) :
    resolve? (b :: rest) = (resolve? rest).map (b :: ·) := by
  rw [resolve?]
  all_goals
    intros
    contradiction

theorem resolve?_letter {letter byte : UInt8} (hne : letter ≠ 117)
    (h : letter? letter = some byte) (rest : Bytes) :
    resolve? (92 :: letter :: rest) = (resolve? rest).map (byte :: ·) := by
  rw [resolve?, h]
  intro _ _ _ _ _ heq
  exact absurd heq hne

theorem resolve?_append {front : Bytes} (h : ∀ b ∈ front, b ≠ 92) (rest : Bytes) :
    resolve? (front ++ rest) = (resolve? rest).map (front ++ ·) := by
  induction front with
  | nil => cases hrest : resolve? rest <;> simp [hrest]
  | cons b front ih =>
      obtain ⟨hb, hfront⟩ := List.forall_mem_cons.mp h
      rw [List.cons_append, resolve?_cons_of_ne hb, ih hfront, Option.map_map]
      rfl

/-- No byte of a character but the backslash is a backslash. -/
theorem plain_of_mem_encodeChar {c : Char} (hc : 32 ≤ c.toNat) (hquote : c ≠ '"')
    (hslash : c ≠ '\\') {b : UInt8} (h : b ∈ String.utf8EncodeChar c) :
    32 ≤ b ∧ b ≠ 34 ∧ b ≠ 92 := by
  have hrange := Utf8.scalar_range c
  have hne34 : c.val.toNat ≠ 34 := fun heq => hquote (Char.toNat_inj.mp heq)
  have hne92 : c.val.toNat ≠ 92 := fun heq => hslash (Char.toNat_inj.mp heq)
  replace hc : 32 ≤ c.val.toNat := hc
  -- a byte is compared as a number
  suffices hnat : 32 ≤ b.toNat ∧ b.toNat ≠ 34 ∧ b.toNat ≠ 92 by
    refine ⟨UInt8.le_iff_toNat_le.mpr hnat.1, ?_, ?_⟩
    · rintro rfl
      exact hnat.2.1 rfl
    · rintro rfl
      exact hnat.2.2 rfl
  rw [String.utf8EncodeChar.eq_1] at h
  generalize c.val.toNat = v at *
  split at h
  · obtain rfl := List.mem_singleton.mp h
    rw [Utf8.toNat_byte (by omega)]
    omega
  · split at h
    · simp only [List.mem_cons, List.not_mem_nil, or_false] at h
      rcases h with rfl | rfl <;> rw [Utf8.toNat_byte (by omega)] <;> omega
    · split at h
      · simp only [List.mem_cons, List.not_mem_nil, or_false] at h
        rcases h with rfl | rfl | rfl <;> rw [Utf8.toNat_byte (by omega)] <;> omega
      · simp only [List.mem_cons, List.not_mem_nil, or_false] at h
        rcases h with rfl | rfl | rfl | rfl <;> rw [Utf8.toNat_byte (by omega)] <;> omega

/-! ## Spellings -/

/-- The spellings of one character. -/
inductive SpellsChar : Bytes → Char → Prop where
  /-- Its own bytes, unless it is a control character, the quote or the backslash. -/
  | plain {c : Char} (hlow : 32 ≤ c.toNat) (hquote : c ≠ '"') (hslash : c ≠ '\\') :
      SpellsChar (String.utf8EncodeChar c) c
  /-- One letter behind a backslash. -/
  | letter {letter byte : UInt8} {c : Char} (h : letter? letter = some byte)
      (hc : String.utf8EncodeChar c = [byte]) : SpellsChar [92, letter] c
  /-- The four digits of its code. -/
  | unit {a b c d : UInt8} {code : Nat} (h : unit? a b c d = some code)
      (hlow : isLow code = false) (hhigh : isHigh code = false) :
      SpellsChar [92, 117, a, b, c, d] (Char.ofNat code)
  /-- The digits of a surrogate pair. -/
  | pair {a b c d e f g h : UInt8} {high low : Nat} (hfirst : unit? a b c d = some high)
      (hsecond : unit? e f g h = some low) (hhigh : isHigh high = true)
      (hlow : isLow low = true) :
      SpellsChar [92, 117, a, b, c, d, 92, 117, e, f, g, h] (Literal.pair high low)

/-- The spellings of a text. -/
inductive Spells : Bytes → List Char → Prop where
  | nil : Spells [] []
  | cons {front body : Bytes} {c : Char} {chars : List Char} (hc : SpellsChar front c)
      (h : Spells body chars) : Spells (front ++ body) (c :: chars)

/-- Whether the body of a literal spells a text. -/
def Valid (body : Bytes) : Prop := ∃ chars, Spells body chars

theorem isLow_eq_false_of_isHigh {code : Nat} (h : isHigh code = true) : isLow code = false := by
  simp only [isHigh, isLow, Bool.and_eq_true, Bool.and_eq_false_iff, decide_eq_true_eq,
    decide_eq_false_iff_not] at *
  omega

/-- A spelling of a character resolves to its bytes. -/
theorem SpellsChar.resolve?_append {front : Bytes} {c : Char} (h : SpellsChar front c)
    (rest : Bytes) :
    resolve? (front ++ rest) = (resolve? rest).map (String.utf8EncodeChar c ++ ·) := by
  cases h with
  | plain hlow hquote hslash =>
      exact Literal.resolve?_append (fun b hb =>
        (plain_of_mem_encodeChar hlow hquote hslash hb).2.2) rest
  | @letter letter byte c h hc =>
      have hne : letter ≠ 117 := by
        rintro rfl
        cases h
      rw [hc]
      exact resolve?_letter hne h rest
  | unit h hlow hhigh =>
      simp only [List.cons_append, List.nil_append]
      rw [resolve?, h]
      simp only [hlow, hhigh, Bool.false_eq_true, if_false]
  | pair hfirst hsecond hhigh hlow =>
      simp only [List.cons_append, List.nil_append]
      rw [resolve?, hfirst]
      simp only [isLow_eq_false_of_isHigh hhigh, hhigh, hsecond, hlow, Bool.false_eq_true,
        if_false, if_true]

theorem Spells.resolve?_eq {body : Bytes} {chars : List Char} (h : Spells body chars) :
    resolve? body = some (chars.flatMap String.utf8EncodeChar) := by
  induction h with
  | nil => rfl
  | cons hc _ ih => rw [hc.resolve?_append, ih, Option.map_some, List.flatMap_cons]

/-- A literal is read as the text that it spells. -/
theorem Spells.unescape?_eq {body : Bytes} {chars : List Char} (h : Spells body chars) :
    unescape? body = some (String.ofList chars) := by
  rw [unescape?, h.resolve?_eq, Option.bind_some]
  have hbytes : Bytes.ofText (String.ofList chars) = chars.flatMap String.utf8EncodeChar := by
    rw [Bytes.ofText, String.toList_ofList]
  rw [← hbytes]
  exact Utf8.decode?_ofText (String.ofList chars)

theorem Valid.isSome {body : Bytes} (h : Valid body) : (unescape? body).isSome = true := by
  obtain ⟨chars, hspells⟩ := h
  rw [hspells.unescape?_eq, Option.isSome_some]

/-! ## What is written -/

theorem unit?_control {n : Nat} (h : n < 32) :
    unit? 48 48 (Hex.digit (n / 16)) (Hex.digit (n % 16)) = some n := by
  have hzero : Hex.digitValue? 48 = some 0 := rfl
  simp only [unit?, hzero, Hex.digitValue?_digit (by omega : n / 16 < 16),
    Hex.digitValue?_digit (by omega : n % 16 < 16)]
  exact congrArg some (by omega)

theorem encodeChar_of_toNat {c : Char} {n : Nat} (h : c.toNat = n) (hn : n ≤ 127) :
    String.utf8EncodeChar c = [UInt8.ofNat n] := by
  have hval : c.val.toNat = n := h
  rw [String.utf8EncodeChar.eq_1, hval, if_pos hn]

/-- A control character may be written with the digits of its code. -/
theorem spellsChar_control {c : Char} (h : c.toNat < 32) :
    SpellsChar [92, 117, 48, 48, Hex.digit (c.toNat / 16), Hex.digit (c.toNat % 16)] c := by
  have hlow : isLow c.toNat = false := by
    simp only [isLow, Bool.and_eq_false_iff, decide_eq_false_iff_not]
    omega
  have hhigh : isHigh c.toNat = false := by
    simp only [isHigh, Bool.and_eq_false_iff, decide_eq_false_iff_not]
    omega
  have hspells := SpellsChar.unit (unit?_control h) hlow hhigh
  rwa [Char.ofNat_toNat] at hspells

/-- What a character is written as is a spelling of it. -/
theorem spellsChar_escapeChar (c : Char) : SpellsChar (escapeChar c) c := by
  unfold escapeChar
  by_cases hquote : c = '"'
  · subst hquote
    exact .letter rfl rfl
  by_cases hslash : c = '\\'
  · subst hslash
    exact .letter rfl rfl
  rw [if_neg hquote, if_neg hslash]
  split
  · next h => exact .letter rfl (encodeChar_of_toNat h (by decide))
  split
  · next h => exact .letter rfl (encodeChar_of_toNat h (by decide))
  split
  · next h => exact .letter rfl (encodeChar_of_toNat h (by decide))
  split
  · next h => exact .letter rfl (encodeChar_of_toNat h (by decide))
  split
  · next h => exact .letter rfl (encodeChar_of_toNat h (by decide))
  split
  · next h => exact spellsChar_control h
  · next h => exact .plain (Nat.le_of_not_lt h) hquote hslash

theorem spells_flatMap (chars : List Char) : Spells (chars.flatMap escapeChar) chars := by
  induction chars with
  | nil => exact .nil
  | cons c chars ih => exact .cons (spellsChar_escapeChar c) ih

/-- What a text is written as spells it. -/
theorem spells_escape (text : String) : Spells (escape text) text.toList :=
  spells_flatMap text.toList

/-- A text is read back from the literal that it was written into. -/
@[simp] theorem unescape?_escape (text : String) : unescape? (escape text) = some text := by
  rw [(spells_escape text).unescape?_eq, String.ofList_toList]

end ChainHost.Json.Literal
