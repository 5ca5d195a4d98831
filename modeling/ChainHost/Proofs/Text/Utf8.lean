/-
  Text and its bytes.

  The first byte of a character says how many follow and which range the second
  one is in; those of a character's own bytes pass.  So the reader takes the
  bytes of one character to one character, and those of a text to the text.

  The other way round, what is read without a break was written: `Opens` says which
  characters are still possible inside of one.  Bytes with a break are never read as
  an ASCII text, since what stands in for the break is no ASCII character.
-/
import ChainHost.Text.Utf8

set_option autoImplicit false

namespace ChainHost.Utf8

/-! ## Single bytes -/

theorem toNat_byte {n : Nat} (h : n < 256) : (UInt8.ofNat n).toNat = n :=
  UInt8.toNat_ofNat_of_lt' h

theorem scanFrom_cons (state : State) (done : List (Option Char)) (b : UInt8) (rest : Bytes) :
    scanFrom state done (b :: rest)
      = scanFrom (step state b done).1 (step state b done).2 rest := by
  cases state <;> rw [scanFrom]

theorem step_inside_more {bits missing low high : Nat} {b : UInt8} (done : List (Option Char))
    (hlow : low ≤ b.toNat) (hhigh : b.toNat ≤ high) (hmissing : 2 ≤ missing) :
    step (.inside bits missing low high) b done
      = (.inside (bits * 64 + (b.toNat - 0x80)) (missing - 1) 0x80 0xBF, done) := by
  have hmore : ¬missing ≤ 1 := by omega
  simp only [step, hlow, hhigh, hmore, and_self, if_true, if_false]

theorem step_inside_last {bits low high : Nat} {b : UInt8} (done : List (Option Char))
    (hlow : low ≤ b.toNat) (hhigh : b.toNat ≤ high) :
    step (.inside bits 1 low high) b done
      = (.idle, some (Char.ofNat (bits * 64 + (b.toNat - 0x80))) :: done) := by
  simp only [step, hlow, hhigh, and_self, if_true, Nat.le_refl]

/-! ## First bytes

Each is given with the bits that it holds and the range that it asks of the
second byte; the second byte of the same number is in that range. -/

theorem opening_one {v : Nat} (h : v ≤ 0x7F) :
    opening (UInt8.ofNat v) = .complete (Char.ofNat v) := by
  have hv : (UInt8.ofNat v).toNat = v := toNat_byte (by omega)
  simp only [opening, hv]
  rw [if_pos (by omega)]

theorem opening_two {v : Nat} (hlow : 0x80 ≤ v) (hhigh : v ≤ 0x7FF) :
    opening (UInt8.ofNat (v / 64 % 32 + 192)) = .more (.inside (v / 64) 1 0x80 0xBF) := by
  have hv : (UInt8.ofNat (v / 64 % 32 + 192)).toNat = v / 64 + 192 := by
    rw [toNat_byte (by omega)]
    omega
  have hbits : v / 64 + 192 - 0xC0 = v / 64 := by omega
  simp only [opening, hv]
  rw [if_neg (by omega), if_neg (by omega), if_pos (by omega), hbits]

theorem opening_three {v : Nat} (hlow : 0x800 ≤ v) (hhigh : v ≤ 0xFFFF)
    (hscalar : v < 0xD800 ∨ 0xDFFF < v) :
    ∃ low high, low ≤ v / 64 % 64 + 128 ∧ v / 64 % 64 + 128 ≤ high ∧
      opening (UInt8.ofNat (v / 4096 % 16 + 224)) = .more (.inside (v / 4096) 2 low high) := by
  have hv : (UInt8.ofNat (v / 4096 % 16 + 224)).toNat = v / 4096 + 224 := by
    rw [toNat_byte (by omega)]
    omega
  have hbits : v / 4096 + 224 - 0xE0 = v / 4096 := by omega
  simp only [opening, hv]
  rw [if_neg (by omega), if_neg (by omega), if_neg (by omega)]
  by_cases hfirst : v / 4096 = 0
  · -- overlong forms start below 0xA0
    refine ⟨0xA0, 0xBF, by omega, by omega, ?_⟩
    rw [if_pos (by omega), hfirst]
  · by_cases hsurrogate : v / 4096 = 0xD
    · refine ⟨0x80, 0x9F, by omega, by omega, ?_⟩
      rw [if_neg (by omega), if_pos (by omega), hsurrogate]
    · refine ⟨0x80, 0xBF, by omega, by omega, ?_⟩
      rw [if_neg (by omega), if_neg (by omega), if_pos (by omega), hbits]

theorem opening_four {v : Nat} (hlow : 0x10000 ≤ v) (hhigh : v < 0x110000) :
    ∃ low high, low ≤ v / 4096 % 64 + 128 ∧ v / 4096 % 64 + 128 ≤ high ∧
      opening (UInt8.ofNat (v / 262144 % 8 + 240)) = .more (.inside (v / 262144) 3 low high) := by
  have hv : (UInt8.ofNat (v / 262144 % 8 + 240)).toNat = v / 262144 + 240 := by
    rw [toNat_byte (by omega)]
    omega
  have hbits : v / 262144 + 240 - 0xF0 = v / 262144 := by omega
  simp only [opening, hv]
  rw [if_neg (by omega), if_neg (by omega), if_neg (by omega), if_neg (by omega), if_neg (by omega),
    if_neg (by omega)]
  by_cases hfirst : v / 262144 = 0
  · refine ⟨0x90, 0xBF, by omega, by omega, ?_⟩
    rw [if_pos (by omega), hfirst]
  · by_cases hlast : v / 262144 = 4
    · refine ⟨0x80, 0x8F, by omega, by omega, ?_⟩
      rw [if_neg (by omega), if_neg (by omega), if_pos (by omega), hlast]
    · refine ⟨0x80, 0xBF, by omega, by omega, ?_⟩
      rw [if_neg (by omega), if_pos (by omega), hbits]

/-! ## Characters -/

/-- A character is never a surrogate, and none is above U+10FFFF. -/
theorem scalar_range (c : Char) :
    c.val.toNat < 0xD800 ∨ 0xDFFF < c.val.toNat ∧ c.val.toNat < 0x110000 := c.valid

theorem char_ofNat (c : Char) : Char.ofNat c.val.toNat = c := Char.ofNat_toNat c

/-- The bytes of a character are read as that character. -/
theorem scanFrom_encodeChar (c : Char) (done : List (Option Char)) (rest : Bytes) :
    scanFrom .idle done (String.utf8EncodeChar c ++ rest)
      = scanFrom .idle (some c :: done) rest := by
  have hrange := scalar_range c
  rw [String.utf8EncodeChar.eq_1]
  generalize hv : c.val.toNat = v at hrange ⊢
  have hc : Char.ofNat v = c := hv ▸ char_ofNat c
  have tail (w : Nat) : (UInt8.ofNat (w % 64 + 128)).toNat = w % 64 + 128 :=
    toNat_byte (by omega)
  split
  · next h =>
      rw [List.singleton_append, scanFrom_cons]
      simp only [step, startAt, opening_one h, hc]
  · next h1 =>
      split
      · next h =>
          have hbits : v / 64 * 64 + (v % 64 + 128 - 0x80) = v := by omega
          simp only [List.cons_append, List.nil_append, scanFrom_cons]
          simp only [step.eq_1, startAt, opening_two (by omega : 0x80 ≤ v) h]
          rw [step_inside_last done (by rw [tail]; omega) (by rw [tail]; omega), tail, hbits, hc]
      · next h2 =>
          split
          · next h =>
              obtain ⟨low, high, hlow, hhigh, hopening⟩ :=
                opening_three (by omega : 0x800 ≤ v) h (by omega)
              have hbits : (v / 4096 * 64 + (v / 64 % 64 + 128 - 0x80)) * 64
                  + (v % 64 + 128 - 0x80) = v := by omega
              simp only [List.cons_append, List.nil_append, scanFrom_cons]
              simp only [step.eq_1, startAt, hopening]
              rw [step_inside_more done (by rwa [tail]) (by rwa [tail]) (Nat.le_refl 2)]
              rw [step_inside_last done (by rw [tail]; omega) (by rw [tail]; omega), tail, tail,
                hbits, hc]
          · next h3 =>
              obtain ⟨low, high, hlow, hhigh, hopening⟩ :=
                opening_four (by omega : 0x10000 ≤ v) (by omega)
              have hbits : ((v / 262144 * 64 + (v / 4096 % 64 + 128 - 0x80)) * 64
                  + (v / 64 % 64 + 128 - 0x80)) * 64 + (v % 64 + 128 - 0x80) = v := by omega
              simp only [List.cons_append, List.nil_append, scanFrom_cons]
              simp only [step.eq_1, startAt, hopening]
              rw [step_inside_more done (by rwa [tail]) (by rwa [tail]) (by omega : 2 ≤ 3)]
              rw [step_inside_more done (by rw [tail]; omega) (by rw [tail]; omega) (Nat.le_refl 2)]
              rw [step_inside_last done (by rw [tail]; omega) (by rw [tail]; omega), tail, tail,
                tail, hbits, hc]

/-! ## Texts -/

theorem scanFrom_flatMap (chars : List Char) (done : List (Option Char)) :
    scanFrom .idle done (chars.flatMap String.utf8EncodeChar)
      = done.reverse ++ chars.map some := by
  induction chars generalizing done with
  | nil => simp [scanFrom]
  | cons c chars ih =>
      rw [List.flatMap_cons, scanFrom_encodeChar, ih]
      simp

/-- A text is read back from its bytes. -/
theorem decode?_ofText (text : String) : decode? (Bytes.ofText text) = some text := by
  have hscan : scan (Bytes.ofText text) = text.toList.map some := scanFrom_flatMap text.toList []
  have hall : (text.toList.map some).all Option.isSome = true := by simp
  have hchars : (text.toList.map some).filterMap id = text.toList := by
    simp [List.filterMap_map]
  simp only [decode?, hscan, hall, hchars, if_true, String.ofList_toList]

/-! ## Bytes of what was read

Inside a character the bits read so far and the range of the next byte say which
characters are still possible.  All of them start with the bytes read so far. -/

theorem val_ofNat {v : Nat} (h : v.isValidChar) : (Char.ofNat v).val.toNat = v := by
  rw [Char.ofNat, dif_pos h]
  rfl

/-- The last bytes of the character with a number. -/
def tail (v : Nat) : Nat → Bytes
  | 0 => []
  | missing + 1 => UInt8.ofNat (v / 64 ^ missing % 64 + 128) :: tail v missing

/-- What the next byte has to be for a character with a number. -/
def next (v missing : Nat) : Nat := v / 64 ^ (missing - 1) % 64 + 128

/-- The bytes in front of a state: inside of a character, those that each possible
character starts with. -/
def Opens (front : Bytes) : State → Prop
  | .idle => front = []
  | .inside bits missing low high =>
      1 ≤ missing ∧ 0x80 ≤ low ∧ high ≤ 0xBF ∧
        ∀ v, v / 64 ^ missing = bits → low ≤ next v missing → next v missing ≤ high →
          v.isValidChar ∧ String.utf8EncodeChar (Char.ofNat v) = front ++ tail v missing

theorem eq_encode_of_complete {b : UInt8} {c : Char} (h : opening b = .complete c) :
    [b] = String.utf8EncodeChar c := by
  unfold opening at h
  dsimp only at h
  split at h
  · next hlow =>
      cases h
      have hvalid : b.toNat.isValidChar := .inl (by omega)
      rw [String.utf8EncodeChar.eq_1, val_ofNat hvalid, if_pos (by omega), UInt8.ofNat_toNat]
  · repeat' split at h
    all_goals cases h

theorem byte_eq {b : UInt8} {n : Nat} (h : b.toNat = n) : b = UInt8.ofNat n := by
  rw [← h, UInt8.ofNat_toNat]

theorem opens_two {b : UInt8} (hlow : 0xC2 ≤ b.toNat) (hhigh : b.toNat < 0xE0) :
    Opens [b] (.inside (b.toNat - 0xC0) 1 0x80 0xBF) := by
  refine ⟨by omega, by omega, by omega, fun v hbits _ _ => ?_⟩
  have hvalid : v.isValidChar := .inl (by omega)
  have hfirst : b = UInt8.ofNat (v / 64 % 32 + 192) := byte_eq (by omega)
  refine ⟨hvalid, ?_⟩
  rw [String.utf8EncodeChar.eq_1, val_ofNat hvalid, if_neg (by omega), if_pos (by omega), hfirst]
  simp [tail]

theorem opens_three {b : UInt8} {bits low high : Nat} (hlow : 0x80 ≤ low) (hhigh : high ≤ 0xBF)
    (hfirst : b.toNat = bits + 224)
    (hrange : ∀ v, v / 4096 = bits → low ≤ v / 64 % 64 + 128 → v / 64 % 64 + 128 ≤ high →
      0x800 ≤ v ∧ v ≤ 0xFFFF ∧ v.isValidChar) :
    Opens [b] (.inside bits 2 low high) := by
  refine ⟨by omega, hlow, hhigh, fun v hbits hnext hnext' => ?_⟩
  simp only [next, Nat.reduceSub, Nat.reducePow] at hbits hnext hnext'
  obtain ⟨hlow, hhigh, hvalid⟩ := hrange v hbits hnext hnext'
  have hfirst : b = UInt8.ofNat (v / 4096 % 16 + 224) := byte_eq (by omega)
  refine ⟨hvalid, ?_⟩
  rw [String.utf8EncodeChar.eq_1, val_ofNat hvalid, if_neg (by omega), if_neg (by omega),
    if_pos (by omega), hfirst]
  simp [tail]

theorem opens_four {b : UInt8} {bits low high : Nat} (hlow : 0x80 ≤ low) (hhigh : high ≤ 0xBF)
    (hfirst : b.toNat = bits + 240)
    (hrange : ∀ v, v / 262144 = bits → low ≤ v / 4096 % 64 + 128 → v / 4096 % 64 + 128 ≤ high →
      0x10000 ≤ v ∧ v < 0x110000) :
    Opens [b] (.inside bits 3 low high) := by
  refine ⟨by omega, hlow, hhigh, fun v hbits hnext hnext' => ?_⟩
  simp only [next, Nat.reduceSub, Nat.reducePow] at hbits hnext hnext'
  obtain ⟨hlow, hhigh⟩ := hrange v hbits hnext hnext'
  have hvalid : v.isValidChar := .inr ⟨by omega, hhigh⟩
  have hfirst : b = UInt8.ofNat (v / 262144 % 8 + 240) := byte_eq (by omega)
  refine ⟨hvalid, ?_⟩
  rw [String.utf8EncodeChar.eq_1, val_ofNat hvalid, if_neg (by omega), if_neg (by omega),
    if_neg (by omega), hfirst]
  simp [tail]

/-- The first byte of a character opens it. -/
theorem opens_of_more {b : UInt8} {state : State} (h : opening b = .more state) :
    Opens [b] state := by
  unfold opening at h
  dsimp only at h
  split at h; · cases h
  split at h; · cases h
  split at h
  · cases h
    exact opens_two (by omega) (by omega)
  split at h
  · cases h
    exact opens_three (by omega) (by omega) (by omega) (fun v _ _ _ =>
      ⟨by omega, by omega, .inl (by omega)⟩)
  split at h
  · cases h
    exact opens_three (by omega) (by omega) (by omega) (fun v _ _ _ =>
      ⟨by omega, by omega, .inl (by omega)⟩)
  split at h
  · cases h
    exact opens_three (by omega) (by omega) (by omega) (fun v _ _ _ =>
      ⟨by omega, by omega, by unfold Nat.isValidChar; omega⟩)
  split at h
  · cases h
    exact opens_four (by omega) (by omega) (by omega) (fun v _ _ _ => ⟨by omega, by omega⟩)
  split at h
  · cases h
    exact opens_four (by omega) (by omega) (by omega) (fun v _ _ _ => ⟨by omega, by omega⟩)
  split at h
  · cases h
    exact opens_four (by omega) (by omega) (by omega) (fun v _ _ _ => ⟨by omega, by omega⟩)
  · cases h

/-- A byte that is not the last one of its character leaves fewer of them possible. -/
theorem Opens.more {front : Bytes} {bits missing low high : Nat} {b : UInt8}
    (h : Opens front (.inside bits missing low high)) (hlow : low ≤ b.toNat)
    (hhigh : b.toNat ≤ high) (hmissing : 2 ≤ missing) :
    Opens (front ++ [b]) (.inside (bits * 64 + (b.toNat - 0x80)) (missing - 1) 0x80 0xBF) := by
  obtain ⟨hone, hlow', hhigh', hpossible⟩ := h
  refine ⟨by omega, Nat.le_refl _, Nat.le_refl _, fun v hbits _ _ => ?_⟩
  obtain ⟨rest, rfl⟩ : ∃ rest, missing = rest + 1 := ⟨missing - 1, by omega⟩
  rw [Nat.add_sub_cancel] at hbits ⊢
  have hshift : v / 64 ^ (rest + 1) = bits := by
    rw [Nat.pow_succ, ← Nat.div_div_eq_div_mul, hbits]
    omega
  have hnext : next v (rest + 1) = b.toNat := by
    rw [next, Nat.add_sub_cancel, hbits]
    omega
  obtain ⟨hvalid, hencode⟩ := hpossible v hshift (hnext ▸ hlow) (hnext ▸ hhigh)
  have hbyte : b = UInt8.ofNat (v / 64 ^ rest % 64 + 128) := byte_eq hnext.symm
  refine ⟨hvalid, ?_⟩
  rw [hencode, tail, List.append_assoc, List.singleton_append, ← hbyte]

/-- The last byte of a character leaves one possible. -/
theorem Opens.last {front : Bytes} {bits low high : Nat} {b : UInt8}
    (h : Opens front (.inside bits 1 low high)) (hlow : low ≤ b.toNat) (hhigh : b.toNat ≤ high) :
    front ++ [b] = String.utf8EncodeChar (Char.ofNat (bits * 64 + (b.toNat - 0x80))) := by
  obtain ⟨-, hlow', hhigh', hpossible⟩ := h
  generalize hv : bits * 64 + (b.toNat - 0x80) = v
  have hshift : v / 64 ^ 1 = bits := by omega
  have hnext : next v 1 = b.toNat := by
    simp only [next, Nat.sub_self, Nat.pow_zero, Nat.div_one]
    omega
  obtain ⟨-, hencode⟩ := hpossible v hshift (hnext ▸ hlow) (hnext ▸ hhigh)
  rw [hencode, byte_eq hnext.symm]
  simp [tail, next]

/-! ## Reading on -/

theorem startAt_eq (b : UInt8) (done : List (Option Char)) :
    startAt b done = ((startAt b []).1, (startAt b []).2 ++ done) := by
  unfold startAt
  cases opening b <;> rfl

/-- What was read before has no part in what is read next. -/
theorem step_eq (state : State) (b : UInt8) (done : List (Option Char)) :
    step state b done = ((step state b []).1, (step state b []).2 ++ done) := by
  cases state with
  | idle => exact startAt_eq b done
  | inside bits missing low high =>
      simp only [step]
      split
      · split <;> rfl
      · rw [startAt_eq b (none :: done), startAt_eq b [none], List.append_assoc]
        rfl

theorem scanFrom_eq (state : State) (done : List (Option Char)) (bytes : Bytes) :
    scanFrom state done bytes = done.reverse ++ scanFrom state [] bytes := by
  induction bytes generalizing state done with
  | nil => cases state <;> simp [scanFrom]
  | cons b rest ih =>
      rw [scanFrom_cons, scanFrom_cons, step_eq, ih, ih (step state b []).1 (step state b []).2,
        List.reverse_append, List.append_assoc]

theorem opens_idle : Opens [] .idle := rfl

/-- The bytes of a text are in front of a state: they are what was read as that text,
after those that the state came with. -/
theorem flatMap_of_scanFrom {bytes front : Bytes} {state : State} {chars : List Char}
    (hopens : Opens front state) (hscan : scanFrom state [] bytes = chars.map some) :
    front ++ bytes = chars.flatMap String.utf8EncodeChar := by
  induction bytes generalizing front state chars with
  | nil =>
      cases state with
      | idle =>
          obtain rfl : front = [] := hopens
          obtain rfl : chars = [] := List.map_eq_nil_iff.mp hscan.symm
          rfl
      | inside bits missing low high =>
          have hbreak : none ∈ chars.map some := by
            rw [← hscan]
            exact List.mem_singleton_self none
          simp at hbreak
  | cons b rest ih =>
      -- What is between characters starts one, after a break or not.
      have hstart {chars : List Char} (hscan : scanFrom (startAt b []).1 (startAt b []).2 rest
          = chars.map some) : b :: rest = chars.flatMap String.utf8EncodeChar := by
        unfold startAt at hscan
        split at hscan
        · next c hopening =>
            rw [scanFrom_eq, List.reverse_singleton, List.singleton_append] at hscan
            obtain ⟨first, more, rfl, hfirst, hmore⟩ := List.map_eq_cons_iff.mp hscan.symm
            obtain rfl := Option.some.inj hfirst
            have hrest := ih opens_idle hmore.symm
            rw [List.flatMap_cons, ← hrest, ← eq_encode_of_complete hopening, List.nil_append,
              List.singleton_append]
        · next state hopening =>
            exact ih (opens_of_more hopening) hscan
        · rw [scanFrom_eq] at hscan
          obtain ⟨first, more, rfl, hfirst, -⟩ := List.map_eq_cons_iff.mp hscan.symm
          cases hfirst
      rw [scanFrom_cons] at hscan
      cases state with
      | idle =>
          obtain rfl : front = [] := hopens
          exact hstart hscan
      | inside bits missing low high =>
          simp only [step] at hscan
          split at hscan
          · next hrange =>
              have happend : front ++ b :: rest = (front ++ [b]) ++ rest := by simp
              split at hscan
              · next hlast =>
                  obtain rfl : missing = 1 := Nat.le_antisymm hlast hopens.1
                  rw [scanFrom_eq, List.reverse_singleton, List.singleton_append] at hscan
                  obtain ⟨first, more, rfl, hfirst, hmore⟩ := List.map_eq_cons_iff.mp hscan.symm
                  have hrest := ih opens_idle hmore.symm
                  rw [happend, hopens.last hrange.1 hrange.2, List.flatMap_cons, ← hrest,
                    Option.some.inj hfirst, List.nil_append]
              · next hmore =>
                  rw [happend]
                  exact ih (hopens.more hrange.1 hrange.2 (by omega)) hscan
          · rw [startAt_eq, scanFrom_eq, List.reverse_append] at hscan
            obtain ⟨first, more, rfl, hfirst, -⟩ := List.map_eq_cons_iff.mp hscan.symm
            cases hfirst

/-- What is read without a break was written. -/
theorem flatMap_of_scan {bytes : Bytes} {chars : List Char} (h : scan bytes = chars.map some) :
    bytes = chars.flatMap String.utf8EncodeChar :=
  flatMap_of_scanFrom opens_idle h

theorem map_some_of_all_isSome {chars : List (Option Char)} (h : chars.all Option.isSome = true) :
    (chars.filterMap id).map some = chars := by
  induction chars with
  | nil => rfl
  | cons c chars ih =>
      rw [List.all_cons, Bool.and_eq_true] at h
      obtain ⟨c, rfl⟩ := Option.isSome_iff_exists.mp h.1
      rw [List.filterMap_cons_some (f := id) rfl, List.map_cons, ih h.2]

/-- A text is read from its own bytes alone. -/
theorem eq_ofText_of_decode? {bytes : Bytes} {text : String} (h : decode? bytes = some text) :
    bytes = Bytes.ofText text := by
  unfold decode? at h
  dsimp only at h
  split at h
  · next hall =>
      cases h
      have hscan : scan bytes = ((scan bytes).filterMap id).map some := by
        exact (map_some_of_all_isSome hall).symm
      rw [Bytes.ofText, String.toList_ofList]
      exact flatMap_of_scan hscan
  · cases h

/-! ## Plain bytes -/

/-- Bytes of ASCII characters. -/
def Plain (bytes : Bytes) : Prop := ∀ b ∈ bytes, b.toNat < 0x80

theorem decodeLossy_flatMap (chars : List Char) :
    decodeLossy (chars.flatMap String.utf8EncodeChar) = chars := by
  have hscan : scan (chars.flatMap String.utf8EncodeChar) = chars.map some :=
    scanFrom_flatMap chars []
  rw [decodeLossy, hscan, List.map_map]
  exact List.map_id chars

theorem encode_plain {b : UInt8} (h : b.toNat < 0x80) :
    String.utf8EncodeChar (Char.ofNat b.toNat) = [b] :=
  (eq_encode_of_complete (by rw [opening, if_pos h])).symm

/-- Plain bytes are read as they are. -/
theorem flatMap_decodeLossy_of_plain {bytes : Bytes} (h : Plain bytes) :
    (decodeLossy bytes).flatMap String.utf8EncodeChar = bytes := by
  have hchars : bytes = (bytes.map fun b => Char.ofNat b.toNat).flatMap String.utf8EncodeChar := by
    rw [List.flatMap_map]
    induction bytes with
    | nil => rfl
    | cons b rest ih =>
        rw [List.flatMap_cons, encode_plain (h b List.mem_cons_self),
          ← ih fun b hb => h b (List.mem_cons_of_mem _ hb)]
        rfl
  rw [hchars, decodeLossy_flatMap]

/-- Only plain bytes are read as a plain text: what stands in for a break is not plain. -/
theorem flatMap_decodeLossy_of_plain_text {bytes : Bytes}
    (h : Plain ((decodeLossy bytes).flatMap String.utf8EncodeChar)) :
    (decodeLossy bytes).flatMap String.utf8EncodeChar = bytes := by
  have hwhole : ∀ c ∈ scan bytes, c.isSome = true := by
    intro c hc
    cases c with
    | some c => rfl
    | none =>
        have hstand : Char.ofNat 0xFFFD ∈ decodeLossy bytes := List.mem_map.mpr ⟨none, hc, rfl⟩
        have hbyte : (0xEF : UInt8) ∈ String.utf8EncodeChar (Char.ofNat 0xFFFD) := by decide
        exact absurd (h _ (List.mem_flatMap.mpr ⟨_, hstand, hbyte⟩)) (by decide)
  have hscan : ((scan bytes).filterMap id).map some = scan bytes :=
    map_some_of_all_isSome (List.all_eq_true.mpr hwhole)
  have hbytes := flatMap_of_scan hscan.symm
  rw [hbytes, decodeLossy_flatMap]

end ChainHost.Utf8
