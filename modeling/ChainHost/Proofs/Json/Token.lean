/-
  Tokens are read back from their bytes, with blanks around them or without.

  The reader of tokens forgets where it came from at the end of each token; only
  a numeral has no end of its own.  So what may follow a numeral decides: a blank,
  a comma or the end of a container ends it, and any other token would either run
  into it or be refused.
-/
import ChainHost.Json.Token
import ChainHost.Proofs.Json.Literal
import ChainHost.Proofs.Json.Numeral
import Mathlib.Data.List.Chain

set_option autoImplicit false

namespace ChainHost.Json.Token

theorem scan_cons {state next : State} {done done' : List Token} {b : UInt8} (rest : Bytes)
    (h : step state done b = some (next, done')) :
    scan state done (b :: rest) = scan next done' rest := by
  rw [scan, h]

/-! ## Literals -/

section Literals

variable (spelled : Bytes) (done : List Token) (rest : Bytes)

theorem scan_plain {bytes : Bytes} (h : ∀ b ∈ bytes, 32 ≤ b ∧ b ≠ 34 ∧ b ≠ 92) :
    scan (.literal spelled) done (bytes ++ rest)
      = scan (.literal (bytes.reverse ++ spelled)) done rest := by
  induction bytes generalizing spelled with
  | nil => rfl
  | cons b bytes ih =>
      obtain ⟨⟨hlow, hquote, hslash⟩, hbytes⟩ := List.forall_mem_cons.mp h
      have hstep : step (.literal spelled) done b = some (.literal (b :: spelled), done) := by
        simp only [step, hquote, hslash, UInt8.not_lt.mpr hlow, if_false]
      rw [List.cons_append, scan_cons _ hstep, ih _ hbytes]
      simp

theorem scan_letter {letter byte : UInt8} (h : Literal.letter? letter = some byte) :
    scan (.literal spelled) done (92 :: letter :: rest)
      = scan (.literal (letter :: 92 :: spelled)) done rest := by
  have hmem : letter ∈ ([34, 92, 47, 98, 102, 110, 114, 116] : Bytes) := by
    unfold Literal.letter? at h
    split at h
    case h_9 => cases h
    all_goals
      next hv =>
        rw [← UInt8.ofNat_toNat (x := letter), hv]
        decide
  have hne : letter ≠ 117 := by
    rintro rfl
    cases h
  have hslash : step (.literal spelled) done 92 = some (.escape (92 :: spelled), done) := rfl
  have hletter : step (.escape (92 :: spelled)) done letter
      = some (.literal (letter :: 92 :: spelled), done) := by
    simp only [step, hne, hmem, if_false, if_true]
  rw [scan_cons _ hslash, scan_cons _ hletter]

theorem step_unit {b : UInt8} (h : (Hex.digitValue? b).isSome = true) (missing : Nat) :
    step (.unit missing spelled) done b
      = some (if missing ≤ 1 then .literal (b :: spelled) else .unit (missing - 1) (b :: spelled),
          done) := by
  have hnone : (Hex.digitValue? b).isNone = false := by
    rw [← Option.not_isSome, h]
    rfl
  simp only [step, hnone, Bool.false_eq_true, if_false]
  split <;> rfl

theorem scan_unit {a b c d : UInt8} {code : Nat} (h : Literal.unit? a b c d = some code) :
    scan (.literal spelled) done (92 :: 117 :: a :: b :: c :: d :: rest)
      = scan (.literal (d :: c :: b :: a :: 117 :: 92 :: spelled)) done rest := by
  obtain ⟨ha, hb, hc, hd⟩ : (Hex.digitValue? a).isSome = true ∧ (Hex.digitValue? b).isSome = true ∧
      (Hex.digitValue? c).isSome = true ∧ (Hex.digitValue? d).isSome = true := by
    unfold Literal.unit? at h
    split at h
    · next ha hb hc hd => simp [ha, hb, hc, hd]
    · cases h
  rw [scan_cons _ rfl, scan_cons _ rfl, scan_cons _ (step_unit _ _ ha _),
    if_neg (by decide), scan_cons _ (step_unit _ _ hb _), if_neg (by decide),
    scan_cons _ (step_unit _ _ hc _), if_neg (by decide), scan_cons _ (step_unit _ _ hd _),
    if_pos (by decide)]

theorem scan_spellsChar {front : Bytes} {c : Char} (h : Literal.SpellsChar front c) :
    scan (.literal spelled) done (front ++ rest)
      = scan (.literal (front.reverse ++ spelled)) done rest := by
  cases h with
  | plain hlow hquote hslash =>
      exact scan_plain spelled done rest fun b hb =>
        Literal.plain_of_mem_encodeChar hlow hquote hslash hb
  | letter h => exact scan_letter spelled done rest h
  | unit h => exact scan_unit spelled done rest h
  | pair hfirst hsecond =>
      simp only [List.cons_append, List.nil_append]
      rw [scan_unit _ _ _ hfirst, scan_unit _ _ _ hsecond]
      rfl

theorem scan_spells {body : Bytes} {chars : List Char} (h : Literal.Spells body chars) :
    scan (.literal spelled) done (body ++ rest)
      = scan (.literal (body.reverse ++ spelled)) done rest := by
  induction h generalizing spelled with
  | nil => rfl
  | cons hc _ ih =>
      rw [List.append_assoc, scan_spellsChar _ _ _ hc, ih]
      simp

/-- A literal ends with its quote. -/
theorem scan_text {body : Bytes} (h : Literal.Valid body) :
    scan .idle done ((text body).spelling ++ rest) = scan .idle (text body :: done) rest := by
  obtain ⟨chars, hspells⟩ := h
  have hopen : step .idle done 34 = some (.literal [], done) := rfl
  have hclose : step (.literal (body.reverse ++ [])) done 34 = some (.idle, text body :: done) := by
    rw [List.append_nil]
    simp only [step, List.reverse_reverse, if_true]
  rw [spelling, List.cons_append, List.cons_append, List.append_assoc, scan_cons _ hopen,
    scan_spells _ _ _ hspells, List.singleton_append, scan_cons _ hclose]

end Literals

/-! ## Numerals -/

/-- The places that a numeral passes. -/
def walk (place : Place) (bytes : Bytes) : Option Place := bytes.foldlM Place.next place

theorem walk_append (place : Place) (front back : Bytes) :
    walk place (front ++ back) = (walk place front).bind fun next => walk next back :=
  List.foldlM_append ..

theorem walk_cons {place next : Place} {b : UInt8} (h : place.next b = some next) (rest : Bytes) :
    walk place (b :: rest) = walk next rest := by
  rw [walk, List.foldlM_cons, h]
  rfl

/-- The reader follows a numeral from place to place. -/
theorem scan_walk {place last : Place} {bytes : Bytes} (h : walk place bytes = some last)
    (spelled : Bytes) (done : List Token) (rest : Bytes) :
    scan (.numeral place spelled) done (bytes ++ rest)
      = scan (.numeral last (bytes.reverse ++ spelled)) done rest := by
  induction bytes generalizing place spelled with
  | nil =>
      cases h
      rfl
  | cons b bytes ih =>
      obtain ⟨next, hnext, hrest⟩ := Option.bind_eq_some_iff.mp h
      have hstep : step (.numeral place spelled) done b
          = some (.numeral next (b :: spelled), done) := by
        simp only [step, hnext]
      rw [List.cons_append, scan_cons _ hstep, ih hrest]
      simp

/-- Digits stay in a place that takes digits. -/
theorem walk_digits {place : Place} {ds : Bytes} (hds : ∀ d ∈ ds, Decimal.isDigit d = true)
    (hplace : ∀ d, Decimal.isDigit d = true → place.next d = some place) :
    walk place ds = some place := by
  induction ds with
  | nil => rfl
  | cons d ds ih =>
      obtain ⟨hd, hds⟩ := List.forall_mem_cons.mp hds
      rw [walk_cons (hplace d hd), ih hds]

/-- A run of digits leads to a place that takes digits. -/
theorem walk_run {place next : Place} (run : Numeral.Run)
    (hfirst : ∀ d, Decimal.isDigit d = true → place.next d = some next)
    (hnext : ∀ d, Decimal.isDigit d = true → next.next d = some next) :
    walk place run.digits = some next := by
  obtain ⟨digits, hdigits, hne⟩ := run
  cases digits with
  | nil => exact absurd rfl hne
  | cons d ds =>
      obtain ⟨hd, hds⟩ := List.forall_mem_cons.mp hdigits
      rw [walk_cons (hfirst d hd), walk_digits hds hnext]

section Places

variable {d : UInt8} (h : Decimal.isDigit d = true)

include h

theorem next_whole : Place.whole.next d = some .whole := by simp [Place.next, h]

theorem next_point : Place.point.next d = some .fraction := by simp [Place.next, h]

theorem next_fraction : Place.fraction.next d = some .fraction := by simp [Place.next, h]

theorem next_exponent : Place.exponent.next d = some .exponentDigits := by simp [Place.next, h]

theorem next_exponentSign : Place.exponentSign.next d = some .exponentDigits := by
  simp [Place.next, h]

theorem next_exponentDigits : Place.exponentDigits.next d = some .exponentDigits := by
  simp [Place.next, h]

/-- The first digit is read alike after a sign and without one. -/
theorem step_idle_digit (done : List Token) :
    ∃ place, Place.sign.next d = some place ∧
      step .idle done d = some (.numeral place [d], done) := by
  by_cases hzero : d = 48
  · subst hzero
    exact ⟨.zero, rfl, rfl⟩
  refine ⟨.whole, by simp [Place.next, hzero, h], ?_⟩
  have hrange := Decimal.isDigit_iff.mp h
  have hblank : isBlank d = false := by
    simp only [isBlank, Bool.or_eq_false_iff, decide_eq_false_iff_not]
    refine ⟨⟨⟨?_, ?_⟩, ?_⟩, ?_⟩ <;>
      · rintro rfl
        exact absurd hrange.1 (by decide)
  have hne : d.toNat ≠ 48 := fun heq => hzero (UInt8.toNat_inj.mp heq)
  simp only [step, start]
  split <;> first | omega | simp only [hblank, h, Bool.false_eq_true, if_false, if_true]

end Places

/-- The digits before the point lead to a place of their own if the first is zero. -/
theorem walk_whole (p : Numeral.Parts) :
    ∃ place, (place = .zero ∨ place = .whole) ∧ walk .sign p.whole.digits = some place := by
  obtain ⟨-, ⟨digits, hdigits, hne⟩, -, -, hzero⟩ := p
  cases digits with
  | nil => exact absurd rfl hne
  | cons d ds =>
      obtain ⟨hd, hds⟩ := List.forall_mem_cons.mp hdigits
      by_cases heq : d = 48
      · have hds : d :: ds = [48] := hzero (congrArg some heq)
        exact ⟨.zero, .inl rfl, congrArg (walk .sign) hds⟩
      · have hfirst : Place.sign.next d = some .whole := by simp [Place.next, heq, hd]
        exact ⟨.whole, .inr rfl, (walk_cons hfirst ds).trans (walk_digits hds fun _ => next_whole)⟩

/-- The places after which a power of ten may stand. -/
def BeforePower (place : Place) : Prop := place = .zero ∨ place = .whole ∨ place = .fraction

theorem walk_fraction {place : Place} (h : place = .zero ∨ place = .whole)
    (fraction : Option Numeral.Run) :
    ∃ next, BeforePower next ∧
      walk place (fraction.elim [] fun run => 46 :: run.digits) = some next := by
  cases fraction with
  | none => exact ⟨place, h.imp_right .inl, rfl⟩
  | some run =>
      have hpoint : place.next 46 = some .point := by rcases h with rfl | rfl <;> rfl
      exact ⟨.fraction, .inr (.inr rfl), (walk_cons hpoint run.digits).trans
        (walk_run run (fun _ => next_point) fun _ => next_fraction)⟩

theorem walk_power {place : Place} (h : BeforePower place) (power : Option Numeral.Power) :
    ∃ last, last.closes = true ∧ walk place (power.elim [] Numeral.Power.spelling) = some last := by
  cases power with
  | none => exact ⟨place, by rcases h with rfl | rfl | rfl <;> rfl, rfl⟩
  | some power =>
      obtain ⟨letter, sign, run, hletter, hsign⟩ := power
      have hfirst : place.next letter = some .exponent := by
        rcases h with rfl | rfl | rfl <;> rcases hletter with rfl | rfl <;> rfl
      refine ⟨.exponentDigits, rfl, (walk_cons hfirst _).trans ?_⟩
      cases sign with
      | none => exact walk_run run (fun _ => next_exponent) fun _ => next_exponentDigits
      | some b =>
          have hb : Place.exponent.next b = some .exponentSign := by
            rcases hsign b rfl with rfl | rfl <;> rfl
          exact (walk_cons hb run.digits).trans
            (walk_run run (fun _ => next_exponentSign) fun _ => next_exponentDigits)

/-- A numeral after its sign. -/
theorem walk_unsigned (p : Numeral.Parts) :
    ∃ last, last.closes = true ∧ walk .sign p.unsigned = some last := by
  obtain ⟨place, hplace, hwhole⟩ := walk_whole p
  obtain ⟨next, hnext, hfraction⟩ := walk_fraction hplace p.fraction
  obtain ⟨last, hlast, hpower⟩ := walk_power hnext p.power
  refine ⟨last, hlast, ?_⟩
  rw [Numeral.Parts.unsigned, walk_append, hwhole, Option.bind_some, walk_append, hfraction,
    Option.bind_some, hpower]

/-- Whether nothing follows, or a byte that ends a numeral. -/
def Ends (rest : Bytes) : Prop :=
  ∀ b ∈ rest.head?, isBlank b = true ∨ b = 44 ∨ b = 93 ∨ b = 125

theorem eq_of_isBlank {b : UInt8} (h : isBlank b = true) : b = 32 ∨ b = 9 ∨ b = 10 ∨ b = 13 := by
  simpa [isBlank, or_assoc] using h

/-- A numeral that may close is closed by what follows it. -/
theorem scan_ends {place : Place} (hplace : place.closes = true) (spelled : Bytes)
    (done : List Token) {rest : Bytes} (h : Ends rest) :
    scan (.numeral place spelled) done rest
      = scan .idle (number spelled.reverse :: done) rest := by
  cases rest with
  | nil => simp only [scan, finish, hplace, if_true]
  | cons b rest =>
      have hnone : place.next b = none ∧ (place = .zero → Decimal.isDigit b = false) := by
        -- none of the bytes that may follow goes on with a numeral at any place
        have hb : b = 32 ∨ b = 9 ∨ b = 10 ∨ b = 13 ∨ b = 44 ∨ b = 93 ∨ b = 125 := by
          rcases h b rfl with hblank | hend
          · rcases eq_of_isBlank hblank with rfl | rfl | rfl | rfl <;> simp
          · simp [hend]
        rcases hb with rfl | rfl | rfl | rfl | rfl | rfl | rfl <;> cases place <;>
          exact ⟨rfl, fun _ => rfl⟩
      have hguard : (!place.closes || (place = .zero && Decimal.isDigit b)) = false := by
        by_cases hzero : place = .zero
        · simp [hplace, hnone.2 hzero]
        · simp [hplace, hzero]
      have hstep : step (.numeral place spelled) done b
          = step .idle (number spelled.reverse :: done) b := by
        simp only [step, hnone.1, hguard, Bool.false_eq_true, if_false]
      rw [scan, scan, hstep]

theorem scan_number {spelling : Bytes} (hspelled : Numeral.Spelled spelling) (done : List Token)
    {rest : Bytes} (hrest : Ends rest) :
    scan .idle done (spelling ++ rest) = scan .idle (number spelling :: done) rest := by
  obtain ⟨parts, rfl⟩ := hspelled
  obtain ⟨last, hlast, hwalk⟩ := walk_unsigned parts
  rw [Numeral.Parts.spelling]
  split
  case isTrue =>
      have hsign : step .idle done 45 = some (.numeral .sign [45], done) := rfl
      rw [List.cons_append, scan_cons _ hsign, scan_walk hwalk, scan_ends hlast _ _ hrest]
      simp
  case isFalse =>
      obtain ⟨d, ds, hwhole⟩ := List.exists_cons_of_ne_nil parts.whole.ne_nil
      have hdigit : Decimal.isDigit d = true :=
        parts.whole.isDigit d (hwhole ▸ List.mem_cons_self)
      obtain ⟨place, hnext, hstep⟩ := step_idle_digit hdigit done
      obtain ⟨tail, htail⟩ : ∃ tail, parts.unsigned = d :: tail :=
        ⟨_, by rw [Numeral.Parts.unsigned, hwhole, List.cons_append]⟩
      rw [htail, walk_cons hnext] at hwalk
      rw [htail, List.cons_append, scan_cons _ hstep, scan_walk hwalk, scan_ends hlast _ _ hrest]
      simp

/-! ## Tokens in a row -/

/-- What holds of a token if one thing holds of numerals and another of literals. -/
def Every (numeral literal : Bytes → Prop) : Token → Prop
  | number spelling => numeral spelling
  | text body => literal body
  | _ => True

theorem Every.imp {numeral numeral' literal : Bytes → Prop}
    (himp : ∀ spelling, numeral spelling → numeral' spelling) {token : Token}
    (h : token.Every numeral literal) : token.Every numeral' literal := by
  cases token with
  | number spelling => exact himp spelling h
  | _ => exact h

/-- The tokens whose spelling is one that is read. -/
def WellSpelled (token : Token) : Prop := token.Every Numeral.Spelled Literal.Valid

/-- Whether a token is a numeral, which has no end of its own. -/
def isNumber : Token → Bool
  | number _ => true
  | _ => false

/-- Whether a token ends a numeral before it. -/
def closes : Token → Bool
  | comma | closeArray | closeObject => true
  | _ => false

/-- A token is read from its spelling, if what follows ends it. -/
theorem scan_token {token : Token} (h : token.WellSpelled) (done : List Token) {rest : Bytes}
    (hrest : token.isNumber = true → Ends rest) :
    scan .idle done (token.spelling ++ rest) = scan .idle (token :: done) rest := by
  cases token with
  | number spelling => exact scan_number h done (hrest rfl)
  | text body => exact scan_text done rest h
  | flag value => cases value <;> rfl
  | _ => rfl

theorem scan_blanks {blanks : Bytes} (h : ∀ b ∈ blanks, isBlank b = true) (done : List Token)
    (rest : Bytes) : scan .idle done (blanks ++ rest) = scan .idle done rest := by
  induction blanks with
  | nil => rfl
  | cons b blanks ih =>
      obtain ⟨hb, hblanks⟩ := List.forall_mem_cons.mp h
      have hstep : step .idle done b = some (.idle, done) := by
        rcases eq_of_isBlank hb with rfl | rfl | rfl | rfl <;> rfl
      rw [List.cons_append, scan_cons _ hstep, ih hblanks]

/-- Bytes that spell tokens, with blanks before, between and after them. -/
inductive Spaced : List Token → Bytes → Prop where
  | nil {blanks : Bytes} (h : ∀ b ∈ blanks, isBlank b = true) : Spaced [] blanks
  | cons {token : Token} {tokens : List Token} {blanks bytes : Bytes}
      (h : ∀ b ∈ blanks, isBlank b = true) (hrest : Spaced tokens bytes) :
      Spaced (token :: tokens) (blanks ++ (token.spelling ++ bytes))

/-- Tokens with given blanks before each, and blanks at the end. -/
theorem spaced_gaps {gaps : List (Bytes × Token)} {last : Bytes}
    (hgaps : ∀ gap ∈ gaps, ∀ b ∈ gap.1, isBlank b = true) (hlast : ∀ b ∈ last, isBlank b = true) :
    Spaced (gaps.map (·.2)) (gaps.flatMap (fun gap => gap.1 ++ gap.2.spelling) ++ last) := by
  induction gaps with
  | nil => exact .nil hlast
  | cons gap gaps ih =>
      obtain ⟨hgap, hgaps⟩ := List.forall_mem_cons.mp hgaps
      rw [List.flatMap_cons, List.append_assoc, List.append_assoc]
      exact .cons hgap (ih hgaps)

/-- Tokens without blanks. -/
theorem spaced_flatMap (tokens : List Token) : Spaced tokens (tokens.flatMap spelling) := by
  have hspaced := @spaced_gaps (tokens.map fun token => ([], token)) [] (by simp) (by simp)
  simpa [List.map_map, List.flatMap_map, Function.comp_def] using hspaced

/-- Each numeral has a token behind it that ends it, if there is any. -/
def Parted (tokens : List Token) : Prop :=
  tokens.IsChain fun token next => token.isNumber = true → next.closes = true

theorem parted_nil : Parted [] := List.IsChain.nil

theorem parted_cons {token : Token} (h : token.isNumber = false) {tokens : List Token}
    (htokens : Parted tokens) : Parted (token :: tokens) :=
  List.isChain_cons.mpr ⟨fun _ _ hnumber => absurd (h.symm.trans hnumber) (by decide), htokens⟩

theorem Spaced.ends {tokens : List Token} {bytes : Bytes} (h : Spaced tokens bytes)
    (hnext : ∀ next ∈ tokens.head?, next.closes = true) : Ends bytes := by
  intro b hb
  cases h with
  | nil hblanks => exact .inl (hblanks b (List.mem_of_head? hb))
  | @cons token tokens blanks bytes hblanks hrest =>
      cases blanks with
      | cons blank blanks => exact .inl (hblanks b (List.mem_of_head? hb))
      | nil =>
          have hcloses := hnext token rfl
          cases token with
          | comma | closeArray | closeObject =>
              cases hb
              simp
          | _ => cases hcloses

/-- Tokens that are spelled well are read, whatever blanks stand around them. -/
theorem scan_spaced {tokens : List Token} {bytes : Bytes} (h : Spaced tokens bytes)
    (hspelled : ∀ token ∈ tokens, token.WellSpelled) (hparted : Parted tokens)
    (done : List Token) : scan .idle done bytes = some (done.reverse ++ tokens) := by
  induction h generalizing done with
  | nil hblanks =>
      have hscan := scan_blanks hblanks done []
      rw [List.append_nil] at hscan
      rw [hscan, List.append_nil]
      rfl
  | @cons token tokens blanks bytes hblanks hrest ih =>
      obtain ⟨htoken, htokens⟩ := List.forall_mem_cons.mp hspelled
      obtain ⟨hnext, htail⟩ := List.isChain_cons.mp hparted
      have hends : token.isNumber = true → Ends bytes := fun hnumber =>
        hrest.ends fun next hmem => hnext next hmem hnumber
      rw [scan_blanks hblanks, scan_token htoken done hends, ih htokens htail]
      simp

end ChainHost.Json.Token
