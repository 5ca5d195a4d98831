/-
  Which hosts a URL keeps.

  A host of a scheme that is not special is printed ASCII without the bytes that have a
  meaning in an authority, or an address of groups in brackets.  Without its brackets an
  address is cut at its first colon when it is read.
-/
import ChainHost.Proofs.Endpoint.Url
import ChainHost.Proofs.Text.Decimal

set_option autoImplicit false

namespace ChainHost

namespace Ipv6

/-! ## Addresses of groups -/

theorem exists_of_mem_toDigits {n : Nat} {c : Char} (h : c ∈ Nat.toDigits 16 n) :
    ∃ value < 16, c = value.digitChar := by
  induction n using Nat.strongRecOn with
  | ind n ih =>
      rw [Nat.toDigits_eq_if (by decide)] at h
      split at h
      · next hlow => exact ⟨n, hlow, List.mem_singleton.mp h⟩
      · rcases List.mem_append.mp h with h | h
        · exact ih (n / 16) (by omega) h
        · exact ⟨n % 16, Nat.mod_lt _ (by decide), List.mem_singleton.mp h⟩

theorem digit_of_mem_groupText {n : Nat} {b : UInt8} (h : b ∈ groupText n) :
    ∃ value < 16, b = Hex.digit value := by
  obtain ⟨c, hc, rfl⟩ := List.mem_map.mp h
  obtain ⟨value, hvalue, rfl⟩ := exists_of_mem_toDigits hc
  refine ⟨value, hvalue, ?_⟩
  have hall : ∀ value < 16, UInt8.ofNat (Nat.digitChar value).toNat = Hex.digit value := by decide
  exact hall value hvalue

/-- What an address is written with: colons and small digits. -/
def Letter (b : UInt8) : Prop := b = 58 ∨ ∃ value < 16, b = Hex.digit value

theorem letter_of_mem_joined {groups : List Nat} {b : UInt8} (h : b ∈ joined groups) : Letter b := by
  rcases Text.mem_intercalate h with h | ⟨part, hpart, h⟩
  · exact .inl (List.mem_singleton.mp h)
  · obtain ⟨n, -, rfl⟩ := List.mem_map.mp hpart
    exact .inr (digit_of_mem_groupText h)

theorem letter_of_mem_write {groups : List Nat} {b : UInt8} (h : b ∈ write groups) : Letter b := by
  unfold write at h
  dsimp only at h
  split at h
  · exact letter_of_mem_joined h
  · rcases List.mem_append.mp h with h | h
    · rcases List.mem_append.mp h with h | h
      · exact letter_of_mem_joined h
      · rcases List.mem_cons.mp h with h | h
        · exact .inl h
        · exact .inl (List.mem_singleton.mp h)
    · exact letter_of_mem_joined h

theorem Letter.bounds {b : UInt8} (h : Letter b) :
    (48 ≤ b.toNat ∧ b.toNat ≤ 58) ∨ (97 ≤ b.toNat ∧ b.toNat ≤ 102) := by
  rcases h with rfl | ⟨value, hvalue, rfl⟩
  · decide
  · have hall : ∀ value < 16, (48 ≤ (Hex.digit value).toNat ∧ (Hex.digit value).toNat ≤ 58)
        ∨ (97 ≤ (Hex.digit value).toNat ∧ (Hex.digit value).toNat ≤ 102) := by decide
    exact hall value hvalue

theorem printed_write (groups : List Nat) :
    ∀ b ∈ write groups, 32 < b.toNat ∧ b.toNat < 127 := by
  intro b hb
  have hbounds := (letter_of_mem_write hb).bounds
  omega

theorem bracket_notMem_write (groups : List Nat) :
    91 ∉ write groups ∧ 93 ∉ write groups := by
  constructor <;>
  · intro h
    have hbounds := (letter_of_mem_write h).bounds
    exact absurd hbounds (by decide)

/-- An address of more than one group holds a colon. -/
theorem colon_mem_write {groups : List Nat} (h : 2 ≤ groups.length) : 58 ∈ write groups := by
  unfold write
  dsimp only
  split
  · match groups, h with
    | first :: second :: rest, _ =>
        rw [joined, List.map_cons, List.map_cons, List.intercalate_cons_cons]
        simp
  · simp

theorem length_of_read? {text : Bytes} {groups : List Nat} (h : read? text = some groups) :
    groups.length = 8 := by
  unfold read? at h
  split at h
  · split at h
    · split at h
      · next left right _ _ hle =>
          cases h
          simp only [List.length_append, List.length_replicate]
          omega
      · cases h
    · cases h
  · exact of_decide_eq_true (Option.filter_eq_some_iff.mp h).2

end Ipv6

namespace Url

/-! ## Hosts -/

/-- A host that is read as it is. -/
structure PlainHost (host : Bytes) : Prop where
  ne_nil : host ≠ []
  printed : ∀ b ∈ host, 32 < b.toNat ∧ b.toNat < 127
  allowed : ∀ b ∈ host, isForbidden b = false

theorem plainHost_of_plain {host : Bytes} (h : PlainHost host) : plainHost host = .ok host := by
  have hhead : host.head? ≠ some 91 := fun hhead =>
    absurd (h.allowed 91 (List.mem_of_mem_head? hhead)) (by decide)
  have hany : host.any isForbidden = false :=
    List.any_eq_false.mpr fun b hb => by rw [h.allowed b hb]; exact Bool.false_ne_true
  rw [plainHost, if_neg hhead, hany, Percent.encode_of_printed fun b hb => ?_]
  · rfl
  · have := h.printed b hb
    omega

theorem allowed_digit {value : Nat} (h : value < 16) : isForbidden (Percent.digit value) = false := by
  have hall : ∀ value < 16, isForbidden (Percent.digit value) = false := by decide
  exact hall value h

/-- Escaping leaves no byte that a host may not hold. -/
theorem plainHost_encode {text : Bytes} (hne : Percent.encode text ≠ [])
    (hallowed : ∀ b ∈ text, isForbidden b = false) : PlainHost (Percent.encode text) := by
  refine ⟨hne, fun b hb => ?_, fun b hb => ?_⟩
  · rcases Percent.mem_encode hb with ⟨hmem, hlow, hhigh⟩ | rfl | ⟨value, hvalue, rfl⟩
    · have hblank : b.toNat ≠ 32 := by
        intro heq
        have hb : b = 32 := UInt8.toNat_inj.mp heq
        exact absurd (hallowed b hmem) (by rw [hb]; decide)
      omega
    · decide
    · have := Percent.digit_bounds hvalue
      omega
  · rcases Percent.mem_encode hb with ⟨hmem, -, -⟩ | rfl | ⟨value, hvalue, rfl⟩
    · exact hallowed b hmem
    · decide
    · exact allowed_digit hvalue

/-- A host is plain, or an address of eight groups in brackets. -/
theorem plain_or_bracketed {text host : Bytes} (h : plainHost text = .ok host) (hne : host ≠ []) :
    PlainHost host ∨ ∃ groups : List Nat, groups.length = 8
      ∧ host = 91 :: Ipv6.write groups ++ [93] := by
  unfold plainHost at h
  split at h
  · unfold bracketed? at h
    split at h
    · split at h
      · next groups hread =>
          cases h
          exact .inr ⟨groups, Ipv6.length_of_read? hread, rfl⟩
      · cases h
    · cases h
  · split at h
    · cases h
    · next hallowed =>
        cases h
        exact .inl (plainHost_encode hne (by simpa using hallowed))

/-! ## Authorities -/

/-- A byte that is part of a host or a port wherever it stands in an authority, or is the
colon between them. -/
def Quiet (b : UInt8) : Prop := endsAuthority false b = false ∧ b ≠ 64 ∧ b ≠ 91

/-- An authority without a user is read from its start. -/
theorem dropUser_of_quiet {text : Bytes} (h : ∀ b ∈ text, Quiet b) :
    dropUser false text = .ok (false, text) := by
  have hwhole : text.takeWhile (fun b => !endsAuthority false b) = text := by
    refine List.takeWhile_eq_self_iff.mpr fun b hb => ?_
    rw [(h b hb).1]
    rfl
  have hlast : text.reverse.takeWhile (fun b => decide (b ≠ 64)) = text.reverse :=
    List.takeWhile_eq_self_iff.mpr fun b hb =>
      decide_eq_true (h b (List.mem_reverse.mp hb)).2.1
  simp only [dropUser, hwhole, hlast, List.reverse_reverse, if_true]

theorem hostText_of_quiet {front : Bytes} (hquiet : ∀ b ∈ front, Quiet b) (hcolon : 58 ∉ front)
    (rest : Bytes) : hostText false false (front ++ 58 :: rest) = front := by
  induction front with
  | nil => rfl
  | cons b front ih =>
      obtain ⟨hends, -, hbracket⟩ := hquiet b List.mem_cons_self
      have hb : (b == 58) = false := by
        rw [beq_eq_false_iff_ne]
        exact fun heq => hcolon (heq ▸ List.mem_cons_self)
      rw [List.cons_append, hostText, hends, hb, if_neg hbracket, ite_self]
      exact congrArg (b :: ·) (ih (fun c hc => hquiet c (List.mem_cons_of_mem _ hc))
        fun hmem => hcolon (List.mem_cons_of_mem _ hmem))

/-- What a host, a colon and what follows are read as. -/
theorem readHost_of_quiet {front more host : Bytes} (hquiet : ∀ b ∈ front, Quiet b)
    (hcolon : 58 ∉ front) (hhost : plainHost front = .ok host) (hne : host ≠ []) :
    readHost false (front ++ 58 :: more)
      = (readPort more).map fun (port, rest) => (some host, port, rest) := by
  unfold readHost
  simp only [hostText_of_quiet hquiet hcolon, List.drop_left]
  change (plainHost front >>= _) = _
  rw [hhost]
  change (if host = [] then _ else _) = _
  rw [if_neg hne]
  cases readPort more <;> rfl

theorem readPort_digits {n : Nat} (h : n ≤ 65535) :
    readPort (Decimal.digits n) = .ok (some n, []) := by
  have hdigits : (Decimal.digits n).takeWhile Decimal.isDigit = Decimal.digits n :=
    List.takeWhile_eq_self_iff.mpr (Decimal.isDigit_of_mem_digits n)
  simp only [readPort, hdigits, List.drop_length, Decimal.value_digits,
    if_neg (Decimal.digits_ne_nil n)]
  rw [if_neg]
  simpa using h

/-- What ends an authority or has a meaning in it, no host may hold. -/
theorem quiet_of_allowed {b : UInt8} (h : isForbidden b = false) : Quiet b := by
  have hb : ∀ c, isForbidden c = true → b ≠ c := by
    rintro c hc rfl
    rw [h] at hc
    cases hc
  refine ⟨?_, hb 64 (by decide), hb 91 (by decide)⟩
  simp [endsAuthority, hb 47 (by decide), hb 63 (by decide), hb 35 (by decide)]

/-- Digits and small hexadecimal letters may stand in a host. -/
theorem allowed_of_bounds {b : UInt8}
    (h : (48 ≤ b.toNat ∧ b.toNat ≤ 57) ∨ (97 ≤ b.toNat ∧ b.toNat ≤ 102)) :
    isForbidden b = false := by
  have hall : ∀ n < 256, (48 ≤ n ∧ n ≤ 57) ∨ (97 ≤ n ∧ n ≤ 102) →
      isForbidden (UInt8.ofNat n) = false := by decide +kernel
  have hb := hall b.toNat b.toNat_lt h
  rwa [UInt8.ofNat_toNat] at hb

theorem quiet_of_isDigit {b : UInt8} (h : Decimal.isDigit b = true) : Quiet b := by
  simp only [Decimal.isDigit, Bool.and_eq_true, decide_eq_true_eq] at h
  exact quiet_of_allowed (allowed_of_bounds (.inl h))

theorem PlainHost.quiet {host : Bytes} (h : PlainHost host) : ∀ b ∈ host, Quiet b :=
  fun b hb => quiet_of_allowed (h.allowed b hb)

theorem PlainHost.colon_notMem {host : Bytes} (h : PlainHost host) : 58 ∉ host := fun hcolon =>
  absurd (h.allowed 58 hcolon) (by decide)

theorem quiet_authority {host : Bytes} (h : ∀ b ∈ host, Quiet b) (n : Nat) :
    ∀ b ∈ host ++ 58 :: Decimal.digits n, Quiet b := by
  intro b hb
  rcases List.mem_append.mp hb with hb | hb
  · exact h b hb
  · rcases List.mem_cons.mp hb with rfl | hb
    · exact ⟨by decide, by decide, by decide⟩
    · exact quiet_of_isDigit (Decimal.isDigit_of_mem_digits n b hb)

/-- A plain host and a port are read as they are. -/
theorem readAuthority_of_plain {scheme host : Bytes} {n : Nat} (hhost : PlainHost host)
    (hn : n ≤ 65535) : readAuthority false scheme (host ++ 58 :: Decimal.digits n)
      = .ok { scheme, host := some host, port := some n } := by
  unfold readAuthority
  rw [dropUser_of_quiet (quiet_authority hhost.quiet n)]
  change (readHost false _ >>= _) = _
  rw [readHost_of_quiet hhost.quiet hhost.colon_notMem (plainHost_of_plain hhost) hhost.ne_nil,
    readPort_digits hn]
  rfl

theorem allowed_of_letter {b : UInt8} (h : Ipv6.Letter b) (hcolon : b ≠ 58) :
    isForbidden b = false := by
  have hbounds := h.bounds
  have hne : b.toNat ≠ 58 := fun heq => hcolon (UInt8.toNat_inj.mp heq)
  exact allowed_of_bounds (by omega)

theorem quiet_of_letter {b : UInt8} (h : Ipv6.Letter b) : Quiet b := by
  by_cases hcolon : b = 58
  · rw [hcolon]
    exact ⟨by decide, by decide, by decide⟩
  · exact quiet_of_allowed (allowed_of_letter h hcolon)

/-- Letters up to a colon are a plain host, if there are any. -/
theorem plainHost_of_letters {front : Bytes} (hne : front ≠ []) (hcolon : 58 ∉ front)
    (h : ∀ b ∈ front, Ipv6.Letter b) : PlainHost front := by
  refine ⟨hne, fun b hb => ?_, fun b hb => ?_⟩
  · have hbounds := (h b hb).bounds
    omega
  · exact allowed_of_letter (h b hb) fun heq => hcolon (heq ▸ hb)

/-- Without its brackets an address is cut at its first colon, which leaves a plain
host. -/
theorem plainHost_of_unbracketed {scheme host : Bytes} {groups : List Nat} {n : Nat} {url : Url}
    (hgroups : 2 ≤ groups.length)
    (h : readAuthority false scheme (Ipv6.write groups ++ 58 :: Decimal.digits n) = .ok url)
    (hhost : url.host = some host) : PlainHost host := by
  have hquiet : ∀ b ∈ Ipv6.write groups ++ 58 :: Decimal.digits n, Quiet b :=
    quiet_authority (fun b hb => quiet_of_letter (Ipv6.letter_of_mem_write hb)) n
  obtain ⟨user, text, found, port, rest, hdrop, hread, rfl⟩ := exists_of_readAuthority h
  rw [dropUser_of_quiet hquiet] at hdrop
  cases hdrop
  cases hhost
  obtain ⟨hne, hplain⟩ := exists_of_readHost hread
  obtain ⟨front, back, hwrite, hcolon⟩ :=
    List.eq_append_cons_of_mem (Ipv6.colon_mem_write hgroups)
  have hletter : ∀ b ∈ front, Ipv6.Letter b := fun b hb =>
    Ipv6.letter_of_mem_write (hwrite ▸ List.mem_append_left _ hb)
  rw [hwrite, List.append_assoc, List.cons_append,
    hostText_of_quiet (fun b hb => quiet_of_letter (hletter b hb)) hcolon] at hplain
  by_cases hempty : front = []
  · rw [hempty] at hplain
    cases hplain
    exact absurd rfl hne
  · have hfront := plainHost_of_letters hempty hcolon hletter
    rw [plainHost_of_plain hfront] at hplain
    cases hplain
    exact hfront

end Url

end ChainHost
