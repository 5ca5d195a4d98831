/-
  The grammar of transactions.

  `Spells` has one constructor for each form of a transaction, and reading accepts
  exactly what is spelled.  A validator update is read as text, but all that it may hold
  is ASCII, so bytes that are no text are refused.  The mark of validator updates holds no
  equals sign; that is why a plain key, which never starts with the mark, still does not
  when its value is written behind it.
-/
import ChainHost.Proofs.Except
import ChainHost.Proofs.Store.Transaction
import ChainHost.Proofs.Text.Decimal
import ChainHost.Proofs.Text.Split

set_option autoImplicit false

namespace ChainHost.Store.Transaction

/-! ## Forms -/

/-- The spellings of transactions, one constructor for each form. -/
inductive Spells : Bytes → Transaction → Prop
  /-- A key and a value. -/
  | pair {key : Bytes} (value : Bytes) (hkey : key ≠ []) (hequals : equals ∉ key)
      (hmark : ¬Marked (key ++ equals :: value)) :
      Spells (key ++ equals :: value) (.set key value)
  /-- A key that is its own value. -/
  | alone {key : Bytes} (hkey : key ≠ []) (hequals : equals ∉ key) (hmark : ¬Marked key) :
      Spells key (.set key key)
  /-- The key of a validator in hexadecimal digits, and its power. -/
  | validator {key power data : Bytes} {n : UInt64} (hkey : key ≠ [])
      (hdata : Hex.Spells key data) (hpower : Decimal.SpellsWord power n) :
      Spells (Bytes.ofText validatorMark ++ (key ++ bang :: power))
        (.validator ⟨.ed25519 data, n⟩)

/-! ## Validator updates -/

/-- What may stand behind the mark of validator updates. -/
def SpellsUpdate (body : Bytes) (update : ValidatorUpdate) : Prop :=
  ∃ key power data n, body = key ++ bang :: power ∧ key ≠ [] ∧ Hex.Spells key data
    ∧ Decimal.SpellsWord power n ∧ update = ⟨.ed25519 data, n⟩

theorem bang_notMem {key data : Bytes} (h : Hex.Spells key data) : bang ∉ key := by
  intro hbang
  have hlow := (h.bounds bang hbang).1
  exact absurd hlow (by decide)

/-- The spelling of an update is ASCII, so it is read as it is. -/
theorem plain_of_spells {key power data : Bytes} {n : UInt64} (hdata : Hex.Spells key data)
    (hpower : Decimal.SpellsWord power n) : Utf8.Plain (key ++ bang :: power) := by
  intro b hb
  rcases List.mem_append.mp hb with hb | hb
  · exact (hdata.bounds b hb).2
  · rcases List.mem_cons.mp hb with rfl | hb
    · decide
    · exact hpower.plain b hb

theorem spellsUpdate_of_readValidator {body : Bytes} {update : ValidatorUpdate}
    (h : readValidator body = .ok update) : SpellsUpdate body update := by
  unfold readValidator at h
  have htext := @Utf8.flatMap_decodeLossy_of_plain_text body
  generalize (Utf8.decodeLossy body).flatMap String.utf8EncodeChar = text at h htext
  dsimp only at h
  by_cases hbang : bang ∈ text
  · obtain ⟨key, power, rfl, hkey⟩ := List.eq_append_cons_of_mem hbang
    rw [Text.takeWhile_ne_append hkey, List.drop_left] at h
    dsimp only at h
    split at h
    · cases h
    · next hne =>
        split at h
        · cases h
        · next data hdecode =>
            split at h
            · cases h
            · next n hword =>
                cases h
                have hdata := Hex.decode_eq_ok_iff.mp hdecode
                have hpower := Decimal.word?_eq_some_iff.mp hword
                have hbody := htext (plain_of_spells hdata hpower)
                exact ⟨key, power, data, n, hbody.symm, hne, hdata, hpower, rfl⟩
  · rw [Text.takeWhile_ne_of_notMem hbang, List.drop_length] at h
    cases h

theorem readValidator_of_spells {key power data : Bytes} {n : UInt64} (hkey : key ≠ [])
    (hdata : Hex.Spells key data) (hpower : Decimal.SpellsWord power n) :
    readValidator (key ++ bang :: power) = .ok ⟨.ed25519 data, n⟩ := by
  unfold readValidator
  rw [Utf8.flatMap_decodeLossy_of_plain (plain_of_spells hdata hpower)]
  simp only [Text.takeWhile_ne_append (bang_notMem hdata), List.drop_left, if_neg hkey,
    Hex.decode_eq_ok_iff.mpr hdata, Decimal.word?_eq_some_iff.mpr hpower]

/-! ## Reading -/

theorem read_marked (body : Bytes) :
    read (Bytes.ofText validatorMark ++ body) = (readValidator body).map validator := by
  have hdrop : Bytes.dropText? validatorMark (Bytes.ofText validatorMark ++ body) = some body :=
    Bytes.dropText?_eq_some_iff.mpr rfl
  have hne : Bytes.ofText validatorMark ++ body ≠ [] := by
    intro h
    have hmark := (List.append_eq_nil_iff.mp h).1
    exact absurd hmark (by decide)
  rw [read, if_neg hne, hdrop]

/-- Without the mark, the first equals sign is behind the key. -/
theorem read_pair {key value : Bytes} (hequals : equals ∉ key)
    (hmark : ¬Marked (key ++ equals :: value)) : read (key ++ equals :: value)
      = if key = [] then .error .emptyKey else .ok (set key value) := by
  have hne : key ++ equals :: value ≠ [] := by simp
  simp only [read, if_neg hne, Bytes.dropText?_eq_none_iff.mpr hmark,
    Text.takeWhile_ne_append hequals, List.drop_left]

theorem read_alone {key : Bytes} (hne : key ≠ []) (hequals : equals ∉ key)
    (hmark : ¬Marked key) : read key = .ok (set key key) := by
  simp only [read, if_neg hne, Bytes.dropText?_eq_none_iff.mpr hmark,
    Text.takeWhile_ne_of_notMem hequals, List.drop_length]

theorem spells_of_read {tx : Bytes} {t : Transaction} (h : read tx = .ok t) : Spells tx t := by
  by_cases hne : tx = []
  · rw [read, if_pos hne] at h
    cases h
  by_cases hmark : Marked tx
  · obtain ⟨body, rfl⟩ := hmark
    rw [read_marked] at h
    obtain ⟨update, hread, rfl⟩ := exists_of_map_eq_ok h
    obtain ⟨key, power, data, n, rfl, hkey, hdata, hpower, rfl⟩ :=
      spellsUpdate_of_readValidator hread
    exact .validator hkey hdata hpower
  · by_cases hequals : equals ∈ tx
    · obtain ⟨key, value, rfl, hkey⟩ := List.eq_append_cons_of_mem hequals
      rw [read_pair hkey hmark] at h
      split at h
      · cases h
      · next hempty =>
          cases h
          exact .pair value hempty hkey hmark
    · rw [read_alone hne hequals hmark] at h
      cases h
      exact .alone hne hequals hmark

theorem read_of_spells {tx : Bytes} {t : Transaction} (h : Spells tx t) : read tx = .ok t := by
  cases h with
  | pair value hkey hequals hmark => exact (read_pair hequals hmark).trans (if_neg hkey)
  | alone hkey hequals hmark => exact read_alone hkey hequals hmark
  | validator hkey hdata hpower =>
      rw [read_marked, readValidator_of_spells hkey hdata hpower]
      rfl

/-- Reading accepts what is spelled. -/
theorem read_eq_ok_iff {tx : Bytes} {t : Transaction} : read tx = .ok t ↔ Spells tx t :=
  ⟨spells_of_read, read_of_spells⟩

/-! ## Validator updates that come back -/

theorem data_ne_nil {key data : Bytes} (h : Hex.Spells key data) (hkey : key ≠ []) :
    data ≠ [] := by
  rintro rfl
  exact hkey (List.eq_nil_of_length_eq_zero h.length_eq)

/-- An update is written as one spelling of it. -/
theorem spells_writeValidator {data : Bytes} (power : UInt64) (h : data ≠ []) :
    Spells (writeValidator ⟨.ed25519 data, power⟩) (.validator ⟨.ed25519 data, power⟩) := by
  have hkey : Hex.encode data ≠ [] := by
    intro hnil
    have hlength := Hex.length_encode data
    rw [hnil, List.length_nil] at hlength
    exact h (List.eq_nil_of_length_eq_zero (by omega))
  have hspells := Spells.validator hkey (Hex.spells_encode data) (Decimal.spellsWord_digits power)
  rwa [← List.append_assoc] at hspells

theorem exists_data_of_spells {tx : Bytes} {update : ValidatorUpdate}
    (h : Spells tx (.validator update)) :
    ∃ data, data ≠ [] ∧ update = ⟨.ed25519 data, update.power⟩ := by
  cases h with
  | validator hkey hdata hpower => exact ⟨_, data_ne_nil hdata hkey, rfl⟩

/-- **Validator updates come back.**  The transaction of an update with a key of the one
key type, of at least a byte, and any power is read as that update.  The other way round,
whatever is read as an update, in whichever spelling, has such a key, and the transaction
that is written for it is read as it again. -/
theorem updates_come_back :
    (∀ (data : Bytes) (power : UInt64), data ≠ [] →
        read (writeValidator ⟨.ed25519 data, power⟩)
          = .ok (.validator ⟨.ed25519 data, power⟩))
      ∧ ∀ (tx : Bytes) (update : ValidatorUpdate), read tx = .ok (.validator update) →
          ∃ data, data ≠ [] ∧ update.publicKey = .ed25519 data
            ∧ read (writeValidator update) = .ok (.validator update) := by
  refine ⟨fun data power hdata => read_of_spells (spells_writeValidator power hdata), ?_⟩
  intro tx update hread
  obtain ⟨data, hdata, hupdate⟩ := exists_data_of_spells (spells_of_read hread)
  rw [hupdate]
  exact ⟨data, hdata, rfl, read_of_spells (spells_writeValidator _ hdata)⟩

/-- Capital digits, a plus sign and zeros in front are read, and written otherwise. -/
theorem updates_come_back_respelled :
    let update : ValidatorUpdate := ⟨.ed25519 [10, 255], 7⟩
    read (Bytes.ofText "val:0AfF!+007") = .ok (.validator update)
      ∧ writeValidator update = Bytes.ofText "val:0aff!7"
      ∧ read (writeValidator update) = .ok (.validator update) := by
  intro update
  have hread : read (Bytes.ofText "val:0AfF!+007") = .ok (.validator update) := by rfl
  refine ⟨hread, ?_, ?_⟩
  · cbv
  · obtain ⟨data, hdata, hkey, hback⟩ := updates_come_back.2 _ _ hread
    exact hback

/-! ## The mark -/

/-- A value behind a key does not complete the mark. -/
theorem marked_pair_iff (key value : Bytes) :
    Marked (key ++ equals :: value) ↔ Marked key := by
  constructor
  · intro hmark
    rcases Nat.lt_or_ge key.length (Bytes.ofText validatorMark).length with hshort | hlong
    · -- The equals sign would be one of the bytes of the mark.
      have hpair : key ++ [equals] <+: key ++ equals :: value :=
        (List.prefix_append_right_inj key).mpr (List.prefix_append [equals] value)
      have hfront := List.prefix_of_prefix_length_le hpair hmark
        (by rw [List.length_append]; exact hshort)
      have hequals := hfront.subset (List.mem_append_right key (List.mem_singleton_self equals))
      exact absurd hequals (by decide)
    · exact List.prefix_of_prefix_length_le hmark (List.prefix_append ..) hlong
  · exact fun hmark => hmark.trans (List.prefix_append ..)

theorem spells_set_iff {tx key value : Bytes} : Spells tx (.set key value)
    ↔ tx ≠ [] ∧ ¬Marked tx ∧ ((tx = key ++ equals :: value ∧ key ≠ [] ∧ equals ∉ key)
      ∨ (equals ∉ tx ∧ key = tx ∧ value = tx)) := by
  constructor
  · intro h
    cases h with
    | pair value hkey hequals hmark => exact ⟨by simp, hmark, .inl ⟨rfl, hkey, hequals⟩⟩
    | alone hkey hequals hmark => exact ⟨hkey, hmark, .inr ⟨hequals, rfl, rfl⟩⟩
  · rintro ⟨hne, hmark, ⟨rfl, hkey, hequals⟩ | ⟨hequals, rfl, rfl⟩⟩
    · exact .pair value hkey hequals hmark
    · exact .alone hne hequals hmark

/-- Any value may stand behind a key that is not empty, holds no equals sign and has no
mark. -/
theorem spells_pair_of_key {key : Bytes} (value : Bytes) (hkey : key ≠ []) (hequals : equals ∉ key)
    (hmark : ¬Marked key) : Spells (key ++ equals :: value) (.set key value) :=
  .pair value hkey hequals (mt (marked_pair_iff key value).mp hmark)

theorem Spells.key_of_set {tx key value : Bytes} (h : Spells tx (.set key value)) :
    key ≠ [] ∧ equals ∉ key ∧ ¬Marked key := by
  cases h with
  | pair value hkey hequals hmark =>
      exact ⟨hkey, hequals, mt (marked_pair_iff key value).mpr hmark⟩
  | alone hkey hequals hmark => exact ⟨hkey, hequals, hmark⟩

theorem exists_spells_validator_iff {tx : Bytes} : (∃ update, Spells tx (.validator update))
    ↔ ∃ key power, tx = Bytes.ofText validatorMark ++ (key ++ bang :: power) ∧ key ≠ []
        ∧ key.length % 2 = 0 ∧ (∀ b ∈ key, ∃ digit, Hex.Digit digit b)
        ∧ ∃ n, Decimal.SpellsWord power n := by
  constructor
  · rintro ⟨update, h⟩
    cases h with
    | @validator key power data n hkey hdata hpower =>
        have heven := hdata.length_eq
        exact ⟨key, power, rfl, hkey, by omega, hdata.digits, n, hpower⟩
  · rintro ⟨key, power, rfl, hkey, heven, hdigits, n, hpower⟩
    obtain ⟨data, hdata⟩ := Hex.exists_spells heven hdigits
    exact ⟨_, .validator hkey hdata hpower⟩

/-- A transaction that is no validator update leaves the keys of validators alone. -/
theorem find?_deliverTx_of_marked {args : Args.DeliverTx}
    (h : ∀ update, read args.tx ≠ .ok (.validator update)) (s : Store) {key : Bytes}
    (hkey : Marked key) : (s.deliverTx args).2.working.find? key = s.working.find? key := by
  unfold deliverTx
  cases hread : read args.tx with
  | error fault => rfl
  | ok t =>
      cases t with
      | validator update => exact absurd hread (h update)
      | set written value =>
          have hne : key ≠ written := fun heq => not_marked_of_read hread (heq ▸ hkey)
          exact Table.find?_insert_of_ne s.working value hne

/-- The reading of some bytes follows the grammar. -/
structure Grammatical (tx : Bytes) : Prop where
  /-- A validator update is the mark, an even number of hexadecimal digits, an exclamation
  mark and a number of 64 bits. -/
  update : (∃ update, read tx = .ok (.validator update))
    ↔ ∃ key power, tx = Bytes.ofText validatorMark ++ (key ++ bang :: power) ∧ key ≠ []
        ∧ key.length % 2 = 0 ∧ (∀ b ∈ key, ∃ digit, Hex.Digit digit b)
        ∧ ∃ n, Decimal.SpellsWord power n
  /-- Without the mark it is a key and a value around the first equals sign, or without
  one a key that is its own value. -/
  set : ∀ key value, read tx = .ok (.set key value)
    ↔ tx ≠ [] ∧ ¬Marked tx ∧ ((tx = key ++ equals :: value ∧ key ≠ [] ∧ equals ∉ key)
      ∨ (equals ∉ tx ∧ key = tx ∧ value = tx))
  /-- All else is refused. -/
  refused : (∃ fault, read tx = .error fault) ↔ ∀ t, ¬Spells tx t
  /-- What is read as a key and a value has a key without the mark, and is read again from
  the two with an equals sign between them. -/
  pair : ∀ key value, read tx = .ok (.set key value) →
    ¬Marked key ∧ read (key ++ equals :: value) = .ok (.set key value)
  /-- So are all pairs whose key is not empty, holds no equals sign and lacks the mark. -/
  written : ∀ key value, tx = key ++ equals :: value → key ≠ [] → equals ∉ key → ¬Marked key →
    read tx = .ok (.set key value)
  /-- Whatever it is, unless it is a validator update no store changes what lies under a
  key with the mark when it is delivered. -/
  kept : (∀ update, read tx ≠ .ok (.validator update)) → ∀ (s : Store) (key : Bytes),
    Marked key → (s.deliverTx { tx }).2.working.find? key = s.working.find? key

/-- **The grammar of transactions**, over all bytes. -/
theorem grammatical (tx : Bytes) : Grammatical tx where
  update := by simp only [read_eq_ok_iff, exists_spells_validator_iff]
  set key value := read_eq_ok_iff.trans spells_set_iff
  refused := by
    constructor
    · rintro ⟨fault, hfault⟩ t ht
      rw [read_of_spells ht] at hfault
      cases hfault
    · intro hnone
      cases hread : read tx with
      | error fault => exact ⟨fault, rfl⟩
      | ok t => exact absurd (spells_of_read hread) (hnone t)
  pair key value hread := by
    obtain ⟨hkey, hequals, hmark⟩ := (spells_of_read hread).key_of_set
    exact ⟨hmark, read_of_spells (spells_pair_of_key value hkey hequals hmark)⟩
  written key value htx hkey hequals hmark :=
    htx ▸ read_of_spells (spells_pair_of_key value hkey hequals hmark)
  kept hnone s _ hkey := find?_deliverTx_of_marked hnone s hkey

end ChainHost.Store.Transaction
