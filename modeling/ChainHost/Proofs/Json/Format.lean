/-
  What a format writes, it reads back.

  A format is lawful if every value comes back from its document, read in any
  manner, and if the documents are such as are printed and parsed without loss.
  The combinators keep this, with two provisos: an optional value must not be
  written as `null`, and the names of a record's fields must differ.
-/
import ChainHost.Json.Format
import ChainHost.Proofs.Json.Tree

set_option autoImplicit false

namespace ChainHost.Json

variable {α β : Type}

/-- Values are read back from their documents. -/
structure Format.Lawful (format : Format α) : Prop where
  read_write : ∀ (m : Manner) (v : α), format.read m (format.write v) = some v
  written : ∀ v : α, (format.write v).Written

/-- Fields whose formats are lawful and whose names differ. -/
inductive Fields.Lawful : {α : Type} → Fields α → Prop where
  | nil : Fields.nil.Lawful
  | cons {α β : Type} {name : String} {format : Format α} {absentMember absentElement : Option α}
      {rest : Fields β} (hformat : format.Lawful) (hname : name ∉ rest.names)
      (hrest : rest.Lawful) : (Fields.cons name format absentMember absentElement rest).Lawful

/-! ## Whole documents -/

/-- A value is read back from its written form. -/
theorem Format.Lawful.decode?_encode {format : Format α} (h : format.Lawful) (v : α) :
    format.decode? (format.encode v) = some v := by
  rw [Format.decode?, Format.encode, parse?_print (h.written v), Option.bind_some]
  exact h.read_write .direct v

/-! ## What is read

The definition of `read` is opened here; what follows goes by these lemmas. -/

section Reads

variable {m : Manner}

theorem Format.read_number {bits n : Nat} {spelling : Bytes}
    (hspelled : Numeral.natural? spelling = some n) (hn : n < 2 ^ bits) :
    (Format.word bits).read m (.number spelling) = some (BitVec.ofNat bits n) := by
  simp only [Format.read, hspelled, hn, if_true]

theorem Format.read_of_ne_null {value : Format α} {json : Json} (h : json ≠ .null) :
    (Format.optional value).read m json = (value.read m json).map some := by
  cases json with
  | null => exact absurd rfl h
  | _ => rfl

/-- An object is read by the fields, if a closed one has no unknown members. -/
theorem Format.read_object {closed : Bool} {fields : Fields α} {members : List (Bytes × Json)}
    {named : List (String × Json)} (hkeys : readKeys members = some named)
    (hknown : closed = true → ∀ member ∈ named, member.1 ∈ fields.names) :
    (Format.record closed fields).read m (.object members) = fields.readMembers m.inside named := by
  have hnone : (closed && named.any fun member => !fields.names.contains member.1) = false := by
    cases closed with
    | false => rfl
    | true =>
        rw [Bool.true_and, List.any_eq_false]
        exact fun member hmem => by simp [hknown rfl member hmem]
  simp only [Format.read, hkeys, hnone, Bool.false_eq_true, if_false]

/-- A field without a member has its default. -/
theorem Fields.readMembers_absent {name : String} {format : Format α}
    {absentMember absentElement : Option α} {rest : Fields β} {members : List (String × Json)}
    {v : α} {more : β} (hunder : under name members = []) (hv : absentMember = some v)
    (hmore : rest.readMembers m members = some more) :
    (Fields.cons name format absentMember absentElement rest).readMembers m members
      = some (v, more) := by
  simp only [Fields.readMembers, hunder, hv, hmore]

theorem Fields.readMembers_cons {name : String} {format : Format α}
    {absentMember absentElement : Option α} {rest : Fields β} {members : List (String × Json)}
    {json : Json} {v : α} {more : β} (hunder : under name members = [json])
    (hv : format.read m json = some v) (hmore : rest.readMembers m members = some more) :
    (Fields.cons name format absentMember absentElement rest).readMembers m members
      = some (v, more) := by
  simp only [Fields.readMembers, hunder, hv, hmore]

/-- An envelope whose body can be read at once or can be kept. -/
theorem Format.read_envelope {ι : Type} {γ : ι → Type} {names : Names ι}
    {bodies : (i : ι) → Format (γ i)} {json : Json} {envelope : Envelope} {inner : Manner} {i : ι}
    {v : γ i} (henvelope : readEnvelope json = some envelope)
    (hkind : readName names m.inside envelope.kind = some i)
    (hmanner : envelope.manner m = some inner)
    (hvoid : envelope.body = none → (bodies i).isVoid = true)
    (hbody : (bodies i).read inner (envelope.body.getD .null) = some v) :
    (Format.tagged names bodies).read m json = some ⟨i, v⟩ := by
  obtain ⟨kind, body, bodyFirst⟩ := envelope
  cases body with
  | none =>
      have hread : (bodies i).read inner .null = some v := hbody
      simp only [Format.read, henvelope, hkind, hmanner, hvoid rfl, if_true, hread, Option.map_some]
  | some json =>
      have hread : (bodies i).read inner json = some v := hbody
      simp only [Format.read, henvelope, hkind, hmanner, hread, Option.map_some]

end Reads

/-! ## Single values -/

namespace Format

theorem lawful_word (bits : Nat) : (Format.word bits).Lawful where
  read_write m v := by
    have hspelled : Numeral.natural? (Decimal.digits v.toNat) = some v.toNat := by
      have hall : (Decimal.digits v.toNat).all Decimal.isDigit = true :=
        List.all_eq_true.mpr (Decimal.isDigit_of_mem_digits v.toNat)
      rw [Numeral.natural?, Decimal.natural?, if_pos ⟨Decimal.digits_ne_nil _, hall⟩,
        Decimal.value_digits]
    refine (read_number hspelled v.isLt).trans ?_
    rw [BitVec.ofNat_toNat, BitVec.setWidth_eq]
  written v := .number v.toNat

theorem lawful_text : Format.text.Lawful where
  read_write _ s := Literal.unescape?_escape s
  written s := .text s

theorem lawful_flag : Format.flag.Lawful where
  read_write _ _ := rfl
  written b := .flag b

theorem readName_ofText (names : Names α) (m : Manner) (v : α) :
    readName names m (ofText (names.name v)) = some v := by
  simp [readName, ofText]

theorem lawful_choice (names : Names α) : (Format.choice names).Lawful where
  read_write m v := readName_ofText names m v
  written v := .text (names.name v)

theorem lawful_void : Format.void.Lawful where
  read_write _ _ := rfl
  written _ := .null

/-! ## Combinations -/

theorem mapM_map {γ : Type} {f : γ → Option α} {g : α → γ} (h : ∀ a, f (g a) = some a)
    (values : List α) : (values.map g).mapM f = some values := by
  induction values with
  | nil => rfl
  | cons v values ih => simp [h, ih]

theorem Lawful.list {element : Format α} (h : element.Lawful) : (Format.list element).Lawful where
  read_write m values := mapM_map (h.read_write m.inside) values
  written values := .array fun json hmem => by
    obtain ⟨v, -, rfl⟩ := List.mem_map.mp hmem
    exact h.written v

theorem Lawful.optional {value : Format α} (h : value.Lawful) (hnull : ∀ v, value.write v ≠ .null) :
    (Format.optional value).Lawful where
  read_write m v := by
    cases v with
    | none => rfl
    | some v => exact (read_of_ne_null (hnull v)).trans (congrArg (·.map some) (h.read_write m v))
  written v := by
    cases v with
    | none => exact .null
    | some v => exact h.written v

theorem Lawful.refine {base : Format α} (h : base.Lawful) {build : α → Option β} {parts : β → α}
    {build_parts : ∀ b, build (parts b) = some b} :
    (Format.refine base build parts build_parts).Lawful where
  read_write m v := by
    calc (base.read m (base.write (parts v))).bind build
      _ = build (parts v) := by rw [h.read_write, Option.bind_some]
      _ = some v := build_parts v
  written v := h.written (parts v)

theorem Lawful.image {base : Format α} (h : base.Lawful) {build : α → β} {parts : β → α}
    {build_parts : ∀ b, build (parts b) = b} : (Format.image base build parts build_parts).Lawful :=
  h.refine

theorem lawful_word8 : word8.Lawful := (lawful_word 8).image

theorem lawful_word64 : word64.Lawful := (lawful_word 64).image

theorem lawful_bytes : Format.bytes.Lawful := lawful_word8.list

end Format

/-! ## Records -/

namespace Fields

/-- The members of a record under the names of its fields. -/
def members : {α : Type} → Fields α → α → List (String × Json)
  | _, .nil, () => []
  | _, .cons name format _ _ rest, (v, more) => (name, format.write v) :: rest.members more

theorem write_eq_map : {α : Type} → (fields : Fields α) → (v : α) →
    fields.write v = (fields.members v).map fun member => (Literal.escape member.1, member.2)
  | _, .nil, () => rfl
  | _, .cons _ _ _ _ rest, (_, more) => congrArg (List.cons _) (write_eq_map rest more)

theorem map_fst_members : {α : Type} → (fields : Fields α) → (v : α) →
    (fields.members v).map (·.1) = fields.names
  | _, .nil, () => rfl
  | _, .cons _ _ _ _ rest, (_, more) => congrArg (List.cons _) (map_fst_members rest more)

theorem readKeys_write (fields : Fields α) (v : α) :
    readKeys (fields.write v) = some (fields.members v) := by
  rw [write_eq_map, readKeys]
  refine Format.mapM_map (fun member => ?_) (fields.members v)
  simp

theorem under_of_not_mem {name : String} {members : List (String × Json)}
    (h : name ∉ members.map (·.1)) : under name members = [] := by
  refine List.filterMap_eq_nil_iff.mpr fun member hmem => ?_
  have hne : member.1 ≠ name := fun heq => h (heq ▸ List.mem_map_of_mem hmem)
  simp [hne]

theorem under_append (name : String) (front back : List (String × Json)) :
    under name (front ++ back) = under name front ++ under name back := List.filterMap_append ..

theorem under_cons_self (name : String) (json : Json) (rest : List (String × Json)) :
    under name ((name, json) :: rest) = json :: under name rest := by
  simp [under]

/-- The fields find their values among members of other names. -/
theorem Lawful.readMembers_members {fields : Fields α} (h : fields.Lawful) (m : Manner) (v : α)
    (before : List (String × Json)) (hbefore : ∀ name ∈ fields.names, name ∉ before.map (·.1)) :
    fields.readMembers m (before ++ fields.members v) = some v := by
  induction h generalizing before with
  | nil => rfl
  | @cons α β name format absentMember absentElement rest hformat hname hrest ih =>
      obtain ⟨v, more⟩ := v
      obtain ⟨hself, hothers⟩ := List.forall_mem_cons.mp hbefore
      have hunder : under name (before ++ (name, format.write v) :: rest.members more)
          = [format.write v] := by
        have hafter : name ∉ (rest.members more).map (·.1) := by rwa [map_fst_members]
        rw [under_append, under_of_not_mem hself, under_cons_self, under_of_not_mem hafter]
        rfl
      have hmore : rest.readMembers m (before ++ (name, format.write v) :: rest.members more)
          = some more := by
        rw [List.append_cons]
        refine ih more _ fun other hother => ?_
        rw [List.map_append, List.mem_append, not_or]
        refine ⟨hothers other hother, fun heq => ?_⟩
        obtain rfl := List.mem_singleton.mp heq
        exact hname hother
      exact readMembers_cons hunder (hformat.read_write m v) hmore

theorem Lawful.written_members {fields : Fields α} (h : fields.Lawful) (v : α) :
    ∀ member ∈ fields.members v, member.2.Written := by
  induction h with
  | nil => exact List.forall_mem_nil _
  | cons hformat _ _ ih =>
      obtain ⟨v, more⟩ := v
      exact List.forall_mem_cons.mpr ⟨hformat.written v, ih more⟩

end Fields

theorem Fields.Lawful.record {fields : Fields α} (h : fields.Lawful) (closed : Bool) :
    (Format.record closed fields).Lawful where
  read_write m v := by
    have hknown : ∀ member ∈ fields.members v, member.1 ∈ fields.names := by
      intro member hmem
      rw [← Fields.map_fst_members fields v]
      exact List.mem_map_of_mem hmem
    exact (Format.read_object (fields.readKeys_write v) fun _ => hknown).trans
      (h.readMembers_members m.inside v [] (by simp))
  written v := by
    change (Json.object (fields.write v)).Written
    rw [Fields.write_eq_map]
    refine .object (fun member hmem => ?_) (fun member hmem => ?_)
    · obtain ⟨named, -, rfl⟩ := List.mem_map.mp hmem
      exact ⟨named.1, rfl⟩
    · obtain ⟨named, hnamed, rfl⟩ := List.mem_map.mp hmem
      exact h.written_members v named hnamed

/-! ## Envelopes -/

namespace Format

variable {ι : Type} {γ : ι → Type}

theorem read_null_of_isVoid {format : Format α} (h : format.isVoid = true) (m : Manner) (v : α) :
    format.read m .null = some v := by
  cases format with
  | void => rfl
  | _ => cases h

/-- The body that an envelope has for a value. -/
def body? (format : Format α) (v : α) : Option Json :=
  if format.isVoid then none else some (format.write v)

theorem Lawful.read_body? {format : Format α} (h : format.Lawful) (m : Manner) (v : α) :
    format.read m ((format.body? v).getD .null) = some v := by
  rw [body?]
  split
  case isTrue hvoid => exact read_null_of_isVoid hvoid m v
  case isFalse => exact h.read_write m v

theorem isVoid_of_body?_eq_none {format : Format α} {v : α} (h : format.body? v = none) :
    format.isVoid = true := by
  simpa [body?] using h

/-- The members of an envelope. -/
def envelope (kind : Json) (body : Option Json) : List (Bytes × Json) :=
  (Literal.escape "kind", kind) :: body.toList.map fun json => (Literal.escape "body", json)

theorem readEnvelope_envelope (kind : Json) (body : Option Json) :
    readEnvelope (.object (envelope kind body)) = some ⟨kind, body, false⟩ := by
  cases body <;> simp [envelope, readEnvelope, readKeys]

theorem write_tagged (names : Names ι) (bodies : (i : ι) → Format (γ i)) (i : ι) (v : γ i) :
    (Format.tagged names bodies).write ⟨i, v⟩
      = .object (envelope (Json.ofText (names.name i)) ((bodies i).body? v)) := by
  rw [write, envelope, body?]
  split <;> rfl

theorem lawful_tagged (names : Names ι) {bodies : (i : ι) → Format (γ i)}
    (h : ∀ i, (bodies i).Lawful) : (Format.tagged names bodies).Lawful where
  read_write m v := by
    obtain ⟨i, v⟩ := v
    rw [write_tagged]
    exact read_envelope (readEnvelope_envelope _ _) (readName_ofText names m.inside i) rfl
      isVoid_of_body?_eq_none ((h i).read_body? m.inside v)
  written v := by
    obtain ⟨i, v⟩ := v
    rw [write_tagged]
    refine .object (fun member hmem => ?_) (fun member hmem => ?_)
    · rcases List.mem_cons.mp hmem with rfl | hmem
      · exact ⟨"kind", rfl⟩
      · obtain ⟨json, -, rfl⟩ := List.mem_map.mp hmem
        exact ⟨"body", rfl⟩
    · rcases List.mem_cons.mp hmem with rfl | hmem
      · exact .text (names.name i)
      · obtain ⟨json, hjson, rfl⟩ := List.mem_map.mp hmem
        obtain ⟨-, hwrite⟩ := Option.ite_none_left_eq_some.mp (Option.mem_toList.mp hjson)
        obtain rfl := Option.some.inj hwrite
        exact (h i).written v

end Format

end ChainHost.Json
