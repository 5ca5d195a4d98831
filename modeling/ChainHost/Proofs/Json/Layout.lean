/-
  The layouts of a value.

  A value has one document that is written for it and many that stand for it as
  well: the members of an object may stand in any order, with members of unknown
  names among them, and a member may be left out if its value is the default.
  `IsLayout` says which documents these are, by recursion on the format.
-/
import ChainHost.Proofs.Json.Format
import ChainHost.Proofs.Json.Storable
import Mathlib.Data.List.Forall2

set_option autoImplicit false

namespace ChainHost.Json

variable {α β : Type}

/-! ## Members -/

/-- The name of a member with its spelling. -/
structure Key where
  name : String
  body : Bytes
  spells : Literal.Spells body name.toList

/-- A name as it is written. -/
def Key.written (name : String) : Key := ⟨name, Literal.escape name, Literal.spells_escape name⟩

/-- The object of some members. -/
def ofMembers (members : List (Key × Json)) : Json :=
  .object (members.map fun (key, value) => (key.body, value))

/-- A member that nobody asks for: its name is unknown, and its value is spelled
well, with numerals of some sort. -/
structure Stranger (known : List String) (numeral : Bytes → Prop) (member : Key × Json) :
    Prop where
  unknown : member.1.name ∉ known
  spelled : member.2.Every numeral Literal.Valid

/-- The names in an envelope. -/
def envelopeNames : List String := ["kind", "body"]

/-- The members of an envelope that are written. -/
def writtenParts (kind : Json) (body : Option Json) : List (Key × Json) :=
  (Key.written "kind", kind) :: body.toList.map fun value => (Key.written "body", value)

/-- The members of an envelope that are asked for. -/
def envelopeParts (members : List (Key × Json)) : List (Key × Json) :=
  members.filter fun member => envelopeNames.contains member.1.name

/-- Whether the body of an envelope stands before its kind. -/
def bodyFirst (members : List (Key × Json)) : Bool :=
  (envelopeParts members).head?.any fun member => member.1.name == "body"

/-- A kind without a body may have `null` for one; any other needs its body. -/
def BodyLaid (format : Format α) (laid : Json → Prop) (body : Option Json) : Prop :=
  if format.isVoid then ∀ value ∈ body, value = .null else ∃ value, body = some value ∧ laid value

/-! ## Layouts -/

mutual
/-- The documents of a value.  Strangers may hold the numerals that are `plain`,
and in a body that stands before its kind those that are `kept`. -/
def Format.IsLayout (kept : Bytes → Prop) :
    {α : Type} → Format α → (Bytes → Prop) → α → Json → Prop
  | _, .word bits, _, v, json => json = (Format.word bits).write v
  | _, .text, _, v, json => json = Format.text.write v
  | _, .flag, _, v, json => json = Format.flag.write v
  | _, .list element, plain, values, json =>
      ∃ elements, json = .array elements ∧
        List.Forall₂ (element.IsLayout kept plain) values elements
  | _, .optional _, _, none, json => json = .null
  | _, .optional value, plain, some v, json => value.IsLayout kept plain v json
  | _, .choice names, _, v, json => json = (Format.choice names).write v
  | _, .record closed fields, plain, v, json =>
      ∃ members own strangers, json = ofMembers members ∧ members.Perm (own ++ strangers) ∧
        fields.AreLaid kept plain v own ∧
        (∀ member ∈ strangers, Stranger fields.names plain member) ∧
        (closed = true → strangers = [])
  | _, .tagged names bodies, plain, ⟨i, v⟩, json =>
      ∃ members body strangers, json = ofMembers members ∧
        members.Perm (writtenParts (Json.ofText (names.name i)) body ++ strangers) ∧
        (∀ member ∈ strangers, Stranger envelopeNames plain member) ∧
        BodyLaid (bodies i)
          ((bodies i).IsLayout kept (if bodyFirst members then kept else plain) v) body
  | _, .void, _, v, json => json = Format.void.write v
  | _, .refine base _ parts _, plain, v, json => base.IsLayout kept plain (parts v) json

/-- The members of a record that stand for its fields, in the order of these.
A field whose value is its default may be left out. -/
def Fields.AreLaid (kept : Bytes → Prop) :
    {α : Type} → Fields α → (Bytes → Prop) → α → List (Key × Json) → Prop
  | _, .nil, _, (), own => own = []
  | _, .cons name format absentMember _ rest, plain, (v, more), own =>
      absentMember = some v ∧ rest.AreLaid kept plain more own ∨
      ∃ value others, own = (Key.written name, value) :: others ∧
        format.IsLayout kept plain v value ∧ rest.AreLaid kept plain more others
end

/-- Bytes that spell a layout of a value, with blanks between the tokens. -/
def LaidOut (kept plain : Bytes → Prop) (format : Format α) (v : α) (bytes : Bytes) : Prop :=
  ∃ json, format.IsLayout kept plain v json ∧ json.depth ≤ depthLimit ∧
    Token.Spaced json.tokens bytes

/-! ## What is written -/

theorem ofMembers_writtenParts (kind : Json) (body : Option Json) :
    ofMembers (writtenParts kind body) = .object (Format.envelope kind body) := by
  cases body <;> rfl

mutual
/-- The document that is written for a value is a layout of it. -/
theorem Format.isLayout_write {kept : Bytes → Prop} : {α : Type} → (format : Format α) →
    {plain : Bytes → Prop} → (v : α) → format.IsLayout kept plain v (format.write v)
  | _, .word _, _, _ | _, .text, _, _ | _, .flag, _, _ | _, .choice _, _, _ | _, .void, _, _ => rfl
  | _, .list element, _, values =>
      ⟨values.map element.write, rfl, List.forall₂_map_right_iff.mpr
        (List.forall₂_same.mpr fun v _ => element.isLayout_write v)⟩
  | _, .optional _, _, none => rfl
  | _, .optional value, _, some v => value.isLayout_write v
  | _, .record _ fields, _, v => by
      obtain ⟨own, hwrite, hlaid⟩ := fields.areLaid_write v
      exact ⟨own, own, [], congrArg Json.object hwrite, by simp, hlaid, List.forall_mem_nil _,
        fun _ => rfl⟩
  | _, .tagged names bodies, plain, ⟨i, v⟩ => by
      refine ⟨writtenParts (Json.ofText (names.name i)) ((bodies i).body? v),
        (bodies i).body? v, [], ?_, by simp, List.forall_mem_nil _, ?_⟩
      · rw [Format.write_tagged, ofMembers_writtenParts]
      · unfold BodyLaid Format.body?
        split
        case isTrue => nofun
        case isFalse => exact ⟨_, rfl, (bodies i).isLayout_write v⟩
  | _, .refine base _ parts _, _, v => base.isLayout_write (parts v)

theorem Fields.areLaid_write {kept : Bytes → Prop} : {α : Type} → (fields : Fields α) →
    {plain : Bytes → Prop} → (v : α) →
    ∃ own : List (Key × Json), fields.write v = own.map (fun (key, value) => (key.body, value)) ∧
      fields.AreLaid kept plain v own
  | _, .nil, _, () => ⟨[], rfl, rfl⟩
  | _, .cons name format _ _ rest, plain, (v, more) => by
      obtain ⟨own, hwrite, hlaid⟩ := rest.areLaid_write more
      exact ⟨(Key.written name, format.write v) :: own, congrArg (List.cons _) hwrite,
        .inr ⟨_, own, rfl, format.isLayout_write v, hlaid⟩⟩
end

/-! ## Members of an object -/

/-- The members under their names. -/
def named (members : List (Key × Json)) : List (String × Json) :=
  members.map fun (key, value) => (key.name, value)

theorem readKeys_ofMembers (members : List (Key × Json)) :
    readKeys (members.map fun (key, value) => (key.body, value)) = some (named members) := by
  induction members with
  | nil => rfl
  | cons member members ih =>
      have hkey : Literal.unescape? member.1.body = some member.1.name := by
        rw [member.1.spells.unescape?_eq, String.ofList_toList]
      rw [readKeys] at ih ⊢
      simp [named, hkey, ih]

theorem named_append (front back : List (Key × Json)) :
    named (front ++ back) = named front ++ named back := List.map_append

theorem mem_named_fst {name : String} {members : List (Key × Json)}
    (h : name ∈ (named members).map (·.1)) : ∃ member ∈ members, member.1.name = name := by
  obtain ⟨_, hnamed, rfl⟩ := List.mem_map.mp h
  obtain ⟨member, hmem, rfl⟩ := List.mem_map.mp hnamed
  exact ⟨member, hmem, rfl⟩

theorem every_ofMembers {numeral : Bytes → Prop} {members : List (Key × Json)}
    (h : ∀ member ∈ members, member.2.Every numeral Literal.Valid) :
    (ofMembers members).Every numeral Literal.Valid := by
  refine every_object.mpr fun member hmem => ?_
  obtain ⟨⟨key, value⟩, hlaid, rfl⟩ := List.mem_map.mp hmem
  exact ⟨⟨_, key.spells⟩, h _ hlaid⟩

theorem depth_lt_of_mem_ofMembers {members : List (Key × Json)} {member : Key × Json}
    (h : member ∈ members) : member.2.depth < (ofMembers members).depth := by
  have hmem : (member.1.body, member.2) ∈ members.map fun (key, value) => (key.body, value) :=
    List.mem_map.mpr ⟨member, h, rfl⟩
  exact depth_lt_of_mem_object hmem

/-- A value in an object is not too deep for where it stands. -/
theorem depth_of_mem_ofMembers {m : Manner} {members : List (Key × Json)} {member : Key × Json}
    (hmem : member ∈ members) (h : m.depth + (ofMembers members).depth ≤ depthLimit) :
    m.inside.depth + member.2.depth ≤ depthLimit := by
  have hlt := depth_lt_of_mem_ofMembers hmem
  have hinside : m.inside.depth = m.depth + 1 := rfl
  omega

end ChainHost.Json
