/-
  Descriptions of how values stand in documents.

  A format is described once; `write` and `read` follow the description.
  Reading admits more than writing produces: members in any order, members
  with unknown names, missing members that have a default, and records given
  as arrays of their fields.
-/
import ChainHost.Json.Storable

set_option autoImplicit false

namespace ChainHost.Json

/-- The names of finitely many values. -/
structure Names (α : Type) where
  name : α → String
  /-- The values, in the order in which they are numbered. -/
  all : List α
  find_name : ∀ a, (all.find? fun b => name b == name a) = some a

namespace Names

variable {α : Type}

/-- The value of a name. -/
def ofName? (names : Names α) (s : String) : Option α :=
  names.all.find? fun a => names.name a == s

@[simp] theorem ofName?_name (names : Names α) (a : α) :
    names.ofName? (names.name a) = some a := names.find_name a

end Names

mutual
/-- A description of how the values of a type stand in a document. -/
inductive Format : Type → Type 1 where
  /-- Whole numbers of so many bits. -/
  | word (bits : Nat) : Format (BitVec bits)
  | text : Format String
  | flag : Format Bool
  | list {α : Type} (element : Format α) : Format (List α)
  /-- A value or `null`. -/
  | optional {α : Type} (value : Format α) : Format (Option α)
  /-- One of some names. -/
  | choice {α : Type} (names : Names α) : Format α
  /-- An object of fields; a closed one has no other members. -/
  | record {α : Type} (closed : Bool) (fields : Fields α) : Format α
  /-- An envelope: the name of a kind under `kind` and a body of that kind
  under `body`. -/
  | tagged {ι : Type} {β : ι → Type} (names : Names ι) (body : (i : ι) → Format (β i)) :
      Format ((i : ι) × β i)
  /-- The body of a kind that has none. -/
  | void : Format Unit
  /-- The values that are built from the values of another format. -/
  | refine {α β : Type} (base : Format α) (build : α → Option β) (parts : β → α)
      (build_parts : ∀ b, build (parts b) = some b) : Format β

/-- The fields of a record, in the order in which they are written. -/
inductive Fields : Type → Type 1 where
  | nil : Fields Unit
  /-- A field, with its value when its member is missing from an object and
  when its element is missing from an array. -/
  | cons {α β : Type} (name : String) (format : Format α)
      (absentMember absentElement : Option α) (rest : Fields β) : Fields (α × β)
end

/-- The circumstances under which a document is read. -/
structure Manner where
  /-- Whether the document was kept as a value first. -/
  kept : Bool
  /-- The number of containers that are open around it. -/
  depth : Nat
  deriving DecidableEq, Repr

namespace Manner

/-- Reading a whole document at once. -/
def direct : Manner := ⟨false, 0⟩

/-- Reading a whole document that was kept. -/
def buffered : Manner := ⟨true, 0⟩

/-- Reading inside one more container. -/
def inside (m : Manner) : Manner := { m with depth := m.depth + 1 }

end Manner

/-- The members of an object under their keys as texts. -/
def readKeys (members : List (Bytes × Json)) : Option (List (String × Json)) :=
  members.mapM fun (key, value) => (Literal.unescape? key).map fun name => (name, value)

/-- The values under a key. -/
def under (name : String) (members : List (String × Json)) : List Json :=
  members.filterMap fun (key, value) => if key == name then some value else none

/-- Reads a name: a text, or an object with that key and nothing under it. -/
def readName {α : Type} (names : Names α) (m : Manner) (json : Json) : Option α :=
  match json with
  | .text body => (Literal.unescape? body).bind names.ofName?
  | .object [(key, value)] =>
      match value with
      | .null => (Literal.unescape? key).bind names.ofName?
      | .object [] => if m.kept then (Literal.unescape? key).bind names.ofName? else none
      | _ => none
  | _ => none

/-- The parts of an envelope. -/
structure Envelope where
  kind : Json
  body : Option Json
  /-- Whether the body had to be kept until the kind was known. -/
  bodyFirst : Bool

/-- Finds the parts of an envelope: one kind, and one body at most. -/
def readEnvelope (json : Json) : Option Envelope :=
  match json with
  | .array [kind, body] => some ⟨kind, some body, false⟩
  | .object members =>
      match readKeys members with
      | none => none
      | some members =>
          let parts := members.filter fun (key, _) => key == "kind" || key == "body"
          match parts with
          | [("kind", kind)] => some ⟨kind, none, false⟩
          | [("kind", kind), ("body", body)] => some ⟨kind, some body, false⟩
          | [("body", body), ("kind", kind)] => some ⟨kind, some body, true⟩
          | _ => none
  | _ => none

/-- How the body of an envelope is read, if it can be kept where it must. -/
def Envelope.manner (e : Envelope) (m : Manner) : Option Manner :=
  let inner := m.inside
  if e.bodyFirst then
    if (e.body.getD .null).storable (depthLimit - inner.depth) then
      some { inner with kept := true }
    else none
  else some inner

/-- Whether a format stands for no body. -/
def Format.isVoid {α : Type} : Format α → Bool
  | .void => true
  | _ => false

mutual
/-- The document of a value. -/
def Format.write : {α : Type} → Format α → α → Json
  | _, .word _, v => Json.ofNat v.toNat
  | _, .text, s => Json.ofText s
  | _, .flag, b => .flag b
  | _, .list element, values => .array (values.map element.write)
  | _, .optional _, none => .null
  | _, .optional value, some v => value.write v
  | _, .choice names, v => Json.ofText (names.name v)
  | _, .record _ fields, v => .object (fields.write v)
  | _, .tagged names body, ⟨i, v⟩ =>
      .object ((Literal.escape "kind", Json.ofText (names.name i)) ::
        if (body i).isVoid then [] else [(Literal.escape "body", (body i).write v)])
  | _, .void, () => .null
  | _, .refine base _ parts _, v => base.write (parts v)

/-- The members of a record. -/
def Fields.write : {α : Type} → Fields α → α → List (Bytes × Json)
  | _, .nil, () => []
  | _, .cons name format _ _ rest, (v, more) =>
      (Literal.escape name, format.write v) :: rest.write more
end

/-- The names of the fields. -/
def Fields.names : {α : Type} → Fields α → List String
  | _, .nil => []
  | _, .cons name _ _ _ rest => name :: rest.names

mutual
/-- Reads a value. -/
def Format.read : {α : Type} → Format α → Manner → Json → Option α
  | _, .word bits, _, json =>
      match json with
      | .number spelling =>
          match Numeral.natural? spelling with
          | some n => if n < 2 ^ bits then some (BitVec.ofNat bits n) else none
          | none => none
      | _ => none
  | _, .text, _, json =>
      match json with
      | .text body => Literal.unescape? body
      | _ => none
  | _, .flag, _, json =>
      match json with
      | .flag value => some value
      | _ => none
  | _, .list element, m, json =>
      match json with
      | .array elements => elements.mapM (element.read m.inside)
      | _ => none
  | _, .optional value, m, json =>
      match json with
      | .null => some none
      | json => (value.read m json).map some
  | _, .choice names, m, json => readName names m json
  | _, .record closed fields, m, json =>
      match json with
      | .array elements => fields.readElements m.inside elements
      | .object members =>
          match readKeys members with
          | none => none
          | some members =>
              if closed && members.any fun (key, _) => !fields.names.contains key then none
              else fields.readMembers m.inside members
      | _ => none
  | _, .tagged names body, m, json =>
      match readEnvelope json with
      | none => none
      | some envelope =>
          match readName names m.inside envelope.kind, envelope.manner m with
          | some i, some inner =>
              match envelope.body with
              | some v => ((body i).read inner v).map fun b => ⟨i, b⟩
              | none =>
                  if (body i).isVoid then ((body i).read inner .null).map fun b => ⟨i, b⟩
                  else none
          | _, _ => none
  | _, .void, _, json =>
      match json with
      | .null => some ()
      | _ => none
  | _, .refine base build _ _, m, json => (base.read m json).bind build

/-- Reads the fields of a record from the members of an object. -/
def Fields.readMembers : {α : Type} → Fields α → Manner → List (String × Json) → Option α
  | _, .nil, _, _ => some ()
  | _, .cons name format absent _ rest, m, members =>
      let value :=
        match under name members with
        | [] => absent
        | [value] => format.read m value
        | _ => none
      match value, rest.readMembers m members with
      | some v, some more => some (v, more)
      | _, _ => none

/-- Reads the fields of a record from the elements of an array. -/
def Fields.readElements : {α : Type} → Fields α → Manner → List Json → Option α
  | _, .nil, _, elements => if elements.isEmpty then some () else none
  | _, .cons _ format _ absent rest, m, elements =>
      let value :=
        match elements with
        | [] => absent
        | element :: _ => format.read m element
      match value, rest.readElements m elements.tail with
      | some v, some more => some (v, more)
      | _, _ => none
end

namespace Format

/-- The written form of a value. -/
def encode {α : Type} (format : Format α) (value : α) : Bytes := (format.write value).print

/-- Reads a value from its written form, or from any other layout of it. -/
def decode? {α : Type} (format : Format α) (bytes : Bytes) : Option α :=
  (Json.parse? bytes).bind (format.read .direct)

/-- Values that are the same as those of another format. -/
def image {α β : Type} (base : Format α) (build : α → β) (parts : β → α)
    (build_parts : ∀ b, build (parts b) = b) : Format β :=
  .refine base (fun a => some (build a)) parts fun b => by rw [build_parts]

/-- Numbers below 2^8. -/
def word8 : Format UInt8 := image (.word 8) UInt8.ofBitVec UInt8.toBitVec fun _ => rfl

/-- Numbers below 2^16. -/
def word16 : Format UInt16 := image (.word 16) UInt16.ofBitVec UInt16.toBitVec fun _ => rfl

/-- Numbers below 2^32. -/
def word32 : Format UInt32 := image (.word 32) UInt32.ofBitVec UInt32.toBitVec fun _ => rfl

/-- Numbers below 2^64. -/
def word64 : Format UInt64 := image (.word 64) UInt64.ofBitVec UInt64.toBitVec fun _ => rfl

/-- Byte strings, as lists of numbers. -/
def bytes : Format Bytes := list word8

end Format

/-- A field that may be left out for a default value. -/
def Fields.defaulting {α β : Type} (name : String) (format : Format α) (value : α)
    (rest : Fields β) : Fields (α × β) :=
  .cons name format (some value) (some value) rest

/-- A field that must be there. -/
def Fields.mandatory {α β : Type} (name : String) (format : Format α)
    (rest : Fields β) : Fields (α × β) :=
  .cons name format none none rest

end ChainHost.Json
