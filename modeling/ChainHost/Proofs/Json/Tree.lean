/-
  A document is read back from its tokens, with blanks around them or without.

  The reader of trees keeps the open containers on a stack, so it takes the
  tokens of a document to that document, whatever is open around it and whatever
  follows.  In the tokens of a document every numeral has one behind it that
  ends it, so its bytes are read as these tokens.
-/
import ChainHost.Json.Tree
import ChainHost.Proofs.Json.Token

set_option autoImplicit false

namespace ChainHost.Json

/-! ## Induction

A document is a leaf, or a container of documents. -/

theorem induct {P : Json → Prop} (null : P .null) (flag : ∀ value, P (.flag value))
    (number : ∀ spelling, P (.number spelling)) (text : ∀ body, P (.text body))
    (array : ∀ elements, (∀ value ∈ elements, P value) → P (.array elements))
    (object : ∀ members, (∀ member ∈ members, P member.2) → P (.object members)) :
    ∀ json, P json :=
  @Json.rec P (fun elements => ∀ value ∈ elements, P value)
    (fun members => ∀ member ∈ members, P member.2) (fun member => P member.2)
    null flag number text array object
    (List.forall_mem_nil _) (fun _ _ hvalue hrest => List.forall_mem_cons.mpr ⟨hvalue, hrest⟩)
    (List.forall_mem_nil _) (fun _ _ hmember hrest => List.forall_mem_cons.mpr ⟨hmember, hrest⟩)
    fun _ _ hvalue => hvalue

/-! ## Leaves -/

/-- What holds of a document if one thing holds of its numerals and another of
its literals. -/
def Every (numeral literal : Bytes → Prop) (json : Json) : Prop :=
  ∀ token ∈ json.tokens, token.Every numeral literal

/-- Documents whose leaves are spelled as they are read. -/
def WellSpelled (json : Json) : Prop := json.Every Numeral.Spelled Literal.Valid

section Every

variable {numeral literal : Bytes → Prop}

theorem Every.imp {numeral' : Bytes → Prop}
    (himp : ∀ spelling, numeral spelling → numeral' spelling) {json : Json}
    (h : json.Every numeral literal) : json.Every numeral' literal :=
  fun token hmem => (h token hmem).imp himp

theorem every_null : null.Every numeral literal := List.forall_mem_singleton.mpr trivial

theorem every_flag (value : Bool) : (flag value).Every numeral literal :=
  List.forall_mem_singleton.mpr trivial

theorem every_number {spelling : Bytes} :
    (number spelling).Every numeral literal ↔ numeral spelling := List.forall_mem_singleton

theorem every_text {body : Bytes} : (text body).Every numeral literal ↔ literal body :=
  List.forall_mem_singleton

theorem forall_mem_tailElements {elements : List Json} :
    (∀ token ∈ tailElements elements, token.Every numeral literal)
      ↔ ∀ value ∈ elements, value.Every numeral literal := by
  induction elements with
  | nil => simp [tailElements, Token.Every]
  | cons value elements ih =>
      have hcomma : Token.comma.Every numeral literal := trivial
      simp only [tailElements, List.forall_mem_cons, List.forall_mem_append, ih, Every, hcomma,
        true_and]

theorem forall_mem_tailMembers {members : List (Bytes × Json)} :
    (∀ token ∈ tailMembers members, token.Every numeral literal)
      ↔ ∀ member ∈ members, literal member.1 ∧ member.2.Every numeral literal := by
  induction members with
  | nil => simp [tailMembers, Token.Every]
  | cons member members ih =>
      have hcomma : Token.comma.Every numeral literal := trivial
      have hcolon : Token.colon.Every numeral literal := trivial
      have hkey : (Token.text member.1).Every numeral literal ↔ literal member.1 := .rfl
      simp only [tailMembers, List.forall_mem_cons, List.forall_mem_append, ih, Every, hcomma,
        hcolon, hkey, true_and, and_assoc]

theorem every_array {elements : List Json} :
    (array elements).Every numeral literal ↔ ∀ value ∈ elements, value.Every numeral literal := by
  have hopen : Token.openArray.Every numeral literal := trivial
  cases elements with
  | nil => simp [Every, tokens, Token.Every]
  | cons value elements =>
      simp only [Every, tokens, List.forall_mem_cons, List.forall_mem_append,
        forall_mem_tailElements, hopen, true_and]

theorem every_object {members : List (Bytes × Json)} :
    (object members).Every numeral literal
      ↔ ∀ member ∈ members, literal member.1 ∧ member.2.Every numeral literal := by
  have hopen : Token.openObject.Every numeral literal := trivial
  have hcolon : Token.colon.Every numeral literal := trivial
  cases members with
  | nil => simp [Every, tokens, Token.Every]
  | cons member members =>
      have hkey : (Token.text member.1).Every numeral literal ↔ literal member.1 := .rfl
      simp only [Every, tokens, List.forall_mem_cons, List.forall_mem_append,
        forall_mem_tailMembers, hopen, hcolon, hkey, true_and, and_assoc]

end Every

/-! ## Tokens of a document -/

/-- A document parts its numerals from what follows it. -/
def KeepsParted (json : Json) : Prop :=
  ∀ {rest : List Token}, (∀ next ∈ rest.head?, next.closes = true) → Token.Parted rest →
    Token.Parted (json.tokens ++ rest)

theorem closes_head_tailElements (elements : List Json) (rest : List Token) :
    ∀ next ∈ (tailElements elements ++ rest).head?, next.closes = true := by
  intro next hnext
  cases elements <;>
    · cases hnext
      rfl

theorem closes_head_tailMembers (members : List (Bytes × Json)) (rest : List Token) :
    ∀ next ∈ (tailMembers members ++ rest).head?, next.closes = true := by
  intro next hnext
  cases members <;>
    · cases hnext
      rfl

theorem parted_tailElements {elements : List Json} (h : ∀ value ∈ elements, value.KeepsParted)
    {rest : List Token} (hrest : Token.Parted rest) :
    Token.Parted (tailElements elements ++ rest) := by
  induction elements with
  | nil => exact Token.parted_cons rfl hrest
  | cons value elements ih =>
      obtain ⟨hvalue, helements⟩ := List.forall_mem_cons.mp h
      rw [tailElements, List.cons_append, List.append_assoc]
      exact Token.parted_cons rfl (hvalue (closes_head_tailElements elements rest) (ih helements))

theorem parted_tailMembers {members : List (Bytes × Json)}
    (h : ∀ member ∈ members, member.2.KeepsParted) {rest : List Token}
    (hrest : Token.Parted rest) : Token.Parted (tailMembers members ++ rest) := by
  induction members with
  | nil => exact Token.parted_cons rfl hrest
  | cons member members ih =>
      obtain ⟨hvalue, hmembers⟩ := List.forall_mem_cons.mp h
      have htail := hvalue (closes_head_tailMembers members rest) (ih hmembers)
      simp only [tailMembers, List.cons_append, List.append_assoc]
      exact Token.parted_cons rfl (Token.parted_cons rfl (Token.parted_cons rfl htail))

theorem keepsParted (json : Json) : json.KeepsParted := by
  intro rest hnext hrest
  induction json using induct generalizing rest with
  | null | flag | text => exact Token.parted_cons rfl hrest
  | number spelling => exact List.isChain_cons.mpr ⟨fun next hmem _ => hnext next hmem, hrest⟩
  | array elements ih =>
      cases elements with
      | nil => exact Token.parted_cons rfl (Token.parted_cons rfl hrest)
      | cons value elements =>
          obtain ⟨hvalue, helements⟩ := List.forall_mem_cons.mp ih
          rw [tokens, List.cons_append, List.append_assoc]
          exact Token.parted_cons rfl
            (hvalue (closes_head_tailElements elements rest) (parted_tailElements helements hrest))
  | object members ih =>
      cases members with
      | nil => exact Token.parted_cons rfl (Token.parted_cons rfl hrest)
      | cons member members =>
          obtain ⟨hvalue, hmembers⟩ := List.forall_mem_cons.mp ih
          have htail := hvalue (closes_head_tailMembers members rest)
            (parted_tailMembers hmembers hrest)
          simp only [tokens, List.cons_append, List.append_assoc]
          exact Token.parted_cons rfl (Token.parted_cons rfl (Token.parted_cons rfl htail))

/-- The tokens of a document are read from its bytes. -/
theorem ofBytes?_of_spaced {json : Json} {bytes : Bytes} (hspelled : json.WellSpelled)
    (h : Token.Spaced json.tokens bytes) : Token.ofBytes? bytes = some json.tokens := by
  have hparted := json.keepsParted (by simp) Token.parted_nil
  rw [List.append_nil] at hparted
  exact Token.scan_spaced h hspelled hparted []

/-! ## Trees of tokens -/

/-- A document is built of its tokens, whatever is open around it. -/
def Builds (json : Json) : Prop :=
  ∀ (stack : List Frame) (rest : List Token),
    build .value stack (json.tokens ++ rest) = build (.after json) stack rest

/-- The first element of an array is read like any other value. -/
theorem build_element (json : Json) (stack : List Frame) (rest : List Token) :
    build .element stack (json.tokens ++ rest) = build .value stack (json.tokens ++ rest) := by
  cases json with
  | array elements => cases elements <;> rfl
  | object members => cases members <;> rfl
  | _ => rfl

theorem build_tailElements {elements : List Json} (h : ∀ value ∈ elements, value.Builds)
    (value : Json) (done : List Json) (stack : List Frame) (rest : List Token) :
    build (.after value) (.array done :: stack) (tailElements elements ++ rest)
      = build (.after (.array (done.reverse ++ value :: elements))) stack rest := by
  induction elements generalizing value done with
  | nil =>
      simp only [tailElements, List.cons_append, List.nil_append, build, advance,
        List.reverse_cons]
  | cons next elements ih =>
      obtain ⟨hnext, helements⟩ := List.forall_mem_cons.mp h
      simp only [tailElements, List.cons_append, List.append_assoc, build, advance]
      rw [hnext, ih helements]
      simp

theorem build_tailMembers {members : List (Bytes × Json)}
    (h : ∀ member ∈ members, member.2.Builds) (key : Bytes) (value : Json)
    (done : List (Bytes × Json)) (stack : List Frame) (rest : List Token) :
    build (.after value) (.object done key :: stack) (tailMembers members ++ rest)
      = build (.after (.object (done.reverse ++ (key, value) :: members))) stack rest := by
  induction members generalizing key value done with
  | nil =>
      simp only [tailMembers, List.cons_append, List.nil_append, build, advance,
        List.reverse_cons]
  | cons member members ih =>
      obtain ⟨next, nextValue⟩ := member
      obtain ⟨hnext, hmembers⟩ := List.forall_mem_cons.mp h
      simp only [tailMembers, List.cons_append, List.append_assoc, build, advance]
      rw [hnext, ih hmembers]
      simp

theorem builds (json : Json) : json.Builds := by
  intro stack rest
  induction json using induct generalizing stack rest with
  | null | flag | number | text => rfl
  | array elements ih =>
      cases elements with
      | nil => rfl
      | cons value elements =>
          obtain ⟨hvalue, helements⟩ := List.forall_mem_cons.mp ih
          simp only [tokens, List.cons_append, List.append_assoc, build, advance, beginValue]
          rw [build_element, hvalue, build_tailElements helements]
          rfl
  | object members ih =>
      cases members with
      | nil => rfl
      | cons member members =>
          obtain ⟨key, value⟩ := member
          obtain ⟨hvalue, hvalues⟩ := List.forall_mem_cons.mp ih
          simp only [tokens, List.cons_append, List.append_assoc, build, advance, beginValue]
          rw [hvalue, build_tailMembers hvalues]
          rfl

/-! ## Whole documents -/

/-- A document is read from its tokens, whatever blanks stand around them. -/
theorem parse?_of_spaced {json : Json} {bytes : Bytes} (hspelled : json.WellSpelled)
    (h : Token.Spaced json.tokens bytes) : parse? bytes = some json := by
  have hbuild := json.builds [] []
  rw [List.append_nil] at hbuild
  rw [parse?, ofBytes?_of_spaced hspelled h, Option.bind_some, hbuild, build]

/-- The documents that are written: their numerals are whole numbers, and their
literals were made of texts. -/
inductive Written : Json → Prop where
  | null : Written .null
  | flag (value : Bool) : Written (.flag value)
  | number (n : Nat) : Written (ofNat n)
  | text (s : String) : Written (ofText s)
  | array {elements : List Json} (helements : ∀ value ∈ elements, Written value) :
      Written (.array elements)
  | object {members : List (Bytes × Json)}
      (hkeys : ∀ member ∈ members, ∃ name, member.1 = Literal.escape name)
      (hvalues : ∀ member ∈ members, Written member.2) : Written (.object members)

theorem Written.wellSpelled {json : Json} (h : json.Written) : json.WellSpelled := by
  induction h with
  | null => exact every_null
  | flag value => exact every_flag value
  | number n => exact every_number.mpr (Numeral.spelled_digits n)
  | text s => exact every_text.mpr ⟨_, Literal.spells_escape s⟩
  | array _ ih => exact every_array.mpr ih
  | object hkeys _ ih =>
      refine every_object.mpr fun member hmem => ⟨?_, ih member hmem⟩
      obtain ⟨name, hname⟩ := hkeys member hmem
      rw [hname]
      exact ⟨_, Literal.spells_escape name⟩

/-- A document is read back from what it was printed as. -/
theorem parse?_print {json : Json} (h : json.Written) : parse? json.print = some json :=
  parse?_of_spaced h.wellSpelled (Token.spaced_flatMap json.tokens)

end ChainHost.Json
