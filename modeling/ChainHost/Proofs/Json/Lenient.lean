/-
  Formats read every layout of their values.

  A layout gives each field at most one member, wherever it stands, so the fields
  find their values by name and pass over strangers.  Only an envelope depends on
  the order of its members: a body that comes before its kind is kept as a value,
  and for that it must be sound throughout, strangers included.
-/
import ChainHost.Proofs.Json.Finite
import ChainHost.Proofs.Json.Layout
import ChainHost.Proofs.Json.Unambiguous
import Mathlib.Data.List.Permutation

set_option autoImplicit false

namespace ChainHost.Json

variable {α β : Type}

/-! ## Formats that read their layouts -/

/-- The numerals of a layout are all of one sort. -/
structure Covers (numeral kept plain : Bytes → Prop) : Prop where
  kept : ∀ spelling, kept spelling → numeral spelling
  plain : ∀ spelling, plain spelling → numeral spelling
  own : ∀ n, n < 2 ^ 64 → numeral (Decimal.digits n)

/-- Every layout of a value is spelled well and is read as the value. -/
structure Format.Lenient (format : Format α) : Prop where
  every : ∀ {numeral kept plain : Bytes → Prop} {v : α} {json : Json}, Covers numeral kept plain →
    format.IsLayout kept plain v json → json.Every numeral Literal.Valid
  read : ∀ {kept plain : Bytes → Prop} {v : α} {json : Json} (m : Manner),
    (∀ spelling, kept spelling → Numeral.isFinite spelling = true) →
    m.depth + json.depth ≤ depthLimit → format.IsLayout kept plain v json →
    format.read m json = some v

/-- Fields whose formats read their layouts and whose names differ. -/
inductive Fields.Lenient : {α : Type} → Fields α → Prop where
  | nil : Fields.nil.Lenient
  | cons {α β : Type} {name : String} {format : Format α} {absentMember absentElement : Option α}
      {rest : Fields β} (hformat : format.Lenient) (hname : name ∉ rest.names)
      (hrest : rest.Lenient) : (Fields.cons name format absentMember absentElement rest).Lenient

/-! ## Single values -/

namespace Format

theorem every_ofText {numeral : Bytes → Prop} (s : String) :
    (ofText s).Every numeral Literal.Valid :=
  every_text.mpr ⟨_, Literal.spells_escape s⟩

/-- A format with one layout only is lenient if it is lawful. -/
theorem Lawful.lenient {format : Format α} (h : format.Lawful)
    (hlayout : ∀ {kept plain : Bytes → Prop} {v : α} {json : Json},
      format.IsLayout kept plain v json → json = format.write v)
    (hevery : ∀ {numeral : Bytes → Prop}, (∀ n, n < 2 ^ 64 → numeral (Decimal.digits n)) →
      ∀ v, (format.write v).Every numeral Literal.Valid) : format.Lenient where
  every {_ _ _ v _} hcovers hlaid := by
    rw [hlayout hlaid]
    exact hevery hcovers.own v
  read {_ _ v _} m _ _ hlaid := by
    rw [hlayout hlaid]
    exact h.read_write m v

theorem lenient_word {bits : Nat} (h : bits ≤ 64) : (Format.word bits).Lenient :=
  (lawful_word bits).lenient (fun hlaid => hlaid) fun hown v =>
    every_number.mpr (hown v.toNat
      (Nat.lt_of_lt_of_le v.isLt (Nat.pow_le_pow_right (by decide) h)))

theorem lenient_text : Format.text.Lenient :=
  lawful_text.lenient (fun hlaid => hlaid) fun _ => every_ofText

theorem lenient_flag : Format.flag.Lenient :=
  lawful_flag.lenient (fun hlaid => hlaid) fun _ => every_flag

theorem lenient_choice (names : Names α) : (Format.choice names).Lenient :=
  (lawful_choice names).lenient (fun hlaid => hlaid) fun _ v => every_ofText (names.name v)

theorem lenient_void : Format.void.Lenient :=
  lawful_void.lenient (fun hlaid => hlaid) fun _ _ => every_null

/-! ## Combinations -/

theorem mapM_of_forall₂ {γ : Type} {f : γ → Option α} {related : α → γ → Prop} {values : List α}
    {elements : List γ} (h : List.Forall₂ related values elements)
    (hread : ∀ v, ∀ element ∈ elements, related v element → f element = some v) :
    elements.mapM f = some values := by
  induction h with
  | nil => rfl
  | cons hv _ ih =>
      have hhead := hread _ _ List.mem_cons_self hv
      have htail := ih fun v element hmem => hread v element (List.mem_cons_of_mem _ hmem)
      simp [hhead, htail]

theorem Lenient.list {element : Format α} (h : element.Lenient) :
    (Format.list element).Lenient where
  every hcovers hlaid := by
    obtain ⟨elements, rfl, hall⟩ := hlaid
    refine every_array.mpr ?_
    induction hall with
    | nil => exact List.forall_mem_nil _
    | cons hv _ ih => exact List.forall_mem_cons.mpr ⟨h.every hcovers hv, ih⟩
  read m hkept hdepth hlaid := by
    obtain ⟨elements, rfl, hall⟩ := hlaid
    refine mapM_of_forall₂ hall fun v value hmem hv => h.read m.inside hkept ?_ hv
    have hlt := depth_lt_of_mem_array hmem
    have hinside : m.inside.depth = m.depth + 1 := rfl
    omega

theorem isLayout_ne_null {kept : Bytes → Prop} : {α : Type} → (format : Format α) →
    format.mayBeNull = false → {plain : Bytes → Prop} → {v : α} → {json : Json} →
    format.IsLayout kept plain v json → json ≠ .null
  | _, .word _, _, _, _, _, h | _, .text, _, _, _, _, h | _, .flag, _, _, _, _, h
  | _, .choice _, _, _, _, _, h => by
      obtain rfl := h
      nofun
  | _, .list _, _, _, _, _, h => by
      obtain ⟨_, rfl, -⟩ := h
      nofun
  | _, .record _ _, _, _, _, _, h => by
      obtain ⟨_, _, _, rfl, -⟩ := h
      nofun
  | _, .tagged _ _, _, _, ⟨_, _⟩, _, h => by
      obtain ⟨_, _, _, rfl, -⟩ := h
      nofun
  | _, .refine base _ _ _, hnull, _, _, _, h => isLayout_ne_null base hnull h

theorem Lenient.optional {value : Format α} (h : value.Lenient) (hnull : value.mayBeNull = false) :
    (Format.optional value).Lenient where
  every {_ _ _ v _} hcovers hlayout := by
    cases v with
    | none =>
        obtain rfl := hlayout
        exact every_null
    | some v => exact h.every hcovers hlayout
  read {_ _ v _} m hkept hdepth hlayout := by
    cases v with
    | none =>
        obtain rfl := hlayout
        rfl
    | some v =>
        rw [read_of_ne_null (isLayout_ne_null value hnull hlayout), h.read m hkept hdepth hlayout,
          Option.map_some]

theorem Lenient.refine {base : Format α} (h : base.Lenient) {build : α → Option β} {parts : β → α}
    {build_parts : ∀ b, build (parts b) = some b} :
    (Format.refine base build parts build_parts).Lenient where
  every hcovers hlayout := h.every hcovers hlayout
  read {_ _ v json} m hkept hdepth hlayout := by
    calc (base.read m json).bind build
      _ = build (parts v) := by rw [h.read m hkept hdepth hlayout, Option.bind_some]
      _ = some v := build_parts v

end Format

/-! ## Records -/

namespace Fields

variable {kept plain : Bytes → Prop}

theorem AreLaid.name_mem : {α : Type} → {fields : Fields α} → {v : α} → {own : List (Key × Json)} →
    fields.AreLaid kept plain v own → ∀ member ∈ own, member.1.name ∈ fields.names
  | _, .nil, (), _, h => by
      obtain rfl := h
      exact List.forall_mem_nil _
  | _, .cons _ _ _ _ _, (_, _), _, h => by
      rcases h with ⟨-, hmore⟩ | ⟨value, others, rfl, -, hmore⟩
      · exact fun member hmem => List.mem_cons_of_mem _ (hmore.name_mem member hmem)
      · exact List.forall_mem_cons.mpr ⟨List.mem_cons_self, fun member hmem =>
          List.mem_cons_of_mem _ (hmore.name_mem member hmem)⟩

theorem AreLaid.under_eq_nil {fields : Fields α} {v : α} {own : List (Key × Json)}
    (h : fields.AreLaid kept plain v own) {name : String} (hname : name ∉ fields.names) :
    under name (named own) = [] := by
  refine under_of_not_mem fun hmem => ?_
  obtain ⟨member, hown, rfl⟩ := mem_named_fst hmem
  exact hname (h.name_mem member hown)

theorem Lenient.every {numeral : Bytes → Prop} (hcovers : Covers numeral kept plain)
    {fields : Fields α} (h : fields.Lenient) {v : α} {own : List (Key × Json)}
    (hlaid : fields.AreLaid kept plain v own) :
    ∀ member ∈ own, member.2.Every numeral Literal.Valid := by
  induction h generalizing own with
  | nil =>
      obtain rfl := hlaid
      exact List.forall_mem_nil _
  | cons hformat _ _ ih =>
      obtain ⟨v, more⟩ := v
      rcases hlaid with ⟨-, hmore⟩ | ⟨value, others, rfl, hvalue, hmore⟩
      · exact ih hmore
      · exact List.forall_mem_cons.mpr ⟨hformat.every hcovers hvalue, ih hmore⟩

/-- The fields find their values wherever these stand among the members. -/
theorem Lenient.readMembers (hkept : ∀ spelling, kept spelling → Numeral.isFinite spelling = true)
    {fields : Fields α} (h : fields.Lenient) {m : Manner} {v : α} {own : List (Key × Json)}
    (hlaid : fields.AreLaid kept plain v own)
    (hdepth : ∀ member ∈ own, m.depth + member.2.depth ≤ depthLimit)
    {members : List (String × Json)}
    (hmembers : ∀ name ∈ fields.names, (under name members).Perm (under name (named own))) :
    fields.readMembers m members = some v := by
  induction h generalizing own with
  | nil => rfl
  | @cons α β name format absentMember absentElement rest hformat hname hrest ih =>
      obtain ⟨v, more⟩ := v
      obtain ⟨hself, hothers⟩ := List.forall_mem_cons.mp hmembers
      rcases hlaid with ⟨habsent, hmore⟩ | ⟨value, others, rfl, hvalue, hmore⟩
      · have hunder : under name members = [] := by
          rw [hmore.under_eq_nil hname] at hself
          exact hself.eq_nil
        exact readMembers_absent hunder habsent (ih hmore hdepth hothers)
      · obtain ⟨hfits, hdepth⟩ := List.forall_mem_cons.mp hdepth
        -- no later field has this name, so the member is the only one under it
        have hunder : under name members = [value] := by
          have hown : under name (named ((Key.written name, value) :: others)) = [value] :=
            (under_cons_self name value _).trans (congrArg _ (hmore.under_eq_nil hname))
          rw [hown] at hself
          exact hself.eq_singleton
        refine readMembers_cons hunder (hformat.read m hkept hfits hvalue)
          (ih hmore hdepth fun other hother => ?_)
        have hne : name ≠ other := fun heq => hname (heq ▸ hother)
        have hskip : under other (named ((Key.written name, value) :: others))
            = under other (named others) := by
          simp [under, named, Key.written, hne]
        rw [← hskip]
        exact hothers other hother

end Fields

/-- Strangers have no part in what is read. -/
theorem under_of_perm {members own strangers : List (Key × Json)} {known : List String}
    {plain : Bytes → Prop} (hperm : members.Perm (own ++ strangers))
    (hstrangers : ∀ member ∈ strangers, Stranger known plain member) {name : String}
    (hname : name ∈ known) : (under name (named members)).Perm (under name (named own)) := by
  have hnone : under name (named strangers) = [] := by
    refine Fields.under_of_not_mem fun hmem => ?_
    obtain ⟨member, hmember, rfl⟩ := mem_named_fst hmem
    exact (hstrangers member hmember).unknown hname
  have hnamed : (under name (named members)).Perm (under name (named (own ++ strangers))) :=
    (hperm.map _).filterMap _
  rwa [named_append, Fields.under_append, hnone, List.append_nil] at hnamed

theorem Fields.Lenient.record {fields : Fields α} (h : fields.Lenient) (closed : Bool) :
    (Format.record closed fields).Lenient where
  every hcovers hlaid := by
    obtain ⟨members, own, strangers, rfl, hperm, hown, hstrangers, -⟩ := hlaid
    refine every_ofMembers fun member hmem => ?_
    rcases List.mem_append.mp (hperm.mem_iff.mp hmem) with hmem | hmem
    · exact h.every hcovers hown member hmem
    · exact (hstrangers member hmem).spelled.imp hcovers.plain
  read m hkept hdepth hlaid := by
    obtain ⟨members, own, strangers, rfl, hperm, hown, hstrangers, hclosed⟩ := hlaid
    have hknown : closed = true → ∀ member ∈ named members, member.1 ∈ fields.names := by
      intro htrue member hmem
      obtain ⟨laid, hlaid, rfl⟩ := List.mem_map.mp hmem
      rw [hclosed htrue, List.append_nil] at hperm
      exact hown.name_mem laid (hperm.mem_iff.mp hlaid)
    refine (Format.read_object (readKeys_ofMembers members) hknown).trans
      (h.readMembers hkept hown (fun member hmem => ?_) fun name hname =>
        under_of_perm hperm hstrangers hname)
    exact depth_of_mem_ofMembers (hperm.mem_iff.mpr (List.mem_append_left _ hmem)) hdepth

/-! ## Envelopes -/

namespace Format

/-- Strangers are no parts of an envelope. -/
theorem envelopeParts_perm {members strangers : List (Key × Json)} {plain : Bytes → Prop}
    {kind : Json} {body : Option Json}
    (hperm : members.Perm (writtenParts kind body ++ strangers))
    (hstrangers : ∀ member ∈ strangers, Stranger envelopeNames plain member) :
    (envelopeParts members).Perm (writtenParts kind body) := by
  have hnone : envelopeParts strangers = [] := by
    refine List.filter_eq_nil_iff.mpr fun member hmem => ?_
    simpa using (hstrangers member hmem).unknown
  have hall : envelopeParts (writtenParts kind body) = writtenParts kind body := by
    cases body <;> rfl
  have hparts : (envelopeParts members).Perm
      (envelopeParts (writtenParts kind body) ++ envelopeParts strangers) := by
    rw [envelopeParts, envelopeParts, envelopeParts, ← List.filter_append]
    exact hperm.filter _
  rwa [hnone, hall, List.append_nil] at hparts

/-- The parts of an envelope are found among strangers. -/
theorem readEnvelope_of_perm {members strangers : List (Key × Json)} {plain : Bytes → Prop}
    {kind : Json} {body : Option Json}
    (hperm : members.Perm (writtenParts kind body ++ strangers))
    (hstrangers : ∀ member ∈ strangers, Stranger envelopeNames plain member) :
    readEnvelope (ofMembers members) = some ⟨kind, body, bodyFirst members⟩ := by
  have hparts := envelopeParts_perm hperm hstrangers
  have hfilter (keep : String × Json → Bool)
      (hkeep : ∀ member : String × Json, keep member = (member.1 == "kind" || member.1 == "body")) :
      (named members).filter keep = named (envelopeParts members) := by
    rw [named, List.filter_map, named, envelopeParts]
    congr 1
    refine List.filter_congr fun member _ => ?_
    simp [hkeep, envelopeNames, beq_eq_decide]
  rw [ofMembers, readEnvelope, readKeys_ofMembers]
  dsimp only
  rw [hfilter _ fun member => rfl, bodyFirst]
  cases body with
  | none =>
      rw [List.perm_singleton.mp hparts]
      rfl
  | some value =>
      rcases List.pair_perm.mp hparts.symm with heq | heq
      · rw [heq]
        rfl
      · rw [heq]
        rfl

section Bodies

variable {kept plain : Bytes → Prop} {format : Format α} {v : α} {body : Option Json}

theorem Lenient.every_body {numeral : Bytes → Prop} (h : format.Lenient)
    (hcovers : Covers numeral kept plain)
    (hbody : BodyLaid format (format.IsLayout kept plain v) body) :
    ∀ value ∈ body, value.Every numeral Literal.Valid := by
  intro value hvalue
  rw [BodyLaid] at hbody
  split at hbody
  case isTrue =>
      rw [hbody value hvalue]
      exact every_null
  case isFalse =>
      obtain ⟨laid, rfl, hlaid⟩ := hbody
      obtain rfl := Option.some.inj hvalue
      exact h.every hcovers hlaid

theorem Lenient.read_body (h : format.Lenient) (m : Manner)
    (hkept : ∀ spelling, kept spelling → Numeral.isFinite spelling = true)
    (hdepth : ∀ value ∈ body, m.depth + value.depth ≤ depthLimit)
    (hbody : BodyLaid format (format.IsLayout kept plain v) body) :
    format.read m (body.getD .null) = some v := by
  rw [BodyLaid] at hbody
  split at hbody
  case isTrue hvoid =>
      have hnull : body.getD .null = .null := by
        cases body with
        | none => rfl
        | some value => exact hbody value rfl
      rw [hnull]
      exact read_null_of_isVoid hvoid m v
  case isFalse =>
      obtain ⟨laid, rfl, hlaid⟩ := hbody
      exact h.read m hkept (hdepth laid rfl) hlaid

theorem isVoid_of_bodyLaid {laid : Json → Prop} (h : BodyLaid format laid body)
    (hnone : body = none) : format.isVoid = true := by
  subst hnone
  rw [BodyLaid] at h
  split at h
  case isTrue hvoid => exact hvoid
  case isFalse =>
      obtain ⟨_, hsome, -⟩ := h
      cases hsome

end Bodies

/-- A body is read at once, or kept first if there is room for it. -/
theorem manner_eq {envelope : Envelope} {m : Manner}
    (h : envelope.bodyFirst = true →
      (envelope.body.getD .null).storable (depthLimit - m.inside.depth) = true) :
    ∃ inner, envelope.manner m = some inner ∧ inner.depth = m.inside.depth := by
  cases hfirst : envelope.bodyFirst with
  | false => exact ⟨m.inside, by simp [Envelope.manner, hfirst], rfl⟩
  | true => exact ⟨{ m.inside with kept := true }, by simp [Envelope.manner, hfirst, h hfirst], rfl⟩

theorem lenient_tagged {ι : Type} {γ : ι → Type} (names : Names ι) {bodies : (i : ι) → Format (γ i)}
    (h : ∀ i, (bodies i).Lenient) : (Format.tagged names bodies).Lenient where
  every {_ _ _ v _} hcovers hlaid := by
    obtain ⟨i, v⟩ := v
    obtain ⟨members, body, strangers, rfl, hperm, hstrangers, hbody⟩ := hlaid
    refine every_ofMembers fun member hmem => ?_
    rcases List.mem_append.mp (hperm.mem_iff.mp hmem) with hmem | hmem
    · rcases List.mem_cons.mp hmem with rfl | hmem
      · exact every_ofText (names.name i)
      · obtain ⟨value, hvalue, rfl⟩ := List.mem_map.mp hmem
        refine (h i).every_body ?_ hbody value (Option.mem_toList.mp hvalue)
        split
        · exact ⟨hcovers.kept, hcovers.kept, hcovers.own⟩
        · exact hcovers
    · exact (hstrangers member hmem).spelled.imp hcovers.plain
  read {kept _ v _} m hkept hdepth hlaid := by
    obtain ⟨i, v⟩ := v
    obtain ⟨members, body, strangers, rfl, hperm, hstrangers, hbody⟩ := hlaid
    have henvelope := readEnvelope_of_perm hperm hstrangers
    have hfits : ∀ value ∈ body, m.inside.depth + value.depth ≤ depthLimit := by
      intro value hvalue
      have hmem : (Key.written "body", value) ∈ writtenParts (ofText (names.name i)) body :=
        List.mem_cons_of_mem _ (List.mem_map.mpr ⟨value, Option.mem_toList.mpr hvalue, rfl⟩)
      exact depth_of_mem_ofMembers (hperm.mem_iff.mpr (List.mem_append_left _ hmem)) hdepth
    -- a body that comes first was laid out with numerals that can be kept
    have hstorable : bodyFirst members = true →
        (body.getD .null).storable (depthLimit - m.inside.depth) = true := by
      intro hfirst
      rw [hfirst, if_pos rfl] at hbody
      cases body with
      | none => rfl
      | some value =>
          have hfinite := (h i).every_body ⟨hkept, hkept, fun _ => Numeral.isFinite_digits⟩ hbody
          exact storable_of_every (hfinite value rfl) (Nat.le_sub_of_add_le' (hfits value rfl))
    obtain ⟨inner, hmanner, hinner⟩ := @manner_eq ⟨_, body, _⟩ m hstorable
    refine read_envelope henvelope (readName_ofText names m.inside i) hmanner
      (isVoid_of_bodyLaid hbody) ((h i).read_body inner hkept ?_ hbody)
    rw [hinner]
    exact hfits

end Format

/-! ## All formats -/

mutual
/-- Whether all whole numbers of a format have 64 bits at most. -/
def Format.isNarrow : {α : Type} → Format α → Bool
  | _, .word bits => decide (bits ≤ 64)
  | _, .list element => element.isNarrow
  | _, .optional value => value.isNarrow
  | _, .record _ fields => fields.isNarrow
  | _, .tagged names bodies => names.all.all fun i => (bodies i).isNarrow
  | _, .refine base _ _ _ => base.isNarrow
  | _, _ => true

/-- Whether all whole numbers of the fields have 64 bits at most. -/
def Fields.isNarrow : {α : Type} → Fields α → Bool
  | _, .nil => true
  | _, .cons _ format _ _ rest => format.isNarrow && rest.isNarrow
end

mutual
theorem Format.lenient_of_isUnambiguous : {α : Type} → (format : Format α) →
    format.isUnambiguous = true → format.isNarrow = true → format.Lenient
  | _, .word _, _, hnarrow => Format.lenient_word (of_decide_eq_true hnarrow)
  | _, .text, _, _ => Format.lenient_text
  | _, .flag, _, _ => Format.lenient_flag
  | _, .list element, h, hnarrow => (element.lenient_of_isUnambiguous h hnarrow).list
  | _, .optional value, h, hnarrow => by
      obtain ⟨hnull, hvalue⟩ := Bool.and_eq_true_iff.mp h
      have hne : value.mayBeNull = false := by simpa using hnull
      exact (value.lenient_of_isUnambiguous hvalue hnarrow).optional hne
  | _, .choice names, _, _ => Format.lenient_choice names
  | _, .record closed fields, h, hnarrow =>
      (fields.lenient_of_isUnambiguous h hnarrow).record closed
  | _, .tagged names bodies, h, hnarrow =>
      Format.lenient_tagged names fun i =>
        (bodies i).lenient_of_isUnambiguous (List.all_eq_true.mp h i (names.mem_all i))
          (List.all_eq_true.mp hnarrow i (names.mem_all i))
  | _, .void, _, _ => Format.lenient_void
  | _, .refine base _ _ _, h, hnarrow => (base.lenient_of_isUnambiguous h hnarrow).refine

theorem Fields.lenient_of_isUnambiguous : {α : Type} → (fields : Fields α) →
    fields.isUnambiguous = true → fields.isNarrow = true → fields.Lenient
  | _, .nil, _, _ => .nil
  | _, .cons name format _ _ rest, h, hnarrow => by
      obtain ⟨hfront, hrest⟩ := Bool.and_eq_true_iff.mp h
      obtain ⟨hname, hformat⟩ := Bool.and_eq_true_iff.mp hfront
      obtain ⟨hnarrow, hnarrows⟩ := Bool.and_eq_true_iff.mp hnarrow
      have hfresh : name ∉ rest.names := by simpa using hname
      exact .cons (format.lenient_of_isUnambiguous hformat hnarrow) hfresh
        (rest.lenient_of_isUnambiguous hrest hnarrows)
end

/-! ## Whole documents -/

/-- A value is read from every layout of it. -/
theorem Format.Lenient.decode?_eq {format : Format α} (h : format.Lenient) {v : α} {bytes : Bytes}
    (hlaid : LaidOut Numeral.ReadsFinite Numeral.Spelled format v bytes) :
    format.decode? bytes = some v := by
  obtain ⟨json, hlayout, hdepth, hspaced⟩ := hlaid
  have hcovers : Covers Numeral.Spelled Numeral.ReadsFinite Numeral.Spelled :=
    ⟨fun _ hfinite => hfinite.1, fun _ hplain => hplain, fun n _ => Numeral.spelled_digits n⟩
  have hspelled : json.WellSpelled := h.every hcovers hlayout
  rw [Format.decode?, parse?_of_spaced hspelled hspaced, Option.bind_some]
  exact h.read .direct (fun _ hfinite => hfinite.2) (by simpa [Manner.direct] using hdepth) hlayout

end ChainHost.Json
