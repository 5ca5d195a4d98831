/-
  Messages do not depend on their layout.

  The reader takes every layout of a message for that message.  When the body of
  an envelope comes before its kind, it is kept as a value until the kind is
  known, and then the numerals of members that nobody asks for are read as well;
  these must not be next to the largest double, where the reader's rounding leads
  to infinity.
-/
import ChainHost.Proofs.Json.Lenient
import ChainHost.Proofs.Message.RoundTrip

set_option autoImplicit false

namespace ChainHost

open Json (Key LaidOut ofMembers)
open Json.Numeral (ReadsFinite Spelled Within largestDouble largestRead)

theorem Request.lenient_wire : Request.wire.Lenient :=
  Request.wire.lenient_of_isUnambiguous Request.isUnambiguous_wire rfl

theorem Response.lenient_wire : Response.wire.Lenient :=
  Response.wire.lenient_of_isUnambiguous Response.isUnambiguous_wire rfl

/-- **Layout.**  A request or a response is read from every layout of it.  The
numerals of strangers may be any, except that in a body before its kind the reader
must take them for finite, as it does with all numbers up to `largestRead`. -/
theorem layout_is_ignored :
    (∀ (r : Request) (bytes : Bytes), LaidOut ReadsFinite Spelled Request.wire r bytes →
      Session.Codec.json.readRequest bytes = some r) ∧
    (∀ (r : Response) (bytes : Bytes), LaidOut ReadsFinite Spelled Response.wire r bytes →
      Response.decode? bytes = some r) ∧
    ∀ spelling, Within largestRead spelling → ReadsFinite spelling := by
  refine ⟨fun r bytes h => ?_, fun r bytes h => ?_, fun spelling h => ?_⟩
  · exact Request.lenient_wire.decode?_eq h
  · exact Response.lenient_wire.decode?_eq h
  · exact Json.Numeral.readsFinite_of_within h

/-! ## A layout that is read -/

/-- One is written without leading zeros. -/
theorem digits_one_eq :
    (Json.Numeral.Run.ofNat 1).digits.head? = some 48 → (Json.Numeral.Run.ofNat 1).digits = [48] := by
  intro hzero
  have hone : (Json.Numeral.Run.ofNat 1).digits.head? ≠ some 48 := by decide +kernel
  exact absurd hzero hone

/-- A numeral with all its parts. -/
def scatteredNumeral : Json.Numeral.Parts where
  negative := true
  whole := .ofNat 1
  fraction := some (.ofNat 5)
  power := some ⟨69, some 43, .ofNat 7, .inr rfl, by simp⟩
  whole_eq := digits_one_eq

/-- A body without its kind of check, with a stranger in it. -/
def scatteredBody : Json :=
  ofMembers [(Key.written "later", .array [.number scatteredNumeral.spelling, .text [92, 47]]),
    (Key.written "tx", .array [Json.ofNat 1, Json.ofNat 255])]

/-- The body before its kind, and a stranger behind both. -/
def scattered : Json :=
  ofMembers [(Key.written "body", scatteredBody), (Key.written "kind", Json.ofText "check_tx"),
    (Key.written "note", .object [])]

/-- Its bytes, with a blank before each token and one at the end. -/
def scatteredBytes : Bytes :=
  Bytes.ofText (" \x7b \"body\" : \x7b \"later\" : [ -1.5E+7 , \"\\/\" ] ,"
    ++ " \"tx\" : [ 1 , 255 ] \x7d , \"kind\" : \"check_tx\" , \"note\" : \x7b \x7d \x7d ")

theorem spaced_scatteredBytes : Json.Token.Spaced scattered.tokens scatteredBytes := by
  have hspaced := @Json.Token.spaced_gaps (scattered.tokens.map fun token => ([32], token)) [32]
    (by simp [Json.Token.isBlank]) (by simp [Json.Token.isBlank])
  have hbytes : scatteredBytes = (scattered.tokens.map fun token => ([32], token)).flatMap
      (fun gap => gap.1 ++ gap.2.spelling) ++ [32] := by decide +kernel
  rw [hbytes]
  simpa [List.map_map, Function.comp_def] using hspaced

theorem isLayout_scatteredBody :
    (Verb.argsWire .checkTx).IsLayout ReadsFinite ReadsFinite
      ({ tx := [1, 255] } : Args.CheckTx) scatteredBody := by
  have hnumeral : ReadsFinite scatteredNumeral.spelling := ⟨⟨_, rfl⟩, by decide +kernel⟩
  have hliteral : Json.Literal.Spells ([92, 47] ++ []) ['/'] := .cons (.letter rfl rfl) .nil
  have htx : (Json.Format.bytes).IsLayout ReadsFinite ReadsFinite [1, 255]
      (.array [Json.ofNat 1, Json.ofNat 255]) := Json.Format.bytes.isLayout_write [1, 255]
  refine ⟨_, [(Key.written "tx", _)], [(Key.written "later", _)], rfl, .swap _ _ _,
    .inr ⟨_, [], rfl, htx, .inl ⟨rfl, rfl⟩⟩, List.forall_mem_singleton.mpr ⟨by decide, ?_⟩, nofun⟩
  refine Json.every_array.mpr (List.forall_mem_cons.mpr ⟨Json.every_number.mpr hnumeral, ?_⟩)
  exact List.forall_mem_singleton.mpr (Json.every_text.mpr ⟨_, hliteral⟩)

theorem layout_is_ignored_scattered :
    LaidOut ReadsFinite Spelled Request.wire (Request.checkTx [1, 255]) scatteredBytes ∧
      Session.Codec.json.readRequest scatteredBytes = some (Request.checkTx [1, 255]) := by
  have hlaid :
      LaidOut ReadsFinite Spelled Request.wire (Request.checkTx [1, 255]) scatteredBytes := by
    refine ⟨scattered, ?_, by decide, spaced_scatteredBytes⟩
    refine ⟨_, some scatteredBody, [(Key.written "note", .object [])], rfl, .swap _ _ _,
      List.forall_mem_singleton.mpr ⟨by decide, Json.every_object.mpr (List.forall_mem_nil _)⟩, ?_⟩
    exact ⟨scatteredBody, rfl, isLayout_scatteredBody⟩
  exact ⟨hlaid, layout_is_ignored.1 _ _ hlaid⟩

/-! ## A layout that is refused -/

/-- A body with a number next to the largest double. -/
def swollenBody : Json :=
  ofMembers [(Key.written "message", Json.ofText "ping"),
    (Key.written "x", .number Json.Numeral.refused.spelling)]

/-- The body before its kind. -/
def swollen : Json :=
  ofMembers [(Key.written "body", swollenBody), (Key.written "kind", Json.ofText "echo")]

/-- Its bytes. -/
def swollenBytes : Bytes :=
  Bytes.ofText ("\x7b\"body\":\x7b\"message\":\"ping\",\"x\":1.7976931348623156225e308\x7d,"
    ++ "\"kind\":\"echo\"\x7d")

/-- The same members with the kind before its body. -/
def swollenKindFirst : Bytes :=
  Bytes.ofText ("\x7b\"kind\":\"echo\","
    ++ "\"body\":\x7b\"message\":\"ping\",\"x\":1.7976931348623156225e308\x7d\x7d")

theorem isLayout_swollen :
    Request.wire.IsLayout (Within largestDouble) (Within largestDouble) (Request.echo "ping")
      swollen := by
  have hnumeral : Within largestDouble Json.Numeral.refused.spelling :=
    ⟨_, rfl, Nat.le_trans Json.Numeral.refused_sharp.1
      (Nat.mul_le_mul_right _ Json.Numeral.refused_sharp.2.1)⟩
  have hbody : Args.Echo.wire.IsLayout (Within largestDouble) (Within largestDouble)
      { message := "ping" } swollenBody :=
    ⟨_, [(Key.written "message", _)], [(Key.written "x", _)], rfl, .refl _,
      .inr ⟨_, [], rfl, rfl, rfl⟩,
      List.forall_mem_singleton.mpr ⟨by decide, Json.every_number.mpr hnumeral⟩, nofun⟩
  exact ⟨_, some swollenBody, [], rfl, .swap _ _ _, List.forall_mem_nil _, swollenBody, rfl, hbody⟩

/-- The reader keeps a body before its kind with the numbers of strangers, and
takes one of these for infinite though it is less than the largest double.  With
the kind before the body it passes over them. -/
theorem layout_matters_next_to_overflow :
    LaidOut (Within largestDouble) (Within largestDouble) Request.wire (Request.echo "ping")
        swollenBytes ∧
      Session.Codec.json.readRequest swollenBytes = none ∧
      Session.Codec.json.readRequest swollenKindFirst = some (Request.echo "ping") := by
  refine ⟨⟨swollen, isLayout_swollen, by decide, ?_⟩, by decide +kernel, by decide +kernel⟩
  have hbytes : swollenBytes = swollen.print := by decide +kernel
  rw [hbytes]
  exact Json.Token.spaced_flatMap swollen.tokens

end ChainHost
