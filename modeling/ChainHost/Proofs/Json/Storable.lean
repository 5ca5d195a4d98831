/-
  Which documents can be kept: those whose numerals are finite, whose literals
  are text and whose containers are not nested too deeply.
-/
import ChainHost.Json.Storable
import ChainHost.Proofs.Json.Tree

set_option autoImplicit false

namespace ChainHost.Json

/-! ## Nesting -/

mutual
/-- The number of containers that are nested in a document, with itself. -/
def depth : Json → Nat
  | array elements => depthElements elements + 1
  | object members => depthMembers members + 1
  | _ => 0

/-- The depth of the deepest element. -/
def depthElements : List Json → Nat
  | [] => 0
  | value :: rest => max value.depth (depthElements rest)

/-- The depth of the deepest member. -/
def depthMembers : List (Bytes × Json) → Nat
  | [] => 0
  | (_, value) :: rest => max value.depth (depthMembers rest)
end

theorem depth_le_depthElements {elements : List Json} {value : Json} (h : value ∈ elements) :
    value.depth ≤ depthElements elements := by
  induction elements with
  | nil => cases h
  | cons first elements ih =>
      rw [depthElements]
      rcases List.mem_cons.mp h with rfl | h
      · exact Nat.le_max_left ..
      · exact Nat.le_trans (ih h) (Nat.le_max_right ..)

theorem depth_le_depthMembers {members : List (Bytes × Json)} {member : Bytes × Json}
    (h : member ∈ members) : member.2.depth ≤ depthMembers members := by
  induction members with
  | nil => cases h
  | cons first members ih =>
      rw [depthMembers]
      rcases List.mem_cons.mp h with rfl | h
      · exact Nat.le_max_left ..
      · exact Nat.le_trans (ih h) (Nat.le_max_right ..)

/-- What stands in an array is less deep than the array. -/
theorem depth_lt_of_mem_array {elements : List Json} {value : Json} (h : value ∈ elements) :
    value.depth < (array elements).depth :=
  Nat.lt_succ_of_le (depth_le_depthElements h)

/-- What stands in an object is less deep than the object. -/
theorem depth_lt_of_mem_object {members : List (Bytes × Json)} {member : Bytes × Json}
    (h : member ∈ members) : member.2.depth < (object members).depth :=
  Nat.lt_succ_of_le (depth_le_depthMembers h)

/-! ## Keeping -/

theorem storableElements_iff {room : Nat} {elements : List Json} :
    storableElements room elements = true ↔ ∀ value ∈ elements, value.storable room = true := by
  induction elements with
  | nil => simp [storableElements]
  | cons value elements ih =>
      rw [storableElements, Bool.and_eq_true, ih, List.forall_mem_cons]

theorem storableMembers_iff {room : Nat} {members : List (Bytes × Json)} :
    storableMembers room members = true ↔
      ∀ member ∈ members, (Literal.unescape? member.1).isSome = true ∧
        member.2.storable room = true := by
  induction members with
  | nil => simp [storableMembers]
  | cons member members ih =>
      rw [storableMembers, Bool.and_eq_true, Bool.and_eq_true, ih, List.forall_mem_cons]

/-- A document with finite numerals and texts for literals can be kept where
there is room for its containers. -/
theorem storable_of_every {json : Json} {room : Nat}
    (h : json.Every (fun spelling => Numeral.isFinite spelling = true) Literal.Valid)
    (hroom : json.depth ≤ room) : json.storable room = true := by
  induction json using induct generalizing room with
  | null | flag => rfl
  | number spelling => exact every_number.mp h
  | text body => exact (every_text.mp h).isSome
  | array elements ih =>
      cases room with
      | zero => exact absurd hroom (Nat.not_succ_le_zero _)
      | succ room =>
          rw [storable, storableElements_iff]
          exact fun value hmem => ih value hmem (every_array.mp h value hmem)
            (Nat.le_of_lt_succ (Nat.lt_of_lt_of_le (depth_lt_of_mem_array hmem) hroom))
  | object members ih =>
      cases room with
      | zero => exact absurd hroom (Nat.not_succ_le_zero _)
      | succ room =>
          rw [storable, storableMembers_iff]
          intro member hmem
          obtain ⟨hkey, hvalue⟩ := every_object.mp h member hmem
          exact ⟨hkey.isSome, ih member hmem hvalue
            (Nat.le_of_lt_succ (Nat.lt_of_lt_of_le (depth_lt_of_mem_object hmem) hroom))⟩

end ChainHost.Json
