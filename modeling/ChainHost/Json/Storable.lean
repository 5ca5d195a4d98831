/-
  Documents that can be kept as values.

  A value that is read at once may hold parts that nobody looks at.  One that
  has to be kept first must be sound throughout: its keys and texts are text,
  its numerals are finite and it is not too deep.
-/
import ChainHost.Json.Tree
import ChainHost.Json.Numeral

set_option autoImplicit false

namespace ChainHost.Json

/-- The most containers that may be open at once around a kept value. -/
def depthLimit : Nat := 127

mutual
/-- Whether a document can be kept where `room` more containers may open. -/
def storable (room : Nat) : Json → Bool
  | null => true
  | flag _ => true
  | number spelling => Numeral.isFinite spelling
  | text body => (Literal.unescape? body).isSome
  | array elements =>
      match room with
      | 0 => false
      | room + 1 => storableElements room elements
  | object members =>
      match room with
      | 0 => false
      | room + 1 => storableMembers room members

/-- Whether all elements can be kept. -/
def storableElements (room : Nat) : List Json → Bool
  | [] => true
  | value :: rest => storable room value && storableElements room rest

/-- Whether all members can be kept. -/
def storableMembers (room : Nat) : List (Bytes × Json) → Bool
  | [] => true
  | (key, value) :: rest =>
      (Literal.unescape? key).isSome && storable room value && storableMembers room rest
end

end ChainHost.Json
