/-
  Documents as trees.

  A tree keeps the spelling of its leaves.  `tokens` lists a tree and `build`
  reads a list of tokens back, with the containers that are still open on a
  stack, so that no document is too deep for it.
-/
import ChainHost.Json.Token
import ChainHost.Json.Literal

set_option autoImplicit false

namespace ChainHost

/-- A document. -/
inductive Json where
  | null
  | flag (value : Bool)
  /-- A numeral as it is spelled. -/
  | number (spelling : Bytes)
  /-- A literal as it is spelled, without its quotes. -/
  | text (body : Bytes)
  | array (elements : List Json)
  /-- The members in order, each under the body of its key. -/
  | object (members : List (Bytes × Json))
  deriving Repr, Inhabited

namespace Json

/-! ## Writing -/

mutual
/-- The tokens of a document. -/
def tokens : Json → List Token
  | null => [.null]
  | flag value => [.flag value]
  | number spelling => [.number spelling]
  | text body => [.text body]
  | array [] => [.openArray, .closeArray]
  | array (first :: rest) => .openArray :: (tokens first ++ tailElements rest)
  | object [] => [.openObject, .closeObject]
  | object ((key, value) :: rest) =>
      .openObject :: .text key :: .colon :: (tokens value ++ tailMembers rest)

/-- The elements after the first one, and the end of the array. -/
def tailElements : List Json → List Token
  | [] => [.closeArray]
  | value :: rest => .comma :: (tokens value ++ tailElements rest)

/-- The members after the first one, and the end of the object. -/
def tailMembers : List (Bytes × Json) → List Token
  | [] => [.closeObject]
  | (key, value) :: rest =>
      .comma :: .text key :: .colon :: (tokens value ++ tailMembers rest)
end

/-- The document without blanks. -/
def print (json : Json) : Bytes := json.tokens.flatMap Token.spelling

/-- A number as a document. -/
def ofNat (n : Nat) : Json := .number (Decimal.digits n)

/-- A text as a document. -/
def ofText (s : String) : Json := .text (Literal.escape s)

/-! ## Reading -/

/-- A container that is still open, its parts so far with the last one first. -/
inductive Frame where
  | array (done : List Json)
  /-- An object and the key of the member being read. -/
  | object (done : List (Bytes × Json)) (key : Bytes)
  deriving Repr, Inhabited

/-- What the reader looks for. -/
inductive Want where
  | value
  /-- A value, or the end of the array just opened. -/
  | element
  /-- A key, or the end of the object just opened. -/
  | member
  /-- A key, after a comma. -/
  | key (done : List (Bytes × Json))
  /-- The colon after a key. -/
  | colon (done : List (Bytes × Json)) (key : Bytes)
  /-- What follows a complete value. -/
  | after (value : Json)
  deriving Repr, Inhabited

/-- The value or the container that a token starts. -/
def beginValue (stack : List Frame) : Token → Option (Want × List Frame)
  | .null => some (.after .null, stack)
  | .flag value => some (.after (.flag value), stack)
  | .number spelling => some (.after (.number spelling), stack)
  | .text body => some (.after (.text body), stack)
  | .openArray => some (.element, .array [] :: stack)
  | .openObject => some (.member, stack)
  | _ => none

/-- One token. -/
def advance (want : Want) (stack : List Frame) (token : Token) :
    Option (Want × List Frame) :=
  match want with
  | .value => beginValue stack token
  | .element =>
      match token, stack with
      | .closeArray, .array done :: stack => some (.after (.array done.reverse), stack)
      | token, stack => beginValue stack token
  | .member =>
      match token with
      | .closeObject => some (.after (.object []), stack)
      | .text key => some (.colon [] key, stack)
      | _ => none
  | .key done =>
      match token with
      | .text key => some (.colon done key, stack)
      | _ => none
  | .colon done key =>
      match token with
      | .colon => some (.value, .object done key :: stack)
      | _ => none
  | .after value =>
      match token, stack with
      | .comma, .array done :: stack => some (.value, .array (value :: done) :: stack)
      | .closeArray, .array done :: stack =>
          some (.after (.array (value :: done).reverse), stack)
      | .comma, .object done key :: stack => some (.key ((key, value) :: done), stack)
      | .closeObject, .object done key :: stack =>
          some (.after (.object ((key, value) :: done).reverse), stack)
      | _, _ => none

/-- Reads on with what is wanted and the open containers. -/
def build : Want → List Frame → List Token → Option Json
  | .after value, [], [] => some value
  | _, _, [] => none
  | want, stack, token :: rest =>
      match advance want stack token with
      | none => none
      | some (want, stack) => build want stack rest

/-- The document of a byte string: one value with blanks around it. -/
def parse? (bytes : Bytes) : Option Json :=
  (Token.ofBytes? bytes).bind (build .value [])

end Json

end ChainHost
