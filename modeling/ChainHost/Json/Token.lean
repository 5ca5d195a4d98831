/-
  Tokens, and the reader that splits a document into them.

  The reader walks over the bytes once.  It checks the shape of literals and
  numerals and keeps their spelling; what a literal says is left to
  `Literal.unescape?`, so a value that nobody reads may hold bytes that are no
  text.
-/
import ChainHost.Text.Decimal
import ChainHost.Text.Hex

set_option autoImplicit false

namespace ChainHost.Json

/-- A token with its spelling. -/
inductive Token where
  | openObject
  | closeObject
  | openArray
  | closeArray
  | colon
  | comma
  | null
  | flag (value : Bool)
  /-- A numeral. -/
  | number (spelling : Bytes)
  /-- A literal, without its quotes. -/
  | text (body : Bytes)
  deriving DecidableEq, Repr, Inhabited

namespace Token

/-- How a token is spelled. -/
def spelling : Token → Bytes
  | openObject => [123]
  | closeObject => [125]
  | openArray => [91]
  | closeArray => [93]
  | colon => [58]
  | comma => [44]
  | null => [110, 117, 108, 108]
  | flag true => [116, 114, 117, 101]
  | flag false => [102, 97, 108, 115, 101]
  | number spelling => spelling
  | text body => 34 :: body ++ [34]

/-- The part of a numeral that the reader stands in. -/
inductive Place where
  /-- After the sign. -/
  | sign
  /-- After a leading zero. -/
  | zero
  | whole
  /-- After the point. -/
  | point
  | fraction
  /-- After the `e`. -/
  | exponent
  /-- After the sign of the exponent. -/
  | exponentSign
  | exponentDigits
  deriving DecidableEq, Repr

/-- Whether a numeral may end here. -/
def Place.closes : Place → Bool
  | zero | whole | fraction | exponentDigits => true
  | _ => false

/-- The place after one more byte, or nothing if it does not belong here. -/
def Place.next (place : Place) (b : UInt8) : Option Place :=
  let digit := Decimal.isDigit b
  let isE := b = 101 ∨ b = 69
  match place with
  | sign => if b = 48 then some zero else if digit then some whole else none
  | zero => if b = 46 then some point else if isE then some exponent else none
  | whole =>
      if digit then some whole
      else if b = 46 then some point
      else if isE then some exponent
      else none
  | point => if digit then some fraction else none
  | fraction => if digit then some fraction else if isE then some exponent else none
  | exponent =>
      if digit then some exponentDigits
      else if b = 43 ∨ b = 45 then some exponentSign
      else none
  | exponentSign => if digit then some exponentDigits else none
  | exponentDigits => if digit then some exponentDigits else none

/-- Where the reader stands between two bytes. -/
inductive State where
  /-- Between tokens. -/
  | idle
  /-- Inside a name, with what is missing of it. -/
  | name (token : Token) (missing : Bytes)
  /-- Inside a numeral; its bytes so far, the last one first. -/
  | numeral (place : Place) (spelled : Bytes)
  /-- Inside a literal; its bytes so far, the last one first. -/
  | literal (spelled : Bytes)
  /-- After a backslash. -/
  | escape (spelled : Bytes)
  /-- Inside a code unit, with the number of missing digits. -/
  | unit (missing : Nat) (spelled : Bytes)
  deriving DecidableEq, Repr

/-- The blanks between tokens. -/
def isBlank (b : UInt8) : Bool := b = 32 || b = 9 || b = 10 || b = 13

/-- One byte between tokens; `done` holds the tokens read, the last one first. -/
def start (done : List Token) (b : UInt8) : Option (State × List Token) :=
  match b.toNat with
  | 123 => some (.idle, openObject :: done)
  | 125 => some (.idle, closeObject :: done)
  | 91 => some (.idle, openArray :: done)
  | 93 => some (.idle, closeArray :: done)
  | 58 => some (.idle, colon :: done)
  | 44 => some (.idle, comma :: done)
  | 34 => some (.literal [], done)
  | 110 => some (.name null [117, 108, 108], done)
  | 116 => some (.name (flag true) [114, 117, 101], done)
  | 102 => some (.name (flag false) [97, 108, 115, 101], done)
  | 45 => some (.numeral .sign [b], done)
  | 48 => some (.numeral .zero [b], done)
  | _ =>
      if isBlank b then some (.idle, done)
      else if Decimal.isDigit b then some (.numeral .whole [b], done)
      else none

/-- One byte. -/
def step (state : State) (done : List Token) (b : UInt8) : Option (State × List Token) :=
  match state with
  | .idle => start done b
  | .name token missing =>
      match missing with
      | [] => none
      | [c] => if b = c then some (.idle, token :: done) else none
      | c :: missing => if b = c then some (.name token missing, done) else none
  | .numeral place spelled =>
      match place.next b with
      | some place => some (.numeral place (b :: spelled), done)
      | none =>
          -- A digit right after a leading zero never starts a token.
          if !place.closes || (place = .zero && Decimal.isDigit b) then none
          else start (number spelled.reverse :: done) b
  | .literal spelled =>
      if b = 34 then some (.idle, text spelled.reverse :: done)
      else if b = 92 then some (.escape (b :: spelled), done)
      else if b < 32 then none
      else some (.literal (b :: spelled), done)
  | .escape spelled =>
      if b = 117 then some (.unit 4 (b :: spelled), done)
      else if b ∈ [34, 92, 47, 98, 102, 110, 114, 116] then some (.literal (b :: spelled), done)
      else none
  | .unit missing spelled =>
      if (Hex.digitValue? b).isNone then none
      else if missing ≤ 1 then some (.literal (b :: spelled), done)
      else some (.unit (missing - 1) (b :: spelled), done)

/-- The tokens of a document that ends in a state. -/
def finish (state : State) (done : List Token) : Option (List Token) :=
  match state with
  | .idle => some done.reverse
  | .numeral place spelled =>
      if place.closes then some (number spelled.reverse :: done).reverse else none
  | _ => none

/-- Reads on from a state. -/
def scan : State → List Token → Bytes → Option (List Token)
  | state, done, [] => finish state done
  | state, done, b :: rest =>
      match step state done b with
      | none => none
      | some (state, done) => scan state done rest

/-- The tokens of a byte string. -/
def ofBytes? (bytes : Bytes) : Option (List Token) := scan .idle [] bytes

end Token

end ChainHost.Json
