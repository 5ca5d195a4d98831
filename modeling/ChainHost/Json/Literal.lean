/-
  String literals: what stands between the quotes.

  `escape` writes the body of a literal and `unescape?` reads one.  Only the
  quote, the backslash and control characters are escaped, so all else is
  written as its UTF-8 bytes.
-/
import ChainHost.Text.Utf8
import ChainHost.Text.Hex

set_option autoImplicit false

namespace ChainHost.Json.Literal

/-- How one character is written. -/
def escapeChar (c : Char) : Bytes :=
  if c = '"' then [92, 34]
  else if c = '\\' then [92, 92]
  else if c.toNat = 8 then [92, 98]
  else if c.toNat = 9 then [92, 116]
  else if c.toNat = 10 then [92, 110]
  else if c.toNat = 12 then [92, 102]
  else if c.toNat = 13 then [92, 114]
  else if c.toNat < 32 then
    [92, 117, 48, 48, Hex.digit (c.toNat / 16), Hex.digit (c.toNat % 16)]
  else String.utf8EncodeChar c

/-- The body of a literal. -/
def escape (text : String) : Bytes := text.toList.flatMap escapeChar

/-- The byte that a one-letter escape stands for. -/
def letter? (b : UInt8) : Option UInt8 :=
  match b.toNat with
  | 34 => some 34
  | 92 => some 92
  | 47 => some 47
  | 98 => some 8
  | 102 => some 12
  | 110 => some 10
  | 114 => some 13
  | 116 => some 9
  | _ => none

/-- The number that four hexadecimal digits stand for. -/
def unit? (a b c d : UInt8) : Option Nat :=
  match Hex.digitValue? a, Hex.digitValue? b, Hex.digitValue? c, Hex.digitValue? d with
  | some a, some b, some c, some d => some (((a * 16 + b) * 16 + c) * 16 + d)
  | _, _, _, _ => none

/-- Whether a code unit is the first half of a pair. -/
def isHigh (unit : Nat) : Bool := 0xD800 ≤ unit && unit < 0xDC00

/-- Whether a code unit is the second half of a pair. -/
def isLow (unit : Nat) : Bool := 0xDC00 ≤ unit && unit < 0xE000

/-- The character of a pair of code units. -/
def pair (high low : Nat) : Char :=
  Char.ofNat (0x10000 + (high - 0xD800) * 0x400 + (low - 0xDC00))

/-- Resolves the escapes of a body.  A code unit of a surrogate pair is refused
unless its other half stands beside it. -/
def resolve? : Bytes → Option Bytes
  | [] => some []
  | 92 :: 117 :: a :: b :: c :: d :: rest =>
      match unit? a b c d with
      | none => none
      | some high =>
          if isLow high then none
          else if isHigh high then
            match rest with
            | 92 :: 117 :: e :: f :: g :: h :: rest =>
                match unit? e f g h with
                | none => none
                | some low =>
                    if isLow low then
                      (resolve? rest).map (String.utf8EncodeChar (pair high low) ++ ·)
                    else none
            | _ => none
          else (resolve? rest).map (String.utf8EncodeChar (Char.ofNat high) ++ ·)
  | 92 :: b :: rest =>
      match letter? b with
      | none => none
      | some byte => (resolve? rest).map (byte :: ·)
  | [92] => none
  | b :: rest => (resolve? rest).map (b :: ·)

/-- The text of a body, if its escapes and its bytes are sound. -/
def unescape? (body : Bytes) : Option String :=
  (resolve? body).bind Utf8.decode?

end ChainHost.Json.Literal
