/-
  Byte strings.

  Payloads, keys, digests and streams are lists of bytes.  They are ordered
  bytewise, a proper prefix first, by the lexicographic `compare` of lists.
-/
set_option autoImplicit false

namespace ChainHost

-- Powers of numbers read alike in every module, whatever else it imports.
attribute [instance (high), default_instance (20000)] instPowNat

/-- A byte string. -/
abbrev Bytes := List UInt8

namespace Bytes

/-- The UTF-8 bytes of a text. -/
def ofText (text : String) : Bytes :=
  text.toList.flatMap String.utf8EncodeChar

/-- Bytes as they are listed in messages: `[0a, ff]`. -/
def listing (bytes : Bytes) : String :=
  let digit (n : Nat) : Char := if n < 10 then Char.ofNat (48 + n) else Char.ofNat (87 + n)
  let one (b : UInt8) : String := String.ofList [digit (b.toNat / 16), digit (b.toNat % 16)]
  "[" ++ String.intercalate ", " (bytes.map one) ++ "]"

/-- The rest of a byte string after the text it starts with. -/
def dropText? (text : String) (bytes : Bytes) : Option Bytes :=
  let front := ofText text
  if bytes.take front.length = front then some (bytes.drop front.length) else none

end Bytes

end ChainHost
