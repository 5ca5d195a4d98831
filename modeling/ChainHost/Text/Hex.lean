/-
  Hexadecimal text: two digits for each byte.

  Writing uses lower-case digits; reading takes both cases.  An odd number of
  digits is reported before a wrong one.
-/
import ChainHost.Bytes

set_option autoImplicit false

namespace ChainHost.Hex

/-- The lower-case digit of a value below sixteen. -/
def digit (n : Nat) : UInt8 :=
  if n < 10 then UInt8.ofNat (48 + n) else UInt8.ofNat (87 + n)

/-- The value of a digit of either case. -/
def digitValue? (b : UInt8) : Option Nat :=
  let v := b.toNat
  if 48 ≤ v ∧ v ≤ 57 then some (v - 48)
  else if 97 ≤ v ∧ v ≤ 102 then some (v - 87)
  else if 65 ≤ v ∧ v ≤ 70 then some (v - 55)
  else none

/-- Writes two digits for each byte. -/
def encode (bytes : Bytes) : Bytes :=
  bytes.flatMap fun b => [digit (b.toNat / 16), digit (b.toNat % 16)]

/-- Why a text is no hexadecimal text. -/
inductive Fault where
  /-- The number of digits is odd. -/
  | oddLength
  /-- A byte that is no digit, and its place. -/
  | badDigit (byte : UInt8) (position : Nat)
  deriving DecidableEq, Repr

/-- A Latin-1 character as messages quote it. -/
def quoted (byte : UInt8) : String :=
  let v := byte.toNat
  let code : String :=
    String.ofList ['\\', 'u', '\x7b']
      ++ String.ofList ((Nat.toDigits 16 v)) ++ String.ofList ['\x7d']
  let body :=
    if v = 0 then "\\0"
    else if v = 9 then "\\t"
    else if v = 10 then "\\n"
    else if v = 13 then "\\r"
    else if v = 39 then "\\'"
    else if v = 92 then "\\\\"
    else if v < 32 ∨ (127 ≤ v ∧ v ≤ 160) ∨ v = 173 then code
    else String.ofList [Char.ofNat v]
  "'" ++ body ++ "'"

/-- The words for a fault. -/
def Fault.message : Fault → String
  | .oddLength => "Odd number of digits"
  | .badDigit byte position =>
      "Invalid character " ++ quoted byte ++ " at position " ++ toString position

/-- Reads pairs of digits from a place on. -/
def pairs : Nat → Bytes → Except Fault Bytes
  | _, [] => .ok []
  | _, [_] => .error .oddLength
  | position, hi :: lo :: rest =>
      match digitValue? hi with
      | none => .error (.badDigit hi position)
      | some h =>
          match digitValue? lo with
          | none => .error (.badDigit lo (position + 1))
          | some l =>
              match pairs (position + 2) rest with
              | .error fault => .error fault
              | .ok bytes => .ok (UInt8.ofNat (16 * h + l) :: bytes)

/-- Reads a hexadecimal text. -/
def decode (text : Bytes) : Except Fault Bytes :=
  if text.length % 2 = 1 then .error .oddLength else pairs 0 text

end ChainHost.Hex
