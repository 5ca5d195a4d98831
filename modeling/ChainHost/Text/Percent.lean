/-
  Percent escapes: a byte as `%` and two hexadecimal digits.

  A `%` that no two digits follow stands for itself.
-/
import ChainHost.Text.Hex

set_option autoImplicit false

namespace ChainHost.Percent

/-- The upper-case digit of a value below sixteen. -/
def digit (n : Nat) : UInt8 :=
  if n < 10 then UInt8.ofNat (48 + n) else UInt8.ofNat (55 + n)

/-- Escapes the control characters and all that is not ASCII. -/
def encode (bytes : Bytes) : Bytes :=
  bytes.flatMap fun b =>
    if b < 32 ∨ b ≥ 127 then [37, digit (b.toNat / 16), digit (b.toNat % 16)] else [b]

/-- Resolves escapes. -/
def decode : Bytes → Bytes
  | [] => []
  | 37 :: hi :: lo :: rest =>
      match Hex.digitValue? hi, Hex.digitValue? lo with
      | some h, some l => UInt8.ofNat (16 * h + l) :: decode rest
      | _, _ => 37 :: decode (hi :: lo :: rest)
  | b :: rest => b :: decode rest

end ChainHost.Percent
