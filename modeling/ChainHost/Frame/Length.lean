/-
  Length prefixes.

  A length is written in groups of seven bits, the lowest group first; every
  byte but the last has its top bit set.  A prefix has ten bytes at most, and
  the tenth holds a single bit.
-/
import ChainHost.Bytes

set_option autoImplicit false

namespace ChainHost.Frame.Length

/-- The bytes of a length. -/
def encode (n : Nat) : Bytes :=
  if n < 128 then [UInt8.ofNat n]
  else UInt8.ofNat (128 + n % 128) :: encode (n / 128)
termination_by n
decreasing_by omega

/-- The most bytes of a prefix. -/
def maxBytes : Nat := 10

/-- What one byte makes of a prefix. -/
inductive Step where
  /-- The prefix is complete. -/
  | complete (length : UInt64)
  /-- More bytes follow. -/
  | more (value : UInt64)
  | malformed
  deriving DecidableEq, Repr

/-- Takes the byte at a place of a prefix into the value read so far. -/
def step (place : Nat) (value : UInt64) (b : UInt8) : Step :=
  if place + 1 ≥ maxBytes ∧ b > 1 then .malformed
  else
    let value := value ||| ((b &&& 0x7F).toUInt64 <<< UInt64.ofNat (7 * place))
    if b &&& 0x80 = 0 then .complete value
    else if place + 1 ≥ maxBytes then .malformed
    else .more value

end ChainHost.Frame.Length
