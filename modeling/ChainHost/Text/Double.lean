/-
  The range of binary fractions of 53 bits and exponents up to 1023.
-/
import ChainHost.Bytes

set_option autoImplicit false

namespace ChainHost.Double

/-- Half a unit beyond the largest number whose unit is twice `2 ^ shift`. -/
def bound (shift : Nat) : Nat := (2 ^ 54 - 1) * 2 ^ shift

/-- The least number that is rounded to infinity. -/
def overflow : Nat := bound 970

/-- Whether a whole number times a power of ten is rounded to infinity.  Powers
that settle it by their size are not computed. -/
def isTooLarge (digits : Nat) (power : Int) : Bool :=
  if digits = 0 then false
  else
    match power with
    | .ofNat power => 1024 < digits.log2 + 3 * power || overflow ≤ digits * 10 ^ power
    | .negSucc power =>
        3 * (power + 1) ≤ digits.log2 && overflow * 10 ^ (power + 1) ≤ digits

end ChainHost.Double
