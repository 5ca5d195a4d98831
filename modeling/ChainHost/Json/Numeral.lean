/-
  What numerals stand for.

  Whole numbers are read exactly.  Of any other numeral the wire only asks
  whether it is finite: whether it still is one as a binary fraction of 53 bits
  and exponents up to 1023.
-/
import ChainHost.Text.Decimal
import ChainHost.Text.Double

set_option autoImplicit false

namespace ChainHost.Json.Numeral

/-- The number of a numeral without sign, fraction and exponent. -/
def natural? (spelling : Bytes) : Option Nat := Decimal.natural? spelling

/-- A whole number of at most 64 bits times a power of ten. -/
structure Scientific where
  significand : Nat
  exponent : Int
  deriving DecidableEq, Repr

/-- Appends digits while the significand has room; the number that was taken
comes with the result. -/
def takeDigits (significand : Nat) : Bytes → Nat × Nat
  | [] => (significand, 0)
  | d :: rest =>
      let next := significand * 10 + (d.toNat - 48)
      if next < 2 ^ 64 then
        let (value, taken) := takeDigits next rest
        (value, taken + 1)
      else (significand, 0)

/-- The leading digits of a numeral with its power of ten.  Whole digits that
find no room count as zeros, further digits of the fraction are dropped. -/
def scientific (spelling : Bytes) : Scientific :=
  let body := if spelling.head? = some 45 then spelling.drop 1 else spelling
  let whole := body.takeWhile Decimal.isDigit
  let afterWhole := body.drop whole.length
  let hasPoint := afterWhole.head? = some 46
  let fraction := if hasPoint then (afterWhole.drop 1).takeWhile Decimal.isDigit else []
  let afterFraction := if hasPoint then afterWhole.drop (1 + fraction.length) else afterWhole
  let power := afterFraction.drop 1
  let signed := power.head? = some 43 ∨ power.head? = some 45
  let digits := if signed then power.drop 1 else power
  let size : Int := Decimal.value digits
  let (front, taken) := takeDigits 0 whole
  let (significand, places) := takeDigits front fraction
  { significand
    exponent := ((whole.length - taken : Nat) : Int) - (places : Int)
      + (if power.head? = some 45 then -size else size) }

/-- The nearest number of at most 53 bits, of two the even one. -/
def nearest (n : Nat) : Nat :=
  if n < 2 ^ 53 then n
  else
    let shift := n.log2 - 52
    let unit := 2 ^ shift
    let low := n / unit
    let rest := n % unit
    let up := unit < 2 * rest ∨ (2 * rest = unit ∧ low % 2 = 1)
    (if up then low + 1 else low) * unit

/-- Whether a numeral stands for a finite number.  Both factors are rounded
before they are multiplied. -/
def isFinite (spelling : Bytes) : Bool :=
  let n := scientific spelling
  if n.significand = 0 ∨ n.exponent < 0 then true
  else n.exponent ≤ 308
    && nearest n.significand * nearest (10 ^ n.exponent.toNat) < Double.overflow

end ChainHost.Json.Numeral
