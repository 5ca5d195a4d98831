/-
  Decimal naturals: writing, and reading with a limit.

  `value_digits` says that the digits written for a number read back as it.
-/
import ChainHost.Bytes

set_option autoImplicit false

namespace ChainHost.Decimal

/-- Whether a byte is one of the digits `0` to `9`. -/
def isDigit (b : UInt8) : Bool := 48 ≤ b.toNat && b.toNat ≤ 57

/-- The digits of a number, without leading zeros. -/
def digits (n : Nat) : Bytes :=
  if n < 10 then [UInt8.ofNat (48 + n)]
  else digits (n / 10) ++ [UInt8.ofNat (48 + n % 10)]
termination_by n
decreasing_by omega

/-- The number that a run of digits stands for. -/
def value (ds : Bytes) : Nat :=
  ds.foldl (fun n d => n * 10 + (d.toNat - 48)) 0

theorem value_append (ds : Bytes) (d : UInt8) :
    value (ds ++ [d]) = value ds * 10 + (d.toNat - 48) := by
  simp [value]

theorem value_digits (n : Nat) : value (digits n) = n := by
  rw [digits]
  split
  · next h =>
      have : (48 + n) % 256 = 48 + n := by omega
      simp [value, this]
  · next h =>
      have : (48 + n % 10) % 256 = 48 + n % 10 := by omega
      rw [value_append, value_digits (n / 10)]
      simp only [UInt8.toNat_ofNat']
      omega
termination_by n
decreasing_by omega

theorem isDigit_of_mem_digits (n : Nat) : ∀ d ∈ digits n, isDigit d = true := by
  rw [digits]
  split
  · next h =>
      intro d hd
      obtain rfl := List.mem_singleton.mp hd
      have : (48 + n) % 256 = 48 + n := by omega
      simp [isDigit, this]
      omega
  · next h =>
      intro d hd
      rcases List.mem_append.mp hd with hd | hd
      · exact isDigit_of_mem_digits (n / 10) d hd
      · obtain rfl := List.mem_singleton.mp hd
        have : (48 + n % 10) % 256 = 48 + n % 10 := by omega
        simp [isDigit, this]
        omega
termination_by n
decreasing_by omega

theorem digits_ne_nil (n : Nat) : digits n ≠ [] := by
  rw [digits]
  split <;> simp

/-- Reads one or more digits; leading zeros are fine. -/
def natural? (ds : Bytes) : Option Nat :=
  if ds ≠ [] ∧ ds.all isDigit then some (value ds) else none

/-- Reads digits, after one `+` at most, up to a limit. -/
def upTo? (limit : Nat) (text : Bytes) : Option Nat :=
  let ds := match text with
    | 43 :: rest => rest
    | _ => text
  (natural? ds).filter (· ≤ limit)

/-- Reads a 64-bit number: digits, after one `+` at most. -/
def word? (text : Bytes) : Option UInt64 :=
  (upTo? (2 ^ 64 - 1) text).map UInt64.ofNat

end ChainHost.Decimal
