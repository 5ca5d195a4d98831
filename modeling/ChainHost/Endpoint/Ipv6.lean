/-
  IPv6 addresses as text.

  An address has eight groups of up to four hexadecimal digits.  One run of
  zero groups may be left out between two colons, and the last two groups may be
  given as four decimal numbers.  Writing leaves out the longest run of two or
  more zero groups, of equal ones the first.
-/
import ChainHost.Text.Decimal
import ChainHost.Text.Hex
import ChainHost.Text.Split

set_option autoImplicit false

namespace ChainHost.Ipv6

/-- The number of a group: one to four hexadecimal digits. -/
def group? (text : Bytes) : Option Nat :=
  if text = [] ∨ 4 < text.length then none
  else text.foldl (fun acc b => acc.bind fun n => (Hex.digitValue? b).map (n * 16 + ·)) (some 0)

/-- A decimal number below 256 without leading zeros. -/
def octet? (text : Bytes) : Option Nat :=
  match text with
  | 48 :: _ :: _ => none
  | _ => (Decimal.natural? text).filter (· < 256)

/-- Two groups given as four decimal numbers. -/
def dotted? (text : Bytes) : Option (List Nat) :=
  match (Text.splitAt 46 text).map octet? with
  | [some a, some b, some c, some d] => some [a * 256 + b, c * 256 + d]
  | _ => none

/-- Groups between colons; the last one may be dotted if `dots`. -/
def groups? (dots : Bool) : List Bytes → Option (List Nat)
  | [] => some []
  | [last] =>
      if dots ∧ 46 ∈ last then dotted? last else (group? last).map ([·])
  | first :: rest =>
      match group? first, groups? dots rest with
      | some n, some more => some (n :: more)
      | _, _ => none

/-- The groups of a side of a left-out run. -/
def side? (dots : Bool) (text : Bytes) : Option (List Nat) :=
  if text = [] then some [] else groups? dots (Text.splitAt 58 text)

/-- The texts on both sides of the first two colons in a row. -/
def splitRun : Bytes → Option (Bytes × Bytes)
  | 58 :: 58 :: rest => some ([], rest)
  | b :: rest => (splitRun rest).map fun (left, right) => (b :: left, right)
  | [] => none

/-- Reads the eight groups of an address. -/
def read? (text : Bytes) : Option (List Nat) :=
  match splitRun text with
  | some (left, right) =>
      match side? false left, side? true right with
      | some left, some right =>
          if left.length + right.length ≤ 7 then
            some (left ++ List.replicate (8 - left.length - right.length) 0 ++ right)
          else none
      | _, _ => none
  | none => (groups? true (Text.splitAt 58 text)).filter (·.length = 8)

/-- The place and the length of the longest run of zeros, the first of equal
ones. -/
def longestRun (groups : List Nat) : Nat × Nat :=
  let runAt (i : Nat) : Nat := ((groups.drop i).takeWhile (· = 0)).length
  (List.range groups.length).foldl (fun best i =>
    if best.2 < runAt i then (i, runAt i) else best) (0, 0)

/-- A group in lower-case digits. -/
def groupText (n : Nat) : Bytes :=
  (Nat.toDigits 16 n).map fun c => UInt8.ofNat c.toNat

/-- Groups with colons between them. -/
def joined (groups : List Nat) : Bytes :=
  List.intercalate [58] (groups.map groupText)

/-- Writes an address. -/
def write (groups : List Nat) : Bytes :=
  let (place, length) := longestRun groups
  if length < 2 then joined groups
  else joined (groups.take place) ++ [58, 58] ++ joined (groups.drop (place + length))

end ChainHost.Ipv6
