/-
  IPv4 addresses as text.

  An address has up to four numbers with dots between them, and may end in a
  dot.  Each number but the last is one byte; the last one fills the bytes that
  are left.  A number is decimal, octal after a zero, or hexadecimal after
  `0x`.
-/
import ChainHost.Text.Decimal
import ChainHost.Text.Hex
import ChainHost.Text.Split

set_option autoImplicit false

namespace ChainHost.Ipv4

/-- The base of a number, and its digits. -/
def spelling (text : Bytes) : Nat × Bytes :=
  match text with
  | 48 :: 120 :: digits => (16, digits)
  | 48 :: 88 :: digits => (16, digits)
  | 48 :: digit :: digits => (8, digit :: digits)
  | digits => (10, digits)

/-- The number of a part.  After `0x` there may be no digits. -/
def number? (text : Bytes) : Option Nat :=
  let (base, digits) := spelling text
  if text = [] then none
  else
    digits.foldl (fun acc b => acc.bind fun n =>
      ((Hex.digitValue? b).filter (· < base)).map (n * base + ·)) (some 0)

/-- The parts between dots, without an empty one at the end. -/
def parts (text : Bytes) : List Bytes :=
  let all := Text.splitAt 46 text
  if all.getLast? = some [] then all.dropLast else all

/-- Whether a host ends in a number, and so has to be an address. -/
def isAddress (text : Bytes) : Bool :=
  match (parts text).getLast? with
  | none => false
  | some last => (last != [] && last.all Decimal.isDigit) || (number? last).isSome

/-- The address of some numbers, which take `room` bytes. -/
def compose? : List Nat → Nat → Option Nat
  | _, 0 => none
  | [], _ => none
  | [last], room => if last < 256 ^ room then some last else none
  | n :: rest, room + 1 =>
      if n < 256 then (compose? rest room).map (n * 256 ^ room + ·) else none

/-- Reads an address. -/
def read? (text : Bytes) : Option Nat :=
  ((parts text).mapM number?).bind (compose? · 4)

/-- Writes an address as four decimal numbers. -/
def write (address : Nat) : Bytes :=
  List.intercalate [46] ([16777216, 65536, 256, 1].map fun unit =>
    Decimal.digits (address / unit % 256))

end ChainHost.Ipv4
