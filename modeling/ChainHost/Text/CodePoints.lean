/-
  Sets of characters, listed by their code points.

  A set is a list of runs.  As text a run is one hexadecimal number, two with
  a dash between them for all numbers from the one to the other, or two with
  a tilde for every second one.
-/
import ChainHost.Bytes
import ChainHost.Text.Hex
import ChainHost.Text.Split

set_option autoImplicit false

namespace ChainHost

/-- Every `step`-th code point from `first` to `last`. -/
structure CodePoints.Run where
  first : Nat
  last : Nat
  step : Nat := 1
  deriving DecidableEq, Repr

namespace CodePoints.Run

/-- Whether a code point is in a run. -/
def contains (run : Run) (n : Nat) : Bool :=
  run.first ≤ n && n ≤ run.last && (n - run.first) % run.step == 0

/-- The number that hexadecimal digits stand for; what is no digit counts as
zero. -/
def number (digits : List Char) : Nat :=
  digits.foldl (fun n c => n * 16 + ((Hex.digitValue? (UInt8.ofNat c.toNat)).getD 0)) 0

/-- Reads a run. -/
def ofText (text : List Char) : Run :=
  match Text.splitAt '-' text, Text.splitAt '~' text with
  | [first, last], _ => { first := number first, last := number last }
  | _, [first, last] => { first := number first, last := number last, step := 2 }
  | _, _ => { first := number text, last := number text }

end CodePoints.Run

/-- A set of code points. -/
structure CodePoints where
  runs : List CodePoints.Run
  deriving DecidableEq, Repr

namespace CodePoints

/-- Whether a code point is in a set. -/
def contains (set : CodePoints) (n : Nat) : Bool := set.runs.any (·.contains n)

/-- The set of a text: runs with blanks between them. -/
def ofText (text : String) : CodePoints :=
  ⟨((Text.splitAt ' ' text.toList).filter (· ≠ [])).map Run.ofText⟩

/-- The set of some lines of text. -/
def ofLines (lines : List String) : CodePoints := ⟨lines.flatMap fun line => (ofText line).runs⟩

end CodePoints

end ChainHost
