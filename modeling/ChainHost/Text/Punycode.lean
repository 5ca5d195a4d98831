/-
  Punycode: text of any script in letters, digits and dashes.

  The plain characters come first, up to the last dash.  The others follow in
  increasing order, each as the distance to its place: a number of digits to
  the base 36, whose last digit is the first one below a threshold.  The
  thresholds adapt to the numbers read so far.
-/
import ChainHost.Bytes

set_option autoImplicit false

namespace ChainHost.Punycode

/-- The value of a digit: letters before the ten figures. -/
def digit? (c : Char) : Option Nat :=
  let n := c.toNat
  if 97 ≤ n ∧ n ≤ 122 then some (n - 97)
  else if 65 ≤ n ∧ n ≤ 90 then some (n - 65)
  else if 48 ≤ n ∧ n ≤ 57 then some (n - 22)
  else none

/-- The digits below this one end a number; `place` is the place of the digit
in steps of 36. -/
def threshold (place bias : Nat) : Nat :=
  if place ≤ bias then 1 else min 26 (place - bias)

/-- Divides a distance down until it is small, counting the steps. -/
def reduce (delta steps : Nat) : Nat × Nat :=
  if 455 < delta then reduce (delta / 35) (steps + 36) else (delta, steps)
termination_by delta
decreasing_by omega

/-- The bias after a distance, for a text of `count` characters. -/
def adapt (delta count : Nat) (first : Bool) : Nat :=
  let scaled := if first then delta / 700 else delta / 2
  let (rest, steps) := reduce (scaled + scaled / count) 0
  steps + 36 * rest / (rest + 38)

/-- The largest number that is read. -/
def limit : Nat := 4294967295

/-- Adds a number to `sum`, and gives what follows it. -/
def number? (bias : Nat) : Nat → Nat → Nat → List Char → Option (Nat × List Char)
  | _, _, _, [] => none
  | place, sum, weight, c :: rest =>
      match digit? c with
      | none => none
      | some d =>
          let sum := sum + d * weight
          let bound := threshold place bias
          if limit < sum ∨ limit < weight then none
          else if d < bound then some (sum, rest)
          else number? bias (place + 36) sum (weight * (36 - bound)) rest

/-- A number takes up some of the text. -/
theorem length_of_number? {bias place sum weight value : Nat} {text rest : List Char}
    (h : number? bias place sum weight text = some (value, rest)) :
    rest.length < text.length := by
  induction text generalizing place sum weight with
  | nil => simp [number?] at h
  | cons c tail ih =>
      unfold number? at h
      split at h
      · simp at h
      · simp only at h
        split at h
        · simp at h
        · split at h
          · simp only [Option.some.injEq, Prod.mk.injEq] at h
            simp [h.2]
          · exact Nat.lt_succ_of_lt (ih h)

/-- Puts the coded characters at their places in the plain ones.  The next one
is at least `code`, and if it is `code` stands at `index` or later. -/
def insertAll? (code index bias : Nat) (done text : List Char) : Option (List Char) :=
  if text = [] then some done
  else
    match _h : number? bias 36 index 1 text with
    | none => none
    | some (total, rest) =>
        let count := done.length + 1
        let next := code + total / count
        let place := total % count
        if next.isValidChar then
          insertAll? next (place + 1) (adapt (total - index) count (index == 0))
            (done.insertIdx place (Char.ofNat next)) rest
        else none
termination_by text.length
decreasing_by exact length_of_number? _h

/-- Reads a coded text. -/
def decode? (text : List Char) : Option (List Char) :=
  let coded := (text.reverse.takeWhile (· ≠ '-')).reverse
  if coded.length = text.length then insertAll? 128 0 72 [] text
  else if coded.length + 1 = text.length then none
  else insertAll? 128 0 72 (text.take (text.length - coded.length - 1)) coded

end ChainHost.Punycode
