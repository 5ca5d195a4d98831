/-
  Reading text out of bytes.

  The reader walks over the bytes once and keeps the character it is inside
  of.  What is not UTF-8 is split as late as possible: the longest front of a
  possible character counts as one break, and reading starts afresh at the
  byte that does not fit.
-/
import ChainHost.Bytes

set_option autoImplicit false

namespace ChainHost.Utf8

/-- Where the reader stands between two bytes. -/
inductive State where
  /-- Between characters. -/
  | idle
  /-- Inside a character: the bits read so far, how many bytes are missing,
  and the range of the next one. -/
  | inside (bits missing low high : Nat)
  deriving DecidableEq, Repr

/-- What the first byte of a character says. -/
inductive Opening where
  | complete (c : Char)
  | more (state : State)
  | broken
  deriving DecidableEq, Repr

/-- Reads the first byte of a character.  Overlong forms, surrogates and values
above U+10FFFF are excluded by the range of the second byte. -/
def opening (b : UInt8) : Opening :=
  let v := b.toNat
  if v < 0x80 then .complete (Char.ofNat v)
  else if v < 0xC2 then .broken
  else if v < 0xE0 then .more (.inside (v - 0xC0) 1 0x80 0xBF)
  else if v = 0xE0 then .more (.inside 0 2 0xA0 0xBF)
  else if v = 0xED then .more (.inside 0xD 2 0x80 0x9F)
  else if v < 0xF0 then .more (.inside (v - 0xE0) 2 0x80 0xBF)
  else if v = 0xF0 then .more (.inside 0 3 0x90 0xBF)
  else if v < 0xF4 then .more (.inside (v - 0xF0) 3 0x80 0xBF)
  else if v = 0xF4 then .more (.inside 4 3 0x80 0x8F)
  else .broken

/-- One byte between characters. -/
def startAt (b : UInt8) (done : List (Option Char)) : State × List (Option Char) :=
  match opening b with
  | .complete c => (.idle, some c :: done)
  | .more state => (state, done)
  | .broken => (.idle, none :: done)

/-- One byte; `done` holds the characters read so far, the last one first, and
`none` for each break. -/
def step (state : State) (b : UInt8) (done : List (Option Char)) :
    State × List (Option Char) :=
  match state with
  | .idle => startAt b done
  | .inside bits missing low high =>
      if low ≤ b.toNat ∧ b.toNat ≤ high then
        let bits := bits * 64 + (b.toNat - 0x80)
        if missing ≤ 1 then (.idle, some (Char.ofNat bits) :: done)
        else (.inside bits (missing - 1) 0x80 0xBF, done)
      else startAt b (none :: done)

/-- Reads on from a state. -/
def scanFrom : State → List (Option Char) → Bytes → List (Option Char)
  | .idle, done, [] => done.reverse
  | .inside _ _ _ _, done, [] => (none :: done).reverse
  | state, done, b :: rest =>
      let next := step state b done
      scanFrom next.1 next.2 rest

/-- The characters of a byte string, `none` for each break. -/
def scan (bytes : Bytes) : List (Option Char) :=
  scanFrom .idle [] bytes

/-- The text of a byte string, if it is UTF-8 throughout. -/
def decode? (bytes : Bytes) : Option String :=
  let chars := scan bytes
  if chars.all Option.isSome then some (String.ofList (chars.filterMap id)) else none

/-- The text of a byte string with U+FFFD in place of each break. -/
def decodeLossy (bytes : Bytes) : List Char :=
  (scan bytes).map fun c => c.getD (Char.ofNat 0xFFFD)

end ChainHost.Utf8
