/-
  Texts, numbers and dates of configuration files.
-/
import ChainHost.Config.Value
import ChainHost.Text.Double
import ChainHost.Text.Split
import ChainHost.Text.Utf8

set_option autoImplicit false

namespace ChainHost.Config.Toml

/-- A reader of the front of a file. -/
abbrev Reader (α : Type) := Bytes → Option (α × Bytes)

/-! ## Blanks and lines -/

/-- Whether a byte is a space or a tab. -/
def isBlank (b : UInt8) : Bool := b == 32 || b == 9

/-- Whether a byte may stand in a text or in a comment as it is. -/
def isPlain (b : UInt8) : Bool := b == 9 || (b ≥ 32 && b != 127)

/-- Drops the blanks in front. -/
def skipBlanks (bytes : Bytes) : Bytes := bytes.dropWhile isBlank

/-- Drops the end of a line. -/
def newline? : Bytes → Option Bytes
  | 10 :: rest => some rest
  | 13 :: 10 :: rest => some rest
  | _ => none

/-- Drops a comment, up to the end of its line. -/
def skipComment (bytes : Bytes) : Bytes :=
  match bytes with
  | 35 :: rest => rest.dropWhile isPlain
  | _ => bytes

/-- Drops blanks and a comment and the end of the line, or of the file. -/
def endLine? (bytes : Bytes) : Option Bytes :=
  match skipComment (skipBlanks bytes) with
  | [] => some []
  | rest => newline? rest

/-! ## Texts -/

/-- The bytes of a character given by its number. -/
def character? (digits : List UInt8) : Option Bytes :=
  match digits.mapM Hex.digitValue? with
  | some ds =>
      let n := ds.foldl (fun n d => n * 16 + d) 0
      if n.isValidChar then some (String.utf8EncodeChar (Char.ofNat n)) else none
  | none => none

/-- Reads what follows a backslash. -/
def escape : Reader Bytes
  | 98 :: rest => some ([8], rest)
  | 116 :: rest => some ([9], rest)
  | 110 :: rest => some ([10], rest)
  | 102 :: rest => some ([12], rest)
  | 114 :: rest => some ([13], rest)
  | 34 :: rest => some ([34], rest)
  | 92 :: rest => some ([92], rest)
  | 117 :: rest =>
      if rest.length < 4 then none
      else (character? (rest.take 4)).map fun c => (c, rest.drop 4)
  | 85 :: rest =>
      if rest.length < 8 then none
      else (character? (rest.take 8)).map fun c => (c, rest.drop 8)
  | _ => none

/-- Reads a text between double quotes, after the first one.  Every step takes a
byte, so as much fuel as bytes is enough. -/
def basic : Nat → Reader Bytes
  | 0, _ => none
  | _, [] => none
  | fuel + 1, b :: rest =>
      if b = 34 then some ([], rest)
      else if b = 92 then
        match escape rest with
        | none => none
        | some (c, rest) => (basic fuel rest).map fun (more, rest) => (c ++ more, rest)
      else if isPlain b then (basic fuel rest).map fun (more, rest) => (b :: more, rest)
      else none

/-- Reads a text between single quotes, after the first one. -/
def literal : Reader Bytes
  | [] => none
  | b :: rest =>
      if b = 39 then some ([], rest)
      else if isPlain b then (literal rest).map fun (more, rest) => (b :: more, rest)
      else none

/-- Reads a text of several lines up to three quotes.  Up to two more quotes
before them belong to it.  In a text with escapes a backslash at the end of a
line drops all blanks and line ends up to the next character. -/
def multiline (quote : UInt8) (escapes : Bool) : Nat → Bool → Reader Bytes
  | 0, _, _ => none
  | _, _, [] => none
  | fuel + 1, skipping, b :: rest =>
      let again (front : Bytes) (rest : Bytes) : Option (Bytes × Bytes) :=
        (multiline quote escapes fuel false rest).map fun (more, rest) => (front ++ more, rest)
      if skipping && isBlank b then multiline quote escapes fuel true rest
      else
        match newline? (b :: rest) with
        | some rest => if skipping then multiline quote escapes fuel true rest else again [10] rest
        | none =>
            if b = quote then
              let quotes := ((b :: rest).take 5).takeWhile (· == quote)
              if quotes.length < 3 then again [b] rest
              else some (quotes.drop 3, (b :: rest).drop quotes.length)
            else if b = 92 && escapes then
              match newline? (skipBlanks rest) with
              | some rest => multiline quote escapes fuel true rest
              | none =>
                  match escape rest with
                  | none => none
                  | some (c, rest) => again c rest
            else if isPlain b then again [b] rest
            else none

/-- The text of bytes. -/
def textOf (bytes : Bytes) : String := String.ofList (Utf8.decodeLossy bytes)

/-- A text of several lines without the line end right after its quotes. -/
def lines (quote : UInt8) (escapes : Bool) (bytes : Bytes) : Option (Value × Bytes) :=
  let body := (newline? bytes).getD bytes
  (multiline quote escapes (body.length + 1) false body).map fun (s, rest) => (.text (textOf s), rest)

/-- Reads a text with its quotes. -/
def text : Reader Value
  | 34 :: 34 :: 34 :: rest => lines 34 true rest
  | 39 :: 39 :: 39 :: rest => lines 39 false rest
  | 34 :: rest => (basic (rest.length + 1) rest).map fun (s, rest) => (.text (textOf s), rest)
  | 39 :: rest => (literal rest).map fun (s, rest) => (.text (textOf s), rest)
  | _ => none

/-! ## Numbers -/

/-- The digits of a number without the underscores between them. -/
def digits? (isDigit : UInt8 → Bool) (bytes : Bytes) : Option Bytes :=
  let parts := Text.splitAt 95 bytes
  if parts.all fun part => part ≠ [] ∧ part.all isDigit then some parts.flatten else none

/-- Digits without a leading zero. -/
def whole? (bytes : Bytes) : Option Bytes :=
  (digits? Decimal.isDigit bytes).filter fun ds => ds.length = 1 ∨ ds.head? ≠ some 48

/-- A sign, if there is one, and what follows. -/
def splitSign (bytes : Bytes) : Bool × Bytes :=
  match bytes with
  | 43 :: rest => (false, rest)
  | 45 :: rest => (true, rest)
  | _ => (false, bytes)

/-- The number of digits to a base. -/
def inBase (base : Nat) (bytes : Bytes) : Option Nat :=
  let fits (b : UInt8) : Bool := (Hex.digitValue? b).any (· < base)
  (digits? fits bytes).map fun ds =>
    ds.foldl (fun n b => n * base + (Hex.digitValue? b).getD 0) 0

/-- The number of a text, if it is a whole one. -/
def wholeNumber? (bytes : Bytes) : Option Int :=
  match bytes with
  | 48 :: 120 :: rest => (inBase 16 rest).map Int.ofNat
  | 48 :: 111 :: rest => (inBase 8 rest).map Int.ofNat
  | 48 :: 98 :: rest => (inBase 2 rest).map Int.ofNat
  | _ =>
      let (negative, body) := splitSign bytes
      (whole? body).map fun ds =>
        if negative then -(Decimal.value ds : Int) else (Decimal.value ds : Int)

/-- The number of a text with a fraction or a power, as digits and a power of
ten. -/
def fraction? (bytes : Bytes) : Option (Nat × Int) :=
  let inside (b : UInt8) : Bool := Decimal.isDigit b || b == 95
  let (_, body) := splitSign bytes
  let front := body.takeWhile inside
  let afterFront := body.drop front.length
  let hasPoint := afterFront.head? == some 46
  let places := (afterFront.drop 1).takeWhile inside
  let places? := if hasPoint then digits? Decimal.isDigit places else some []
  let afterPlaces := if hasPoint then afterFront.drop (1 + places.length) else afterFront
  let power? : Option Int :=
    match afterPlaces with
    | [] => if hasPoint then some 0 else none
    | e :: power =>
        let (negative, power) := splitSign power
        if e = 101 ∨ e = 69 then
          (digits? Decimal.isDigit power).map fun ds =>
            if negative then -(Decimal.value ds : Int) else (Decimal.value ds : Int)
        else none
  match whole? front, places?, power? with
  | some front, some places, some power =>
      some (Decimal.value (front ++ places), power - places.length)
  | _, _, _ => none

/-! ## Dates -/

/-- The number of exactly so many digits. -/
def exactly? (count : Nat) (bytes : Bytes) : Option Nat :=
  (Decimal.natural? bytes).filter fun _ => bytes.length = count

/-- The days of a month. -/
def daysIn (year month : Nat) : Nat :=
  if month = 2 then
    if year % 4 = 0 ∧ (year % 100 ≠ 0 ∨ year % 400 = 0) then 29 else 28
  else if month ∈ [4, 6, 9, 11] then 30
  else 31

/-- Whether a text is a day. -/
def isDay (bytes : Bytes) : Bool :=
  match (Text.splitAt 45 bytes) with
  | [y, m, d] =>
      match exactly? 4 y, exactly? 2 m, exactly? 2 d with
      | some y, some m, some d => 1 ≤ m && m ≤ 12 && 1 ≤ d && d ≤ daysIn y m
      | _, _, _ => false
  | _ => false

/-- Whether a text is a number of two digits up to a limit. -/
def isPart (limit : Nat) (bytes : Bytes) : Bool := (exactly? 2 bytes).any (· ≤ limit)

/-- Whether a text is a time of day, with hours up to a limit. -/
def isTime (lastHour : Nat) (bytes : Bytes) : Bool :=
  match Text.splitAt 58 bytes with
  | [h, m, s] =>
      let seconds := match Text.splitAt 46 s with
        | [s] => isPart 60 s
        | [s, places] => isPart 60 s && (Decimal.natural? places).isSome
        | _ => false
      isPart lastHour h && isPart 59 m && seconds
  | _ => false

/-- The time of day before its zone, and the hours and minutes that the zone is
off, if the text ends with a zone. -/
def splitZone? (bytes : Bytes) : Option (Bytes × Nat × Nat) :=
  match bytes.reverse with
  | 90 :: rest => some (rest.reverse, 0, 0)
  | 122 :: rest => some (rest.reverse, 0, 0)
  | m0 :: m1 :: 58 :: h0 :: h1 :: sign :: rest =>
      if sign = 43 ∨ sign = 45 then
        match exactly? 2 [h1, h0], exactly? 2 [m1, m0] with
        | some h, some m => some (rest.reverse, h, m)
        | _, _ => none
      else none
  | _ => none

/-- Whether a text is a date, a time, or both.  `lastHour` and `zoneFits` bound
the hours of the day and what a zone is off. -/
def isDateWithin (lastHour : Nat) (zoneFits : Nat → Nat → Bool) (bytes : Bytes) : Bool :=
  let time := bytes.drop 11
  isTime lastHour bytes || isDay bytes ||
    (isDay (bytes.take 10)
      && ((bytes.drop 10).head?.any fun b => b == 84 || b == 116 || b == 32)
      && (isTime lastHour time
        || (splitZone? time).any fun (time, h, m) => isTime lastHour time && zoneFits h m))

/-- Whether a bare text is a date, a time, or both. -/
def isDate (bytes : Bytes) : Bool := isDateWithin 23 (fun h m => h ≤ 23 && m ≤ 59) bytes

/-- Whether a quoted text is a date, a time, or both.  The end of a day counts as
its hour 24, and a zone may be a whole day off. -/
def isDateText (bytes : Bytes) : Bool := isDateWithin 24 (fun h m => h * 60 + m ≤ 1440) bytes

/-! ## Bare values -/

/-- The bytes of bare values. -/
def isBare (b : UInt8) : Bool :=
  Decimal.isDigit b || (97 ≤ b && b ≤ 122) || (65 ≤ b && b ≤ 90)
    || b == 43 || b == 45 || b == 46 || b == 95 || b == 58

/-- What a bare text stands for. -/
def bare? (bytes : Bytes) : Option Value :=
  if bytes = Bytes.ofText "true" then some (.flag true)
  else if bytes = Bytes.ofText "false" then some (.flag false)
  else if (["inf", "nan"].map Bytes.ofText).contains (splitSign bytes).2 then some .null
  else
    match wholeNumber? bytes, fraction? bytes with
    | some n, _ => if -(2 ^ 63) ≤ n ∧ n < 2 ^ 63 then some (.integer n) else none
    | none, some (digits, power) =>
        if Double.isTooLarge digits power then none else some .fraction
    | none, none => if isDate bytes then some (.date (textOf bytes)) else none

/-- Reads a bare value.  A day may be followed by a blank and a time. -/
def bare (bytes : Bytes) : Option (Value × Bytes) :=
  let front := bytes.takeWhile isBare
  let rest := bytes.drop front.length
  match rest with
  | 32 :: d :: more =>
      if isDay front && Decimal.isDigit d then
        let time := (d :: more).takeWhile isBare
        (bare? (front ++ 32 :: time)).map fun v => (v, (d :: more).drop time.length)
      else (bare? front).map fun v => (v, rest)
  | _ => (bare? front).map fun v => (v, rest)

end ChainHost.Config.Toml
