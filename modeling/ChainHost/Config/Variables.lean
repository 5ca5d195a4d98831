/-
  Settings from environment variables.

  A variable whose name starts with `ABCI_`, in any case, sets the key that
  follows; two underscores lead into a table.  The last variable for a key
  counts, with all that is in its table.  The text of a variable is a number, a
  truth value, a quoted text, a list, a table or, failing all that, itself.  A
  text with commas is a list of texts.
-/
import ChainHost.Config.Value
import ChainHost.Text.Blank
import ChainHost.Text.Double
import ChainHost.Text.Split

set_option autoImplicit false

namespace ChainHost.Config.Variables

open Text (trim)

/-- A reader of the front of a text. -/
abbrev Reader (α : Type) := List Char → Option (α × List Char)

/-! ## Texts of variables -/

/-- The characters that may stand around a value: the blanks of ASCII. -/
def isSpace (c : Char) : Bool := c ∈ [' ', '\t', '\n', '\x0c', '\r']

/-- The characters that end a bare value. -/
def isSeparator (c : Char) : Bool := c ∈ [',', '\x7b', '\x7d', '[', ']']

/-- The characters that a bare key is made of. -/
def isNameChar (c : Char) : Bool := c.isAlphanum || c == '_' || c == '-'

/-- The character that a letter stands for after a backslash. -/
def escaped? : Char → Option Char
  | '"' => some '"'
  | '\\' => some '\\'
  | 'b' => some '\x08'
  | 'f' => some '\x0c'
  | 'n' => some '\n'
  | 'r' => some '\r'
  | 't' => some '\t'
  | _ => none

/-- The character of some hexadecimal digits. -/
def codePoint? (digits : List Char) : Option Char :=
  match digits.mapM fun c => if c.toNat < 128 then Hex.digitValue? (UInt8.ofNat c.toNat) else none with
  | some ds =>
      let n := ds.foldl (fun n d => n * 16 + d) 0
      if n.isValidChar then some (Char.ofNat n) else none
  | none => none

/-- Whether a character may stand in a quoted text as it is. -/
def isPlain (c : Char) : Bool := c == '\t' || (' ' ≤ c && c != '\x7f')

/-- Reads a text up to its closing quote. -/
def quoted : List Char → Option (List Char × List Char)
  | [] => none
  | '"' :: rest => some ([], rest)
  | '\\' :: 'u' :: a :: b :: c :: d :: rest =>
      match codePoint? [a, b, c, d], quoted rest with
      | some c, some (more, rest) => some (c :: more, rest)
      | _, _ => none
  | '\\' :: 'U' :: a :: b :: c :: d :: e :: f :: g :: h :: rest =>
      match codePoint? [a, b, c, d, e, f, g, h], quoted rest with
      | some c, some (more, rest) => some (c :: more, rest)
      | _, _ => none
  | '\\' :: e :: rest =>
      match escaped? e, quoted rest with
      | some c, some (more, rest) => some (c :: more, rest)
      | _, _ => none
  | c :: rest =>
      if isPlain c then (quoted rest).map fun (more, rest) => (c :: more, rest) else none

/-- Drops the sign of a number. -/
def dropSign (cs : List Char) : List Char :=
  match cs with
  | '+' :: rest => rest
  | '-' :: rest => rest
  | _ => cs

/-- The number of a text with a point, as digits and a power of ten. -/
def fraction? (cs : List Char) : Option (Nat × Int) :=
  let body := dropSign cs
  let whole := body.takeWhile Char.isDigit
  let rest := body.drop whole.length
  match rest with
  | '.' :: rest =>
      let places := rest.takeWhile Char.isDigit
      let number (ds : List Char) : Nat := Decimal.value (Bytes.ofText (String.ofList ds))
      let scaled (power : Int) : Option (Nat × Int) :=
        if whole.isEmpty && places.isEmpty then none
        else some (number (whole ++ places), power - places.length)
      match rest.drop places.length with
      | [] => scaled 0
      | e :: power =>
          let digits := dropSign power
          if (e = 'e' ∨ e = 'E') ∧ digits ≠ [] ∧ digits.all Char.isDigit then
            scaled (if power.head? = some '-' then -(number digits : Int) else (number digits : Int))
          else none
  | _ => none

/-- What a bare text stands for. -/
def bare (cs : List Char) : Value :=
  let text := String.ofList cs
  match fraction? cs with
  | some (digits, power) => if Double.isTooLarge digits power then .null else .fraction
  | none =>
    match Decimal.word? (Bytes.ofText text) with
    | some n => .integer n.toNat
    | none =>
        match cs with
        | '-' :: digits =>
            match Decimal.natural? (Bytes.ofText (String.ofList digits)) with
            | some n => if n ≤ 2 ^ 63 then .integer (-(n : Int)) else .text text
            | none => .text text
        | _ => .text text

/-- Takes a word from the front of a text. -/
def dropWord? (word : List Char) (cs : List Char) : Option (List Char) :=
  if cs.take word.length = word then some (cs.drop word.length) else none

/-- Reads the key of an entry. -/
def key : Reader String := fun cs =>
  match cs with
  | '"' :: rest => (quoted rest).map fun (k, rest) => (String.ofList k, rest)
  | _ =>
      match cs.takeWhile isNameChar with
      | [] => none
      | name => some (String.ofList name, cs.drop name.length)

/-- A table in which the last of several entries of a key counts. -/
def tableOf (entries : List (String × Value)) : Value :=
  .table (entries.foldl (fun acc e => acc.filter (·.1 != e.1) ++ [e]) [])

mutual
/-- Reads a value and the blanks around it.  Each level of nesting takes at
least one character, so as much fuel as characters is enough. -/
def value : Nat → Reader Value
  | 0, _ => none
  | fuel + 1, cs =>
      let cs := cs.dropWhile isSpace
      let read : Option (Value × List Char) :=
        match dropWord? "true".toList cs, dropWord? "false".toList cs with
        | some rest, _ => some (.flag true, rest)
        | _, some rest => some (.flag false, rest)
        | none, none =>
            match cs with
            | '\x7b' :: rest => (entries fuel rest).map fun (es, rest) => (tableOf es, rest)
            | '[' :: rest => (elements fuel rest).map fun (vs, rest) => (.list vs, rest)
            | '"' :: rest => (quoted rest).map fun (s, rest) => (.text (String.ofList s), rest)
            | '\'' :: c :: '\'' :: rest => some (.text (String.ofList [c]), rest)
            | '\'' :: _ => none
            | _ =>
                let run := cs.takeWhile fun c => !isSeparator c
                some (bare (trim run), cs.drop run.length)
      read.map fun (v, rest) => (v, rest.dropWhile isSpace)

/-- Reads the elements of a list up to its end. -/
def elements : Nat → Reader (List Value)
  | 0, _ => none
  | fuel + 1, cs =>
      match cs with
      | ']' :: rest => some ([], rest)
      | _ =>
          match value fuel cs with
          | none => none
          | some (v, ',' :: rest) => (elements fuel rest).map fun (vs, rest) => (v :: vs, rest)
          | some (v, ']' :: rest) => some ([v], rest)
          | some _ => none

/-- Reads the entries of a table up to its end. -/
def entries : Nat → Reader (List (String × Value))
  | 0, _ => none
  | fuel + 1, cs =>
      match cs with
      | '\x7d' :: rest => some ([], rest)
      | _ =>
          match key (cs.dropWhile isSpace) with
          | none => none
          | some (k, rest) =>
              match rest.dropWhile isSpace with
              | '=' :: rest =>
                  match value fuel rest with
                  | none => none
                  | some (v, ',' :: rest) =>
                      (entries fuel rest).map fun (es, rest) => ((k, v) :: es, rest)
                  | some (v, '\x7d' :: rest) => some ([(k, v)], rest)
                  | some _ => none
              | _ => none
end

/-- Whether a text is a plain list: it has commas and does not start like a
list, a table or a quoted text. -/
def isPlainList (cs : List Char) : Bool :=
  cs.contains ',' && !(cs.head?.any fun c => c ∈ ['[', '\x7b', '"', '\''])

/-- What the text of a variable stands for.  Truth values may be written in any
case. -/
def read (text : String) : Value :=
  let cs := trim text.toList
  let name := String.ofList (cs.map Char.toLower)
  if name = "true" then .flag true
  else if name = "false" then .flag false
  else if isPlainList cs then
    .list ((Text.splitAt ',' cs).map fun part => .text (String.ofList (trim part)))
  else
    match value (2 * cs.length + 2) cs with
    | some (v, []) => v
    | _ => .text (String.ofList cs)

/-! ## Names of variables -/

/-- The characters of a name with a point for every two underscores. -/
def parted : List Char → List Char
  | '_' :: '_' :: rest => '.' :: parted rest
  | c :: rest => c :: parted rest
  | [] => []

/-- The steps of the key that a variable sets, in lower case.  Points and two
underscores part them; a name with an empty step sets nothing. -/
def steps? (name : String) : Option (List String) :=
  let cs := (trim name.toList).map Char.toLower
  if cs.take 5 = "abci_".toList then
    let steps := Text.splitAt '.' (trim (parted (cs.drop 5)))
    if [] ∈ steps then none else some (steps.map String.ofList)
  else none

/-- The value under a key of some steps. -/
def nest (path : List String) (v : Value) : Value :=
  path.foldr (fun step v => .table [(step, v)]) v

/-- The settings after one more variable. -/
def set (entries : List (String × Value)) (name text : String) : List (String × Value) :=
  match steps? name with
  | some (key :: path) =>
      entries.filter (fun e => e.1 != key) ++ [(key, nest path (read text))]
  | _ => entries

/-- The settings of all variables, from the first to the last. -/
def layer (settings : List (String × String)) : Value :=
  .table (settings.foldl (fun entries (name, text) => set entries name text) [])

end ChainHost.Config.Variables
