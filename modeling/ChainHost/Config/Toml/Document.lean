/-
  Configuration files in TOML.

  A file is read into statements: headers, and keys with their values.  Building
  the tables then refuses what defines anything twice, or opens again what is
  closed, and tables that pretend to be dates.
-/
import ChainHost.Config.Toml.Scalar

set_option autoImplicit false

namespace ChainHost.Config.Toml

/-! ## Keys and values -/

/-- The bytes of bare keys. -/
def isKeyByte (b : UInt8) : Bool :=
  Decimal.isDigit b || (97 ≤ b && b ≤ 122) || (65 ≤ b && b ≤ 90) || b == 45 || b == 95

/-- Reads one step of a key. -/
def keyStep : Reader String
  | 34 :: rest => (basic (rest.length + 1) rest).map fun (k, rest) => (textOf k, rest)
  | 39 :: rest => (literal rest).map fun (k, rest) => (textOf k, rest)
  | bytes =>
      match bytes.takeWhile isKeyByte with
      | [] => none
      | k => some (textOf k, bytes.drop k.length)

/-- How many steps a key may have, and how deep arrays and inline tables may
nest. -/
def depthLimit : Nat := 79

/-- Reads the steps of a key, with points between them and blanks around it. -/
def keySteps : Nat → Reader (List String)
  | 0, _ => none
  | room + 1, bytes =>
      match keyStep (skipBlanks bytes) with
      | none => none
      | some (step, rest) =>
          match skipBlanks rest with
          | 46 :: rest => (keySteps room rest).map fun (more, rest) => (step :: more, rest)
          | rest => some ([step], rest)

/-- Reads a key. -/
def keyPath : Reader (List String) := keySteps depthLimit

/-- Drops blanks, line ends and comments. -/
def skipLines : Nat → Bytes → Bytes
  | 0, bytes => bytes
  | fuel + 1, bytes =>
      let rest := skipComment (skipBlanks bytes)
      match newline? rest with
      | some rest => skipLines fuel rest
      | none => rest

/-! ## Inline tables -/

/-- A table that is being built inside a value. -/
inductive Inline where
  | value (v : Value)
  /-- A table that only dotted keys have made so far. -/
  | dotted (entries : List (String × Inline))
  deriving Inhabited

/-- Puts a value under a path.  A key is given once, and only dotted keys extend
a table. -/
def putInline : List String → Value → List (String × Inline) → Option (List (String × Inline))
  | [], _, _ => none
  | [key], v, entries =>
      if entries.any (·.1 == key) then none else some (entries ++ [(key, .value v)])
  | key :: path, v, entries =>
      match entries.lookup key with
      | none => (putInline path v []).map fun inner => entries ++ [(key, .dotted inner)]
      | some (.value _) => none
      | some (.dotted inner) =>
          (putInline path v inner).map fun inner =>
            entries.map fun e => if e.1 == key then (key, .dotted inner) else e

mutual
/-- The setting of a finished table. -/
def Inline.close : Inline → Value
  | .value v => v
  | .dotted entries => .table (closeEntries entries)

/-- The entries of a finished inline table. -/
def closeEntries : List (String × Inline) → List (String × Value)
  | [] => []
  | (key, v) :: rest => (key, v.close) :: closeEntries rest
end

mutual
/-- Reads a value where `room` more arrays or inline tables may open.  Every step
takes a byte, so as much fuel as bytes is enough. -/
def value : Nat → Nat → Reader Value
  | 0, _, _ => none
  | fuel + 1, room, bytes =>
      match bytes with
      | 91 :: rest =>
          if room = 0 then none
          else (arrayTail fuel (room - 1) (skipLines fuel rest)).map fun (vs, rest) => (.list vs, rest)
      | 123 :: rest =>
          if room = 0 then none
          else
            match skipBlanks rest with
            | 125 :: rest => some (.table [], rest)
            | rest =>
                (inlineTail fuel (room - 1) [] rest).map fun (entries, rest) =>
                  (.table (closeEntries entries), rest)
      | 34 :: _ => text bytes
      | 39 :: _ => text bytes
      | _ => bare bytes

/-- Reads the elements of an array up to its end. -/
def arrayTail : Nat → Nat → Reader (List Value)
  | 0, _, _ => none
  | fuel + 1, room, bytes =>
      match bytes with
      | 93 :: rest => some ([], rest)
      | _ =>
          match value fuel room bytes with
          | none => none
          | some (v, rest) =>
              match skipLines fuel rest with
              | 44 :: rest =>
                  (arrayTail fuel room (skipLines fuel rest)).map fun (vs, rest) => (v :: vs, rest)
              | 93 :: rest => some ([v], rest)
              | _ => none

/-- Reads the entries of an inline table up to its end. -/
def inlineTail : Nat → Nat → List (String × Inline) → Reader (List (String × Inline))
  | 0, _, _, _ => none
  | fuel + 1, room, entries, bytes =>
      match keyPath bytes with
      | some (path, 61 :: rest) =>
          match value fuel room (skipBlanks rest) with
          | none => none
          | some (v, rest) =>
              match putInline path v entries, skipBlanks rest with
              | some entries, 44 :: rest => inlineTail fuel room entries rest
              | some entries, 125 :: rest => some (entries, rest)
              | _, _ => none
      | _ => none
end

/-! ## Statements -/

/-- A line of a file that says something. -/
inductive Statement where
  /-- A header in one pair of brackets opens a table. -/
  | header (path : List String)
  /-- A header in two pairs of brackets appends a table to an array. -/
  | element (path : List String)
  | assign (path : List String) (v : Value)

/-- Reads one statement up to the end of its line. -/
def statement (fuel : Nat) : Reader Statement
  | 91 :: 91 :: rest =>
      match keyPath rest with
      | some (path, 93 :: 93 :: rest) => (endLine? rest).map fun rest => (.element path, rest)
      | _ => none
  | 91 :: rest =>
      match keyPath rest with
      | some (path, 93 :: rest) => (endLine? rest).map fun rest => (.header path, rest)
      | _ => none
  | bytes =>
      match keyPath bytes with
      | some (path, 61 :: rest) =>
          match value fuel depthLimit (skipBlanks rest) with
          | some (v, rest) => (endLine? rest).map fun rest => (.assign path v, rest)
          | none => none
      | _ => none

/-- Reads the statements of a file. -/
def statements : Nat → Bytes → Option (List Statement)
  | 0, _ => none
  | fuel + 1, bytes =>
      match skipLines fuel bytes with
      | [] => some []
      | rest =>
          match statement fuel rest with
          | none => none
          | some (s, rest) => (statements fuel rest).map (s :: ·)

/-! ## Tables -/

/-- What made a table. -/
inductive Origin where
  /-- A header of its own. -/
  | header
  /-- The header of a table inside it. -/
  | implied
  /-- A dotted key. -/
  | dotted
  deriving DecidableEq, Repr

/-- What stands under a key. -/
inductive Node where
  | value (v : Value)
  | table (origin : Origin) (entries : List (String × Node))
  /-- An array of tables, the last one first. -/
  | tables (elements : List (List (String × Node)))
  deriving Inhabited

/-- The entries with another node under a key. -/
def replace (key : String) (node : Node) (entries : List (String × Node)) :
    List (String × Node) :=
  if entries.any (·.1 == key) then
    entries.map fun e => if e.1 == key then (key, node) else e
  else entries ++ [(key, node)]

/-- Changes the table under a path of headers.  Tables on the way are implied;
the last table of an array stands for the array. -/
def atPath (change : List (String × Node) → Option (List (String × Node))) :
    List String → List (String × Node) → Option (List (String × Node))
  | [], entries => change entries
  | key :: path, entries =>
      match entries.lookup key with
      | none =>
          (atPath change path []).map fun inner => replace key (.table .implied inner) entries
      | some (.value _) => none
      | some (.table origin inner) =>
          (atPath change path inner).map fun inner => replace key (.table origin inner) entries
      | some (.tables []) => none
      | some (.tables (last :: rest)) =>
          (atPath change path last).map fun last => replace key (.tables (last :: rest)) entries

/-- Opens a table.  One that a header has opened, or dotted keys have made, is
not opened again. -/
def openTable (key : String) (entries : List (String × Node)) : Option (List (String × Node)) :=
  match entries.lookup key with
  | none => some (replace key (.table .header []) entries)
  | some (.table .implied inner) => some (replace key (.table .header inner) entries)
  | _ => none

/-- Appends a table to an array of tables. -/
def openElement (key : String) (entries : List (String × Node)) :
    Option (List (String × Node)) :=
  match entries.lookup key with
  | none => some (replace key (.tables [[]]) entries)
  | some (.tables elements) => some (replace key (.tables ([] :: elements)) entries)
  | _ => none

/-- Puts a value under a dotted key of a table that `takes` values or does not.
A dotted key leads through tables that dotted keys have made or headers have
implied, but only the former take values. -/
def put (takes : Bool) :
    List String → Value → List (String × Node) → Option (List (String × Node))
  | [], _, _ => none
  | [key], v, entries =>
      if !takes || entries.any (·.1 == key) then none else some (replace key (.value v) entries)
  | key :: path, v, entries =>
      match entries.lookup key with
      | none => (put true path v []).map fun inner => replace key (.table .dotted inner) entries
      | some (.table .dotted inner) =>
          (put true path v inner).map fun inner => replace key (.table .dotted inner) entries
      | some (.table .implied inner) =>
          (put false path v inner).map fun inner => replace key (.table .implied inner) entries
      | _ => none

/-- The tables after a statement, and the path of the open table. -/
def build (current : List String) (entries : List (String × Node)) :
    Statement → Option (List String × List (String × Node))
  | .header path =>
      match path.getLast? with
      | none => none
      | some key => (atPath (openTable key) path.dropLast entries).map fun es => (path, es)
  | .element path =>
      match path.getLast? with
      | none => none
      | some key => (atPath (openElement key) path.dropLast entries).map fun es => (path, es)
  | .assign path v => (atPath (put true path v) current entries).map fun es => (current, es)

mutual
/-- The setting of a node. -/
def Node.close : Node → Value
  | .value v => v
  | .table _ entries => .table (closeNodes entries)
  | .tables elements => .list (closeTables elements).reverse

/-- The entries of a finished table. -/
def closeNodes : List (String × Node) → List (String × Value)
  | [] => []
  | (key, node) :: rest => (key, node.close) :: closeNodes rest

/-- The elements of a finished array of tables. -/
def closeTables : List (List (String × Node)) → List Value
  | [] => []
  | entries :: rest => .table (closeNodes entries) :: closeTables rest
end

/-! ## Dates -/

/-- The entry with the least key. -/
def least? : List (String × Value) → Option (String × Value)
  | [] => none
  | e :: rest =>
      match least? rest with
      | some least => if least.1 < e.1 then some least else some e
      | none => some e

/-- Whether a table is marked as a date: by its least key. -/
def isMarked (entries : List (String × Value)) : Bool :=
  (least? entries).any fun e => e.1 == Value.dateKey

/-- Whether a table that is marked as a date holds one. -/
def holdsDate (entries : List (String × Value)) : Bool :=
  match entries.lookup Value.dateKey with
  | some (.text date) => isDateText (Bytes.ofText date)
  | _ => false

mutual
/-- Whether all tables that are marked as dates hold one.  What else they hold
does not count. -/
def isDated : Value → Bool
  | .table entries => if isMarked entries then holdsDate entries else areDatedEntries entries
  | .list elements => areDated elements
  | _ => true

/-- Whether it is so in each element. -/
def areDated : List Value → Bool
  | [] => true
  | v :: rest => isDated v && areDated rest

/-- Whether it is so under each key. -/
def areDatedEntries : List (String × Value) → Bool
  | [] => true
  | (_, v) :: rest => isDated v && areDatedEntries rest
end

/-! ## Files -/

/-- Reads a file. -/
def read? (text : String) : Option Value :=
  let bytes := Bytes.ofText text
  let bytes := (Bytes.dropText? "\uFEFF" bytes).getD bytes
  match statements (bytes.length + 2) bytes with
  | none => none
  | some lines =>
      let built := lines.foldlM (fun (path, entries) s => build path entries s)
        (([], []) : List String × List (String × Node))
      (built.map fun (_, entries) => .table (closeNodes entries)).filter isDated

end ChainHost.Config.Toml
