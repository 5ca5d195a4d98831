/-
  Settings before anybody has asked for them.

  Layers of settings are merged from the bottom up: tables key by key, and
  everything else by the upper layer.
-/
import ChainHost.Json.Tree

set_option autoImplicit false

namespace ChainHost.Config

/-- A setting.  Of fractions only their kind matters, since no setting is one. -/
inductive Value where
  | text (s : String)
  | integer (n : Int)
  /-- A finite number with a fraction or a power. -/
  | fraction
  /-- What is no number, or no finite one. -/
  | null
  | flag (b : Bool)
  | list (elements : List Value)
  | table (entries : List (String × Value))
  deriving Repr, Inhabited

namespace Value

/-- The key under which a date stands in a table of its own. -/
def dateKey : String := "$__toml_private_datetime"

/-- A date.  It is merged like any table. -/
def date (text : String) : Value := table [(dateKey, .text text)]

/-- The setting under a key of a table. -/
def get? (v : Value) (key : String) : Option Value :=
  match v with
  | table entries => entries.lookup key
  | _ => none

mutual
/-- The setting that is left of a lower and an upper layer. -/
def merge (lower upper : Value) : Value :=
  match upper with
  | table upper =>
      match lower with
      | table lower => table (mergeEntries lower upper)
      | _ => table upper
  | other => other

/-- The entries that are left of a lower and an upper table. -/
def mergeEntries (lower : List (String × Value)) :
    List (String × Value) → List (String × Value)
  | [] => lower
  | (key, v) :: rest =>
      let merged := match lower.lookup key with
        | some old => merge old v
        | none => v
      mergeEntries ((lower.filter fun e => e.1 != key) ++ [(key, merged)]) rest
end

mutual
/-- The setting as a document. -/
def toJson : Value → Json
  | text s => Json.ofText s
  | integer n => if n < 0 then .number (45 :: Decimal.digits n.natAbs) else Json.ofNat n.toNat
  | fraction => .number (Bytes.ofText "0.5")
  | null => .null
  | flag b => .flag b
  | list elements => .array (elementsToJson elements)
  | table entries => .object (entriesToJson entries)

/-- Each element as a document. -/
def elementsToJson : List Value → List Json
  | [] => []
  | v :: rest => toJson v :: elementsToJson rest

/-- Each entry with its value as a document. -/
def entriesToJson : List (String × Value) → List (Bytes × Json)
  | [] => []
  | (key, v) :: rest => (Json.Literal.escape key, toJson v) :: entriesToJson rest
end

end Value

end ChainHost.Config
