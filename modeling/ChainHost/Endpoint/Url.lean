/-
  Absolute URLs.

  The special schemes of the web and of files have hosts of their own kind; all
  others are read alike.  After `//` come user information, host and port, and
  then the path, in which dot segments are resolved.  Without a slash the path
  is taken as it is.  The path keeps its percent escapes.
-/
import ChainHost.Domain.Name
import ChainHost.Endpoint.Ipv4
import ChainHost.Endpoint.Ipv6
import ChainHost.Text.Percent

set_option autoImplicit false

namespace ChainHost

/-- The parts of a URL that name a place. -/
structure Url where
  scheme : Bytes
  /-- The host as it is written back.  An address of groups stands in brackets,
  and a name of a special scheme is in UTF-8. -/
  host : Option Bytes := none
  port : Option Nat := none
  path : Bytes := []
  deriving DecidableEq, Repr

namespace Url

/-- Why a text is no URL. -/
inductive Fault where
  | relative
  | emptyHost
  | badPort
  | badDomainCharacter
  | badDomain
  | badIpv4
  | badIpv6
  deriving DecidableEq, Repr

/-- The words for a fault. -/
def Fault.message : Fault → String
  | relative => "relative URL without a base"
  | emptyHost => "empty host"
  | badPort => "invalid port number"
  | badDomainCharacter => "invalid domain character"
  | badDomain => "invalid international domain name"
  | badIpv4 => "invalid IPv4 address"
  | badIpv6 => "invalid IPv6 address"

/-! ## The text -/

/-- Drops control characters and blanks at both ends, and tabs and line ends
everywhere. -/
def clean (text : Bytes) : Bytes :=
  let outer := text.dropWhile (· ≤ 32)
  let inner := (outer.reverse.dropWhile (· ≤ 32)).reverse
  inner.filter fun b => b ≠ 9 ∧ b ≠ 10 ∧ b ≠ 13

/-- Whether a byte is an ASCII letter. -/
def isLetter (b : UInt8) : Bool := (65 ≤ b && b ≤ 90) || (97 ≤ b && b ≤ 122)

/-- The small letter of a capital one; any other byte stays as it is. -/
def lower (b : UInt8) : UInt8 := if 65 ≤ b ∧ b ≤ 90 then b + 32 else b

/-- Whether a byte may follow the first letter of a scheme. -/
def isSchemeByte (b : UInt8) : Bool :=
  isLetter b || Decimal.isDigit b || b == 43 || b == 45 || b == 46

/-- The scheme before the colon, in lower case, and what follows. -/
def scheme? (text : Bytes) : Option (Bytes × Bytes) :=
  let front := text.takeWhile isSchemeByte
  match front, text.drop front.length with
  | first :: _, 58 :: rest => if isLetter first then some (front.map lower, rest) else none
  | _, _ => none

/-- The special schemes that need a host; `file` is read apart. -/
def webSchemes : List Bytes := ["http", "https", "ws", "wss", "ftp"].map Bytes.ofText

/-- Whether a byte is a slash of either kind. -/
def isSlash (b : UInt8) : Bool := b == 47 || b == 92

/-- Whether a byte ends an authority. -/
def endsAuthority (special : Bool) (b : UInt8) : Bool :=
  b == 47 || b == 63 || b == 35 || (special && b == 92)

/-! ## Authorities -/

/-- Whether user information says anything: more than colons without a name. -/
def namesUser (info : Bytes) : Bool :=
  match info with
  | [] => false
  | [58] => false
  | _ => true

/-- What stands after the last `@` of an authority, and whether a user is named
before it. -/
def dropUser (special : Bool) (text : Bytes) : Except Fault (Bool × Bytes) :=
  let authority := text.takeWhile fun b => !endsAuthority special b
  let afterLast := (authority.reverse.takeWhile (· ≠ 64)).reverse
  if afterLast.length = authority.length then .ok (false, text)
  else
    let info := authority.take (authority.length - afterLast.length - 1)
    let rest := text.drop (info.length + 1)
    match info, rest with
    | [], b :: _ => if endsAuthority special b then .error .emptyHost else .ok (false, rest)
    | _, _ => .ok (namesUser info, rest)

/-- The host in front of a port or the end of the authority.  Inside brackets a
colon is part of it. -/
def hostText (special : Bool) : Bool → Bytes → Bytes
  | _, [] => []
  | inBrackets, b :: rest =>
      if endsAuthority special b || (b == 58 && !inBrackets) then []
      else b :: hostText special (if b = 91 then true else if b = 93 then false else inBrackets) rest

/-- The bytes that no host may hold. -/
def isForbidden (b : UInt8) : Bool :=
  b ∈ [0, 9, 10, 13, 32, 35, 47, 58, 60, 62, 63, 64, 91, 92, 93, 94, 124]

/-- An address in brackets. -/
def bracketed? (text : Bytes) : Except Fault Bytes :=
  match text.drop 1 |>.reverse with
  | 93 :: inner =>
      match Ipv6.read? inner.reverse with
      | some groups => .ok (91 :: Ipv6.write groups ++ [93])
      | none => .error .badIpv6
  | _ => .error .badIpv6

/-- The host of a scheme that is not special: a name is kept, with escapes for
what is not plain. -/
def plainHost (text : Bytes) : Except Fault Bytes :=
  if text.head? = some 91 then bracketed? text
  else if text.any isForbidden then .error .badDomainCharacter
  else .ok (Percent.encode text)

/-- The host of a special scheme: an address or a name. -/
def specialHost (text : Bytes) : Except Fault Bytes :=
  if text.head? = some 91 then bracketed? text
  else
    match Domain.read? (Percent.decode text) with
    | none => .error .badDomain
    | some labels =>
        let name := Domain.write labels
        if name = [] then .error .emptyHost
        else if Ipv4.isAddress name then
          match Ipv4.read? name with
          | some address => .ok (Ipv4.write address)
          | none => .error .badIpv4
        else .ok name

/-- The port after a colon, if there are digits, and what follows. -/
def readPort (text : Bytes) : Except Fault (Option Nat × Bytes) :=
  let digits := text.takeWhile Decimal.isDigit
  let rest := text.drop digits.length
  let ends := match rest with
    | [] => true
    | b :: _ => endsAuthority true b
  if Decimal.value digits > 65535 ∨ !ends then .error .badPort
  else .ok (if digits = [] then none else some (Decimal.value digits), rest)

/-- The host and the port of an authority, and what follows. -/
def readHost (special : Bool) (text : Bytes) :
    Except Fault (Option Bytes × Option Nat × Bytes) := do
  let written := hostText special false text
  let rest := text.drop written.length
  let host ← if special then specialHost written else plainHost written
  match rest with
  | 58 :: rest =>
      if host = [] then .error .emptyHost
      else
        let (port, rest) ← readPort rest
        .ok (some host, port, rest)
  | _ => .ok (if host = [] then none else some host, none, rest)

/-! ## Paths -/

/-- Whether a segment stands for its own directory. -/
def isDot (segment : Bytes) : Bool :=
  let plain := segment.map lower
  plain == [46] || plain == [37, 50, 101]

/-- Whether a segment stands for the directory above. -/
def isDoubleDot (segment : Bytes) : Bool :=
  let plain := segment.map lower
  plain == [46, 46] || plain == [46, 37, 50, 101] || plain == [37, 50, 101, 46]
    || plain == [37, 50, 101, 37, 50, 101]

/-- Whether a segment is a drive, which no directory is above. -/
def isDrive (segment : Bytes) : Bool :=
  match segment with
  | letter :: mark :: rest =>
      isLetter letter && (mark == 58 || mark == 124) && (rest.isEmpty || rest.head? == some 92)
  | _ => false

/-- The directories without the last one, unless it is a drive; the last one
stands first. -/
def ascend (done : List Bytes) : List Bytes :=
  match done with
  | last :: rest => if isDrive last then last :: rest else rest
  | [] => []

/-- The path of some segments, after the directories before them. -/
def resolve : List Bytes → List Bytes → Bytes
  | done, [] => directories done
  | done, [last] =>
      if isDoubleDot last then directories (ascend done)
      else if isDot last then directories done
      else directories done ++ last
  | done, segment :: rest =>
      if isDoubleDot segment then resolve (ascend done) rest
      else if isDot segment then resolve done rest
      else resolve (segment :: done) rest
where
  /-- A path of directories, the last one first. -/
  directories (done : List Bytes) : Bytes :=
    47 :: done.reverse.flatMap fun segment => segment ++ [47]

/-- The text before a query or a fragment. -/
def beforeQuery (text : Bytes) : Bytes := text.takeWhile fun b => b ≠ 63 ∧ b ≠ 35

/-- The path after a leading slash. -/
def rootedPath (text : Bytes) : Bytes := resolve [] (Text.splitAt 47 (beforeQuery text))

/-- The path after an authority. -/
def pathAfterHost (text : Bytes) : Bytes :=
  match beforeQuery text with
  | [] => []
  | 47 :: rest => rootedPath rest
  | other => rootedPath other

/-! ## Reading -/

/-- The URL of a scheme and what follows two slashes. -/
def readAuthority (special : Bool) (scheme text : Bytes) : Except Fault Url := do
  let (user, text) ← dropUser special text
  let (host, port, rest) ← readHost special text
  if host.isNone && user then .error .emptyHost
  else .ok { scheme, host, port, path := pathAfterHost rest }

/-- The host of a file, if one is named; a drive is part of the path. -/
def fileHost (text : Bytes) : Except Fault (Option Bytes) :=
  let written := text.takeWhile fun b => !endsAuthority true b
  if written = [] ∨ isDrive written then .ok none else (specialHost written).map some

/-- The URL of a file: what follows the colon.  Of its place only the host is
kept. -/
def readFile (scheme text : Bytes) : Except Fault Url :=
  match text with
  | first :: second :: rest =>
      if isSlash first ∧ isSlash second then
        (fileHost rest).map fun host => { scheme, host }
      else .ok { scheme }
  | _ => .ok { scheme }

/-- Reads a URL. -/
def read (text : Bytes) : Except Fault Url :=
  match scheme? (clean text) with
  | none => .error .relative
  | some (scheme, rest) =>
      if scheme = Bytes.ofText "file" then readFile scheme rest
      else if scheme ∈ webSchemes then readAuthority true scheme (rest.dropWhile isSlash)
      else
        match rest with
        | 47 :: 47 :: rest => readAuthority false scheme rest
        | 47 :: rest => .ok { scheme, path := rootedPath rest }
        | rest => .ok { scheme, path := beforeQuery rest }

end Url

end ChainHost
