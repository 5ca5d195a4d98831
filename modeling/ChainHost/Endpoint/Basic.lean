/-
  Endpoints: where a server listens.

  An endpoint is written and read as a URL, `unix://path` or `tcp://host:port`.
  In documents it may also be a table with its transport beside its fields.
-/
import ChainHost.Endpoint.Url
import ChainHost.Json.Format

set_option autoImplicit false

namespace ChainHost

/-- Where a server listens. -/
inductive Endpoint where
  | unix (path : String)
  | tcp (host : String) (port : UInt16)
  deriving DecidableEq, Repr

namespace Endpoint

/-- The endpoint as a URL.  What a path or a host holds is not escaped. -/
def display : Endpoint → String
  | unix path => "unix://" ++ path
  | tcp host port => "tcp://" ++ host ++ ":" ++ toString port.toNat

/-- The path of the socket, if the endpoint has one. -/
def unixPath? : Endpoint → Option String
  | unix path => some path
  | tcp _ _ => none

/-! ## As URLs -/

/-- Why a text is no endpoint. -/
inductive Fault where
  | unsupportedScheme (scheme : String)
  | missingHost (text : String)
  | missingPort (text : String)
  | missingPath (text : String)
  /-- The path is no text. -/
  | invalidPath (text : String)
  | url (fault : Url.Fault)
  deriving DecidableEq, Repr

/-- The words for a fault. -/
def Fault.message : Fault → String
  | unsupportedScheme scheme => "unsupported socket scheme '" ++ scheme ++ "'"
  | missingHost text => "missing TCP host in '" ++ text ++ "'"
  | missingPort text => "missing TCP port in '" ++ text ++ "'"
  | missingPath text => "missing Unix socket path in '" ++ text ++ "'"
  | invalidPath text => "Unix socket path in '" ++ text ++ "' is not valid UTF-8"
  | url fault => fault.message

/-- The text of bytes that are known to be ASCII or UTF-8. -/
def textOf (bytes : Bytes) : String := String.ofList (Utf8.decodeLossy bytes)

/-- A host without the brackets of an address. -/
def bareHost (host : Bytes) : Bytes :=
  ((host.dropWhile (· == 91)).reverse.dropWhile (· == 93)).reverse

/-- The endpoint of a URL that was read from `text`. -/
def ofUrl (text : String) (url : Url) : Except Fault Endpoint :=
  if url.scheme = Bytes.ofText "unix" then
    match Utf8.decode? (Percent.decode url.path) with
    | none => .error (.invalidPath text)
    | some path => if path = "" ∨ path = "/" then .error (.missingPath text) else .ok (unix path)
  else if url.scheme = Bytes.ofText "tcp" then
    match url.host, url.port with
    | none, _ => .error (.missingHost text)
    | some _, none => .error (.missingPort text)
    | some host, some port => .ok (tcp (textOf (bareHost host)) (UInt16.ofNat port))
  else .error (.unsupportedScheme (textOf url.scheme))

/-- Reads an endpoint from its URL. -/
def read (text : String) : Except Fault Endpoint :=
  match Url.read (Bytes.ofText text) with
  | .error fault => .error (.url fault)
  | .ok url => ofUrl text url

/-- The endpoint of a URL, if it is one. -/
def read? (text : String) : Option Endpoint := (read text).toOption

/-! ## As tables -/

open Json (Format Fields Names Manner)

/-- How bytes travel to an endpoint. -/
inductive Transport where
  | unix
  | tcp
  deriving DecidableEq, Repr

/-- The names of the transports. -/
def Transport.names : Names Transport where
  name
    | .unix => "unix"
    | .tcp => "tcp"
  all := [.unix, .tcp]
  find_name a := by cases a <;> rfl

/-- The fields of a transport. -/
abbrev Transport.Body : Transport → Type
  | .unix => String × Unit
  | .tcp => String × UInt16 × Unit

/-- The descriptions of those fields, which are all mandatory. -/
def Transport.fields : (t : Transport) → Fields t.Body
  | .unix => .mandatory "path" .text .nil
  | .tcp => .mandatory "host" .text (.mandatory "port" Format.word16 .nil)

/-- The endpoint of a transport and its fields. -/
def ofBody : (t : Transport) → t.Body → Endpoint
  | .unix, (path, ()) => unix path
  | .tcp, (host, port, ()) => tcp host port

/-- The table of an endpoint. -/
def write : Endpoint → Json
  | unix path => table .unix (path, ())
  | tcp host port => table .tcp (host, port, ())
where
  table (t : Transport) (body : t.Body) : Json :=
    .object ((Json.Literal.escape "transport", Json.ofText (Transport.names.name t))
      :: t.fields.write body)

/-- Reads a transport: its name, or its number. -/
def readTransport : Json → Option Transport
  | .text body => (Json.Literal.unescape? body).bind Transport.names.ofName?
  | .number spelling => (Json.Numeral.natural? spelling).bind fun n => Transport.names.all[n]?
  | _ => none

/-- Reads an endpoint from a document that was kept: a URL, a table, or the
elements of a table in order. -/
def ofDocument? (json : Json) : Option Endpoint :=
  match json with
  | .text body => (Json.Literal.unescape? body).bind read?
  | .object members =>
      match Json.readKeys members with
      | none => none
      | some members =>
          match Json.under "transport" members with
          | [tag] =>
              (readTransport tag).bind fun t =>
                (t.fields.readMembers .buffered (members.filter fun m => m.1 != "transport")).map
                  (ofBody t)
          | _ => none
  | .array (tag :: rest) =>
      (readTransport tag).bind fun t => (t.fields.readElements .buffered rest).map (ofBody t)
  | _ => none

/-- Reads an endpoint from a document. -/
def decode? (bytes : Bytes) : Option Endpoint :=
  (Json.parse? bytes).bind fun json =>
    if json.storable Json.depthLimit then ofDocument? json else none

end Endpoint

end ChainHost
