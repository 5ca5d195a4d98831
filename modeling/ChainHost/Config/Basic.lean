/-
  The configuration of a server.

  Settings come in four layers: the built-in ones, a file, environment
  variables and command-line flags.  The layers are merged first; what is left
  is then read as a configuration.
-/
import ChainHost.Config.Toml.Document
import ChainHost.Config.Variables
import ChainHost.Endpoint.Basic
import ChainHost.Frame.Reader

set_option autoImplicit false

namespace ChainHost

open Json (Names)

/-- How log lines are written. -/
inductive LogFormat where
  | json
  | compact
  deriving DecidableEq, Repr

namespace LogFormat

/-- The names of the formats. -/
def names : Names LogFormat where
  name
    | .json => "json"
    | .compact => "compact"
  all := [.json, .compact]
  find_name a := by cases a <;> rfl

/-- The format of a name in any case. -/
def ofText? (text : String) : Option LogFormat :=
  names.ofName? (String.ofList (text.toList.map Char.toLower))

end LogFormat

/-- The configuration of a server. -/
structure Config where
  listenSocket : Endpoint := .tcp "127.0.0.1" 26658
  logFilter : String := "info"
  logFormat : LogFormat := .json
  maxFrameBytes : UInt64 := UInt64.ofNat Frame.defaultLimit
  deriving DecidableEq, Repr

namespace Config

/-! ## Layers -/

/-- The table of an endpoint as a setting. -/
def endpointValue : Endpoint → Value
  | .unix path => .table [("transport", .text "unix"), ("path", .text path)]
  | .tcp host port =>
      .table [("transport", .text "tcp"), ("host", .text host), ("port", .integer port.toNat)]

/-- A configuration as a layer. -/
def layer (c : Config) : Value :=
  .table
    [ ("listen_socket", endpointValue c.listenSocket),
      ("log_filter", .text c.logFilter),
      ("log_format", .text (LogFormat.names.name c.logFormat)),
      ("max_frame_bytes", .integer c.maxFrameBytes.toNat) ]

/-- What lies where a file is looked for. -/
inductive Found where
  | nothing
  /-- Something that has no text to read. -/
  | unreadable
  | text (content : String)
  deriving DecidableEq, Repr

/-- The layer of a text.  Files do not build on one another. -/
def textLayer? (text : String) : Option Value :=
  match Toml.read? text with
  | none => none
  | some v => if (v.get? "extends").isSome then none else some v

/-! ## Flags -/

/-- What a flag sets. -/
inductive Flag where
  | listenSocket
  | logFilter
  | logFormat
  | maxFrameBytes
  | configPath
  deriving DecidableEq, Repr

/-- The names of the flags. -/
def Flag.names : Names Flag where
  name
    | .listenSocket => "--listen-socket"
    | .logFilter => "--log-filter"
    | .logFormat => "--log-format"
    | .maxFrameBytes => "--max-frame-bytes"
    | .configPath => "--config-path"
  all := [.listenSocket, .logFilter, .logFormat, .maxFrameBytes, .configPath]
  find_name a := by cases a <;> decide

/-- The letter that stands for a flag.  It is the first one of the name, small or
else capital, as long as no flag before has it. -/
def Flag.letter? : Flag → Option Char
  | .listenSocket => some 'l'
  | .logFilter => some 'L'
  | .maxFrameBytes => some 'm'
  | .logFormat | .configPath => none

/-- The flag that an argument names, and the value in the same argument: after an
equals sign, or right after a letter. -/
def Flag.ofArgument? (arg : String) : Option (Flag × Option String) :=
  match arg.toList with
  | '-' :: '-' :: _ =>
      let front := arg.toList.takeWhile (· != '=')
      (names.ofName? (String.ofList front)).map fun flag =>
        (flag, (arg.toList.drop front.length).tail?.map String.ofList)
  | '-' :: letter :: rest =>
      (names.all.find? fun flag => flag.letter? == some letter).map fun flag =>
        match rest with
        | [] => (flag, none)
        | '=' :: value => (flag, some (String.ofList value))
        | value => (flag, some (String.ofList value))
  | _ => none

/-- The flags of a command line with their values: in the same argument, or as the
next one, which is no flag itself. -/
def readFlags : List String → Option (List (Flag × String))
  | [] => some []
  | "--" :: rest => if rest.isEmpty then some [] else none
  | arg :: rest =>
      match Flag.ofArgument? arg with
      | none => none
      | some (flag, some value) => (readFlags rest).map fun more => (flag, value) :: more
      | some (flag, none) =>
          match rest with
          | [] => none
          | value :: rest =>
              if value.toList.head? = some '-' ∧ value ≠ "-" then none
              else (readFlags rest).map fun more => (flag, value) :: more

/-- The flags of a command line, each given once at most. -/
def flags? (args : List String) : Option (List (Flag × String)) :=
  (readFlags args).filter fun flags => (flags.map (·.1)).Nodup

/-- The setting of a flag. -/
def flagValue? (flag : Flag) (text : String) : Option (List (String × Value)) :=
  match flag with
  | .listenSocket =>
      (Endpoint.read? text).map fun e => [("listen_socket", endpointValue e)]
  | .logFilter => some [("log_filter", .text text)]
  | .logFormat =>
      (LogFormat.ofText? text).map fun f => [("log_format", .text (LogFormat.names.name f))]
  | .maxFrameBytes =>
      (Decimal.word? (Bytes.ofText text)).map fun n => [("max_frame_bytes", .integer n.toNat)]
  | .configPath => some []

/-- The layer of some flags. -/
def flagLayer? (flags : List (Flag × String)) : Option Value :=
  (flags.mapM fun (flag, text) => flagValue? flag text).map fun parts => .table (List.flatten parts)

/-! ## Loading -/

/-- The format that a setting stands for: a name, alone or over nothing. -/
def formatOf? : Value → Option LogFormat
  | .text name => LogFormat.names.ofName? name
  | .table [(name, .null)] => LogFormat.names.ofName? name
  | _ => none

/-- The configuration that merged settings stand for. -/
def ofValue? (v : Value) : Option Config :=
  match v.get? "listen_socket", v.get? "log_filter", v.get? "log_format",
      v.get? "max_frame_bytes" with
  | some socket, some (.text logFilter), some format, some (.integer limit) =>
      match Endpoint.ofDocument? socket.toJson, formatOf? format with
      | some listenSocket, some logFormat =>
          if 0 ≤ limit ∧ limit < 2 ^ 64 then
            some { listenSocket, logFilter, logFormat, maxFrameBytes := UInt64.ofNat limit.toNat }
          else none
      | _, _ => none
  | _, _, _, _ => none

/-- The variable that names the file. -/
def pathVariable : String := "ABCI_CONFIG_PATH"

/-- The path of the file, and whether it must be there: the flags insist on the
one they name, the environment does not. -/
def path? (settings : List (String × String)) (args : List String) : Option (String × Bool) :=
  match (flags? args).bind (·.lookup .configPath) with
  | some path => some (path, true)
  | none => (settings.lookup pathVariable).map fun path => (path, false)

/-- The layer of the file.  `files` says what lies under a path. -/
def fileLayer? (files : String → Found) (path : Option (String × Bool)) : Option Value :=
  match path with
  | none => some (.table [])
  | some (path, required) =>
      match files path with
      | .text content => textLayer? content
      | .unreadable => none
      | .nothing => if required then none else some (.table [])

/-- The settings under the flags.  Flags that set everything to what is built in
count as if they were not there. -/
def underFlags (lower flags : Value) : Value :=
  if ofValue? flags = some {} then lower else lower.merge flags

/-- Loads a configuration.  `files` says what lies under a path. -/
def load? (files : String → Found) (settings : List (String × String))
    (args : List String) : Option Config := do
  let flags ← (flags? args).bind flagLayer?
  let file ← fileLayer? files (path? settings args)
  let lower := (({} : Config).layer.merge file).merge (Variables.layer settings)
  ofValue? (underFlags lower flags)

/-- The names of the variables that set something. -/
def variableNames : List String :=
  [ pathVariable, "ABCI_LISTEN_SOCKET", "ABCI_LISTEN_SOCKET__TRANSPORT", "ABCI_LISTEN_SOCKET__PATH",
    "ABCI_LISTEN_SOCKET__HOST", "ABCI_LISTEN_SOCKET__PORT", "ABCI_LOG_FILTER",
    "ABCI_LOG_FORMAT", "ABCI_MAX_FRAME_BYTES" ]

/-- A configuration as a document. -/
def document (c : Config) : Json :=
  .object
    [ (Json.Literal.escape "listen_socket", c.listenSocket.write),
      (Json.Literal.escape "log_filter", Json.ofText c.logFilter),
      (Json.Literal.escape "log_format", Json.ofText (LogFormat.names.name c.logFormat)),
      (Json.Literal.escape "max_frame_bytes", Json.ofNat c.maxFrameBytes.toNat) ]

end Config

end ChainHost
