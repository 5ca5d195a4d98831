/-
  Sessions: one connection from its first frame to its end.

  Requests are run in the order of their frames, and each is answered in that
  order.  Empty frames mean nothing.  A frame that cannot be read, or that holds
  no request, ends the session after the answers to what came before it.  So does
  a panic of the reader, but then nobody is told.
-/
import ChainHost.Host
import ChainHost.Frame.Reader

set_option autoImplicit false

namespace ChainHost.Session

/-! ## Codecs -/

/-- How messages are written and read. -/
structure Codec where
  readRequest : Bytes → Option Request
  /-- Writes a response, or says why it cannot. -/
  writeResponse : Response → Except String Bytes

namespace Codec

/-- Messages as documents. -/
def json : Codec where
  readRequest := Request.decode?
  writeResponse r := .ok r.encode

/-- A codec that writes no responses of some kinds. -/
def refusing (codec : Codec) (kinds : List Kind) (reason : String) : Codec where
  readRequest := codec.readRequest
  writeResponse r := if r.kind ∈ kinds then .error reason else codec.writeResponse r

end Codec

/-! ## Reading -/

/-- Why a session stops reading before its stream ends. -/
inductive ReadFault where
  | frame (fault : Frame.Fault)
  | decode
  deriving DecidableEq, Repr

/-- Where a session stops reading. -/
inductive Halt where
  /-- The stream ended between two frames. -/
  | ended
  | fault (fault : ReadFault)
  /-- The reader panicked. -/
  | panicked
  deriving DecidableEq, Repr

/-- The requests of a feed, and where they stop. -/
def requestsOf (codec : Codec) (limit : Nat) (feed : Frame.Feed) : List Request × Halt :=
  match _h : Frame.read limit feed with
  | (.ended, _) => ([], .ended)
  | (.fault fault, _) => ([], .fault (.frame fault))
  | (.panicked, _) => ([], .panicked)
  | (.frame payload, rest) =>
      if payload = [] then requestsOf codec limit rest
      else
        match codec.readRequest payload with
        | none => ([], .fault .decode)
        | some r =>
            let (more, halt) := requestsOf codec limit rest
            (r :: more, halt)
termination_by feed.content.length
decreasing_by
  all_goals exact Frame.length_content_read _h

/-! ## Writing -/

/-- Why a session stops writing. -/
inductive WriteFault where
  /-- Neither a response nor what stands in for it can be written. -/
  | encode (reason : String)
  /-- The connection takes no bytes. -/
  | broken (reason : String)
  deriving DecidableEq, Repr

/-- The words for a fault. -/
def WriteFault.message : WriteFault → String
  | encode reason => "failed to encode response: " ++ reason
  | broken reason => "failed to write response: " ++ reason

/-- The payload of a response, or of the exception that stands in for it. -/
def emit (codec : Codec) (response : Response) : Except WriteFault Bytes :=
  match codec.writeResponse response with
  | .ok payload => .ok payload
  | .error reason =>
      let placeholder :=
        Response.exception ("failed to encode " ++ response.kind.name ++ " response: " ++ reason)
      match codec.writeResponse placeholder with
      | .ok payload => .ok payload
      | .error reason => .error (.encode reason)

/-- The payloads of some responses, up to the first that cannot be written. -/
def emitAll (codec : Codec) : List Response → List Bytes × Option WriteFault
  | [] => ([], none)
  | response :: rest =>
      match emit codec response with
      | .error fault => ([], some fault)
      | .ok payload =>
          let (more, fault) := emitAll codec rest
          (payload :: more, fault)

/-- What arrives on a connection, and why writing stopped.  On a broken one
nothing arrives, and the first payload shows it. -/
def deliver (broken : Option String) (written : List Bytes × Option WriteFault) :
    List Bytes × Option WriteFault :=
  match broken with
  | none => written
  | some reason =>
      match written with
      | ([], fault) => ([], fault)
      | (_ :: _, _) => ([], some (.broken reason))

/-! ## Running -/

/-- How a session ends. -/
inductive Outcome where
  /-- The stream ended between two frames. -/
  | finished (requests responses : Nat)
  | readFault (fault : ReadFault)
  | writeFault (fault : WriteFault)
  /-- The panic of the reader went on to whoever ran the session. -/
  | panicked
  deriving DecidableEq, Repr

/-- A session that was run. -/
structure Ran (σ : Type) where
  outcome : Outcome
  /-- The payloads that arrived at the peer. -/
  payloads : List Bytes
  host : Host σ

variable {σ : Type}

/-- Runs a session.  The reader is ahead of the writer and gets to its halt, also where
writing stops early.  A fault of writing is reported before one of reading, and none is
when the reader panicked. -/
def run (app : Application σ) (codec : Codec) (limit : Nat) (broken : Option String)
    (feed : Frame.Feed) (host : Host σ) : Ran σ :=
  let (requests, halt) := requestsOf codec limit feed
  let (responses, host) := host.dispatchAll app requests
  let (payloads, writeFault) := deliver broken (emitAll codec responses)
  let outcome :=
    match halt, writeFault with
    | .panicked, _ => .panicked
    | _, some fault => .writeFault fault
    | .fault fault, none => .readFault fault
    | .ended, none => .finished requests.length responses.length
  { outcome, payloads, host }

/-- The bytes that arrive at the peer. -/
def Ran.output (ran : Ran σ) : Bytes := ran.payloads.flatMap Frame.write

end ChainHost.Session
