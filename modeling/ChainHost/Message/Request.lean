/-
  Requests and responses.

  A request is a verb with its arguments.  A response carries the result of a
  verb, or an exception, and error fields.  On the wire both stand in an
  envelope of a kind and a body.
-/
import ChainHost.Message.Verb
import ChainHost.Message.Reply

set_option autoImplicit false

namespace ChainHost

open Json (Format Names)
open Json.Format (structured)

/-- A verb with its arguments. -/
structure Request where
  verb : Verb
  args : verb.Args

namespace Request

instance : DecidableEq Request := fun a b => by
  obtain ⟨v, x⟩ := a
  obtain ⟨w, y⟩ := b
  by_cases h : v = w
  · subst h
    by_cases hxy : x = y
    · exact .isTrue (by rw [hxy])
    · exact .isFalse (by simp [hxy])
  · exact .isFalse (by simp [h])

/-- The group of calls that the request belongs to. -/
def capability (r : Request) : Capability := r.verb.capability

/-- How requests stand in a document. -/
def wire : Format Request :=
  .image (.tagged Verb.names Verb.argsWire) (fun ⟨verb, args⟩ => ⟨verb, args⟩)
    (fun r => ⟨r.verb, r.args⟩) fun _ => rfl

/-- The document of a request, as bytes. -/
def encode (r : Request) : Bytes := wire.encode r

/-- The request that a document in bytes describes. -/
def decode? (bytes : Bytes) : Option Request := wire.decode? bytes

/-- Checks a transaction that is new. -/
def checkTx (tx : Bytes) : Request := ⟨.checkTx, ({ tx } : Args.CheckTx)⟩

/-- Executes a transaction. -/
def deliverTx (tx : Bytes) : Request := ⟨.deliverTx, ({ tx } : Args.DeliverTx)⟩

/-- Closes the block of a height. -/
def endBlock (height : UInt64) : Request := ⟨.endBlock, ({ height } : Args.EndBlock)⟩

/-- Asks for a message back. -/
def echo (message : String) : Request := ⟨.echo, ({ message } : Args.Echo)⟩

end Request

/-- What a response answers: a verb, or an exception in its place. -/
inductive Kind where
  | verb (v : Verb)
  | exception
  deriving DecidableEq, Repr

namespace Kind

/-- Every kind once. -/
def all : List Kind := Verb.all.map .verb ++ [.exception]

/-- The name of a kind on the wire. -/
def name : Kind → String
  | verb v => v.name
  | exception => "exception"

/-- The kinds with their names; a name belongs to one kind only. -/
def names : Names Kind where
  name := name
  all := all
  find_name a := by
    cases a with
    | exception => rfl
    | verb v => cases v <;> rfl

/-- The group of calls of a kind. -/
def capability? : Kind → Option Capability
  | verb v => some v.capability
  | exception => none

/-- What a response of a kind carries. -/
def Body : Kind → Type
  | verb v => v.Result
  | exception => Result.Exception

instance (k : Kind) : DecidableEq k.Body := by
  cases k <;> (dsimp only [Body]; infer_instance)

/-- The body of a kind that has nothing to tell. -/
def neutral : (k : Kind) → k.Body
  | verb v => v.neutral
  | exception => ({} : Result.Exception)

/-- How the body of a kind stands in a document. -/
def bodyWire : (k : Kind) → Format k.Body
  | verb v => v.resultWire
  | exception => Result.Exception.wire

end Kind

/-- A kind with its body. -/
structure Payload where
  kind : Kind
  body : kind.Body

namespace Payload

instance : DecidableEq Payload := fun a b => by
  obtain ⟨v, x⟩ := a
  obtain ⟨w, y⟩ := b
  by_cases h : v = w
  · subst h
    by_cases hxy : x = y
    · exact .isTrue (by rw [hxy])
    · exact .isFalse (by simp [hxy])
  · exact .isFalse (by simp [h])

/-- The payload of a result. -/
def ofResult (v : Verb) (result : v.Result) : Payload := ⟨.verb v, result⟩

/-- The payload of a kind that has nothing to tell. -/
def neutral (kind : Kind) : Payload := ⟨kind, kind.neutral⟩

/-- How payloads stand in a document. -/
def wire : Format Payload :=
  .image (.tagged Kind.names Kind.bodyWire) (fun ⟨kind, body⟩ => ⟨kind, body⟩)
    (fun p => ⟨p.kind, p.body⟩) fun _ => rfl

end Payload

/-- A payload with error fields. -/
structure Response where
  value : Payload
  error : Option Fault := none
  deriving DecidableEq

namespace Response

/-- A payload without error fields. -/
def ok (value : Payload) : Response := ⟨value, none⟩

/-- The response to a call that could not be made. -/
def failed (kind : Kind) (error : Fault) : Response := ⟨.neutral kind, some error⟩

/-- The response of a reply. -/
def ofReply (reply : Reply Payload) : Response := ⟨reply.value, reply.error⟩

/-- What stands in for a response that could not be produced. -/
def exception (message : String) : Response :=
  ⟨⟨.exception, ({ error := message } : Result.Exception)⟩, some (.internalFault message)⟩

/-- The kind of what a response carries. -/
def kind (r : Response) : Kind := r.value.kind

/-- Whether a response reports no error. -/
def isOk (r : Response) : Bool := Fault.noneOf r.error

/-- How responses stand in a document: the value is mandatory. -/
def wire : Format Response :=
  structured
    (.mandatory "value" Payload.wire
      (.defaulting "error" (.optional Fault.wire) none .nil))
    (fun (value, error, ()) => ⟨value, error⟩) (fun r => (r.value, r.error, ()))
    fun _ => rfl

/-- The document of a response, as bytes. -/
def encode (r : Response) : Bytes := wire.encode r

/-- The response that a document in bytes describes. -/
def decode? (bytes : Bytes) : Option Response := wire.decode? bytes

end Response

end ChainHost
