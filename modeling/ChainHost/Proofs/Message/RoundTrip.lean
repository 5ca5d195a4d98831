/-
  Messages survive the wire.

  A request or a response is a tree of records, lists, choices and optional
  values.  The descriptions of both say so without ambiguity, so that what one
  side encodes is what the other side decodes.
-/
import ChainHost.Proofs.Json.Unambiguous
import ChainHost.Session.Run

set_option autoImplicit false

namespace ChainHost

/-- The description of requests, through all verbs and records, is unambiguous. -/
theorem Request.isUnambiguous_wire : Request.wire.isUnambiguous = true := rfl

theorem Response.isUnambiguous_wire : Response.wire.isUnambiguous = true := rfl

theorem Request.lawful_wire : Request.wire.Lawful :=
  Request.wire.lawful_of_isUnambiguous Request.isUnambiguous_wire

theorem Response.lawful_wire : Response.wire.Lawful :=
  Response.wire.lawful_of_isUnambiguous Response.isUnambiguous_wire

/-- **Round trip.**  Every request is read back from its document, and every
response can be written and is read back from what was written. -/
theorem messages_survive_the_wire :
    (∀ r : Request, Session.Codec.json.readRequest r.encode = some r)
      ∧ ∀ r : Response, ∃ payload, Session.Codec.json.writeResponse r = .ok payload
          ∧ Response.decode? payload = some r := by
  constructor
  · intro r
    exact Request.lawful_wire.decode?_encode r
  · intro r
    exact ⟨r.encode, rfl, Response.lawful_wire.decode?_encode r⟩

end ChainHost
