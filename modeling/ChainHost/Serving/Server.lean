/-
  Servers: one host, and the sessions on it, numbered as they come.
-/
import ChainHost.Serving.Event

set_option autoImplicit false

namespace ChainHost.Serving

/-- A server of one application. -/
structure Server (σ : Type) where
  host : Host σ
  codec : Session.Codec := .json
  /-- The longest frame that a session reads. -/
  limit : Nat := Frame.defaultLimit
  /-- The number of sessions so far. -/
  sessions : Nat := 0

namespace Server

variable {σ : Type}

/-- Runs the next session: what a peer receives who sends some bytes and closes.  The
end of a session that panicked is not told. -/
def accept (app : Application σ) (server : Server σ) (peer : Endpoint.Transport)
    (stream : Bytes) : List Bytes × List Event × Server σ :=
  let id := server.sessions + 1
  let ran := Session.run app server.codec server.limit none (.whole stream) server.host
  let ended := if ran.outcome = .panicked then [] else [.closed id ran.outcome]
  (ran.payloads, .opened id peer :: ended, { server with host := ran.host, sessions := id })

/-- Runs sessions one after another. -/
def acceptAll (app : Application σ) (server : Server σ) (peer : Endpoint.Transport) :
    List Bytes → List (List Bytes) × List Event × Server σ
  | [] => ([], [], server)
  | stream :: rest =>
      let (payloads, events, server) := server.accept app peer stream
      let (more, later, server) := server.acceptAll app peer rest
      (payloads :: more, events ++ later, server)

end Server

end ChainHost.Serving
