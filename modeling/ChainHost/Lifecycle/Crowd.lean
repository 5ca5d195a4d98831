/-
  Many clients on one tracker.

  A client's call is two actions: it enters, and later it leaves with the answer
  of the application.  Between them, any other action may come.
-/
import ChainHost.Lifecycle.Scenario

set_option autoImplicit false

namespace ChainHost.Lifecycle

/-- A call that is with the application. -/
structure Visit where
  client : Nat
  stage : Stage
  ticket : Ticket stage

/-- A tracker and the calls that are with the application. -/
structure Crowd where
  tracker : Tracker := {}
  visits : List Visit := []

/-- One atomic step of some client. -/
inductive Action where
  | enter (client : Nat) (stage : Stage) (args : stage.Args)
  /-- The application answers the client's call, whichever it is. -/
  | leave (client : Nat) (answer : (stage : Stage) → Answer stage.Result)
  | observeInfo (info : Result.Info)
  /-- A read of a height. -/
  | resolve (requested : UInt64)

namespace Crowd

/-- The call of a client that is with the application. -/
def visit? (c : Crowd) (client : Nat) : Option Visit :=
  c.visits.find? fun v => v.client == client

/-- Lets a client's call in, if the tracker does. -/
def enter (c : Crowd) (client : Nat) (stage : Stage) (args : stage.Args) :
    Option Effect × Crowd :=
  match c.tracker.enter stage args with
  | .error violation => (some (.refused violation), c)
  | .ok (ticket, tracker) => (none, ⟨tracker, ⟨client, stage, ticket⟩ :: c.visits⟩)

/-- Ends a call with the answer of the application. -/
def leave (c : Crowd) (v : Visit) (answer : Answer v.stage.Result) : Option Effect × Crowd :=
  let visits := c.visits.filter fun w => w.client != v.client
  match answer with
  | .replied reply =>
      let (reply, tracker) := c.tracker.finish v.stage v.ticket reply
      (some (.replied v.stage reply), ⟨tracker, visits⟩)
  | .panicked text => (some (.panicked text), ⟨c.tracker.unwind, visits⟩)

/-- Plays an action: what it comes to, if that shows yet, and the crowd after it.
A client whose call is with the application cannot enter, and no other can
leave. -/
def act (c : Crowd) : Action → Option (Option Effect × Crowd)
  | .enter client stage args =>
      match c.visit? client with
      | some _ => none
      | none => some (c.enter client stage args)
  | .leave client answer => (c.visit? client).map fun v => c.leave v (answer v.stage)
  | .observeInfo info => some (some .observed, { c with tracker := c.tracker.observeInfo info })
  | .resolve requested => some (some (.resolved (c.tracker.window.resolve requested)), c)

/-- Plays actions one after another, if each can be played. -/
def actAll (c : Crowd) : List Action → Option (List (Option Effect) × Crowd)
  | [] => some ([], c)
  | action :: rest =>
      match c.act action with
      | none => none
      | some (effect, c) =>
          (c.actAll rest).map fun (more, c) => (effect :: more, c)

end Crowd

end ChainHost.Lifecycle
