/-
  The host: an application behind a tracker.

  `dispatch` runs one request.  A call of a block's stages has to pass the
  tracker, a query is answered at a height that can be read, and what a panic
  leaves behind is an internal fault.
-/
import ChainHost.Application.Basic
import ChainHost.Lifecycle.Tracker

set_option autoImplicit false

namespace ChainHost

open Lifecycle (Tracker Stage)

/-- An application's state and the tracker in front of it. -/
structure Host (σ : Type) where
  tracker : Tracker := {}
  state : σ

namespace Host

variable {σ : Type}

/-- The reply of a call that may have panicked. -/
def contain (v : Verb) (answer : Answer v.Result) : Reply v.Result :=
  match answer with
  | .replied reply => reply
  | .panicked text =>
      .rejected v.neutral
        (.internalFault (v.name ++ " handler panicked: " ++ Answer.panicText text))

/-- The response of a reply. -/
def respond (v : Verb) (reply : Reply v.Result) : Response :=
  ⟨.ofResult v reply.value, reply.error⟩

/-- Runs a call that nothing stands in front of. -/
def runFree (app : Application σ) (h : Host σ) (v : Verb) (args : v.Args) : Response × Host σ :=
  let (answer, state) := app.call v args h.state
  (respond v (contain v answer), { h with state })

/-- Runs a call of a stage, if the tracker lets it in. -/
def runStage (app : Application σ) (h : Host σ) (stage : Stage) (args : stage.Args) :
    Response × Host σ :=
  match h.tracker.enter stage args with
  | .error violation => (.failed (.verb stage.verb) violation.fault, h)
  | .ok (ticket, entered) =>
      let (answer, state) := app.call stage.verb args h.state
      let (reply, tracker) := entered.finish stage ticket (contain stage.verb answer)
      (respond stage.verb reply, { tracker, state })

/-- Runs an info; the tracker takes up what an OK reply reports. -/
def runInfo (app : Application σ) (h : Host σ) (args : Args.Info) : Response × Host σ :=
  let (answer, state) := app.call .info args h.state
  let reply := contain .info answer
  let tracker := if reply.isOk then h.tracker.observeInfo reply.value else h.tracker
  (respond .info reply, { tracker, state })

/-- A query's result with its height filled in. -/
def fillHeight (height : UInt64) (result : Result.Query) : Result.Query :=
  if result.height = 0 then { result with height } else result

/-- Runs a query at the height that its own resolves to. -/
def runQuery (app : Application σ) (h : Host σ) (args : Args.Query) : Response × Host σ :=
  match h.tracker.window.resolve args.height with
  | .error refusal => (.failed (.verb .query) refusal.fault, h)
  | .ok height =>
      let (answer, state) := app.call .query ({ args with height } : Args.Query) h.state
      (respond .query ((contain .query answer).map (fillHeight height)), { h with state })

/-- Runs a request. -/
def dispatch (app : Application σ) (h : Host σ) : Request → Response × Host σ
  | ⟨.initChain, args⟩ => h.runStage app .initChain args
  | ⟨.beginBlock, args⟩ => h.runStage app .beginBlock args
  | ⟨.deliverTx, args⟩ => h.runStage app .deliverTx args
  | ⟨.endBlock, args⟩ => h.runStage app .endBlock args
  | ⟨.commit, args⟩ => h.runStage app .commit args
  | ⟨.info, args⟩ => h.runInfo app args
  | ⟨.query, args⟩ => h.runQuery app args
  | ⟨.echo, args⟩ => h.runFree app .echo args
  | ⟨.flush, args⟩ => h.runFree app .flush args
  | ⟨.setOption, args⟩ => h.runFree app .setOption args
  | ⟨.checkTx, args⟩ => h.runFree app .checkTx args
  | ⟨.listSnapshots, args⟩ => h.runFree app .listSnapshots args
  | ⟨.offerSnapshot, args⟩ => h.runFree app .offerSnapshot args
  | ⟨.loadSnapshotChunk, args⟩ => h.runFree app .loadSnapshotChunk args
  | ⟨.applySnapshotChunk, args⟩ => h.runFree app .applySnapshotChunk args

/-- Runs requests one after another. -/
def dispatchAll (app : Application σ) (h : Host σ) : List Request → List Response × Host σ
  | [] => ([], h)
  | r :: rest =>
      let (response, h) := h.dispatch app r
      let (more, h) := h.dispatchAll app rest
      (response :: more, h)

end Host

end ChainHost
