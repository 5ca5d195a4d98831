/-
  The tracker: where a chain stands, and which calls may come next.

  A call enters, which checks it against the phase and marks it in flight, and
  leaves: by `finish` with a reply, or by `unwind` without one.  Only a reply
  that reports no error moves the chain on.  What a block brings for the next
  one, validators and parameters, is pending until that block is opened.
-/
import ChainHost.Lifecycle.Phase
import ChainHost.Validators
import ChainHost.Query.Window
import ChainHost.Application.Answer

set_option autoImplicit false

namespace ChainHost.Lifecycle

/-- What a closed block brings for the next one. -/
structure Updates where
  validators : List ValidatorUpdate
  params : Option ConsensusParams
  deriving DecidableEq, Repr

/-- Where a chain stands. -/
structure Tracker where
  phase : Phase := .uninitialized
  /-- The latest committed height. -/
  latest : Option UInt64 := none
  /-- The digest of the latest committed height. -/
  appHash : Bytes := []
  /-- The lowest height that is still kept. -/
  retain : UInt64 := 0
  validators : ValidatorSet := {}
  params : Option ConsensusParams := none
  pending : Option Updates := none
  /-- The call that is with the application. -/
  inFlight : Option Stage := none
  deriving DecidableEq

/-- What a call that entered is to be finished with: its arguments at genesis,
and otherwise the height of its block. -/
abbrev Ticket : Stage → Type
  | .initChain => Args.InitChain
  | _ => UInt64

namespace Tracker

/-- The heights that can be read. -/
def window (t : Tracker) : Window := ⟨t.latest, t.retain⟩

/-! ## Entering -/

/-- The height of the open block. -/
def openHeight (t : Tracker) (call : Stage) : Except Violation UInt64 :=
  match t.phase with
  | .executing height => .ok height
  | phase => .error (.outOfOrder call phase)

/-- The height that the next block must have. -/
def nextHeight (t : Tracker) : Except Violation UInt64 :=
  match t.phase with
  | .initialized first => .ok first
  | .committed height => .ok (Word.next height)
  | phase => .error (.outOfOrder .beginBlock phase)

/-- A chain is set up once. -/
def checkInitChain (t : Tracker) (args : Args.InitChain) : Except Violation Args.InitChain :=
  match t.phase with
  | .uninitialized => .ok args
  | phase => .error (.alreadyInitialized phase)

/-- A block opens with a header of the next height, which repeats the digest of
the latest commit if there is one. -/
def checkBeginBlock (t : Tracker) (args : Args.BeginBlock) : Except Violation UInt64 :=
  match t.nextHeight with
  | .error violation => .error violation
  | .ok expected =>
      match args.header with
      | none => .error .missingHeader
      | some header =>
          if header.height ≠ expected then
            .error (.unexpectedHeight .beginBlock expected header.height)
          else if t.latest.isSome && header.appHash != t.appHash then
            .error (.digestMismatch t.appHash header.appHash)
          else .ok expected

/-- A block is closed under its own height. -/
def checkEndBlock (t : Tracker) (args : Args.EndBlock) : Except Violation UInt64 :=
  match t.openHeight .endBlock with
  | .error violation => .error violation
  | .ok height =>
      if args.height = height then .ok height
      else .error (.unexpectedHeight .endBlock height args.height)

/-- A closed block is committed. -/
def checkCommit (t : Tracker) : Except Violation UInt64 :=
  match t.phase with
  | .ended height => .ok height
  | phase => .error (.outOfOrder .commit phase)

/-- Whether a call may come next, and what it is to be finished with. -/
def check (t : Tracker) : (stage : Stage) → stage.Args → Except Violation (Ticket stage)
  | .initChain, args => t.checkInitChain args
  | .beginBlock, args => t.checkBeginBlock args
  | .deliverTx, _ => t.openHeight .deliverTx
  | .endBlock, args => t.checkEndBlock args
  | .commit, () => t.checkCommit

/-- Checks a call and marks it in flight.  One call at a time is in flight. -/
def enter (t : Tracker) (stage : Stage) (args : stage.Args) :
    Except Violation (Ticket stage × Tracker) :=
  match t.inFlight with
  | some running => .error (.inProgress stage running)
  | none =>
      match t.check stage args with
      | .error violation => .error violation
      | .ok ticket => .ok (ticket, { t with inFlight := some stage })

/-! ## Leaving -/

/-- The tracker without a call in flight. -/
def unwind (t : Tracker) : Tracker := { t with inFlight := none }

/-- The parameters after an update; missing ones count as the default. -/
def mergeParams (params update : Option ConsensusParams) : Option ConsensusParams :=
  match update with
  | none => params
  | some update => some ((params.getD {}).merge update)

/-- The tracker after the pending updates have become active. -/
def applyPending (t : Tracker) : Tracker :=
  match t.pending with
  | none => t
  | some updates =>
      { t with
        pending := none
        validators := t.validators.apply updates.validators
        params := mergeParams t.params updates.params }

/-- The chain after genesis.  What the result names takes the place of what the
request named. -/
def settleInitChain (t : Tracker) (args : Args.InitChain) (result : Result.InitChain) : Tracker :=
  { t with
    phase := .initialized (if args.initialHeight = 0 then 1 else args.initialHeight)
    validators :=
      .ofUpdates (if result.validators.isEmpty then args.validators else result.validators)
    params := result.consensusParams.or args.consensusParams }

/-- The chain inside a block. -/
def settleBeginBlock (t : Tracker) (height : UInt64) : Tracker :=
  { t.applyPending with phase := .executing height }

/-- The chain after the end of a block. -/
def settleEndBlock (t : Tracker) (height : UInt64) (result : Result.EndBlock) : Tracker :=
  { t with
    pending := some ⟨result.validatorUpdates, result.consensusParamUpdates⟩
    phase := .ended height }

/-- The chain after a commit.  The kept heights never grow downwards, and a
height that is not committed yet is not taken for the lowest one. -/
def settleCommit (t : Tracker) (height : UInt64) (result : Result.Commit) : Tracker :=
  { t with
    phase := .committed height
    latest := some height
    appHash := result.data
    retain :=
      if result.retainHeight ≤ height then max t.retain result.retainHeight else t.retain }

/-- The chain after a call without an error. -/
def settle (t : Tracker) : (stage : Stage) → Ticket stage → stage.Result → Tracker
  | .initChain, args, result => t.settleInitChain args result
  | .beginBlock, height, _ => t.settleBeginBlock height
  | .deliverTx, _, _ => t
  | .endBlock, height, result => t.settleEndBlock height result
  | .commit, height, result => t.settleCommit height result

/-- The reply as the caller gets it: a commit that asks for too much comes back
with a violation in place of its error fields. -/
def amend : (stage : Stage) → Ticket stage → Reply stage.Result → Reply stage.Result
  | .commit, height, reply =>
      let retain := (reply.value : Result.Commit).retainHeight
      if retain > height then ⟨reply.value, some (Violation.retainAbove retain height).fault⟩
      else reply
  | _, _, reply => reply

/-- Finishes a call with the reply of the application. -/
def finish (t : Tracker) (stage : Stage) (ticket : Ticket stage) (reply : Reply stage.Result) :
    Reply stage.Result × Tracker :=
  let t := t.unwind
  if reply.isOk then (amend stage ticket reply, t.settle stage ticket reply.value)
  else (reply, t)

/-! ## Resuming -/

/-- Takes up the chain where the application reports to stand.  Only a tracker
that has seen nothing yet does so. -/
def observeInfo (t : Tracker) (info : Result.Info) : Tracker :=
  if t.phase = .uninitialized ∧ t.inFlight = none ∧ info.lastBlockHeight ≠ 0 then
    { t with
      phase := .committed info.lastBlockHeight
      latest := some info.lastBlockHeight
      appHash := info.lastBlockAppHash }
  else t

end Tracker

end ChainHost.Lifecycle
