/-
  What responses answer with.  The neutral answer has every field at its
  default.
-/
import ChainHost.Message.Record

set_option autoImplicit false

namespace ChainHost.Result

open Json (Format Fields Names)
open Json.Format (word32 word64 bytes structured)

/-- The message as it was received. -/
structure Echo where
  message : String := ""
  deriving DecidableEq, Repr

def Echo.wire : Format Echo :=
  structured (.defaulting "message" .text "" .nil)
    (fun (message, ()) => ⟨message⟩) (fun r => (r.message, ()))
    fun _ => rfl

/-- The latest committed state. -/
structure Info where
  data : String := ""
  version : String := ""
  appVersion : UInt64 := 0
  /-- The latest committed height; zero before the first commit. -/
  lastBlockHeight : UInt64 := 0
  /-- The digest of that height. -/
  lastBlockAppHash : Bytes := []
  deriving DecidableEq, Repr

def Info.wire : Format Info :=
  structured
    (.defaulting "data" .text ""
      (.defaulting "version" .text ""
      (.defaulting "app_version" word64 0
      (.defaulting "last_block_height" word64 0
      (.defaulting "last_block_app_hash" bytes [] .nil)))))
    (fun (data, version, app, height, hash, ()) => ⟨data, version, app, height, hash⟩)
    (fun r => (r.data, r.version, r.appVersion, r.lastBlockHeight, r.lastBlockAppHash, ()))
    fun _ => rfl

/-- The acknowledgement of an option. -/
structure SetOption where
  log : String := ""
  info : String := ""
  deriving DecidableEq, Repr

def SetOption.wire : Format SetOption :=
  structured
    (.defaulting "log" .text "" (.defaulting "info" .text "" .nil))
    (fun (log, info, ()) => ⟨log, info⟩) (fun r => (r.log, r.info, ()))
    fun _ => rfl

/-- The value under a key. -/
structure Query where
  log : String := ""
  info : String := ""
  /-- The place of the key in the state tree. -/
  index : UInt64 := 0
  key : Bytes := []
  /-- The value; empty when the key is absent. -/
  value : Bytes := []
  proof : Option Proof := none
  /-- The height at which the value was read. -/
  height : UInt64 := 0
  deriving DecidableEq, Repr

def Query.wire : Format Query :=
  structured
    (.defaulting "log" .text ""
      (.defaulting "info" .text ""
      (.defaulting "index" word64 0
      (.defaulting "key" bytes []
      (.defaulting "value" bytes []
      (.defaulting "proof" (.optional Proof.wire) none
      (.defaulting "height" word64 0 .nil)))))))
    (fun (log, info, index, key, value, proof, height, ()) =>
      ⟨log, info, index, key, value, proof, height⟩)
    (fun r => (r.log, r.info, r.index, r.key, r.value, r.proof, r.height, ()))
    fun _ => rfl

/-- The outcome of a transaction. -/
structure Tx where
  data : Bytes := []
  log : String := ""
  info : String := ""
  gasWanted : UInt64 := 0
  gasUsed : UInt64 := 0
  events : List Event := []
  deriving DecidableEq, Repr

def Tx.wire : Format Tx :=
  structured
    (.defaulting "data" bytes []
      (.defaulting "log" .text ""
      (.defaulting "info" .text ""
      (.defaulting "gas_wanted" word64 0
      (.defaulting "gas_used" word64 0
      (.defaulting "events" (.list Event.wire) [] .nil))))))
    (fun (data, log, info, wanted, used, events, ()) => ⟨data, log, info, wanted, used, events⟩)
    (fun r => (r.data, r.log, r.info, r.gasWanted, r.gasUsed, r.events, ()))
    fun _ => rfl

/-- The outcome of genesis. -/
structure InitChain where
  /-- Parameters in place of those of the request. -/
  consensusParams : Option ConsensusParams := none
  /-- Validators in place of those of the request, unless empty. -/
  validators : List ValidatorUpdate := []
  deriving DecidableEq, Repr

def InitChain.wire : Format InitChain :=
  structured
    (.defaulting "consensus_params" (.optional ConsensusParams.wire) none
      (.defaulting "validators" (.list ValidatorUpdate.wire) [] .nil))
    (fun (params, validators, ()) => ⟨params, validators⟩)
    (fun r => (r.consensusParams, r.validators, ()))
    fun _ => rfl

/-- The events of opening a block. -/
structure BeginBlock where
  events : List Event := []
  deriving DecidableEq, Repr

def BeginBlock.wire : Format BeginBlock :=
  structured (.defaulting "events" (.list Event.wire) [] .nil)
    (fun (events, ()) => ⟨events⟩) (fun r => (r.events, ()))
    fun _ => rfl

/-- The updates that a closed block brings. -/
structure EndBlock where
  validatorUpdates : List ValidatorUpdate := []
  consensusParamUpdates : Option ConsensusParams := none
  events : List Event := []
  deriving DecidableEq, Repr

def EndBlock.wire : Format EndBlock :=
  structured
    (.defaulting "validator_updates" (.list ValidatorUpdate.wire) []
      (.defaulting "consensus_param_updates" (.optional ConsensusParams.wire) none
      (.defaulting "events" (.list Event.wire) [] .nil)))
    (fun (validators, params, events, ()) => ⟨validators, params, events⟩)
    (fun r => (r.validatorUpdates, r.consensusParamUpdates, r.events, ()))
    fun _ => rfl

/-- The state of a committed height. -/
structure Commit where
  /-- The digest of the state. -/
  data : Bytes := []
  /-- The lowest height that is still needed; zero keeps all. -/
  retainHeight : UInt64 := 0
  deriving DecidableEq, Repr

def Commit.wire : Format Commit :=
  structured
    (.defaulting "data" bytes [] (.defaulting "retain_height" word64 0 .nil))
    (fun (data, retain, ()) => ⟨data, retain⟩) (fun r => (r.data, r.retainHeight, ()))
    fun _ => rfl

/-- What stands in for a response that could not be produced. -/
structure Exception where
  error : String := ""
  deriving DecidableEq, Repr

def Exception.wire : Format Exception :=
  structured (.defaulting "error" .text "" .nil)
    (fun (error, ()) => ⟨error⟩) (fun r => (r.error, ()))
    fun _ => rfl

/-- The snapshots that peers can fetch. -/
structure ListSnapshots where
  snapshots : List Snapshot := []
  deriving DecidableEq, Repr

def ListSnapshots.wire : Format ListSnapshots :=
  structured (.defaulting "snapshots" (.list Snapshot.wire) [] .nil)
    (fun (snapshots, ()) => ⟨snapshots⟩) (fun r => (r.snapshots, ()))
    fun _ => rfl

/-- The verdict on an offered snapshot. -/
inductive OfferVerdict where
  | unknown | accept | abort | reject | rejectFormat | rejectSender
  deriving DecidableEq, Repr

/-- The names of the verdicts on an offer. -/
def OfferVerdict.names : Names OfferVerdict where
  name
    | .unknown => "unknown"
    | .accept => "accept"
    | .abort => "abort"
    | .reject => "reject"
    | .rejectFormat => "reject_format"
    | .rejectSender => "reject_sender"
  all := [.unknown, .accept, .abort, .reject, .rejectFormat, .rejectSender]
  find_name a := by cases a <;> rfl

/-- The answer to an offered snapshot. -/
structure OfferSnapshot where
  result : OfferVerdict := .unknown
  deriving DecidableEq, Repr

def OfferSnapshot.wire : Format OfferSnapshot :=
  structured (.defaulting "result" (.choice OfferVerdict.names) .unknown .nil)
    (fun (result, ()) => ⟨result⟩) (fun r => (r.result, ()))
    fun _ => rfl

/-- A chunk of a local snapshot; empty when there is none. -/
structure LoadSnapshotChunk where
  chunk : Bytes := []
  deriving DecidableEq, Repr

def LoadSnapshotChunk.wire : Format LoadSnapshotChunk :=
  structured (.defaulting "chunk" bytes [] .nil)
    (fun (chunk, ()) => ⟨chunk⟩) (fun r => (r.chunk, ()))
    fun _ => rfl

/-- The verdict on an applied chunk. -/
inductive ApplyVerdict where
  | unknown | accept | abort | retry | retrySnapshot | rejectSnapshot
  deriving DecidableEq, Repr

/-- The names of the verdicts on a chunk. -/
def ApplyVerdict.names : Names ApplyVerdict where
  name
    | .unknown => "unknown"
    | .accept => "accept"
    | .abort => "abort"
    | .retry => "retry"
    | .retrySnapshot => "retry_snapshot"
    | .rejectSnapshot => "reject_snapshot"
  all := [.unknown, .accept, .abort, .retry, .retrySnapshot, .rejectSnapshot]
  find_name a := by cases a <;> rfl

/-- The answer to an applied chunk. -/
structure ApplySnapshotChunk where
  result : ApplyVerdict := .unknown
  /-- The chunks to fetch again. -/
  refetchChunks : List UInt32 := []
  /-- The peers whose chunks are refused from now on. -/
  rejectSenders : List String := []
  deriving DecidableEq, Repr

def ApplySnapshotChunk.wire : Format ApplySnapshotChunk :=
  structured
    (.defaulting "result" (.choice ApplyVerdict.names) .unknown
      (.defaulting "refetch_chunks" (.list word32) []
      (.defaulting "reject_senders" (.list .text) [] .nil)))
    (fun (result, chunks, senders, ()) => ⟨result, chunks, senders⟩)
    (fun r => (r.result, r.refetchChunks, r.rejectSenders, ()))
    fun _ => rfl

end ChainHost.Result
