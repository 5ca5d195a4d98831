/-
  What requests ask with.
-/
import ChainHost.Message.Record

set_option autoImplicit false

namespace ChainHost.Args

open Json (Format Fields Names)
open Json.Format (word32 word64 bytes structured)

/-- Asks for a message back. -/
structure Echo where
  message : String := ""
  deriving DecidableEq, Repr

def Echo.wire : Format Echo :=
  structured (.defaulting "message" .text "" .nil)
    (fun (message, ()) => ⟨message⟩) (fun a => (a.message, ()))
    fun _ => rfl

/-- Asks for the latest committed state. -/
structure Info where
  version : String := ""
  blockVersion : UInt64 := 0
  p2pVersion : UInt64 := 0
  deriving DecidableEq, Repr

def Info.wire : Format Info :=
  structured
    (.defaulting "version" .text ""
      (.defaulting "block_version" word64 0 (.defaulting "p2p_version" word64 0 .nil)))
    (fun (version, block, p2p, ()) => ⟨version, block, p2p⟩)
    (fun a => (a.version, a.blockVersion, a.p2pVersion, ()))
    fun _ => rfl

/-- Sets an option of the application. -/
structure SetOption where
  key : String := ""
  value : String := ""
  deriving DecidableEq, Repr

def SetOption.wire : Format SetOption :=
  structured
    (.defaulting "key" .text "" (.defaulting "value" .text "" .nil))
    (fun (key, value, ()) => ⟨key, value⟩) (fun a => (a.key, a.value, ()))
    fun _ => rfl

/-- Looks state up at a height; zero stands for the latest one. -/
structure Query where
  data : Bytes := []
  path : String := ""
  height : UInt64 := 0
  /-- Whether the answer comes with a proof. -/
  prove : Bool := false
  deriving DecidableEq, Repr

def Query.wire : Format Query :=
  structured
    (.defaulting "data" bytes []
      (.defaulting "path" .text ""
      (.defaulting "height" word64 0 (.defaulting "prove" .flag false .nil))))
    (fun (data, path, height, prove, ()) => ⟨data, path, height, prove⟩)
    (fun a => (a.data, a.path, a.height, a.prove, ()))
    fun _ => rfl

/-- Why a transaction is checked. -/
inductive CheckKind where
  | new
  /-- Checked again after a block. -/
  | recheck
  deriving DecidableEq, Repr

/-- The names of the two reasons. -/
def CheckKind.names : Names CheckKind where
  name
    | .new => "new"
    | .recheck => "recheck"
  all := [.new, .recheck]
  find_name a := by cases a <;> rfl

/-- Checks a transaction for admission. -/
structure CheckTx where
  tx : Bytes := []
  kind : CheckKind := .new
  deriving DecidableEq, Repr

def CheckTx.wire : Format CheckTx :=
  structured
    (.defaulting "tx" bytes [] (.defaulting "kind" (.choice CheckKind.names) .new .nil))
    (fun (tx, kind, ()) => ⟨tx, kind⟩) (fun a => (a.tx, a.kind, ()))
    fun _ => rfl

/-- Sets the chain up. -/
structure InitChain where
  time : Option Duration := none
  chainId : String := ""
  consensusParams : Option ConsensusParams := none
  validators : List ValidatorUpdate := []
  appStateBytes : Bytes := []
  initialHeight : UInt64 := 0
  deriving DecidableEq, Repr

def InitChain.wire : Format InitChain :=
  structured
    (.defaulting "time" (.optional Duration.wire) none
      (.defaulting "chain_id" .text ""
      (.defaulting "consensus_params" (.optional ConsensusParams.wire) none
      (.defaulting "validators" (.list ValidatorUpdate.wire) []
      (.defaulting "app_state_bytes" bytes []
      (.defaulting "initial_height" word64 0 .nil))))))
    (fun (time, chainId, params, validators, state, height, ()) =>
      ⟨time, chainId, params, validators, state, height⟩)
    (fun a => (a.time, a.chainId, a.consensusParams, a.validators, a.appStateBytes,
      a.initialHeight, ()))
    fun _ => rfl

/-- Opens a block. -/
structure BeginBlock where
  hash : Bytes := []
  header : Option Header := none
  lastCommitInfo : LastCommitInfo := {}
  byzantineValidators : List Evidence := []
  deriving DecidableEq, Repr

/-- The height of the block, if the header is there. -/
def BeginBlock.height? (a : BeginBlock) : Option UInt64 := a.header.map Header.height

def BeginBlock.wire : Format BeginBlock :=
  structured
    (.defaulting "hash" bytes []
      (.defaulting "header" (.optional Header.wire) none
      (.defaulting "last_commit_info" LastCommitInfo.wire {}
      (.defaulting "byzantine_validators" (.list Evidence.wire) [] .nil))))
    (fun (hash, header, last, byzantine, ()) => ⟨hash, header, last, byzantine⟩)
    (fun a => (a.hash, a.header, a.lastCommitInfo, a.byzantineValidators, ()))
    fun _ => rfl

/-- Executes a transaction in the open block. -/
structure DeliverTx where
  tx : Bytes := []
  deriving DecidableEq, Repr

def DeliverTx.wire : Format DeliverTx :=
  structured (.defaulting "tx" bytes [] .nil)
    (fun (tx, ()) => ⟨tx⟩) (fun a => (a.tx, ()))
    fun _ => rfl

/-- Closes the open block. -/
structure EndBlock where
  height : UInt64 := 0
  deriving DecidableEq, Repr

def EndBlock.wire : Format EndBlock :=
  structured (.defaulting "height" word64 0 .nil)
    (fun (height, ()) => ⟨height⟩) (fun a => (a.height, ()))
    fun _ => rfl

/-- Asks for nothing: a body without fields. -/
def nothing : Format Unit := .record false .nil

/-- Offers a snapshot of a peer. -/
structure OfferSnapshot where
  snapshot : Option Snapshot := none
  appHash : Bytes := []
  deriving DecidableEq, Repr

def OfferSnapshot.wire : Format OfferSnapshot :=
  structured
    (.defaulting "snapshot" (.optional Snapshot.wire) none
      (.defaulting "app_hash" bytes [] .nil))
    (fun (snapshot, appHash, ()) => ⟨snapshot, appHash⟩)
    (fun a => (a.snapshot, a.appHash, ()))
    fun _ => rfl

/-- Asks for a chunk of a local snapshot. -/
structure LoadSnapshotChunk where
  height : UInt64 := 0
  format : UInt32 := 0
  chunk : UInt32 := 0
  deriving DecidableEq, Repr

def LoadSnapshotChunk.wire : Format LoadSnapshotChunk :=
  structured
    (.defaulting "height" word64 0
      (.defaulting "format" word32 0 (.defaulting "chunk" word32 0 .nil)))
    (fun (height, format, chunk, ()) => ⟨height, format, chunk⟩)
    (fun a => (a.height, a.format, a.chunk, ()))
    fun _ => rfl

/-- Hands over a chunk of the snapshot being restored. -/
structure ApplySnapshotChunk where
  index : UInt32 := 0
  chunk : Bytes := []
  sender : String := ""
  deriving DecidableEq, Repr

def ApplySnapshotChunk.wire : Format ApplySnapshotChunk :=
  structured
    (.defaulting "index" word32 0
      (.defaulting "chunk" bytes [] (.defaulting "sender" .text "" .nil)))
    (fun (index, chunk, sender, ()) => ⟨index, chunk, sender⟩)
    (fun a => (a.index, a.chunk, a.sender, ()))
    fun _ => rfl

end ChainHost.Args
