/-
  The calls of the protocol.

  A verb is what a request asks for.  Each has a type of arguments and a type
  of results, so that an answer always fits its request.
-/
import ChainHost.Message.Args
import ChainHost.Message.Result

set_option autoImplicit false

namespace ChainHost

open Json (Format Names)

/-- What a request asks for. -/
inductive Verb where
  | echo
  | flush
  | info
  | setOption
  | query
  | checkTx
  | initChain
  | beginBlock
  | deliverTx
  | endBlock
  | commit
  | listSnapshots
  | offerSnapshot
  | loadSnapshotChunk
  | applySnapshotChunk
  deriving DecidableEq, Repr

/-- The group of calls that a verb belongs to. -/
inductive Capability where
  | consensus
  | info
  | mempool
  | snapshot
  deriving DecidableEq, Repr

/-- The name of a group. -/
def Capability.name : Capability → String
  | consensus => "consensus"
  | info => "info"
  | mempool => "mempool"
  | snapshot => "snapshot"

namespace Verb

/-- All verbs, in wire order. -/
def all : List Verb :=
  [echo, flush, info, setOption, query, checkTx, initChain, beginBlock, deliverTx, endBlock,
    commit, listSnapshots, offerSnapshot, loadSnapshotChunk, applySnapshotChunk]

/-- The name of a verb on the wire and in messages. -/
def name : Verb → String
  | echo => "echo"
  | flush => "flush"
  | info => "info"
  | setOption => "set_option"
  | query => "query"
  | checkTx => "check_tx"
  | initChain => "init_chain"
  | beginBlock => "begin_block"
  | deliverTx => "deliver_tx"
  | endBlock => "end_block"
  | commit => "commit"
  | listSnapshots => "list_snapshots"
  | offerSnapshot => "offer_snapshot"
  | loadSnapshotChunk => "load_snapshot_chunk"
  | applySnapshotChunk => "apply_snapshot_chunk"

/-- The names of the verbs. -/
def names : Names Verb where
  name := name
  all := all
  find_name a := by cases a <;> rfl

/-- The group of a verb. -/
def capability : Verb → Capability
  | flush | initChain | beginBlock | deliverTx | endBlock | commit => .consensus
  | echo | info | setOption | query => .info
  | checkTx => .mempool
  | listSnapshots | offerSnapshot | loadSnapshotChunk | applySnapshotChunk => .snapshot

/-- What a verb asks with. -/
abbrev Args : Verb → Type
  | echo => ChainHost.Args.Echo
  | flush => Unit
  | info => ChainHost.Args.Info
  | setOption => ChainHost.Args.SetOption
  | query => ChainHost.Args.Query
  | checkTx => ChainHost.Args.CheckTx
  | initChain => ChainHost.Args.InitChain
  | beginBlock => ChainHost.Args.BeginBlock
  | deliverTx => ChainHost.Args.DeliverTx
  | endBlock => ChainHost.Args.EndBlock
  | commit => Unit
  | listSnapshots => Unit
  | offerSnapshot => ChainHost.Args.OfferSnapshot
  | loadSnapshotChunk => ChainHost.Args.LoadSnapshotChunk
  | applySnapshotChunk => ChainHost.Args.ApplySnapshotChunk

/-- What a verb is answered with. -/
abbrev Result : Verb → Type
  | echo => ChainHost.Result.Echo
  | flush => Unit
  | info => ChainHost.Result.Info
  | setOption => ChainHost.Result.SetOption
  | query => ChainHost.Result.Query
  | checkTx => ChainHost.Result.Tx
  | initChain => ChainHost.Result.InitChain
  | beginBlock => ChainHost.Result.BeginBlock
  | deliverTx => ChainHost.Result.Tx
  | endBlock => ChainHost.Result.EndBlock
  | commit => ChainHost.Result.Commit
  | listSnapshots => ChainHost.Result.ListSnapshots
  | offerSnapshot => ChainHost.Result.OfferSnapshot
  | loadSnapshotChunk => ChainHost.Result.LoadSnapshotChunk
  | applySnapshotChunk => ChainHost.Result.ApplySnapshotChunk

instance (v : Verb) : DecidableEq v.Args := by
  cases v <;> (dsimp only [Args]; infer_instance)

instance (v : Verb) : DecidableEq v.Result := by
  cases v <;> (dsimp only [Result]; infer_instance)

/-- The answer of a verb that has nothing to tell. -/
def neutral : (v : Verb) → v.Result
  | echo => ({} : ChainHost.Result.Echo)
  | flush => ()
  | info => ({} : ChainHost.Result.Info)
  | setOption => ({} : ChainHost.Result.SetOption)
  | query => ({} : ChainHost.Result.Query)
  | checkTx => ({} : ChainHost.Result.Tx)
  | initChain => ({} : ChainHost.Result.InitChain)
  | beginBlock => ({} : ChainHost.Result.BeginBlock)
  | deliverTx => ({} : ChainHost.Result.Tx)
  | endBlock => ({} : ChainHost.Result.EndBlock)
  | commit => ({} : ChainHost.Result.Commit)
  | listSnapshots => ({} : ChainHost.Result.ListSnapshots)
  | offerSnapshot => ({} : ChainHost.Result.OfferSnapshot)
  | loadSnapshotChunk => ({} : ChainHost.Result.LoadSnapshotChunk)
  | applySnapshotChunk => ({} : ChainHost.Result.ApplySnapshotChunk)

/-- How the arguments stand in a document. -/
def argsWire : (v : Verb) → Format v.Args
  | echo => ChainHost.Args.Echo.wire
  | flush => .void
  | info => ChainHost.Args.Info.wire
  | setOption => ChainHost.Args.SetOption.wire
  | query => ChainHost.Args.Query.wire
  | checkTx => ChainHost.Args.CheckTx.wire
  | initChain => ChainHost.Args.InitChain.wire
  | beginBlock => ChainHost.Args.BeginBlock.wire
  | deliverTx => ChainHost.Args.DeliverTx.wire
  | endBlock => ChainHost.Args.EndBlock.wire
  | commit => .void
  | listSnapshots => ChainHost.Args.nothing
  | offerSnapshot => ChainHost.Args.OfferSnapshot.wire
  | loadSnapshotChunk => ChainHost.Args.LoadSnapshotChunk.wire
  | applySnapshotChunk => ChainHost.Args.ApplySnapshotChunk.wire

/-- How the result stands in a document. -/
def resultWire : (v : Verb) → Format v.Result
  | echo => ChainHost.Result.Echo.wire
  | flush => .void
  | info => ChainHost.Result.Info.wire
  | setOption => ChainHost.Result.SetOption.wire
  | query => ChainHost.Result.Query.wire
  | checkTx => ChainHost.Result.Tx.wire
  | initChain => ChainHost.Result.InitChain.wire
  | beginBlock => ChainHost.Result.BeginBlock.wire
  | deliverTx => ChainHost.Result.Tx.wire
  | endBlock => ChainHost.Result.EndBlock.wire
  | commit => ChainHost.Result.Commit.wire
  | listSnapshots => ChainHost.Result.ListSnapshots.wire
  | offerSnapshot => ChainHost.Result.OfferSnapshot.wire
  | loadSnapshotChunk => ChainHost.Result.LoadSnapshotChunk.wire
  | applySnapshotChunk => ChainHost.Result.ApplySnapshotChunk.wire

end Verb

end ChainHost
