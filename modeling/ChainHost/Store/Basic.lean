/-
  The key/value store.

  Transactions change the working state.  A commit takes a snapshot of it under
  the height of the block, commits to it by a Merkle root, and drops the
  snapshots that retention no longer asks for.  Queries read snapshots only.
-/
import ChainHost.Application.Basic
import ChainHost.Merkle.Evidence
import ChainHost.Store.Transaction

set_option autoImplicit false

namespace ChainHost

/-- The key/value store. -/
structure Store where
  /-- The entries after all accepted transactions. -/
  working : Table Bytes Bytes := .empty
  /-- The committed states that are still kept. -/
  snapshots : Table UInt64 Merkle.Tree := .empty
  lastHeight : UInt64 := 0
  lastAppHash : Bytes := []
  /-- The height of the open block. -/
  blockHeight : UInt64 := 0
  /-- The validator updates of the open block. -/
  updates : List ValidatorUpdate := []
  /-- How many committed states are kept; zero keeps all. -/
  retainBlocks : UInt64 := 0

namespace Store

/-- The codespace of the store. -/
def codespace : String := "kvstore"

/-- Why the store refuses a call. -/
inductive Refusal where
  | badTransaction (fault : Transaction.Fault)
  | unknownOption (key : String)
  | badRetention
  | unknownPath (path : String)
  | noSnapshot (height : UInt64)
  deriving DecidableEq, Repr

/-- The option that sets how many committed states are kept. -/
def retainOption : String := "retain_blocks"

namespace Refusal

/-- The code of a refusal. -/
def code : Refusal → UInt32
  | badTransaction _ => 1
  | unknownOption _ | badRetention => 2
  | unknownPath _ => 3
  | noSnapshot _ => 4

/-- The words for a refusal. -/
def message : Refusal → String
  | badTransaction fault => fault.message
  | unknownOption key => "unknown option '" ++ key ++ "'"
  | badRetention => retainOption ++ " must be a non-negative integer"
  | unknownPath path => "unknown query path '" ++ path ++ "'"
  | noSnapshot height => "no snapshot for height " ++ toString height.toNat

/-- The error fields of a refusal. -/
def fault (r : Refusal) : Fault := { code := r.code, codespace, log := r.message }

end Refusal

/-! ## Writing -/

/-- The key under which the power of a validator is kept. -/
def validatorKey (key : PublicKey) : Bytes :=
  Bytes.ofText Transaction.validatorMark ++ Hex.encode key.data

/-- The key that a transaction writes. -/
def keyOf : Transaction → Bytes
  | .set key _ => key
  | .validator update => validatorKey update.publicKey

/-- The entries after a transaction. -/
def write (entries : Table Bytes Bytes) : Transaction → Table Bytes Bytes
  | .set key value => entries.insert key value
  | .validator update =>
      let key := validatorKey update.publicKey
      if update.isRemoval then entries.erase key
      else entries.insert key (Decimal.digits update.power.toNat)

/-- The store after a transaction. -/
def apply (s : Store) (tx : Transaction) : Store :=
  { s with
    working := write s.working tx
    updates :=
      match tx with
      | .set _ _ => s.updates
      | .validator update => s.updates ++ [update] }

/-- The lowest height to keep once a height is committed. -/
def retainHeight (s : Store) (height : UInt64) : UInt64 :=
  if s.retainBlocks = 0 ∨ height < s.retainBlocks then 0 else height - s.retainBlocks + 1

/-! ## The calls -/

/-- Genesis validators are active already, so they are no updates. -/
def initChain (s : Store) (args : Args.InitChain) : Store :=
  { args.validators.foldl (fun s u => s.apply (.validator u)) s with updates := [] }

/-- A block starts without validator updates; without a header its height is zero. -/
def beginBlock (s : Store) (args : Args.BeginBlock) : Store :=
  { s with blockHeight := args.height?.getD 0, updates := [] }

/-- The event of an accepted transaction. -/
def acceptedEvent (key : Bytes) : Event :=
  ((({ eventType := "app" } : Event).withAttribute (Bytes.ofText "creator")
    (Bytes.ofText "abci-kvstore")).withAttribute (Bytes.ofText "key") key)

/-- A transaction that cannot be read leaves the store as it is. -/
def deliverTx (s : Store) (args : Args.DeliverTx) : Reply Result.Tx × Store :=
  match Transaction.read args.tx with
  | .error fault => (.rejected {} (Refusal.badTransaction fault).fault, s)
  | .ok tx => (.ok { events := [acceptedEvent (keyOf tx)] }, s.apply tx)

/-- The end of a block hands over the validator updates it gathered. -/
def endBlock (s : Store) : Reply Result.EndBlock × Store :=
  (.ok { validatorUpdates := s.updates }, { s with updates := [] })

/-- The entries become the state of the height, and the states below the lowest
height to keep are dropped. -/
def commit (s : Store) : Reply Result.Commit × Store :=
  let tree : Merkle.Tree := ⟨s.working⟩
  let digest := tree.root.bytes
  let retain := s.retainHeight s.blockHeight
  (.ok { data := digest, retainHeight := retain },
    { s with
      snapshots := (s.snapshots.insert s.blockHeight tree).dropBelow retain
      lastHeight := s.blockHeight
      lastAppHash := digest })

/-- The number of entries at the latest committed height, as a document. -/
def sizeText (s : Store) : String :=
  let size := ((s.snapshots.find? s.lastHeight).map Merkle.Tree.size).getD 0
  "\x7b\"size\":" ++ toString size ++ "\x7d"

/-- What is known of the latest committed state. -/
def info (s : Store) : Result.Info where
  data := s.sizeText
  version := "0.1.0"
  appVersion := 1
  lastBlockHeight := s.lastHeight
  lastBlockAppHash := s.lastAppHash

/-- Sets how many committed states are kept; there is no other option. -/
def setOption (s : Store) (args : Args.SetOption) : Reply Result.SetOption × Store :=
  if args.key ≠ retainOption then (.rejected {} (Refusal.unknownOption args.key).fault, s)
  else
    match Decimal.word? (Bytes.ofText args.value) with
    | none => (.rejected {} Refusal.badRetention.fault, s)
    | some blocks =>
        (.ok { log := retainOption ++ "=" ++ toString blocks.toNat },
          { s with retainBlocks := blocks })

/-- The state that a query at a height reads.  Before the first commit the
height zero reads the state without entries. -/
def treeAt (s : Store) (height : UInt64) : Except Refusal Merkle.Tree :=
  match s.snapshots.find? height with
  | some tree => .ok tree
  | none =>
      if height = 0 ∧ s.snapshots.size = 0 then .ok {} else .error (.noSnapshot height)

/-- Looks a key up. -/
def lookup (s : Store) (args : Args.Query) : Except Refusal Result.Query :=
  if args.path ≠ "" ∧ args.path ≠ "/store" then .error (.unknownPath args.path)
  else
    match s.treeAt args.height with
    | .error refusal => .error refusal
    | .ok tree =>
        let value := tree.find? args.data
        .ok
          { log := if value.isSome then "exists" else "does not exist"
            index := UInt64.ofNat ((tree.index? args.data).getD 0)
            key := args.data
            value := value.getD []
            proof := if args.prove then some ⟨[tree.prove args.data]⟩ else none
            height := args.height }

/-- The reply to a query; one that cannot be answered is rejected with an empty
result. -/
def query (s : Store) (args : Args.Query) : Reply Result.Query :=
  match s.lookup args with
  | .ok result => .ok result
  | .error refusal => .rejected {} refusal.fault

/-- A transaction that can be read is fine. -/
def checkTx (args : Args.CheckTx) : Reply Result.Tx :=
  let result : Result.Tx := { gasWanted := 1 }
  match Transaction.read args.tx with
  | .ok _ => .ok result
  | .error fault => .rejected result (Refusal.badTransaction fault).fault

/-- The reply to a call, and the store after it. -/
def reply (s : Store) : (v : Verb) → v.Args → Reply v.Result × Store
  | .initChain, args => (.ok ({} : Result.InitChain), s.initChain args)
  | .beginBlock, args => (.ok ({} : Result.BeginBlock), s.beginBlock args)
  | .deliverTx, args => s.deliverTx args
  | .endBlock, _ => s.endBlock
  | .commit, _ => s.commit
  | .info, _ => (.ok s.info, s)
  | .setOption, args => s.setOption args
  | .query, args => (s.query args, s)
  | .checkTx, args => (checkTx args, s)
  | v, args => (.ok (Application.omitted v args), s)

/-- The store as an application. -/
def application : Application Store where
  call v args s :=
    let (reply, s) := s.reply v args
    (.replied reply, s)

/-- A store that keeps so many committed states. -/
def keeping (blocks : UInt64) : Store := { retainBlocks := blocks }

/-- The heights whose states are kept. -/
def heights (s : Store) : List UInt64 := s.snapshots.keys

end Store

end ChainHost
