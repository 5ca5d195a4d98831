/-
  The records that requests and responses carry.

  Every field of a record has a default, which stands for it when it is left
  out on the wire.  The format of a record lists its fields in wire order.
-/
import ChainHost.Json.Format

set_option autoImplicit false

namespace ChainHost

namespace Json.Format

/-- A record whose values are built from its fields. -/
def structured {α β : Type} (fields : Fields α) (build : α → β) (parts : β → α)
    (build_parts : ∀ b, build (parts b) = b) : Format β :=
  image (.record false fields) build parts build_parts

end Json.Format

open Json (Format Fields)
open Json.Format (word32 word64 bytes structured)

/-- A span of time. -/
structure Duration where
  secs : UInt64
  nanos : UInt32
  nanos_lt : nanos.toNat < 10 ^ 9
  deriving DecidableEq, Repr

namespace Duration

/-- The span of so many seconds and nanoseconds.  Whole seconds among the
nanoseconds are carried, if the seconds have room for them. -/
def carry? (secs : UInt64) (nanos : UInt32) : Option Duration :=
  let total := secs.toNat + nanos.toNat / 10 ^ 9
  if total < 2 ^ 64 then
    some ⟨UInt64.ofNat total, UInt32.ofNat (nanos.toNat % 10 ^ 9), by
      have h := Nat.mod_lt nanos.toNat (show 0 < 10 ^ 9 by decide)
      have : UInt32.toNat (UInt32.ofNat (nanos.toNat % 10 ^ 9)) = nanos.toNat % 10 ^ 9 :=
        UInt32.toNat_ofNat_of_lt' (by
          have : UInt32.size = 4294967296 := rfl
          omega)
      omega⟩
  else none

theorem carry?_parts (d : Duration) : carry? d.secs d.nanos = some d := by
  obtain ⟨secs, nanos, h⟩ := d
  have hs := secs.toNat_lt
  have hdiv : nanos.toNat / 10 ^ 9 = 0 := Nat.div_eq_of_lt h
  have hmod : nanos.toNat % 10 ^ 9 = nanos.toNat := Nat.mod_eq_of_lt h
  have htotal : secs.toNat + nanos.toNat / 10 ^ 9 = secs.toNat := by rw [hdiv, Nat.add_zero]
  have hfits : secs.toNat + nanos.toNat / 10 ^ 9 < 2 ^ 64 := by rw [htotal]; exact hs
  unfold carry?
  rw [if_pos hfits]
  congr
  · rw [htotal]
    exact UInt64.ofNat_toNat
  · rw [hmod]
    exact UInt32.ofNat_toNat

/-- Both fields are mandatory, and there are no others. -/
def wire : Format Duration :=
  .refine (.record true (.mandatory "secs" word64 (.mandatory "nanos" word32 .nil)))
    (fun (secs, nanos, ()) => carry? secs nanos) (fun d => (d.secs, d.nanos, ()))
    carry?_parts

end Duration

/-- The public key of a validator. -/
structure PublicKey where
  keyType : String := ""
  data : Bytes := []
  deriving DecidableEq, Repr

namespace PublicKey

/-- The key type that transactions can name. -/
def ed25519 (data : Bytes) : PublicKey := ⟨"ed25519", data⟩

def wire : Format PublicKey :=
  structured
    (.defaulting "key_type" .text "" (.defaulting "data" bytes [] .nil))
    (fun (keyType, data, ()) => ⟨keyType, data⟩) (fun k => (k.keyType, k.data, ()))
    fun _ => rfl

end PublicKey

/-- A change to the validator set; the power zero removes the validator. -/
structure ValidatorUpdate where
  publicKey : PublicKey := {}
  power : UInt64 := 0
  deriving DecidableEq, Repr

namespace ValidatorUpdate

/-- Whether the update removes its validator. -/
def isRemoval (u : ValidatorUpdate) : Bool := u.power == 0

def wire : Format ValidatorUpdate :=
  structured
    (.defaulting "public_key" PublicKey.wire {} (.defaulting "power" word64 0 .nil))
    (fun (publicKey, power, ()) => ⟨publicKey, power⟩) (fun u => (u.publicKey, u.power, ()))
    fun _ => rfl

end ValidatorUpdate

/-- A validator as commits and evidence name it. -/
structure Validator where
  address : Bytes := []
  power : UInt64 := 0
  deriving DecidableEq, Repr

def Validator.wire : Format Validator :=
  structured
    (.defaulting "address" bytes [] (.defaulting "power" word64 0 .nil))
    (fun (address, power, ()) => ⟨address, power⟩) (fun v => (v.address, v.power, ()))
    fun _ => rfl

/-- Whether a validator signed the previous block. -/
structure VoteInfo where
  validator : Validator := {}
  signedLastBlock : Bool := false
  deriving DecidableEq, Repr

def VoteInfo.wire : Format VoteInfo :=
  structured
    (.defaulting "validator" Validator.wire {}
      (.defaulting "signed_last_block" .flag false .nil))
    (fun (validator, signed, ()) => ⟨validator, signed⟩)
    (fun v => (v.validator, v.signedLastBlock, ()))
    fun _ => rfl

/-- Who signed the previous block. -/
structure LastCommitInfo where
  round : UInt32 := 0
  votes : List VoteInfo := []
  deriving DecidableEq, Repr

def LastCommitInfo.wire : Format LastCommitInfo :=
  structured
    (.defaulting "round" word32 0 (.defaulting "votes" (.list VoteInfo.wire) [] .nil))
    (fun (round, votes, ()) => ⟨round, votes⟩) (fun i => (i.round, i.votes, ()))
    fun _ => rfl

/-- A report of misbehaviour. -/
structure Evidence where
  evidenceType : String := ""
  validator : Validator := {}
  height : UInt64 := 0
  time : Option Duration := none
  totalVotingPower : UInt64 := 0
  deriving DecidableEq, Repr

def Evidence.wire : Format Evidence :=
  structured
    (.defaulting "evidence_type" .text ""
      (.defaulting "validator" Validator.wire {}
      (.defaulting "height" word64 0
      (.defaulting "time" (.optional Duration.wire) none
      (.defaulting "total_voting_power" word64 0 .nil)))))
    (fun (kind, validator, height, time, total, ()) => ⟨kind, validator, height, time, total⟩)
    (fun e => (e.evidenceType, e.validator, e.height, e.time, e.totalVotingPower, ()))
    fun _ => rfl

/-- Protocol versions. -/
structure Version where
  block : UInt64 := 0
  app : UInt64 := 0
  deriving DecidableEq, Repr

def Version.wire : Format Version :=
  structured
    (.defaulting "block" word64 0 (.defaulting "app" word64 0 .nil))
    (fun (block, app, ()) => ⟨block, app⟩) (fun v => (v.block, v.app, ()))
    fun _ => rfl

/-- The header of a block's parts. -/
structure PartSetHeader where
  total : UInt32 := 0
  hash : Bytes := []
  deriving DecidableEq, Repr

def PartSetHeader.wire : Format PartSetHeader :=
  structured
    (.defaulting "total" word32 0 (.defaulting "hash" bytes [] .nil))
    (fun (total, hash, ()) => ⟨total, hash⟩) (fun h => (h.total, h.hash, ()))
    fun _ => rfl

/-- The identifier of a block. -/
structure BlockId where
  hash : Bytes := []
  parts : PartSetHeader := {}
  deriving DecidableEq, Repr

def BlockId.wire : Format BlockId :=
  structured
    (.defaulting "hash" bytes [] (.defaulting "parts" PartSetHeader.wire {} .nil))
    (fun (hash, parts, ()) => ⟨hash, parts⟩) (fun b => (b.hash, b.parts, ()))
    fun _ => rfl

/-- The header of a block. -/
structure Header where
  version : Version := {}
  chainId : String := ""
  height : UInt64 := 0
  time : Option Duration := none
  lastBlockId : Option BlockId := none
  lastCommitHash : Bytes := []
  dataHash : Bytes := []
  validatorsHash : Bytes := []
  nextValidatorsHash : Bytes := []
  consensusHash : Bytes := []
  appHash : Bytes := []
  lastResultsHash : Bytes := []
  evidenceHash : Bytes := []
  proposerAddress : Bytes := []
  deriving DecidableEq, Repr

def Header.wire : Format Header :=
  structured
    (.defaulting "version" Version.wire {}
      (.defaulting "chain_id" .text ""
      (.defaulting "height" word64 0
      (.defaulting "time" (.optional Duration.wire) none
      (.defaulting "last_block_id" (.optional BlockId.wire) none
      (.defaulting "last_commit_hash" bytes []
      (.defaulting "data_hash" bytes []
      (.defaulting "validators_hash" bytes []
      (.defaulting "next_validators_hash" bytes []
      (.defaulting "consensus_hash" bytes []
      (.defaulting "app_hash" bytes []
      (.defaulting "last_results_hash" bytes []
      (.defaulting "evidence_hash" bytes []
      (.defaulting "proposer_address" bytes [] .nil))))))))))))))
    (fun (version, chainId, height, time, last, commit, data, validators, next, consensus,
        app, results, evidence, proposer, ()) =>
      ⟨version, chainId, height, time, last, commit, data, validators, next, consensus,
        app, results, evidence, proposer⟩)
    (fun h => (h.version, h.chainId, h.height, h.time, h.lastBlockId, h.lastCommitHash,
      h.dataHash, h.validatorsHash, h.nextValidatorsHash, h.consensusHash, h.appHash,
      h.lastResultsHash, h.evidenceHash, h.proposerAddress, ()))
    fun _ => rfl

/-- Limits on the size of a block. -/
structure BlockParams where
  maxBytes : UInt64 := 0
  maxGas : UInt64 := 0
  deriving DecidableEq, Repr

def BlockParams.wire : Format BlockParams :=
  structured
    (.defaulting "max_bytes" word64 0 (.defaulting "max_gas" word64 0 .nil))
    (fun (maxBytes, maxGas, ()) => ⟨maxBytes, maxGas⟩) (fun p => (p.maxBytes, p.maxGas, ()))
    fun _ => rfl

/-- How old evidence may be. -/
structure EvidenceParams where
  maxAgeNumBlocks : UInt64 := 0
  maxAgeDuration : Option Duration := none
  deriving DecidableEq, Repr

def EvidenceParams.wire : Format EvidenceParams :=
  structured
    (.defaulting "max_age_num_blocks" word64 0
      (.defaulting "max_age_duration" (.optional Duration.wire) none .nil))
    (fun (blocks, duration, ()) => ⟨blocks, duration⟩)
    (fun p => (p.maxAgeNumBlocks, p.maxAgeDuration, ()))
    fun _ => rfl

/-- The key types that validators may use. -/
structure ValidatorParams where
  publicKeyTypes : List String := []
  deriving DecidableEq, Repr

def ValidatorParams.wire : Format ValidatorParams :=
  structured
    (.defaulting "public_key_types" (.list .text) [] .nil)
    (fun (types, ()) => ⟨types⟩) (fun p => (p.publicKeyTypes, ()))
    fun _ => rfl

/-- Parameters of consensus.  In an update, what is missing stays as it is. -/
structure ConsensusParams where
  block : Option BlockParams := none
  evidence : Option EvidenceParams := none
  validator : Option ValidatorParams := none
  deriving DecidableEq, Repr

namespace ConsensusParams

/-- The parameters after an update. -/
def merge (params update : ConsensusParams) : ConsensusParams where
  block := update.block.or params.block
  evidence := update.evidence.or params.evidence
  validator := update.validator.or params.validator

def wire : Format ConsensusParams :=
  structured
    (.defaulting "block" (.optional BlockParams.wire) none
      (.defaulting "evidence" (.optional EvidenceParams.wire) none
      (.defaulting "validator" (.optional ValidatorParams.wire) none .nil)))
    (fun (block, evidence, validator, ()) => ⟨block, evidence, validator⟩)
    (fun p => (p.block, p.evidence, p.validator, ()))
    fun _ => rfl

end ConsensusParams

/-- An attribute of an event. -/
structure EventAttribute where
  key : Bytes := []
  value : Bytes := []
  /-- Whether the attribute is indexed. -/
  index : Bool := false
  deriving DecidableEq, Repr

def EventAttribute.wire : Format EventAttribute :=
  structured
    (.defaulting "key" bytes [] (.defaulting "value" bytes [] (.defaulting "index" .flag false .nil)))
    (fun (key, value, index, ()) => ⟨key, value, index⟩)
    (fun a => (a.key, a.value, a.index, ()))
    fun _ => rfl

/-- An event for indexing. -/
structure Event where
  eventType : String := ""
  attributes : List EventAttribute := []
  deriving DecidableEq, Repr

namespace Event

/-- The event with one more attribute, which is indexed. -/
def withAttribute (e : Event) (key value : Bytes) : Event :=
  { e with attributes := e.attributes ++ [⟨key, value, true⟩] }

def wire : Format Event :=
  structured
    (.defaulting "event_type" .text ""
      (.defaulting "attributes" (.list EventAttribute.wire) [] .nil))
    (fun (eventType, attributes, ()) => ⟨eventType, attributes⟩)
    (fun e => (e.eventType, e.attributes, ()))
    fun _ => rfl

end Event

/-- A snapshot of the application's state. -/
structure Snapshot where
  height : UInt64 := 0
  format : UInt32 := 0
  chunks : UInt32 := 0
  hash : Bytes := []
  metadata : Bytes := []
  deriving DecidableEq, Repr

/-- How a snapshot stands in a document. -/
def Snapshot.wire : Format Snapshot :=
  structured
    (.defaulting "height" word64 0
      (.defaulting "format" word32 0
      (.defaulting "chunks" word32 0
      (.defaulting "hash" bytes []
      (.defaulting "metadata" bytes [] .nil)))))
    (fun (height, format, chunks, hash, metadata, ()) => ⟨height, format, chunks, hash, metadata⟩)
    (fun s => (s.height, s.format, s.chunks, s.hash, s.metadata, ()))
    fun _ => rfl

/-- One step of a proof. -/
structure ProofOp where
  opType : String := ""
  key : Bytes := []
  data : Bytes := []
  deriving DecidableEq, Repr

def ProofOp.wire : Format ProofOp :=
  structured
    (.defaulting "op_type" .text ""
      (.defaulting "key" bytes [] (.defaulting "data" bytes [] .nil)))
    (fun (opType, key, data, ()) => ⟨opType, key, data⟩)
    (fun o => (o.opType, o.key, o.data, ()))
    fun _ => rfl

/-- A proof, the step about the queried key first. -/
structure Proof where
  ops : List ProofOp := []
  deriving DecidableEq, Repr

def Proof.wire : Format Proof :=
  structured
    (.defaulting "ops" (.list ProofOp.wire) [] .nil)
    (fun (ops, ()) => ⟨ops⟩) (fun p => (p.ops, ()))
    fun _ => rfl

end ChainHost
