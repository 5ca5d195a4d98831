/-
  What a digest of the store vouches for.

  A proof of one step that is accepted against a returned digest says what the
  state of the height says.  A proof of more steps ends at a value that stands
  in that state and reads like a root: what the earlier steps show, they show
  of the tree of that value, and any client can have written it.
-/
import ChainHost.Proofs.Merkle.Soundness
import ChainHost.Proofs.Store.Run

set_option autoImplicit false

namespace ChainHost

namespace Merkle

/-- The steps before the last one are a proof for the value under its key. -/
theorem verify_front {front outer : List ProofOp} {first op : ProofOp} {value : Option Bytes}
    {root : Digest} (hops : first :: outer = front ++ [op])
    (hfront : runAll front value = .ok root) :
    verify ⟨front⟩ root.bytes first.key value = .ok () := by
  cases front with
  | nil => cases hfront
  | cons head front =>
      cases hops
      exact verify_eq_ok_iff.mpr ⟨_, _, root, rfl, rfl, hfront, rfl⟩

end Merkle

namespace Store

open Merkle

/-! ## Requests for a block -/

/-- The requests that carry a block of transactions at a height. -/
def block (height : UInt64) (txs : List Bytes) : List Request :=
  ⟨.beginBlock, ({ header := some { height } } : Args.BeginBlock)⟩ ::
    (txs.map Request.deliverTx ++ [Request.endBlock height, ⟨.commit, ()⟩])

/-! ## One step and more -/

/-- An accepted proof says what the state of the height says, or stands on a value
of that state that reads like the root of another tree. -/
theorem verify_digest_sound (blocks : UInt64) (requests : List Request) (height : UInt64)
    (tree : Tree) (digest : Bytes)
    (hkept : ((keeping blocks).after requests).snapshots.find? height = some tree)
    (hdigest : ((keeping blocks).digests .empty requests).find? height = some digest)
    (proof : Proof) (key : Bytes) (value : Option Bytes)
    (hverify : verify proof digest key value = .ok ()) :
    Collides (proofTexts proof value) tree.texts ∨
      (∃ op, proof.ops = [op] ∧ tree.find? key = value) ∨
      ∃ front op inner, proof.ops = front ++ [op] ∧ tree.find? op.key = some inner ∧
        inner.length = 32 ∧ verify ⟨front⟩ inner key value = .ok () := by
  have hroot := (noted_keeping blocks).after requests height tree hkept
  rw [hroot] at hdigest
  cases hdigest
  rcases shown_of_verify hverify with hcollides | hshown
  · exact .inl hcollides
  · obtain ⟨first, outer, reached, hops, rfl, -, -⟩ := verify_eq_ok_iff.mp hverify
    obtain ⟨ops⟩ := proof
    dsimp only at hshown hops
    cases hshown with
    | @one op hkey hfind => exact .inr (.inl ⟨op, rfl, hfind⟩)
    | @more front op root hfront hfind =>
        exact .inr (.inr ⟨front, op, root.bytes, rfl, hfind, root.length_bytes,
          verify_front hops.symm hfront⟩)

/-! ## A value that reads like a root -/

/-- A tree that the store never commits to. -/
def foreignTree : Tree := ⟨.ofList [([97], [98])]⟩

/-- The transaction of a client that writes the root of the foreign tree. -/
def bait : Bytes := [107, Transaction.equals] ++ foreignTree.root.bytes

/-- The state with the entry of that client. -/
def baitedTree : Tree := ⟨.ofList [([107], foreignTree.root.bytes)]⟩

theorem snapshots_bait :
    ((keeping 0).after (block 1 [bait])).snapshots.find? 1 = some baitedTree := by
  decide +kernel

theorem digests_bait :
    ((keeping 0).digests .empty (block 1 [bait])).find? 1 = some baitedTree.root.bytes := by
  decide +kernel

/-- The entry of the client has a proof of one step. -/
theorem verify_digest_sound_bait :
    let proof : Proof := ⟨[baitedTree.prove [107]]⟩
    let value := some foreignTree.root.bytes
    verify proof baitedTree.root.bytes [107] value = .ok () ∧
      (Collides (proofTexts proof value) baitedTree.texts ∨
        (∃ op, proof.ops = [op] ∧ baitedTree.find? [107] = value) ∨
        ∃ front op inner, proof.ops = front ++ [op] ∧ baitedTree.find? op.key = some inner ∧
          inner.length = 32 ∧ verify ⟨front⟩ inner [107] value = .ok ()) := by
  have haccepted : verify ⟨[baitedTree.prove [107]]⟩ baitedTree.root.bytes [107]
      (some foreignTree.root.bytes) = .ok () := verify_eq_ok_of_isOk (by decide +kernel)
  exact ⟨haccepted, verify_digest_sound 0 (block 1 [bait]) 1 baitedTree _ snapshots_bait
    digests_bait _ _ _ haccepted⟩

/-- A proof of two steps that goes through the entry of the client is accepted for
an entry of the foreign tree, which the state of the height does not have. -/
theorem verify_forged :
    let proof : Proof := ⟨[foreignTree.prove [97], baitedTree.prove [107]]⟩
    ((keeping 0).after (block 1 [bait])).snapshots.find? 1 = some baitedTree ∧
      ((keeping 0).digests .empty (block 1 [bait])).find? 1 = some baitedTree.root.bytes ∧
      verify proof baitedTree.root.bytes [97] (some [98]) = .ok () ∧
      ¬Collides (proofTexts proof (some [98])) baitedTree.texts ∧
      baitedTree.find? [97] = none := by
  refine ⟨snapshots_bait, digests_bait, verify_eq_ok_of_isOk ?_, ?_, ?_⟩
  · decide +kernel
  · decide +kernel
  · decide +kernel

end Store

end ChainHost
