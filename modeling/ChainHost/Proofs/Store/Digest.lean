/-
  What a digest of the store binds.

  The working state is listed by key, so the order in which it came about leaves
  no trace: a key has what the last transaction on it says.  A commit takes the
  root of the whole list, and a root binds its entries.  So digests are equal
  for equal states, and for no others but for a collision.
-/
import ChainHost.Proofs.Merkle.Collision
import ChainHost.Proofs.Store.Run

set_option autoImplicit false

namespace ChainHost.Store

open Merkle

/-- The tree that a commit would keep now. -/
def tree (s : Store) : Tree := ⟨s.working⟩

/-- The digest that a commit would return now. -/
def digest (s : Store) : Bytes := (s.reply .commit ()).1.value.data

theorem digest_eq (s : Store) : s.digest = s.tree.root.bytes := rfl

/-! ## Histories -/

/-- After any requests a key has what the last transaction on it says. -/
theorem find?_working_after (blocks : UInt64) (requests : List Request) (key : Bytes) :
    ((keeping blocks).after requests).working.find? key
      = (latestOn key (requests.flatMap carried)).bind valueOf := by
  rw [working_after, find?_foldl_write]
  cases latestOn key (requests.flatMap carried) <;> rfl

/-- Histories of which the last transactions on each key agree lead to one digest,
however long they are and in whatever order they wrote. -/
theorem digest_eq_of_latestOn (blocks blocks' : UInt64) (requests requests' : List Request)
    (h : ∀ key, latestOn key (requests.flatMap carried) = latestOn key (requests'.flatMap carried)) :
    ((keeping blocks).after requests).digest = ((keeping blocks').after requests').digest := by
  have hworking : ((keeping blocks).after requests).working
      = ((keeping blocks').after requests').working := by
    apply Table.ext_find
    intro key
    rw [find?_working_after, find?_working_after, h key]
  rw [digest_eq, digest_eq, tree, tree, hworking]

/-! ## Digests and states -/

/-- Two runs, whatever was written, overwritten and removed in them and in whatever
order, have one digest if they lead to one state; and if they have one digest
they lead to one state, or texts of the two trees collide. -/
theorem digest_binds (blocks blocks' : UInt64) (requests requests' : List Request) :
    let s := (keeping blocks).after requests
    let s' := (keeping blocks').after requests'
    ((∀ key, s.working.find? key = s'.working.find? key) → s.digest = s'.digest) ∧
      (s.digest = s'.digest →
        Collides s.tree.texts s'.tree.texts ∨
          ∀ key, s.working.find? key = s'.working.find? key) := by
  intro s s'
  constructor
  · intro hview
    have hworking : s.working = s'.working := Table.ext_find hview
    rw [digest_eq, digest_eq, tree, tree, hworking]
  · intro hdigest
    have hroot : s.tree.root = s'.tree.root := Digest.ext_bytes hdigest
    rcases Tree.eq_of_root_eq hroot with hcollides | htree
    · exact .inl hcollides
    · refine .inr fun key => ?_
      have hworking : s.working = s'.working := congrArg Tree.table htree
      rw [hworking]

/-- A run that starts from a genesis validator. -/
def direct : List Request :=
  [⟨.initChain, ({ validators := [⟨.ed25519 [171], 5⟩] } : Args.InitChain)⟩,
    .deliverTx (Bytes.ofText "a=1"), .deliverTx (Bytes.ofText "b=2")]

/-- A run that writes twice, removes a validator and puts it back. -/
def winding : List Request :=
  [.deliverTx (Bytes.ofText "b=9"), .deliverTx (Bytes.ofText "val:ab!7"), ⟨.commit, ()⟩,
    .deliverTx (Bytes.ofText "val:ab!0"), .deliverTx (Bytes.ofText "b=2"),
    .deliverTx (Bytes.ofText "val:AB!5"), .deliverTx (Bytes.ofText "a=1")]

/-- Both runs lead to one state, and the digest tells so. -/
theorem digest_binds_winding :
    let s := (keeping 0).after direct
    let s' := (keeping 3).after winding
    s.digest = s'.digest ∧
      (Collides s.tree.texts s'.tree.texts ∨
        ∀ key, s.working.find? key = s'.working.find? key) := by
  have hworking : ((keeping 0).after direct).working = ((keeping 3).after winding).working := by
    decide +kernel
  obtain ⟨hequal, hbinds⟩ := digest_binds 0 3 direct winding
  have hdigest := hequal fun key => by rw [hworking]
  exact ⟨hdigest, hbinds hdigest⟩

end ChainHost.Store
