/-
  Runs of the store.

  Requests come one after another, in any order and with any arguments.  Only a
  commit changes which states are kept; it keeps the working state under the
  height of the open block and returns its root.  So under every height with a
  kept state stands the root of that state among the digests that commits
  returned.
-/
import ChainHost.Proofs.Table
import ChainHost.Store.Basic

set_option autoImplicit false

namespace ChainHost.Store

/-! ## Runs -/

/-- The store after a request. -/
def next (s : Store) (r : Request) : Store := (s.reply r.verb r.args).2

/-- The store after some requests. -/
def after (s : Store) : List Request → Store
  | [] => s
  | r :: rest => (s.next r).after rest

/-- The digests that commits returned, the latest of each height, after one more
request to the store. -/
def noted (s : Store) (returned : Table UInt64 Bytes) : Request → Table UInt64 Bytes
  | ⟨.commit, args⟩ => returned.insert s.blockHeight (s.reply .commit args).1.value.data
  | _ => returned

/-- The digests that commits returned, the latest of each height, after some
requests to the store. -/
def digests (s : Store) (returned : Table UInt64 Bytes) : List Request → Table UInt64 Bytes
  | [] => returned
  | r :: rest => (s.next r).digests (s.noted returned r) rest

/-! ## What is kept -/

theorem snapshots_initChain (s : Store) (args : Args.InitChain) :
    (s.initChain args).snapshots = s.snapshots := by
  unfold initChain
  induction args.validators generalizing s with
  | nil => rfl
  | cons update rest ih => exact ih (s.apply (.validator update))

theorem snapshots_deliverTx (s : Store) (args : Args.DeliverTx) :
    (s.deliverTx args).2.snapshots = s.snapshots := by
  unfold deliverTx
  split <;> rfl

theorem snapshots_setOption (s : Store) (args : Args.SetOption) :
    (s.setOption args).2.snapshots = s.snapshots := by
  unfold setOption
  split
  · rfl
  · split <;> rfl

/-- Only a commit changes what is kept. -/
theorem snapshots_next {s : Store} {r : Request} (h : r.verb ≠ .commit) :
    (s.next r).snapshots = s.snapshots := by
  obtain ⟨verb, args⟩ := r
  cases verb with
  | initChain => exact s.snapshots_initChain args
  | deliverTx => exact s.snapshots_deliverTx args
  | setOption => exact s.snapshots_setOption args
  | commit => exact absurd rfl h
  | _ => rfl

theorem noted_of_ne {s : Store} {returned : Table UInt64 Bytes} {r : Request}
    (h : r.verb ≠ .commit) : s.noted returned r = returned := by
  obtain ⟨verb, args⟩ := r
  cases verb with
  | commit => exact absurd rfl h
  | _ => rfl

/-- Every state that is kept has its root among the digests returned. -/
def Noted (s : Store) (returned : Table UInt64 Bytes) : Prop :=
  ∀ height tree, s.snapshots.find? height = some tree →
    returned.find? height = some tree.root.bytes

theorem noted_keeping (blocks : UInt64) : (keeping blocks).Noted .empty := by
  intro height tree h
  cases h

theorem Noted.commit {s : Store} {returned : Table UInt64 Bytes} (h : s.Noted returned) :
    s.commit.2.Noted (returned.insert s.blockHeight s.commit.1.value.data) := by
  intro height tree hkept
  have hinserted := Table.find?_of_find?_dropBelow hkept
  by_cases hheight : height = s.blockHeight
  · subst hheight
    rw [Table.find?_insert_self] at hinserted ⊢
    cases hinserted
    rfl
  · rw [Table.find?_insert_of_ne _ _ hheight] at hinserted ⊢
    exact h height tree hinserted

theorem Noted.next {s : Store} {returned : Table UInt64 Bytes} (h : s.Noted returned)
    (r : Request) : (s.next r).Noted (s.noted returned r) := by
  by_cases hverb : r.verb = .commit
  · obtain ⟨verb, args⟩ := r
    subst hverb
    exact h.commit
  · intro height tree hkept
    rw [snapshots_next hverb] at hkept
    rw [noted_of_ne hverb]
    exact h height tree hkept

/-- After any requests, what is kept under a height has the root that the latest
commit of the height returned. -/
theorem Noted.after {s : Store} {returned : Table UInt64 Bytes} (h : s.Noted returned)
    (requests : List Request) : (s.after requests).Noted (s.digests returned requests) := by
  induction requests generalizing s returned with
  | nil => exact h
  | cons r rest ih => exact ih (h.next r)

/-! ## What is written -/

/-- The value that a transaction puts under its key, or none when it removes it. -/
def valueOf : Transaction → Option Bytes
  | .set _ value => some value
  | .validator update =>
      if update.isRemoval then none else some (Decimal.digits update.power.toNat)

/-- The transactions that a request applies: the genesis validators, or one
transaction that can be read. -/
def carried : Request → List Transaction
  | ⟨.initChain, args⟩ => args.validators.map .validator
  | ⟨.deliverTx, args⟩ => (Transaction.read args.tx).toOption.toList
  | _ => []

/-- The last of some transactions that writes a key. -/
def latestOn (key : Bytes) (txs : List Transaction) : Option Transaction :=
  txs.reverse.find? fun tx => keyOf tx == key

@[simp] theorem find?_write_self (entries : Table Bytes Bytes) (tx : Transaction) :
    (write entries tx).find? (keyOf tx) = valueOf tx := by
  cases tx with
  | set key value => exact Table.find?_insert_self ..
  | validator update =>
      simp only [write, keyOf, valueOf]
      split
      · exact Table.find?_erase_self ..
      · exact Table.find?_insert_self ..

theorem find?_write_of_ne (entries : Table Bytes Bytes) {tx : Transaction} {key : Bytes}
    (hne : key ≠ keyOf tx) : (write entries tx).find? key = entries.find? key := by
  cases tx with
  | set key value => exact Table.find?_insert_of_ne _ _ hne
  | validator update =>
      simp only [write]
      split
      · exact Table.find?_erase_of_ne _ hne
      · exact Table.find?_insert_of_ne _ _ hne

/-- After some transactions a key has what the last of them on it says; without
one it has what it had. -/
theorem find?_foldl_write (txs : List Transaction) (entries : Table Bytes Bytes) (key : Bytes) :
    (txs.foldl write entries).find? key
      = match latestOn key txs with
        | some tx => valueOf tx
        | none => entries.find? key := by
  rw [latestOn, Table.view_foldl_write find?_write_self fun entries _ _ =>
    find?_write_of_ne entries]
  cases txs.reverse.find? fun tx => keyOf tx == key <;> rfl

theorem working_initChain (s : Store) (args : Args.InitChain) :
    (s.initChain args).working
      = (args.validators.map Transaction.validator).foldl write s.working := by
  unfold initChain
  induction args.validators generalizing s with
  | nil => rfl
  | cons update rest ih => exact ih (s.apply (.validator update))

theorem working_deliverTx (s : Store) (args : Args.DeliverTx) :
    (s.deliverTx args).2.working
      = (Transaction.read args.tx).toOption.toList.foldl write s.working := by
  unfold deliverTx
  cases Transaction.read args.tx <;> rfl

theorem working_setOption (s : Store) (args : Args.SetOption) :
    (s.setOption args).2.working = s.working := by
  unfold setOption
  split
  · rfl
  · split <;> rfl

/-- Only the transactions of a request change the working state. -/
theorem working_next (s : Store) (r : Request) :
    (s.next r).working = (carried r).foldl write s.working := by
  obtain ⟨verb, args⟩ := r
  cases verb with
  | initChain => exact s.working_initChain args
  | deliverTx => exact s.working_deliverTx args
  | setOption => exact s.working_setOption args
  | _ => rfl

/-- The working state after any requests is that of their transactions, one after
another. -/
theorem working_after (s : Store) (requests : List Request) :
    (s.after requests).working = (requests.flatMap carried).foldl write s.working := by
  induction requests generalizing s with
  | nil => rfl
  | cons r rest ih =>
      rw [List.flatMap_cons, List.foldl_append, ← working_next]
      exact ih (s.next r)

end ChainHost.Store
