/-
  What a query tells of the past.

  A ledger is kept of what was asked and answered, without a look at the store:
  the validators of the genesis, and every accepted transaction under the height
  of its block.  The store keeps three copies of that: the working state, the
  states of the heights that are still kept, and the digests it returned.  They
  agree with the ledger after every request, so that a query at a kept height
  answers what the ledger said when the height was last committed.
-/
import ChainHost.Proofs.Merkle.Completeness
import ChainHost.Proofs.Store.Dispatch
import ChainHost.Proofs.Store.Run

set_option autoImplicit false

namespace ChainHost.Store

open Lifecycle Merkle

/-! ## The ledger -/

/-- What was written, according to requests and responses. -/
structure Ledger where
  /-- The validators of the genesis. -/
  genesis : List ValidatorUpdate := []
  /-- The height of the block that was opened last. -/
  height : UInt64 := 0
  /-- The accepted transactions, each with the height of its block. -/
  delivered : List (UInt64 × Transaction) := []

namespace Ledger

/-- The ledger after one more request; what failed leaves no trace. -/
def note (l : Ledger) (e : Exchange) : Ledger :=
  if e.2.isOk then
    match e.1 with
    | ⟨.initChain, args⟩ => { l with genesis := l.genesis ++ args.validators }
    | ⟨.beginBlock, args⟩ => { l with height := args.height?.getD 0 }
    | ⟨.deliverTx, args⟩ =>
        { l with
          delivered := l.delivered
            ++ (Transaction.read args.tx).toOption.toList.map fun tx => (l.height, tx) }
    | _ => l
  else l

/-- The ledger of what was asked and answered. -/
def of (t : List Exchange) : Ledger := t.foldl note {}

/-- The entries that the genesis and the blocks up to a height lead to. -/
def entriesUpTo (l : Ledger) (limit : UInt64) : Table Bytes Bytes :=
  (l.genesis.map Transaction.validator
    ++ (l.delivered.filter fun d => d.1 ≤ limit).map (·.2)).foldl write .empty

/-- The entries that the genesis and all blocks lead to. -/
def entries (l : Ledger) : Table Bytes Bytes :=
  (l.genesis.map Transaction.validator ++ l.delivered.map (·.2)).foldl write .empty

theorem of_concat (t : List Exchange) (e : Exchange) : of (t ++ [e]) = (of t).note e := by
  rw [of, List.foldl_append]
  rfl

theorem note_of_not_isOk (l : Ledger) {e : Exchange} (h : e.2.isOk = false) : l.note e = l := by
  rw [note, h]
  rfl

theorem note_of_ne_stage (l : Ledger) {e : Exchange} (h : ∀ stage : Stage, e.1.verb ≠ stage.verb) :
    l.note e = l := by
  obtain ⟨⟨verb, args⟩, response⟩ := e
  unfold note
  split
  · cases verb with
    | initChain => exact absurd rfl (h .initChain)
    | beginBlock => exact absurd rfl (h .beginBlock)
    | deliverTx => exact absurd rfl (h .deliverTx)
    | _ => rfl
  · rfl

theorem note_commit (l : Ledger) (args : Unit) (response : Response) :
    l.note (⟨.commit, args⟩, response) = l := by
  unfold note
  split <;> rfl

theorem note_deliverTx (l : Ledger) {args : Args.DeliverTx} {tx : Transaction}
    (hread : Transaction.read args.tx = .ok tx) (payload : Payload) :
    l.note (⟨.deliverTx, args⟩, .ok payload)
      = { l with delivered := l.delivered ++ [(l.height, tx)] } := by
  have hok : (Response.ok payload).isOk = true := rfl
  simp only [note, hok, if_true, hread]
  rfl

/-- Up to the height of the last block the ledger counts in full. -/
theorem entriesUpTo_eq_entries {l : Ledger} {limit : UInt64}
    (h : ∀ d ∈ l.delivered, d.1 ≤ limit) : l.entriesUpTo limit = l.entries := by
  have hall : (l.delivered.filter fun d => d.1 ≤ limit) = l.delivered := by
    rw [List.filter_eq_self]
    intro d hd
    exact decide_eq_true (h d hd)
  rw [entriesUpTo, hall, entries]

end Ledger

/-! ## The latest commit of a height -/

/-- A commit that was answered with a result. -/
def commitOf (result : Result.Commit) : Exchange := (⟨.commit, ()⟩, .ok (.ofResult .commit result))

/-- The last commit of a block of a height: what came before it, what it was answered
with, and what came later. -/
structure LatestCommit (t : List Exchange) (height : UInt64) (before : List Exchange)
    (result : Result.Commit) (later : List Exchange) : Prop where
  split : t = before ++ commitOf result :: later
  sealed : (Ledger.of before).height = height
  latest : ∀ middle e rest, later = middle ++ e :: rest → e.1.verb = .commit → e.2.isOk = true →
    (Ledger.of (before ++ commitOf result :: middle)).height ≠ height

namespace LatestCommit

variable {t before later : List Exchange} {height : UInt64} {result : Result.Commit}

/-- A commit that comes now is the last one of its height. -/
theorem now (hheight : (Ledger.of t).height = height) :
    LatestCommit (t ++ [commitOf result]) height t result [] where
  split := rfl
  sealed := hheight
  latest middle e rest hsplit := by simp at hsplit

/-- The last commit stays the last one until the height is committed again. -/
theorem concat (h : LatestCommit t height before result later) {e : Exchange}
    (hother : e.1.verb = .commit → e.2.isOk = true → (Ledger.of t).height ≠ height) :
    LatestCommit (t ++ [e]) height before result (later ++ [e]) where
  split := by rw [h.split, List.append_assoc, List.cons_append]
  sealed := h.sealed
  latest middle found rest hsplit hverb hok := by
    rcases List.eq_nil_or_concat rest with rfl | ⟨front, last, rfl⟩
    · obtain ⟨rfl, hlast⟩ := List.append_inj' hsplit rfl
      cases hlast
      rw [← h.split]
      exact hother hverb hok
    · rw [List.concat_eq_append, ← List.cons_append, ← List.append_assoc] at hsplit
      exact h.latest middle found front (List.append_inj' hsplit rfl).1 hverb hok

end LatestCommit

/-! ## What is kept -/

/-- A kept state is what the ledger said when its height was last committed, and
what that commit returned is its root. -/
structure Kept (w : Window) (t : List Exchange) (height : UInt64) (tree : Tree) : Prop where
  positive : height ≠ 0
  retained : w.retain ≤ height
  committed : ∃ latest, w.latest = some latest ∧ height ≤ latest
  history : ∃ before result later, LatestCommit t height before result later ∧
    tree.table = (Ledger.of before).entriesUpTo height ∧ result.data = tree.root.bytes

theorem Kept.concat {w : Window} {t : List Exchange} {height : UInt64} {tree : Tree}
    (h : Kept w t height tree) {e : Exchange}
    (hother : e.1.verb = .commit → e.2.isOk = true → (Ledger.of t).height ≠ height) :
    Kept w (t ++ [e]) height tree := by
  obtain ⟨before, result, later, hlatest, htable, hdata⟩ := h.history
  exact ⟨h.positive, h.retained, h.committed, before, result, later ++ [e],
    hlatest.concat hother, htable, hdata⟩

/-- A kept height can be read. -/
theorem Kept.resolve {w : Window} {t : List Exchange} {height : UInt64} {tree : Tree}
    (h : Kept w t height tree) : w.resolve height = .ok height := by
  obtain ⟨latest, hlatest, hle⟩ := h.committed
  rw [Window.resolve, hlatest]
  simp only [if_neg h.positive, if_neg (UInt64.not_lt.mpr hle), if_neg (UInt64.not_lt.mpr h.retained)]

/-! ## The store and the ledger -/

/-- The height of the block that a phase belongs to; zero before the first block. -/
def blockOf : Phase → UInt64
  | .uninitialized | .initialized _ => 0
  | .executing height | .ended height | .committed height => height

/-- The tracker and the working state agree with the ledger. -/
structure Aligned (h : Host Store) (l : Ledger) : Prop where
  free : h.tracker.inFlight = none
  fresh : h.tracker.phase = .uninitialized →
    h.state.lastHeight = 0 ∧ l.genesis = [] ∧ l.delivered = []
  positive : ∀ height, h.tracker.phase = .initialized height ∨ h.tracker.phase = .executing height
    ∨ h.tracker.phase = .ended height → height ≠ 0
  phase : blockOf h.tracker.phase = l.height
  block : h.state.blockHeight = l.height
  delivered : ∀ d ∈ l.delivered, d.1 ≤ l.height
  working : h.state.working = l.entries
  retain : h.tracker.retain ≤ l.height
  latest : ∀ latest, h.tracker.latest = some latest → latest ≤ l.height

theorem aligned_fresh (blocks : UInt64) : Aligned { state := keeping blocks } {} where
  free := rfl
  fresh _ := ⟨rfl, rfl, rfl⟩
  positive height h := by simp at h
  phase := rfl
  block := rfl
  delivered d hd := by cases hd
  working := rfl
  retain := UInt64.le_refl _
  latest latest h := by cases h

theorem blockHeight_initChain (s : Store) (args : Args.InitChain) :
    (s.initChain args).blockHeight = s.blockHeight := by
  unfold initChain
  induction args.validators generalizing s with
  | nil => rfl
  | cons update rest ih => exact ih (s.apply (.validator update))

/-- No state below the lowest height to keep is above the height of the commit. -/
theorem retainHeight_le (s : Store) (height : UInt64) : s.retainHeight height ≤ height := by
  unfold retainHeight
  split
  · exact UInt64.zero_le
  · next hkeep =>
      obtain ⟨hzero, hbelow⟩ := not_or.mp hkeep
      have hle : s.retainBlocks ≤ height := UInt64.not_lt.mp hbelow
      have hpositive : s.retainBlocks.toNat ≠ 0 := fun h => hzero (UInt64.toNat_inj.mp h)
      have hle' : s.retainBlocks.toNat ≤ height.toNat := hle
      have hheight := height.toNat_lt
      have hone : (1 : UInt64).toNat = 1 := rfl
      rw [UInt64.le_iff_toNat_le, UInt64.toNat_add, UInt64.toNat_sub_of_le _ _ hle, hone,
        Nat.mod_eq_of_lt (by omega)]
      omega

namespace Aligned

variable {h : Host Store} {l : Ledger} (ha : Aligned h l)

include ha

/-- A store that has committed nothing has nothing to resume from. -/
theorem observeInfo_eq : h.tracker.observeInfo h.state.info = h.tracker := by
  rw [Tracker.observeInfo, if_neg]
  rintro ⟨hphase, -, hheight⟩
  exact hheight (ha.fresh hphase).1

/-- Blocks are opened in the order of their heights. -/
theorem le_nextHeight {height : UInt64} (hnext : h.tracker.nextHeight = .ok height) :
    l.height ≤ height ∧ height ≠ 0 := by
  rw [← ha.phase]
  rcases Tracker.nextHeight_eq_ok_iff.mp hnext with hphase | ⟨last, hphase, rfl⟩
  · rw [hphase]
    exact ⟨UInt64.zero_le, ha.positive height (.inl hphase)⟩
  · have hsum : (Word.next last).toNat = min (last.toNat + 1) (2 ^ 64 - 1) :=
      Word.toNat_addSaturating last 1
    have hlast := last.toNat_lt
    rw [hphase]
    constructor
    · rw [blockOf, UInt64.le_iff_toNat_le, hsum]
      omega
    · intro hzero
      rw [hzero, UInt64.toNat_zero] at hsum
      omega

theorem founded (args : Args.InitChain) (hphase : h.tracker.phase = .uninitialized) :
    Aligned ⟨h.tracker.settleInitChain args {}, h.state.initChain args⟩
      { l with genesis := l.genesis ++ args.validators } := by
  obtain ⟨-, hgenesis, hdelivered⟩ := ha.fresh hphase
  have hblock := ha.phase
  rw [hphase] at hblock
  refine ⟨ha.free, ?_, ?_, hblock, ?_, ha.delivered, ?_, ha.retain, ha.latest⟩
  · intro hnew
    cases hnew
  · rintro height (hnew | hnew | hnew)
    · cases hnew
      split
      · decide
      · assumption
    · cases hnew
    · cases hnew
  · rw [blockHeight_initChain]
    exact ha.block
  · rw [working_initChain, ha.working]
    simp [Ledger.entries, hgenesis, hdelivered]

theorem opened {args : Args.BeginBlock} {height : UInt64}
    (hnext : h.tracker.nextHeight = .ok height) (hheight : args.height? = some height) :
    Aligned ⟨h.tracker.settleBeginBlock height, h.state.beginBlock args⟩
      { l with height := height } := by
  obtain ⟨hle, hpositive⟩ := ha.le_nextHeight hnext
  have hwindow := h.tracker.window_settleBeginBlock height
  have hretain : (h.tracker.settleBeginBlock height).retain = h.tracker.retain :=
    congrArg Window.retain hwindow
  have hlatest : (h.tracker.settleBeginBlock height).latest = h.tracker.latest :=
    congrArg Window.latest hwindow
  have hfree : (h.tracker.settleBeginBlock height).inFlight = none :=
    (Tracker.settle_inFlight h.tracker .beginBlock height {}).trans ha.free
  refine ⟨hfree, ?_, ?_, rfl, ?_, ?_, ha.working, ?_, ?_⟩
  · intro hnew
    cases hnew
  · rintro _ (hnew | hnew | hnew)
    · cases hnew
    · cases hnew
      exact hpositive
    · cases hnew
  · rw [beginBlock, hheight]
    rfl
  · intro d hd
    exact UInt64.le_trans (ha.delivered d hd) hle
  · rw [hretain]
    exact UInt64.le_trans ha.retain hle
  · rw [hlatest]
    intro latest hlatest
    exact UInt64.le_trans (ha.latest latest hlatest) hle

theorem applied {height : UInt64} (hphase : h.tracker.phase = .executing height)
    (tx : Transaction) :
    Aligned ⟨h.tracker, h.state.apply tx⟩
      { l with delivered := l.delivered ++ [(l.height, tx)] } := by
  refine ⟨ha.free, ?_, ha.positive, ha.phase, ha.block, ?_, ?_, ha.retain, ha.latest⟩
  · rw [hphase]
    intro hnew
    cases hnew
  · intro d hd
    rcases List.mem_append.mp hd with hd | hd
    · exact ha.delivered d hd
    · rw [List.mem_singleton.mp hd]
      exact UInt64.le_refl _
  · rw [Ledger.entries, List.map_append, ← List.append_assoc, List.foldl_append]
    exact congrArg (fun entries => write entries tx) ha.working

theorem closed {height : UInt64} (hphase : h.tracker.phase = .executing height)
    (result : Result.EndBlock) :
    Aligned ⟨h.tracker.settleEndBlock height result, { h.state with updates := [] }⟩ l := by
  have hblock := ha.phase
  rw [hphase] at hblock
  refine ⟨ha.free, ?_, ?_, hblock, ha.block, ha.delivered, ha.working, ha.retain, ha.latest⟩
  · intro hnew
    cases hnew
  · rintro _ (hnew | hnew | hnew)
    · cases hnew
    · cases hnew
    · cases hnew
      exact ha.positive height (.inr (.inl hphase))

theorem block_ended {height : UInt64} (hphase : h.tracker.phase = .ended height) :
    h.state.blockHeight = height := by
  have hblock := ha.phase
  rw [hphase] at hblock
  rw [ha.block, ← hblock]
  rfl

theorem committed {height : UInt64} (hphase : h.tracker.phase = .ended height) :
    Aligned ⟨h.tracker.settleCommit height h.state.commit.1.value, h.state.commit.2⟩ l := by
  have hblock := ha.phase
  rw [hphase] at hblock
  have hheight : height = l.height := hblock
  refine ⟨ha.free, ?_, ?_, hblock, ha.block, ha.delivered, ha.working, ?_, ?_⟩
  · intro hnew
    cases hnew
  · rintro _ (hnew | hnew | hnew) <;> cases hnew
  · simp only [Tracker.settleCommit]
    split
    · next hle =>
        rw [hheight] at hle
        exact Word.max_le_iff.mpr ⟨ha.retain, hle⟩
    · exact ha.retain
  · rintro latest ⟨⟩
    rw [hheight]
    exact UInt64.le_refl _

/-- Every request keeps the tracker and the working state aligned with the ledger. -/
theorem served {e : Exchange} {h' : Host Store} (hserved : Served h e h') :
    Aligned h' (l.note e) := by
  cases hserved with
  | quiet hquiet =>
      rcases hquiet with hfail | hother
      · rw [Ledger.note_of_not_isOk l hfail]
        exact ha
      · rw [Ledger.note_of_ne_stage l hother]
        exact ha
  | observed =>
      rw [ha.observeInfo_eq, Ledger.note_of_ne_stage l fun stage => by cases stage <;> exact nofun]
      exact ha
  | optioned blocks =>
      rw [Ledger.note_of_ne_stage l fun stage => by cases stage <;> exact nofun]
      exact ⟨ha.free, ha.fresh, ha.positive, ha.phase, ha.block, ha.delivered, ha.working,
        ha.retain, ha.latest⟩
  | @founded args hphase => exact ha.founded args hphase
  | @opened args height hnext hheight =>
      have hnoted : l.note (⟨.beginBlock, args⟩, .ok (.ofResult .beginBlock {}))
          = { l with height := args.height?.getD 0 } := rfl
      rw [hnoted, hheight]
      exact ha.opened hnext hheight
  | @delivered args height tx hphase hread =>
      rw [Ledger.note_deliverTx l hread]
      exact ha.applied hphase tx
  | closed hphase => exact ha.closed hphase _
  | committed hphase =>
      rw [Ledger.note_commit]
      exact ha.committed hphase

end Aligned

/-! ## What is kept from request to request -/

theorem le_of_find?_dropBelow {t : Table UInt64 Tree} {low k : UInt64} {tree : Tree}
    (h : (t.dropBelow low).find? k = some tree) : low ≤ k :=
  Word.compare_ne_lt_iff.mp (Table.find?_dropBelow_eq_some_iff.mp h).1

/-- Only a commit changes what is kept and which heights can be read. -/
theorem Aligned.frame {h h' : Host Store} {l : Ledger} (ha : Aligned h l) {e : Exchange}
    (hserved : Served h e h') (hverb : e.1.verb ≠ .commit) :
    h'.tracker.window = h.tracker.window ∧ h'.state.snapshots = h.state.snapshots := by
  cases hserved with
  | quiet hquiet => exact ⟨rfl, rfl⟩
  | observed =>
      rw [ha.observeInfo_eq]
      exact ⟨rfl, rfl⟩
  | optioned blocks => exact ⟨rfl, rfl⟩
  | @founded args hphase => exact ⟨rfl, snapshots_initChain h.state args⟩
  | @opened args height hnext hheight => exact ⟨h.tracker.window_settleBeginBlock height, rfl⟩
  | delivered hphase hread => exact ⟨rfl, rfl⟩
  | closed hphase => exact ⟨rfl, rfl⟩
  | committed hphase => exact absurd rfl hverb

/-- A commit never asks to keep nothing below a height above its own, so that its
answer comes back as it is. -/
theorem respond_commit {s : Store} {height : UInt64} (hblock : s.blockHeight = height) :
    Host.respond .commit (Tracker.amend .commit height s.commit.1)
      = .ok (.ofResult .commit s.commit.1.value) := by
  have hle : s.retainHeight s.blockHeight ≤ height := hblock ▸ retainHeight_le s s.blockHeight
  have hamend : Tracker.amend .commit height s.commit.1 = s.commit.1 := by
    simp only [Tracker.amend]
    exact if_neg (UInt64.not_lt.mpr hle)
  rw [hamend]
  rfl

/-- The tracker and the store agree with what was asked and answered. -/
structure Faithful (h : Host Store) (t : List Exchange) : Prop where
  aligned : Aligned h (Ledger.of t)
  kept : ∀ height tree, h.state.snapshots.find? height = some tree →
    Kept h.tracker.window t height tree

namespace Faithful

variable {h : Host Store} {t : List Exchange} (hf : Faithful h t)

include hf

/-- After a commit its height is kept as the ledger has it, and what else is left
was kept before. -/
theorem kept_commit {height : UInt64} (hphase : h.tracker.phase = .ended height) {found : UInt64}
    {tree : Tree} (hkept : h.state.commit.2.snapshots.find? found = some tree) :
    Kept (h.tracker.settleCommit height h.state.commit.1.value).window
      (t ++ [commitOf h.state.commit.1.value]) found tree := by
  have hblock := hf.aligned.block_ended hphase
  have hheight : (Ledger.of t).height = height := hf.aligned.block.symm.trans hblock
  have hlow : h.state.commit.1.value.retainHeight ≤ found := le_of_find?_dropBelow hkept
  have hinserted : (h.state.snapshots.insert h.state.blockHeight ⟨h.state.working⟩).find? found
      = some tree := Table.find?_of_find?_dropBelow hkept
  have hretained (hold : h.tracker.retain ≤ found) :
      (h.tracker.settleCommit height h.state.commit.1.value).retain ≤ found := by
    simp only [Tracker.settleCommit]
    split
    · exact Word.max_le_iff.mpr ⟨hold, hlow⟩
    · exact hold
  by_cases hfound : found = h.state.blockHeight
  · rw [hfound, Table.find?_insert_self] at hinserted
    cases hinserted
    rw [hblock] at hfound
    subst hfound
    refine ⟨hf.aligned.positive found (.inr (.inr hphase)),
      hretained (hheight ▸ hf.aligned.retain), ⟨found, rfl, UInt64.le_refl _⟩,
      t, _, [], .now hheight, ?_, rfl⟩
    rw [Ledger.entriesUpTo_eq_entries (hheight ▸ hf.aligned.delivered)]
    exact hf.aligned.working
  · rw [Table.find?_insert_of_ne _ _ hfound] at hinserted
    have hold := hf.kept found tree hinserted
    obtain ⟨latest, hlatest, hle⟩ := hold.committed
    have hother : (Ledger.of t).height ≠ found := by
      rw [← hf.aligned.block]
      exact Ne.symm hfound
    have hbelow : found ≤ height :=
      UInt64.le_trans hle (hheight ▸ hf.aligned.latest latest hlatest)
    exact ⟨hold.positive, hretained hold.retained, ⟨height, rfl, hbelow⟩,
      (hold.concat fun _ _ => hother).history⟩

/-- Every request keeps the tracker and the store in agreement with the past. -/
theorem served {e : Exchange} {h' : Host Store} (hserved : Served h e h') :
    Faithful h' (t ++ [e]) := by
  refine ⟨?_, fun height tree hkept => ?_⟩
  · rw [Ledger.of_concat]
    exact hf.aligned.served hserved
  by_cases hverb : e.1.verb = .commit
  · cases hserved with
    | quiet hquiet =>
        refine (hf.kept height tree hkept).concat fun _ hok => ?_
        rcases hquiet with hfail | hother
        · rw [hfail] at hok
          cases hok
        · exact absurd hverb (hother .commit)
    | committed hphase =>
        rw [respond_commit (hf.aligned.block_ended hphase)]
        exact hf.kept_commit hphase hkept
    | _ => cases hverb
  · obtain ⟨hwindow, hsnapshots⟩ := hf.aligned.frame hserved hverb
    rw [hsnapshots] at hkept
    rw [hwindow]
    exact (hf.kept height tree hkept).concat fun hcommit => absurd hcommit hverb

end Faithful

/-- After any requests to a fresh store behind a fresh host, both agree with what
was asked and answered. -/
theorem faithful_dispatchAll (blocks : UInt64) (requests : List Request) :
    let fresh : Host Store := { state := keeping blocks }
    Faithful (fresh.dispatchAll application requests).2 (fresh.transcript application requests) := by
  have hstart : Faithful { state := keeping blocks } [] := by
    refine ⟨aligned_fresh blocks, fun height tree hkept => ?_⟩
    cases hkept
  have hstep (h : Host Store) (t : List Exchange) (r : Request) (hf : Faithful h t) :
      Faithful (h.dispatch application r).2 (t ++ [(r, (h.dispatch application r).1)]) :=
    hf.served (served_dispatch hf.aligned.free r)
  have hrun := Host.invariant_dispatchAll hstep hstart requests
  rwa [List.nil_append] at hrun

/-! ## Queries -/

/-- What a query of a key at a height is answered with when the height has some
entries and its commit returned a digest. -/
structure Tells (entries : Table Bytes Bytes) (digest : Bytes) (args : Args.Query)
    (result : Result.Query) : Prop where
  key : result.key = args.data
  value : result.value = (entries.find? args.data).getD []
  log : result.log = if (entries.find? args.data).isSome then "exists" else "does not exist"
  height : result.height = args.height
  unproved : args.prove = false → result.proof = none
  proved : args.prove = true → ∃ proof, result.proof = some proof ∧
    (entries.size < 2 ^ 63 →
      Merkle.verify proof digest args.data (entries.find? args.data) = .ok ())

/-- A look at a kept state tells what the state has. -/
theorem tells_lookup {s : Store} {args : Args.Query} {tree : Tree}
    (hkept : s.snapshots.find? args.height = some tree)
    (hpath : args.path = "" ∨ args.path = "/store") :
    ∃ result, s.query args = .ok result ∧ Tells tree.table tree.root.bytes args result := by
  have hknown : ¬(args.path ≠ "" ∧ args.path ≠ "/store") := by
    rcases hpath with hpath | hpath <;> simp [hpath]
  rw [query, lookup, if_neg hknown, treeAt, hkept]
  refine ⟨_, rfl, rfl, rfl, rfl, rfl, fun hprove => ?_, fun hprove => ?_⟩
  · simp [hprove]
  · refine ⟨⟨[tree.prove args.data]⟩, if_pos hprove, fun hsize => ?_⟩
    exact Tree.verify_step (Nat.le_of_lt hsize) args.data

theorem fillHeight_of_eq {height : UInt64} {result : Result.Query} (h : result.height = height) :
    Host.fillHeight height result = result := by
  unfold Host.fillHeight
  split
  · rw [← h]
  · rfl

/-- A query at a height that can be read and is kept looks the key up there. -/
theorem dispatch_query {h : Host Store} {args : Args.Query} {tree : Tree}
    (hresolve : h.tracker.window.resolve args.height = .ok args.height)
    (hkept : h.state.snapshots.find? args.height = some tree)
    (hpath : args.path = "" ∨ args.path = "/store") :
    ∃ result, (h.dispatch application ⟨.query, args⟩).1 = .ok (.ofResult .query result) ∧
      Tells tree.table tree.root.bytes args result := by
  obtain ⟨result, hquery, htells⟩ := tells_lookup hkept hpath
  refine ⟨result, ?_, htells⟩
  have hcall : application.call .query args h.state = (.replied (.ok result), h.state) := by
    rw [← hquery]
    rfl
  simp only [Host.dispatch, Host.runQuery, hresolve, hcall, Host.contain]
  rw [Reply.map, Reply.ok, fillHeight_of_eq htells.height]
  rfl

/-- At every point of a run, a query at a height that is still kept answers what the
genesis and the accepted transactions of all blocks up to the height lead to, as
of the last commit of the height, and its proof is accepted against the digest
that this commit returned. -/
theorem query_history (blocks : UInt64) (requests : List Request) (height : UInt64) :
    let fresh : Host Store := { state := keeping blocks }
    let run := fresh.dispatchAll application requests
    height ∈ run.2.state.heights →
      ∃ before result later,
        LatestCommit (requests.zip run.1) height before result later ∧
          ∀ args : Args.Query, args.height = height → (args.path = "" ∨ args.path = "/store") →
            ∃ found, (run.2.dispatch application ⟨.query, args⟩).1
                = .ok (.ofResult .query found) ∧
              Tells ((Ledger.of before).entriesUpTo height) result.data args found := by
  intro fresh run hheld
  have hfaithful : Faithful run.2 (requests.zip run.1) := faithful_dispatchAll blocks requests
  obtain ⟨⟨found, tree⟩, hentry, rfl⟩ := List.mem_map.mp hheld
  have hfound := Table.find?_of_mem_entries hentry
  have hkept := hfaithful.kept found tree hfound
  obtain ⟨before, result, later, hlatest, htable, hdata⟩ := hkept.history
  refine ⟨before, result, later, hlatest, fun args hargs hpath => ?_⟩
  subst hargs
  rw [← htable, hdata]
  exact dispatch_query hkept.resolve hfound hpath

/-- A block at height 1 that sets a key. -/
def written : List Request :=
  [⟨.initChain, ({} : Args.InitChain)⟩,
    ⟨.beginBlock, ({ header := some { height := 1 } } : Args.BeginBlock)⟩,
    .deliverTx (Bytes.ofText "a=1"), .endBlock 1, ⟨.commit, ()⟩]

/-- A block at height 2, which is still open, that sets the key again. -/
def overwritten : List Request :=
  let digest := ((keeping 1).after written).lastAppHash
  written ++
    [⟨.beginBlock, ({ header := some { height := 2, appHash := digest } } : Args.BeginBlock)⟩,
      .deliverTx (Bytes.ofText "a=2")]

/-- The height 1 is kept while the next block changes the working state. -/
theorem query_history_overwritten :
    let fresh : Host Store := { state := keeping 1 }
    let run := fresh.dispatchAll application overwritten
    (run.2.state.working.find? (Bytes.ofText "a") = some (Bytes.ofText "2") ∧
      (1 : UInt64) ∈ run.2.state.heights) ∧
      ∃ before result later,
        LatestCommit (overwritten.zip run.1) 1 before result later ∧
          ∀ args : Args.Query, args.height = 1 → (args.path = "" ∨ args.path = "/store") →
            ∃ found, (run.2.dispatch application ⟨.query, args⟩).1
                = .ok (.ofResult .query found) ∧
              Tells ((Ledger.of before).entriesUpTo 1) result.data args found := by
  intro fresh run
  have hstate : run.2.state.working.find? (Bytes.ofText "a") = some (Bytes.ofText "2") ∧
      (1 : UInt64) ∈ run.2.state.heights := by
    decide +kernel
  exact ⟨hstate, query_history 1 overwritten 1 hstate.2⟩

end ChainHost.Store
