/-
  The validators of the store and those of the tracker.

  A validator update takes two ways.  The store writes it at once, among its other
  entries; the tracker hears of it at the end of the block and takes it up with the
  next one.  `Reflects` relates what the store has to the set that the tracker is
  going to have: the active validators under what is pending and what the open block
  has gathered.  Every request keeps it, and where a block has just been opened,
  nothing is pending or gathered.
-/
import ChainHost.Proofs.Lifecycle.Updates
import ChainHost.Proofs.Store.History
import ChainHost.Proofs.Store.Transaction
import ChainHost.Proofs.Validators

set_option autoImplicit false

namespace ChainHost.Store

open Lifecycle

/-! ## Entries and members -/

/-- The entries under keys of validators are those of the members of a set: each has
the digits of its power under the mark and the digits of its key. -/
def Mirrors (entries : Table Bytes Bytes) (set : ValidatorSet) : Prop :=
  ∀ key value, (Bytes.ofText "val:" <+: key ∧ entries.find? key = some value) ↔
    ∃ member power, set.power? member = some power
      ∧ key = Bytes.ofText "val:" ++ Hex.encode member.data
      ∧ value = Decimal.digits power.toNat

/-- The entries of validators agree with a set whose members are of the one key type. -/
structure Reflects (entries : Table Bytes Bytes) (set : ValidatorSet) : Prop where
  typed : ∀ member power, set.power? member = some power → ∃ data, member = .ed25519 data
  named : ∀ key value, Marked key → entries.find? key = some value →
    ∃ data, key = validatorKey (.ed25519 data)
  agrees : ∀ data, entries.find? (validatorKey (.ed25519 data))
    = (set.power? (.ed25519 data)).map fun power => Decimal.digits power.toNat

namespace Reflects

theorem empty : Reflects .empty {} where
  typed _ _ h := nomatch h
  named _ _ _ h := nomatch h
  agrees _ := rfl

variable {entries : Table Bytes Bytes} {set : ValidatorSet} (h : Reflects entries set)

include h

theorem mirrors : Mirrors entries set := by
  intro key value
  constructor
  · rintro ⟨hmarked, hfound⟩
    obtain ⟨data, rfl⟩ := h.named key value hmarked hfound
    rw [h.agrees] at hfound
    obtain ⟨power, hpower, rfl⟩ := Option.map_eq_some_iff.mp hfound
    exact ⟨.ed25519 data, power, hpower, rfl, rfl⟩
  · rintro ⟨member, power, hpower, rfl, rfl⟩
    obtain ⟨data, rfl⟩ := h.typed member power hpower
    refine ⟨marked_validatorKey (.ed25519 data), (h.agrees data).trans ?_⟩
    rw [hpower]
    rfl

/-- A write under any other key leaves the validators alone. -/
theorem plain {key value : Bytes} (hplain : ¬ Marked key) :
    Reflects (write entries (.set key value)) set := by
  have hother {other : Bytes} (hmarked : Marked other) :
      (write entries (.set key value)).find? other = entries.find? other := by
    apply find?_write_of_ne
    rintro rfl
    exact hplain hmarked
  refine ⟨h.typed, ?_, ?_⟩
  · intro other found hmarked hfound
    rw [hother hmarked] at hfound
    exact h.named other found hmarked hfound
  · intro data
    rw [hother (marked_validatorKey _)]
    exact h.agrees data

/-- An update of a validator is written as the set takes it up. -/
theorem update {u : ValidatorUpdate} {data : Bytes} (hkey : u.publicKey = .ed25519 data) :
    Reflects (write entries (.validator u)) (set.update u) := by
  have hkeyOf : keyOf (.validator u) = validatorKey (.ed25519 data) := congrArg validatorKey hkey
  refine ⟨?_, ?_, ?_⟩
  · intro member power hpower
    by_cases hmember : member = u.publicKey
    · exact ⟨data, hmember.trans hkey⟩
    · rw [ValidatorSet.power?_update_of_ne _ hmember] at hpower
      exact h.typed member power hpower
  · intro key value hmarked hfound
    by_cases hsame : key = keyOf (.validator u)
    · exact ⟨data, hsame.trans hkeyOf⟩
    · rw [find?_write_of_ne _ hsame] at hfound
      exact h.named key value hmarked hfound
  -- Digits tell keys apart, so that one entry and one member change together.
  · intro other
    by_cases hsame : other = data
    · subst hsame
      rw [← hkeyOf, find?_write_self, ← hkey, ValidatorSet.power?_update_self, valueOf]
      cases u.isRemoval <;> rfl
    · have hmember : PublicKey.ed25519 other ≠ u.publicKey := by
        rw [hkey]
        exact fun heq => hsame (congrArg PublicKey.data heq)
      have hkeys : validatorKey (.ed25519 other) ≠ keyOf (.validator u) := by
        rw [hkeyOf]
        exact fun heq => hsame (validatorKey_injective heq)
      rw [find?_write_of_ne _ hkeys, ValidatorSet.power?_update_of_ne _ hmember]
      exact h.agrees other

/-- A batch of updates is written as the set takes it up. -/
theorem batch {updates : List ValidatorUpdate}
    (htyped : ∀ u ∈ updates, u.publicKey.keyType = "ed25519") :
    Reflects ((updates.map Transaction.validator).foldl write entries) (set.apply updates) := by
  induction updates generalizing entries set with
  | nil => exact h
  | cons u rest ih =>
      obtain ⟨hfirst, hrest⟩ := List.forall_mem_cons.mp htyped
      have hkey : u.publicKey = .ed25519 u.publicKey.data := by
        rw [PublicKey.ed25519, ← hfirst]
      exact ih (h.update hkey) hrest

end Reflects

/-! ## What a block has gathered -/

/-- The validator updates of a block after one more request: its opening starts without
any, and each accepted transaction of a validator adds its own. -/
def gather (updates : List ValidatorUpdate) (e : Exchange) : List ValidatorUpdate :=
  if e.2.isOk then
    match e.1 with
    | ⟨.beginBlock, _⟩ => []
    | ⟨.deliverTx, args⟩ =>
        match Transaction.read args.tx with
        | .ok (.validator update) => updates ++ [update]
        | _ => updates
    | _ => updates
  else updates

/-- The validator updates that were accepted since a block was opened. -/
def gathered (t : List Exchange) : List ValidatorUpdate := t.foldl gather []

theorem gathered_concat (t : List Exchange) (e : Exchange) :
    gathered (t ++ [e]) = gather (gathered t) e := by
  rw [gathered, List.foldl_append]
  rfl

theorem gather_of_not_isOk (updates : List ValidatorUpdate) {e : Exchange}
    (h : e.2.isOk = false) : gather updates e = updates := by
  rw [gather, h]
  rfl

theorem gather_of_ne_stage (updates : List ValidatorUpdate) {e : Exchange}
    (h : ∀ stage : Stage, e.1.verb ≠ stage.verb) : gather updates e = updates := by
  obtain ⟨⟨verb, args⟩, response⟩ := e
  unfold gather
  split
  · cases verb with
    | beginBlock => exact absurd rfl (h .beginBlock)
    | deliverTx => exact absurd rfl (h .deliverTx)
    | _ => rfl
  · rfl

/-- An accepted transaction is gathered as the store takes it up. -/
theorem gather_deliverTx {args : Args.DeliverTx} {tx : Transaction}
    (hread : Transaction.read args.tx = .ok tx) (payload : Payload) (s : Store) :
    gather s.updates (⟨.deliverTx, args⟩, .ok payload) = (s.apply tx).updates := by
  have hok : (Response.ok payload).isOk = true := rfl
  simp only [gather, hok, if_true, hread]
  cases tx <;> rfl

/-- What is in the genesis stays there. -/
theorem Ledger.genesis_note (l : Ledger) (e : Exchange) : l.genesis <+: (l.note e).genesis := by
  obtain ⟨⟨verb, args⟩, response⟩ := e
  unfold Ledger.note
  split
  · cases verb with
    | initChain => exact List.prefix_append ..
    | _ => exact List.prefix_rfl
  · exact List.prefix_rfl

/-! ## Requests -/

/-- The validators that a tracker is going to have, if the open block ends now. -/
def coming (h : Host Store) : ValidatorSet :=
  h.tracker.applyPending.validators.apply h.state.updates

/-- Where the updates of a store are on their way to the tracker. -/
structure Hands (h : Host Store) (t : List Exchange) : Prop where
  fresh : h.tracker.phase = .uninitialized →
    h.tracker.latest = none ∧ h.tracker.validators = {} ∧ h.tracker.pending = none
  founded : ∀ first, h.tracker.phase = .initialized first → h.tracker.latest = none
  executing : ∀ height, h.tracker.phase = .executing height →
    h.tracker.pending = none ∧ h.state.updates = gathered t
  quiet : (∀ height, h.tracker.phase ≠ .executing height) → h.state.updates = []
  committed : ∀ height, h.tracker.phase = .committed height →
    h.tracker.latest = some height ∧ h.state.snapshots.find? height = some ⟨h.state.working⟩

/-- The store and the tracker agree on the validators, and with what was asked. -/
structure Mirrored (h : Host Store) (t : List Exchange) : Prop where
  aligned : Aligned h (Ledger.of t)
  hands : Hands h t
  reflects : (∀ u ∈ (Ledger.of t).genesis, u.publicKey.keyType = "ed25519") →
    Reflects h.state.working (coming h)

theorem coming_of_settled {h : Host Store} (hpending : h.tracker.pending = none)
    (hupdates : h.state.updates = []) : coming h = h.tracker.validators := by
  rw [coming, Tracker.applyPending, hpending, hupdates]
  rfl

/-- The store has updates only while a block is open. -/
theorem Hands.updates_eq_nil {h : Host Store} {t : List Exchange} (hh : Hands h t) {phase : Phase}
    (hphase : h.tracker.phase = phase) (hother : ∀ height, phase ≠ .executing height) :
    h.state.updates = [] := by
  rw [← hphase] at hother
  exact hh.quiet hother

/-- What gathers nothing leaves the updates where they are. -/
theorem Hands.keep {h : Host Store} {t : List Exchange} (hh : Hands h t) {e : Exchange}
    (hsame : gather (gathered t) e = gathered t) (blocks : UInt64) :
    Hands ⟨h.tracker, { h.state with retainBlocks := blocks }⟩ (t ++ [e]) := by
  refine ⟨hh.fresh, hh.founded, ?_, hh.quiet, hh.committed⟩
  intro height hphase
  rw [gathered_concat, hsame]
  exact hh.executing height hphase

theorem mirrored_fresh (blocks : UInt64) : Mirrored { state := keeping blocks } [] where
  aligned := aligned_fresh blocks
  hands := {
    fresh := fun _ => ⟨rfl, rfl, rfl⟩
    founded := nofun
    executing := nofun
    quiet := fun _ => rfl
    committed := nofun }
  reflects := fun _ => .empty

namespace Mirrored

variable {h : Host Store} {t : List Exchange} (hm : Mirrored h t)

include hm

/-- The genesis validators are active at once, and no updates. -/
theorem founded (args : Args.InitChain) (hphase : h.tracker.phase = .uninitialized)
    (e : Exchange) :
    Hands ⟨h.tracker.settleInitChain args {}, h.state.initChain args⟩ (t ++ [e])
      ∧ ((∀ u ∈ args.validators, u.publicKey.keyType = "ed25519") →
          Reflects h.state.working (coming h) →
            Reflects (h.state.initChain args).working
              (coming ⟨h.tracker.settleInitChain args {}, h.state.initChain args⟩)) := by
  obtain ⟨hlatest, hvalidators, hpending⟩ := hm.hands.fresh hphase
  have hquiet : h.state.updates = [] := hm.hands.updates_eq_nil hphase nofun
  refine ⟨⟨nofun, fun _ _ => hlatest, nofun, fun _ => rfl, nofun⟩, fun htyped hreflects => ?_⟩
  rw [coming_of_settled hpending hquiet, hvalidators] at hreflects
  rw [coming_of_settled (h := ⟨h.tracker.settleInitChain args {}, h.state.initChain args⟩)
    hpending rfl, working_initChain]
  exact hreflects.batch htyped

/-- A block that opens takes up what is pending, and has gathered nothing yet. -/
theorem opened (args : Args.BeginBlock) {height : UInt64}
    (hnext : h.tracker.nextHeight = .ok height) {response : Response}
    (hok : response.isOk = true) :
    Hands ⟨h.tracker.settleBeginBlock height, h.state.beginBlock args⟩
        (t ++ [(⟨.beginBlock, args⟩, response)])
      ∧ coming ⟨h.tracker.settleBeginBlock height, h.state.beginBlock args⟩ = coming h := by
  have hpending : (h.tracker.settleBeginBlock height).pending = none :=
    h.tracker.applyPending_pending
  have hquiet : h.state.updates = [] := by
    rcases Tracker.nextHeight_eq_ok_iff.mp hnext with hphase | ⟨last, hphase, -⟩
    · exact hm.hands.updates_eq_nil hphase nofun
    · exact hm.hands.updates_eq_nil hphase nofun
  refine ⟨⟨nofun, nofun, fun current _ => ⟨hpending, ?_⟩, fun _ => rfl, nofun⟩, ?_⟩
  · rw [gathered_concat, gather, hok]
    rfl
  · rw [coming_of_settled (h := ⟨h.tracker.settleBeginBlock height, h.state.beginBlock args⟩)
      hpending rfl, coming, hquiet]
    rfl

/-- An accepted transaction changes the entries and what is coming alike. -/
theorem delivered {args : Args.DeliverTx} {height : UInt64} {tx : Transaction}
    (hphase : h.tracker.phase = .executing height) (hread : Transaction.read args.tx = .ok tx)
    (payload : Payload) :
    Hands ⟨h.tracker, h.state.apply tx⟩ (t ++ [(⟨.deliverTx, args⟩, .ok payload)])
      ∧ (Reflects h.state.working (coming h) →
          Reflects (h.state.apply tx).working (coming ⟨h.tracker, h.state.apply tx⟩)) := by
  constructor
  · refine ⟨?_, ?_, fun current hcurrent => ?_, fun hquiet => absurd hphase (hquiet height), ?_⟩
    · intro hnew
      rw [hphase] at hnew
      cases hnew
    · intro first hfirst
      rw [hphase] at hfirst
      cases hfirst
    · obtain ⟨hpending, hupdates⟩ := hm.hands.executing current hcurrent
      refine ⟨hpending, ?_⟩
      rw [gathered_concat, ← hupdates, gather_deliverTx hread]
    · intro current hcommitted
      rw [hphase] at hcommitted
      cases hcommitted
  · intro hreflects
    cases tx with
    | set key value => exact hreflects.plain (Transaction.not_marked_of_read hread)
    | validator update =>
        obtain ⟨data, hkey⟩ := Transaction.ed25519_of_read hread
        have hcoming : coming ⟨h.tracker, h.state.apply (.validator update)⟩
            = (coming h).update update :=
          ValidatorSet.apply_append _ h.state.updates [update]
        rw [hcoming]
        exact hreflects.update hkey

/-- What a block has gathered is pending once it ends. -/
theorem closed {height : UInt64} (hphase : h.tracker.phase = .executing height)
    (e : Exchange) :
    let result : Result.EndBlock := { validatorUpdates := h.state.updates }
    let after : Host Store :=
      ⟨h.tracker.settleEndBlock height result, { h.state with updates := [] }⟩
    Hands after (t ++ [e]) ∧ coming after = coming h := by
  intro result after
  obtain ⟨hpending, -⟩ := hm.hands.executing height hphase
  refine ⟨⟨nofun, nofun, nofun, fun _ => rfl, nofun⟩, ?_⟩
  rw [coming, coming, Tracker.applyPending, Tracker.applyPending, hpending]
  rfl

/-- A commit keeps the entries under its height, and what is coming as it is. -/
theorem committed {height : UInt64} (hphase : h.tracker.phase = .ended height) (e : Exchange) :
    let after : Host Store :=
      ⟨h.tracker.settleCommit height h.state.commit.1.value, h.state.commit.2⟩
    Hands after (t ++ [e]) ∧ coming after = coming h := by
  intro after
  have hblock : h.state.blockHeight = height := hm.aligned.block_ended hphase
  have hquiet : h.state.updates = [] := hm.hands.updates_eq_nil hphase nofun
  refine ⟨⟨nofun, nofun, nofun, fun _ => hquiet, ?_⟩, ?_⟩
  · rintro _ ⟨⟩
    have hlow : h.state.retainHeight h.state.blockHeight ≤ height := by
      rw [hblock]
      exact retainHeight_le h.state height
    refine ⟨rfl, (Table.find?_dropBelow_of_not_lt _ (Word.compare_ne_lt_iff.mpr hlow)).trans ?_⟩
    rw [← hblock, Table.find?_insert_self]
    rfl
  · rw [coming, coming, Tracker.applyPending_validators, Tracker.applyPending_validators]
    rfl

/-- Every request keeps the store and the tracker in agreement. -/
theorem served {e : Exchange} {h' : Host Store} (hserved : Served h e h') :
    Mirrored h' (t ++ [e]) := by
  have hledger : (Ledger.of t).genesis <+: (Ledger.of (t ++ [e])).genesis := by
    rw [Ledger.of_concat]
    exact (Ledger.of t).genesis_note e
  have haligned : Aligned h' (Ledger.of (t ++ [e])) := by
    rw [Ledger.of_concat]
    exact hm.aligned.served hserved
  -- What was typed behind the request was typed before it.
  have hbefore (htyped : ∀ u ∈ (Ledger.of (t ++ [e])).genesis, u.publicKey.keyType = "ed25519") :
      Reflects h.state.working (coming h) :=
    hm.reflects fun u hu => htyped u (hledger.subset hu)
  cases hserved with
  | quiet hquiet =>
      have hsame : gather (gathered t) e = gathered t := by
        rcases hquiet with hfail | hother
        · exact gather_of_not_isOk _ hfail
        · exact gather_of_ne_stage _ hother
      exact ⟨haligned, hm.hands.keep hsame h.state.retainBlocks, hbefore⟩
  | @observed args response =>
      have hsame := gather_of_ne_stage (gathered t) (e := (⟨.info, args⟩, response))
        fun stage => by cases stage <;> exact nofun
      rw [hm.aligned.observeInfo_eq] at haligned ⊢
      exact ⟨haligned, hm.hands.keep hsame h.state.retainBlocks, hbefore⟩
  | @optioned args response blocks =>
      have hsame := gather_of_ne_stage (gathered t) (e := (⟨.setOption, args⟩, response))
        fun stage => by cases stage <;> exact nofun
      exact ⟨haligned, hm.hands.keep hsame blocks, hbefore⟩
  | @founded args hphase =>
      obtain ⟨hhands, hreflects⟩ := hm.founded args hphase _
      refine ⟨haligned, hhands, fun htyped => hreflects ?_ (hbefore htyped)⟩
      intro u hu
      apply htyped
      rw [Ledger.of_concat]
      exact List.mem_append_right _ hu
  | @opened args height hnext hheight =>
      have hok : (Response.ok (.ofResult .beginBlock {})).isOk = true := rfl
      obtain ⟨hhands, hcoming⟩ := hm.opened args hnext hok
      exact ⟨haligned, hhands, fun htyped => hcoming ▸ hbefore htyped⟩
  | delivered hphase hread =>
      obtain ⟨hhands, hreflects⟩ := hm.delivered hphase hread _
      exact ⟨haligned, hhands, fun htyped => hreflects (hbefore htyped)⟩
  | closed hphase =>
      obtain ⟨hhands, hcoming⟩ := hm.closed hphase _
      exact ⟨haligned, hhands, fun htyped => hcoming ▸ hbefore htyped⟩
  | committed hphase =>
      obtain ⟨hhands, hcoming⟩ := hm.committed hphase _
      exact ⟨haligned, hhands, fun htyped => hcoming ▸ hbefore htyped⟩

end Mirrored

/-! ## Runs -/

/-- A block that opens without an error does so at the next height. -/
theorem opened_of_served {h h' : Host Store} {args : Args.BeginBlock} {response : Response}
    (hserved : Served h (⟨.beginBlock, args⟩, response) h') (hok : response.isOk = true) :
    ∃ height, h.tracker.nextHeight = .ok height
      ∧ h' = ⟨h.tracker.settleBeginBlock height, h.state.beginBlock args⟩ := by
  cases hserved with
  | quiet hquiet =>
      rcases hquiet with hfail | hother
      · rw [hok] at hfail
        cases hfail
      · exact absurd rfl (hother .beginBlock)
  | opened hnext hheight => exact ⟨_, hnext, rfl⟩

/-- A block that ends without an error is the open one, and reports what the store has
for it. -/
theorem closed_of_served {h h' : Host Store} {args : Args.EndBlock} {response : Response}
    (hserved : Served h (⟨.endBlock, args⟩, response) h') (hok : response.isOk = true) :
    (∃ height, h.tracker.phase = .executing height)
      ∧ response = .ok (.ofResult .endBlock { validatorUpdates := h.state.updates }) := by
  cases hserved with
  | quiet hquiet =>
      rcases hquiet with hfail | hother
      · rw [hok] at hfail
        cases hfail
      · exact absurd rfl (hother .endBlock)
  | closed hphase => exact ⟨⟨_, hphase⟩, rfl⟩

/-- After any requests to a fresh store behind a fresh host, both agree on the
validators. -/
theorem mirrored_dispatchAll (blocks : UInt64) (requests : List Request) :
    let fresh : Host Store := { state := keeping blocks }
    Mirrored (fresh.dispatchAll application requests).2
      (fresh.transcript application requests) := by
  have hstep (h : Host Store) (t : List Exchange) (r : Request) (hm : Mirrored h t) :
      Mirrored (h.dispatch application r).2 (t ++ [(r, (h.dispatch application r).1)]) :=
    hm.served (served_dispatch hm.aligned.free r)
  have hrun := Host.invariant_dispatchAll hstep (mirrored_fresh blocks) requests
  rwa [List.nil_append] at hrun

/-- **The validators of the store.**  When the genesis of a chain names validators of the
one key type of transactions only, then, whatever is asked, each time a block opens
behind a commit, the validators among the entries of that commit are the members of the
set that becomes active, with their powers.  The end of a block reports the validators
of the transactions that the block accepted, in their order. -/
theorem validators_mirrored (blocks : UInt64) (requests : List Request) :
    let fresh : Host Store := { state := keeping blocks }
    let run := (fresh.dispatchAll application requests).2
    let past := fresh.transcript application requests
    ((∀ u ∈ (Ledger.of past).genesis, u.publicKey.keyType = "ed25519") →
      ∀ (height : UInt64) (args : Args.BeginBlock),
        let opening := run.dispatch application ⟨.beginBlock, args⟩
        run.tracker.latest = some height → opening.1.isOk = true →
          ∃ tree, opening.2.state.snapshots.find? height = some tree
            ∧ Mirrors tree.table opening.2.tracker.validators)
      ∧ ∀ args : Args.EndBlock,
          let closing := run.dispatch application ⟨.endBlock, args⟩
          closing.1.isOk = true →
            closing.1 = .ok (.ofResult .endBlock { validatorUpdates := gathered past }) := by
  intro fresh run past
  have hm : Mirrored run past := mirrored_dispatchAll blocks requests
  constructor
  · intro htyped height args opening hlatest hok
    have hserved : Served run (⟨.beginBlock, args⟩, opening.1) opening.2 :=
      served_dispatch hm.aligned.free ⟨.beginBlock, args⟩
    obtain ⟨next, hnext, hafter⟩ := opened_of_served hserved hok
    rw [hafter]
    refine ⟨⟨run.state.working⟩, ?_, ?_⟩
    · rcases Tracker.nextHeight_eq_ok_iff.mp hnext with hphase | ⟨last, hphase, -⟩
      · have hnone := hm.hands.founded next hphase
        rw [hlatest] at hnone
        cases hnone
      · obtain ⟨hlast, hkept⟩ := hm.hands.committed last hphase
        rw [hlatest] at hlast
        cases hlast
        exact hkept
    · have hpending : (run.tracker.settleBeginBlock next).pending = none :=
        run.tracker.applyPending_pending
      have hcoming := (hm.opened args hnext hok).2
      rw [coming_of_settled (h := ⟨run.tracker.settleBeginBlock next, run.state.beginBlock args⟩)
        hpending rfl] at hcoming
      have hreflects := hm.reflects htyped
      rw [← hcoming] at hreflects
      exact hreflects.mirrors
  · intro args closing hok
    have hserved : Served run (⟨.endBlock, args⟩, closing.1) closing.2 :=
      served_dispatch hm.aligned.free ⟨.endBlock, args⟩
    obtain ⟨⟨height, hphase⟩, hresponse⟩ := closed_of_served hserved hok
    rw [hresponse, (hm.hands.executing height hphase).2]

/-- A chain of one validator, and an open block that elects another in its place. -/
def electing : List Request :=
  [⟨.initChain, ({ validators := [⟨.ed25519 [0xAB], 5⟩] } : Args.InitChain)⟩,
    ⟨.beginBlock, ({ header := some { height := 1 } } : Args.BeginBlock)⟩,
    .deliverTx (Bytes.ofText "val:CD!7"), .deliverTx (Bytes.ofText "val:ab!0"),
    .deliverTx (Bytes.ofText "a=1")]

/-- The block with its end and its commit. -/
def elected : List Request := electing ++ [.endBlock 1, ⟨.commit, ()⟩]

/-- The opening of the block at height 2, behind `elected`. -/
def inducting : Args.BeginBlock :=
  let digest := (Host.dispatchAll application { state := keeping 0 } elected).2.tracker.appHash
  { header := some { height := 2, appHash := digest } }

/-- The elected validator becomes active when the next block opens, and is then the only
one among the entries of the commit. -/
theorem validators_mirrored_elected :
    let fresh : Host Store := { state := keeping 0 }
    let run := (fresh.dispatchAll application elected).2
    let opening := run.dispatch application ⟨.beginBlock, inducting⟩
    let closing := (fresh.dispatchAll application electing).2.dispatch application (.endBlock 1)
    (run.tracker.latest = some 1 ∧ opening.1.isOk = true
        ∧ run.tracker.validators.toUpdates = [⟨.ed25519 [0xAB], 5⟩]
        ∧ opening.2.tracker.validators.toUpdates = [⟨.ed25519 [0xCD], 7⟩]
        ∧ ∃ tree, opening.2.state.snapshots.find? 1 = some tree
          ∧ Mirrors tree.table opening.2.tracker.validators)
      ∧ closing.1.isOk = true
      ∧ closing.1 = .ok (.ofResult .endBlock
          { validatorUpdates := gathered (fresh.transcript application electing) })
      ∧ gathered (fresh.transcript application electing)
          = [⟨.ed25519 [0xCD], 7⟩, ⟨.ed25519 [0xAB], 0⟩] := by
  intro fresh run opening closing
  have hstate : run.tracker.latest = some 1 ∧ opening.1.isOk = true
      ∧ run.tracker.validators.toUpdates = [⟨.ed25519 [0xAB], 5⟩]
      ∧ opening.2.tracker.validators.toUpdates = [⟨.ed25519 [0xCD], 7⟩] := by
    decide +kernel
  have htyped : ∀ u ∈ (Ledger.of (fresh.transcript application elected)).genesis,
      u.publicKey.keyType = "ed25519" := by
    decide +kernel
  have hclosing : closing.1.isOk = true := by
    decide +kernel
  obtain ⟨hlatest, hopening, hold, hnew⟩ := hstate
  obtain ⟨hmirrors, -⟩ := validators_mirrored 0 elected
  obtain ⟨-, hreports⟩ := validators_mirrored 0 electing
  refine ⟨⟨hlatest, hopening, hold, hnew, hmirrors htyped 1 inducting hlatest hopening⟩,
    hclosing, hreports _ hclosing, ?_⟩
  decide +kernel

end ChainHost.Store
