/-
  The states that the store keeps, and the heights that the tracker lets through.

  The two forget by different rules: the store drops what is below the hint of its
  latest commit, and the tracker remembers the largest hint so far.  `Keeps` says
  that they still agree: the store has the states of exactly those committed heights
  that the tracker has not given up.  Hence a query that is let through finds its
  state, with one exception.  A window knows nothing of the first height of a chain,
  and lets through the heights below it, at which nothing was ever committed.
-/
import ChainHost.Proofs.Query.Committed
import ChainHost.Proofs.Store.History

set_option autoImplicit false

namespace ChainHost.Store

open Lifecycle

/-! ## What is kept -/

/-- Tracker and store agree with the word, and the store keeps the committed heights
that the tracker has not given up. -/
structure Keeps (word : List Letter) (h : Host Store) : Prop where
  tracks : Tracks h.tracker word
  stands : Stands word h.tracker
  aligned : ∃ l, Aligned h l
  held : ∀ q, q ∈ h.state.heights ↔ q ∈ sealedHeights word ∧ h.tracker.retain ≤ q

theorem keeps_fresh (blocks : UInt64) : Keeps [] { state := keeping blocks } where
  tracks := tracks_fresh
  stands := stands_fresh
  aligned := ⟨_, aligned_fresh blocks⟩
  held q := by simp [heights, keeping, Table.keys, Table.empty, sealedHeights, marks, marksFrom]

/-- A commit adds its height and drops what is below its hint. -/
theorem mem_heights_commit (s : Store) (q : UInt64) :
    q ∈ s.commit.2.heights
      ↔ s.retainHeight s.blockHeight ≤ q ∧ (q = s.blockHeight ∨ q ∈ s.heights) := by
  simp only [heights, commit, Table.mem_keys_dropBelow, Table.mem_keys_insert,
    Word.compare_ne_lt_iff]

namespace Keeps

variable {word : List Letter} {h : Host Store} (hk : Keeps word h)

include hk

/-- Other requests than commits seal nothing. -/
theorem sealed_of_ne {r : Request} (hverb : r.verb ≠ .commit)
    (hwindow : (h.dispatch application r).2.tracker.window = h.tracker.window) :
    sealedHeights (word ++ (h.letter? application word r).toList) = sealedHeights word := by
  have hmove : Moves h.tracker (h.letter? application word r)
      (h.dispatch application r).2.tracker := Host.moves_dispatch hk.tracks r
  cases hletter : h.letter? application word r with
  | none => simp
  | some letter =>
      rw [hletter] at hmove
      generalize (h.dispatch application r).2.tracker = after at hmove hwindow
      cases hmove with
      | @settles stage args ticket hcheck result =>
          have hne : stage ≠ .commit := by
            rintro rfl
            exact hverb (Host.verb_of_letter? hletter)
          exact sealedHeights_of_ne hne word args result
      | resumes info hphase hheight =>
          have hnone := hk.tracks.idle.fresh 0 (.inl hphase)
          have hsome : some info.lastBlockHeight = h.tracker.latest :=
            congrArg Window.latest hwindow
          rw [hnone] at hsome
          cases hsome

/-- A commit that is let in keeps its height, and gives up what is below the hint. -/
theorem held_commit {height : UInt64} (hphase : h.tracker.phase = .ended height) (q : UInt64) :
    q ∈ h.state.commit.2.heights
      ↔ q ∈ sealedHeights (word ++ [.called .commit () h.state.commit.1.value])
        ∧ (h.tracker.settleCommit height h.state.commit.1.value).retain ≤ q := by
  obtain ⟨l, ha⟩ := hk.aligned
  have hblock : h.state.blockHeight = height := ha.block_ended hphase
  have hopen : openHeight word = height := hk.stands.current height (.inr hphase)
  have hhint : h.state.retainHeight height ≤ height := retainHeight_le h.state height
  have hretain : (h.tracker.settleCommit height h.state.commit.1.value).retain
      = max h.tracker.retain (h.state.retainHeight height) := by
    rw [← hblock] at hhint ⊢
    exact if_pos hhint
  have hold : h.tracker.retain ≤ height := by
    rw [← hblock, ha.block]
    exact ha.retain
  have hsealed : q ∈ sealedHeights (word ++ [.called .commit () h.state.commit.1.value])
      ↔ q ∈ sealedHeights word ∨ q = height := by
    rw [sealedHeights_concat, hopen]
    simp [Letter.mark?, Mark.sealed?]
  rw [mem_heights_commit, hblock, hk.held, hsealed, hretain, Word.max_le_iff]
  constructor
  · rintro ⟨hlow, rfl | ⟨hmem, hkept⟩⟩
    · exact ⟨.inr rfl, hold, hlow⟩
    · exact ⟨.inl hmem, hkept, hlow⟩
  · rintro ⟨hmem | rfl, hkept, hlow⟩
    · exact ⟨hlow, .inr ⟨hmem, hkept⟩⟩
    · exact ⟨hlow, .inl rfl⟩

/-- Every request keeps the agreement. -/
theorem dispatch (r : Request) :
    Keeps (word ++ (h.letter? application word r).toList) (h.dispatch application r).2 := by
  obtain ⟨l, ha⟩ := hk.aligned
  have hmove : Moves h.tracker (h.letter? application word r)
      (h.dispatch application r).2.tracker := Host.moves_dispatch hk.tracks r
  have hserved := served_dispatch ha.free r
  refine ⟨hk.tracks.move hmove, hk.stands.move hmove, ⟨_, ha.served hserved⟩, fun q => ?_⟩
  -- Nothing but a commit seals a height, drops a state or moves the window.
  by_cases hverb : r.verb = .commit
  · obtain ⟨verb, args⟩ := r
    subst hverb
    have hletter : h.letter? application word ⟨.commit, args⟩
        = Lifecycle.letter? word (h.callStep application .commit args)
          (Step.play h.tracker (h.callStep application .commit args)).effect := rfl
    cases henter : h.tracker.enter .commit () with
    | error violation =>
        rw [hletter, Host.letter?_callStep_of_error henter]
        have hsame : (h.dispatch application ⟨.commit, args⟩).2 = h :=
          congrArg Prod.snd (Host.runStage_of_refused henter)
        rw [hsame]
        simpa using hk.held q
    | ok found =>
        obtain ⟨height, entered⟩ := found
        have hcheck := (Tracker.enter_eq_ok_iff.mp henter).2.1
        have hphase := Tracker.checkCommit_eq_ok_iff.mp hcheck
        have hafter : (h.dispatch application ⟨.commit, args⟩).2
            = ⟨h.tracker.settleCommit height h.state.commit.1.value, h.state.commit.2⟩ :=
          congrArg Prod.snd (Host.runStage_of_check ha.free hcheck)
        rw [hletter, Host.letter?_callStep_of_ok henter, hafter]
        exact hk.held_commit hphase q
  · obtain ⟨hwindow, hsnapshots⟩ := ha.frame hserved hverb
    have hretain : (h.dispatch application r).2.tracker.retain = h.tracker.retain :=
      congrArg Window.retain hwindow
    rw [heights, hsnapshots, hk.sealed_of_ne hverb hwindow, hretain]
    exact hk.held q

end Keeps

/-- After any requests to a fresh store behind a fresh host, the store keeps the
committed heights that the tracker has not given up. -/
theorem keeps_word (blocks : UInt64) (requests : List Request) :
    Keeps (Host.word application (keeping blocks) requests)
      (Host.dispatchAll application { state := keeping blocks } requests).2 :=
  Host.invariant_wordFrom (fun _ _ r hk => hk.dispatch r) (keeps_fresh blocks) requests

/-! ## Queries -/

/-- The store finds the state of a height that it keeps. -/
theorem treeAt_of_mem {s : Store} {q : UInt64} (h : q ∈ s.heights) :
    ∃ tree, s.treeAt q = .ok tree := by
  obtain ⟨tree, hfound⟩ := Table.mem_keys_iff.mp h
  refine ⟨tree, ?_⟩
  rw [treeAt, hfound]

/-- At a height that it keeps, the store never answers that it has no state. -/
theorem query_of_mem {s : Store} {args : Args.Query} (h : args.height ∈ s.heights) {fault : Fault}
    (herror : (s.query args).error = some fault) (q : UInt64) :
    fault.code ≠ (Refusal.noSnapshot q).code := by
  obtain ⟨tree, htree⟩ := treeAt_of_mem h
  rw [query, lookup, htree] at herror
  split at herror
  · cases herror
  · next refusal hrefused =>
      cases herror
      split at hrefused
      · cases hrefused
        intro hcode
        cases hcode
      · cases hrefused

/-- The store answers that it has no state at a height only if the tracker has asked
it at a height that it does not keep. -/
theorem missing_of_dispatch {h : Host Store} {args : Args.Query} {fault : Fault}
    (herror : (h.dispatch application ⟨.query, args⟩).1.error = some fault)
    (hcode : fault.code = (Refusal.noSnapshot args.height).code) :
    ∃ height, h.tracker.window.resolve args.height = .ok height ∧ height ∉ h.state.heights := by
  rcases Host.dispatch_query_cases application h args with
    ⟨text, hrefused⟩ | ⟨height, hresolve, hasked⟩
  · rw [hrefused] at herror
    cases herror
    cases hcode
  · rw [hasked] at herror
    have herror : (h.state.query { args with height }).error = some fault := herror
    exact ⟨height, hresolve, fun hmem => query_of_mem hmem herror args.height hcode⟩

/-- **Queries read committed heights.**  In a run that starts with a genesis, once a
block is committed, a query is refused for its height, or the application is asked at
a height that was committed or lies below the first height of the chain.  Only there
can the store answer that it has no state. -/
theorem queries_read_committed (requests : List Request) (query : Args.Query) :
    (∀ {σ : Type} (app : Application σ) (state : σ) (first latest : UInt64),
      Host.StartsAt app state requests first →
      let run := (Host.dispatchAll app { state } requests).2
      run.tracker.latest = some latest →
        (∃ text, run.dispatch app ⟨.query, query⟩
            = (.failed (.verb .query) (.heightUnavailable text), run))
          ∨ ∃ height, run.dispatch app ⟨.query, query⟩ = run.ask app query height
            ∧ (height ∈ sealedHeights (Host.word app state requests)
              ∨ (query.height = height ∧ 0 < height ∧ height < first)))
      ∧ ∀ blocks first latest : UInt64,
        Host.StartsAt application (keeping blocks) requests first →
        let run := (Host.dispatchAll application { state := keeping blocks } requests).2
        run.tracker.latest = some latest → ∀ fault : Fault,
          (run.dispatch application ⟨.query, query⟩).1.error = some fault →
          fault.code = (Refusal.noSnapshot query.height).code →
            0 < query.height ∧ query.height < first := by
  constructor
  · intro σ app state first latest hstart run hlatest
    rcases Host.dispatch_query_cases app run query with hrefused | ⟨height, hresolve, hasked⟩
    · exact .inl hrefused
    · refine .inr ⟨height, hasked, ?_⟩
      rcases hstart.resolved hlatest hresolve with ⟨hsealed, -⟩ | hbelow
      · exact .inl hsealed
      · exact .inr hbelow
  · intro blocks first latest hstart run hlatest fault herror hcode
    have hkeeps := keeps_word blocks requests
    obtain ⟨height, hresolve, hmissing⟩ := missing_of_dispatch herror hcode
    rcases hstart.resolved hlatest hresolve with hkept | ⟨hsame, hpositive, hbelow⟩
    · exact absurd ((hkeeps.held height).mpr hkept) hmissing
    · rw [hsame]
      exact ⟨hpositive, hbelow⟩

/-- A chain whose first block is at a height. -/
def startingAt (first : UInt64) : List Request :=
  [⟨.initChain, ({ initialHeight := first } : Args.InitChain)⟩,
    ⟨.beginBlock, ({ header := some { height := first } } : Args.BeginBlock)⟩,
    .endBlock first, ⟨.commit, ()⟩]

/-- In a chain that starts at 5 a query at 3 is let through, and finds no state. -/
theorem queries_read_committed_below_first :
    let run := (Host.dispatchAll application { state := keeping 0 } (startingAt 5)).2
    let query : Args.Query := { height := 3 }
    run.tracker.latest = some 5
      ∧ (run.dispatch application ⟨.query, query⟩).1.error = some (Refusal.noSnapshot 3).fault
      ∧ ((∃ text, run.dispatch application ⟨.query, query⟩
            = (.failed (.verb .query) (.heightUnavailable text), run))
          ∨ ∃ height, run.dispatch application ⟨.query, query⟩ = run.ask application query height
            ∧ (height ∈ sealedHeights (Host.word application (keeping 0) (startingAt 5))
              ∨ (query.height = height ∧ 0 < height ∧ height < 5)))
      ∧ 0 < query.height ∧ query.height < 5 := by
  intro run query
  have hlatest : run.tracker.latest = some 5 := by
    decide +kernel
  have herror : (run.dispatch application ⟨.query, query⟩).1.error
      = some (Refusal.noSnapshot 3).fault := by
    decide +kernel
  have hstart : Host.StartsAt application (keeping 0) (startingAt 5) 5 := ⟨_, _, _, rfl, rfl⟩
  obtain ⟨hasked, hmissing⟩ := queries_read_committed (startingAt 5) query
  exact ⟨hlatest, herror, hasked application (keeping 0) 5 5 hstart hlatest,
    hmissing 0 5 5 hstart hlatest _ herror rfl⟩

/-- The height 3 was never committed in that chain, and yet the store is asked at it. -/
theorem asked_at_missing_height :
    let run := (Host.dispatchAll application { state := keeping 0 } (startingAt 5)).2
    let query : Args.Query := { height := 3 }
    Host.StartsAt application (keeping 0) (startingAt 5) 5
      ∧ run.tracker.latest = some 5
      ∧ sealedHeights (Host.word application (keeping 0) (startingAt 5)) = [5]
      ∧ run.dispatch application ⟨.query, query⟩ = run.ask application query 3
      ∧ (run.dispatch application ⟨.query, query⟩).1.error = some (Refusal.noSnapshot 3).fault := by
  intro run query
  have hwindow : run.tracker.window = ⟨some 5, 0⟩ := by
    decide +kernel
  have hresolve : run.tracker.window.resolve 3 = .ok 3 := by
    rw [hwindow]
    rfl
  refine ⟨⟨_, _, _, rfl, rfl⟩, congrArg Window.latest hwindow, ?_, ?_, ?_⟩
  · decide +kernel
  · simp only [Host.dispatch, Host.runQuery, query, hresolve]
    rfl
  · decide +kernel

end ChainHost.Store
