/-
  The hint of a commit, and what it leaves.

  How many states to keep can be asked for anew at any time, so the hints of a chain
  go up and down, and a lower hint brings nothing back: the store has dropped the
  states, and the tracker has given their heights up.  What carries the module is
  `Keeps`, for what both have, and that a hint is never above the height of its own
  commit, for what a commit is answered with.
-/
import ChainHost.Proofs.Store.Retention

set_option autoImplicit false

namespace ChainHost

namespace Lifecycle.Violation

/-- A commit out of order is not taken for one that asks to keep too little. -/
theorem outOfOrder_commit_ne_retainAbove (phase : Phase) (retain height : UInt64) :
    (outOfOrder .commit phase).fault ≠ (retainAbove retain height).fault := by
  intro hfault
  have hmessage : (outOfOrder .commit phase).message = (retainAbove retain height).message :=
    congrArg Fault.log hfault
  have horder : (outOfOrder .commit phase).message
      = "commit " ++ ("is not allowed while " ++ phase.message) := by
    rw [← String.append_assoc]
    rfl
  have habove : (retainAbove retain height).message
      = "commit " ++ ("retain_height " ++ (toString retain.toNat ++ (" exceeds committed height "
        ++ toString height.toNat))) := by
    simp only [← String.append_assoc]
    rfl
  -- The two messages part behind the name of the call.
  rw [horder, habove] at hmessage
  have hlists := congrArg String.toList hmessage
  simp only [String.toList_append, List.append_cancel_left_eq] at hlists
  have hfirst := congrArg List.head? hlists
  simp at hfirst

end Lifecycle.Violation

namespace Store

open Lifecycle

/-! ## The number -/

/-- Where a hint is worked out, there is room for each step of it. -/
structure Room (s : Store) (height : UInt64) : Prop where
  /-- As much can be taken off. -/
  below : s.retainBlocks.toNat ≤ height.toNat
  /-- One more than what is left is a number of 64 bits. -/
  above : (height - s.retainBlocks).toNat + 1 < 2 ^ 64

theorem room_of_retains {s : Store} {height : UInt64}
    (hkeep : ¬(s.retainBlocks = 0 ∨ height < s.retainBlocks)) : s.Room height := by
  obtain ⟨hall, hfew⟩ := not_or.mp hkeep
  have hle : s.retainBlocks ≤ height := UInt64.not_lt.mp hfew
  have hle' : s.retainBlocks.toNat ≤ height.toNat := UInt64.le_iff_toNat_le.mp hle
  have hpositive : 0 < s.retainBlocks.toNat :=
    UInt64.lt_iff_toNat_lt.mp (UInt64.pos_iff_ne_zero.mpr hall)
  have hheight := height.toNat_lt
  refine ⟨hle', ?_⟩
  rw [UInt64.toNat_sub_of_le _ _ hle]
  omega

/-- The hint as a number: what is left of the height when the states to keep are taken
off its end. -/
theorem toNat_retainHeight (s : Store) (height : UInt64) :
    (s.retainHeight height).toNat
      = if s.retainBlocks = 0 then 0 else height.toNat + 1 - s.retainBlocks.toNat := by
  unfold retainHeight
  by_cases hall : s.retainBlocks = 0
  · rw [if_pos (.inl hall), if_pos hall]
    exact UInt64.toNat_zero
  rw [if_neg hall]
  by_cases hfew : height < s.retainBlocks
  · have hfew' : height.toNat < s.retainBlocks.toNat := UInt64.lt_iff_toNat_lt.mp hfew
    rw [if_pos (.inr hfew), UInt64.toNat_zero]
    omega
  · have hkeep : ¬(s.retainBlocks = 0 ∨ height < s.retainBlocks) := not_or.mpr ⟨hall, hfew⟩
    obtain ⟨hbelow, habove⟩ := room_of_retains hkeep
    rw [if_neg hkeep, UInt64.toNat_add, UInt64.toNat_one, Nat.mod_eq_of_lt habove,
      UInt64.toNat_sub_of_le _ _ (UInt64.not_lt.mp hfew)]
    omega

/-! ## The answer -/

/-- What a commit is answered with at the end of a block. -/
theorem dispatch_commit_of_ended {h : Host Store} {l : Ledger} (ha : Aligned h l)
    {height : UInt64} (hphase : h.tracker.phase = .ended height) :
    (h.dispatch application ⟨.commit, ()⟩).1
      = .ok (.ofResult .commit
          { data := (⟨h.state.working⟩ : Merkle.Tree).root.bytes
            retainHeight := h.state.retainHeight height }) := by
  have hcheck : h.tracker.check .commit () = .ok height :=
    Tracker.checkCommit_eq_ok_iff.mpr hphase
  have hblock : h.state.blockHeight = height := ha.block_ended hphase
  have hanswer : (h.dispatch application ⟨.commit, ()⟩).1
      = Host.respond .commit (Tracker.amend .commit height h.state.commit.1) :=
    congrArg Prod.fst (Host.runStage_of_check ha.free hcheck)
  rw [hanswer, respond_commit hblock, commit, hblock]
  rfl

/-- No commit is answered with the fault of one that asks to keep nothing below a height
above its own. -/
theorem error_commit_ne_retainAbove {h : Host Store} {l : Ledger} (ha : Aligned h l)
    (retain height : UInt64) :
    (h.dispatch application ⟨.commit, ()⟩).1.error
      ≠ some (Violation.retainAbove retain height).fault := by
  rcases Host.runStage_cases application (show Stage.commit.Args from ()) ha.free with
    ⟨violation, hcheck, hrefused⟩ | ⟨current, hcheck⟩
  · have hanswer : (h.dispatch application ⟨.commit, ()⟩).1
        = .failed (.verb .commit) violation.fault := congrArg Prod.fst hrefused
    have hviolation : violation = .outOfOrder .commit h.tracker.phase := by
      have hcheck : h.tracker.checkCommit = .error violation := hcheck
      unfold Tracker.checkCommit at hcheck
      split at hcheck <;> cases hcheck
      rfl
    rw [hanswer, hviolation]
    intro herror
    exact Violation.outOfOrder_commit_ne_retainAbove _ _ _ (Option.some.inj herror)
  · rw [dispatch_commit_of_ended ha (Tracker.checkCommit_eq_ok_iff.mp hcheck)]
    exact nofun

/-! ## Runs -/

/-- What the store keeps of some committed heights, and how it would commit next. -/
structure Retains (sealed : List UInt64) (h : Host Store) : Prop where
  kept : ∀ q, q ∈ h.state.heights ↔ q ∈ sealed ∧ h.tracker.retain ≤ q
  latest : ∀ latest, sealed.getLast? = some latest → latest ∈ h.state.heights
  /-- The end of a block is committed with a hint that is not above its height. -/
  answered : ∀ height, h.tracker.phase = .ended height →
    h.state.retainHeight height ≤ height ∧
      ∃ digest, (h.dispatch application ⟨.commit, ()⟩).1
        = .ok (.ofResult .commit
            { data := digest, retainHeight := h.state.retainHeight height })
  accepted : ∀ retain height, (h.dispatch application ⟨.commit, ()⟩).1.error
    ≠ some (Violation.retainAbove retain height).fault

/-- **Retention.**  Whatever is asked of a fresh store behind a fresh host, and however
often the number of states to keep is changed, the store has the states of exactly those
committed heights that the tracker has not given up, the latest one among them; every
commit is answered with a hint that is not above its height; and the hint of any store
at any height is worked out without a number that is too small or too large. -/
theorem retention_agrees (blocks : UInt64) (requests : List Request) :
    Retains (sealedHeights (Host.word application (keeping blocks) requests))
        (Host.dispatchAll application { state := keeping blocks } requests).2
      ∧ ∀ (s : Store) (height : UInt64),
          (s.retainHeight height).toNat
              = (if s.retainBlocks = 0 then 0 else height.toNat + 1 - s.retainBlocks.toNat)
            ∧ (¬(s.retainBlocks = 0 ∨ height < s.retainBlocks) → s.Room height) := by
  have hkeeps := keeps_word blocks requests
  have hseated := seated_word application (keeping blocks) requests
  generalize Host.word application (keeping blocks) requests = word at hkeeps ⊢
  generalize (Host.dispatchAll application { state := keeping blocks } requests).2 = run
    at hkeeps hseated ⊢
  obtain ⟨l, haligned⟩ := hkeeps.aligned
  refine ⟨⟨hkeeps.held, ?_, ?_, error_commit_ne_retainAbove haligned⟩, ?_⟩
  · intro latest hlast
    have hlatest : run.tracker.latest = some latest := hkeeps.stands.latest.trans hlast
    have hretain := hseated.window.retained
    rw [Tracker.window, hlatest] at hretain
    exact (hkeeps.held latest).mpr ⟨List.mem_of_getLast? hlast, hretain⟩
  · intro height hphase
    exact ⟨retainHeight_le run.state height, _, dispatch_commit_of_ended haligned hphase⟩
  · intro s height
    exact ⟨s.toNat_retainHeight height, room_of_retains⟩

/-- A block at a height that writes nothing, up to its end, when nothing was ever
written. -/
def emptyBlock (height : UInt64) : List Request :=
  [⟨.beginBlock,
      ({ header := some { height, appHash := ({} : Merkle.Tree).root.bytes } } : Args.BeginBlock)⟩,
    .endBlock height]

/-- Three blocks and the end of a fourth; behind the second, more states are to be kept
than before. -/
def keepingMore : List Request :=
  [⟨.initChain, ({} : Args.InitChain)⟩]
    ++ emptyBlock 1 ++ [⟨.commit, ()⟩] ++ emptyBlock 2 ++ [⟨.commit, ()⟩]
    ++ [⟨.setOption, ({ key := "retain_blocks", value := "3" } : Args.SetOption)⟩]
    ++ emptyBlock 3 ++ [⟨.commit, ()⟩] ++ emptyBlock 4

/-- The hint of the third commit asks for the height 1 again, which is given up. -/
theorem retention_agrees_keepingMore :
    let run := (Host.dispatchAll application { state := keeping 1 } keepingMore).2
    let word := Host.word application (keeping 1) keepingMore
    sealedHeights word = [1, 2, 3] ∧ run.state.heights = [2, 3] ∧ run.tracker.retain = 2
      ∧ run.tracker.phase = .ended 4 ∧ run.state.retainHeight 3 = 1
      ∧ Retains (sealedHeights word) run
      ∧ (run.state.retainHeight 3).toNat = 3 + 1 - run.state.retainBlocks.toNat
      ∧ run.state.Room 3 := by
  intro run word
  have hsealed : sealedHeights word = [1, 2, 3] := by
    decide +kernel
  have hrun : run.state.heights = [2, 3] ∧ run.tracker.retain = 2
      ∧ run.tracker.phase = .ended 4 ∧ run.state.retainBlocks = 3 := by
    decide +kernel
  obtain ⟨hheights, hretain, hphase, hblocks⟩ := hrun
  obtain ⟨hretains, hhint⟩ := retention_agrees 1 keepingMore
  obtain ⟨hnumber, hroom⟩ := hhint run.state 3
  have hkeep : ¬(run.state.retainBlocks = 0 ∨ 3 < run.state.retainBlocks) := by
    rw [hblocks]
    decide
  refine ⟨hsealed, hheights, hretain, hphase, ?_, hretains, ?_, hroom hkeep⟩
  · rw [retainHeight, if_neg hkeep, hblocks]
    decide
  · rw [hnumber, if_neg (not_or.mp hkeep).1]
    rfl

end Store

end ChainHost
