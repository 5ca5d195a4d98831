/-
  What a block brings becomes active with the next one.

  The end of a block brings validators and parameters, and the block that is
  opened behind it makes them active.  `activated` and `awaited` read this off a
  word, without a tracker: an update is active if a block was opened later, and
  is awaited if not.  `Accounts` says that a tracker agrees with its word.
-/
import ChainHost.Proofs.Lifecycle.Language

set_option autoImplicit false

namespace ChainHost.Lifecycle

/-! ## What a word says -/

namespace Letter

/-- Whether a block is opened. -/
def opens : Letter → Bool
  | .called .beginBlock _ _ => true
  | _ => false

/-- What the end of a block brings for the next one. -/
def brings? : Letter → Option Updates
  | .called .endBlock _ result =>
      some ⟨result.validatorUpdates, result.consensusParamUpdates⟩
  | _ => none

theorem brings?_of_opens {letter : Letter} (h : letter.opens = true) : letter.brings? = none := by
  cases letter with
  | called stage args result => cases stage <;> first | rfl | cases h
  | resumed info => rfl

end Letter

/-- What the ends of blocks bring, in order. -/
def brought (word : List Letter) : List Updates := word.filterMap Letter.brings?

/-- What was brought before another block was opened. -/
def activated : List Letter → List Updates
  | [] => []
  | letter :: rest =>
      (if rest.any Letter.opens then letter.brings?.toList else []) ++ activated rest

/-- What was brought with no block opened since. -/
def awaited : List Letter → List Updates
  | [] => []
  | letter :: rest =>
      (if rest.any Letter.opens then [] else letter.brings?.toList) ++ awaited rest

/-- What a chain starts with. -/
structure Outset where
  validators : ValidatorSet := {}
  params : Option ConsensusParams := none

/-- What a word starts with: at genesis, what the result names, or else what the
request named.  After a resumption nothing is known. -/
def outset : List Letter → Outset
  | .called .initChain args result :: _ =>
      { validators :=
          .ofUpdates (if result.validators.isEmpty then args.validators else result.validators)
        params := result.consensusParams.or args.consensusParams }
  | _ => {}

/-- Parameters under some updates, in order.  Missing ones count as the default
once there is an update. -/
def overlaid (params : Option ConsensusParams) (updates : List ConsensusParams) :
    Option ConsensusParams :=
  if updates.isEmpty then params
  else some (updates.foldl ConsensusParams.merge (params.getD {}))

theorem activated_of_not_opened {word : List Letter} (h : word.any Letter.opens = false) :
    activated word = [] := by
  induction word with
  | nil => rfl
  | cons letter rest ih =>
      obtain ⟨-, hrest⟩ := Bool.or_eq_false_iff.mp h
      simp [activated, hrest, ih hrest]

theorem brought_cons (letter : Letter) (rest : List Letter) :
    brought (letter :: rest) = letter.brings?.toList ++ brought rest := by
  cases hletter : letter.brings? <;> simp [brought, hletter]

/-- Every update is either active or awaited, and the awaited ones came last. -/
theorem activated_append_awaited (word : List Letter) :
    activated word ++ awaited word = brought word := by
  induction word with
  | nil => rfl
  | cons letter rest ih =>
      rw [brought_cons, ← ih, activated, awaited]
      cases hopened : rest.any Letter.opens with
      | true => simp
      | false => simp [activated_of_not_opened hopened]

/-- The opening of a block makes active all that was brought. -/
theorem updates_of_opens {letter : Letter} (h : letter.opens = true) (word : List Letter) :
    activated (word ++ [letter]) = brought word ∧ awaited (word ++ [letter]) = [] := by
  induction word with
  | nil => simp [activated, awaited, brought, Letter.brings?_of_opens h]
  | cons first rest ih =>
      have hopened : (rest ++ [letter]).any Letter.opens = true := by simp [h]
      simp [activated, awaited, hopened, ih, brought_cons]

/-- What is brought is awaited at first. -/
theorem updates_of_not_opens {letter : Letter} (h : letter.opens = false) (word : List Letter) :
    activated (word ++ [letter]) = activated word
      ∧ awaited (word ++ [letter]) = awaited word ++ letter.brings?.toList := by
  induction word with
  | nil => simp [activated, awaited]
  | cons first rest ih =>
      have hsame : (rest ++ [letter]).any Letter.opens = rest.any Letter.opens := by simp [h]
      simp [activated, awaited, hsame, ih]

/-- A start is told by its first letter only. -/
theorem outset_concat {letter : Letter} (h : outset [letter] = {}) (word : List Letter) :
    outset (word ++ [letter]) = outset word := by
  cases word with
  | nil => exact h
  | cons first rest =>
      cases first with
      | called stage args result => cases stage <;> rfl
      | resumed info => rfl

/-- One more update is merged into what the earlier ones came to. -/
theorem overlaid_append (params : Option ConsensusParams) (updates : List ConsensusParams)
    (update : Option ConsensusParams) :
    overlaid params (updates ++ update.toList)
      = Tracker.mergeParams (overlaid params updates) update := by
  cases update with
  | none => simp [Tracker.mergeParams]
  | some update =>
      have hsofar : (overlaid params updates).getD {}
          = updates.foldl ConsensusParams.merge (params.getD {}) := by
        cases updates <;> rfl
      have hall : overlaid params (updates ++ [update])
          = some ((updates.foldl ConsensusParams.merge (params.getD {})).merge update) := by
        simp [overlaid]
      rw [Option.toList_some, hall, Tracker.mergeParams, hsofar]

/-! ## What a tracker has -/

namespace Tracker

theorem applyPending_validators (t : Tracker) :
    t.applyPending.validators
      = (t.pending.toList.map Updates.validators).foldl ValidatorSet.apply t.validators := by
  unfold applyPending
  cases t.pending <;> rfl

theorem applyPending_params (t : Tracker) :
    t.applyPending.params = mergeParams t.params (t.pending.bind Updates.params) := by
  unfold applyPending
  cases t.pending <;> rfl

theorem applyPending_pending (t : Tracker) : t.applyPending.pending = none := by
  rw [t.applyPending_frame]

end Tracker

/-- A tracker has active what its word activated, and pending what it awaits. -/
structure Accounts (word : List Letter) (t : Tracker) : Prop where
  validators :
    t.validators
      = ((activated word).map Updates.validators).foldl ValidatorSet.apply (outset word).validators
  params : t.params = overlaid (outset word).params ((activated word).filterMap Updates.params)
  pending : t.pending.toList = awaited word
  opened : ∀ height, t.phase = .executing height → t.pending = none

namespace Accounts

variable {word : List Letter} {t after : Tracker}

/-- A letter that neither starts nor opens nor brings anything changes nothing
of this. -/
theorem keep (h : Accounts word t) {letter : Letter} (houtset : outset [letter] = {})
    (hopens : letter.opens = false) (hbrings : letter.brings? = none)
    (hvalidators : after.validators = t.validators) (hparams : after.params = t.params)
    (hpending : after.pending = t.pending)
    (hphase : ∀ height, after.phase = .executing height → t.phase = .executing height) :
    Accounts (word ++ [letter]) after := by
  obtain ⟨hactivated, hawaited⟩ := updates_of_not_opens hopens word
  refine ⟨?_, ?_, ?_, fun height hnew => ?_⟩
  · rw [hvalidators, hactivated, outset_concat houtset, h.validators]
  · rw [hparams, hactivated, outset_concat houtset, h.params]
  · rw [hpending, hawaited, hbrings, h.pending]
    simp
  · rw [hpending, h.opened height (hphase height hnew)]

theorem settleInitChain (h : Accounts [] t) (args : Args.InitChain) (result : Result.InitChain) :
    Accounts [.called .initChain args result] (t.settleInitChain args result) where
  validators := rfl
  params := rfl
  pending := h.pending
  opened _ hnew := by simp [Tracker.settleInitChain] at hnew

/-- The opening of a block makes active what is pending. -/
theorem settleBeginBlock (h : Accounts word t) (args : Args.BeginBlock)
    (result : Result.BeginBlock) (height : UInt64) :
    Accounts (word ++ [.called .beginBlock args result]) (t.settleBeginBlock height) := by
  have hopens : (Letter.called .beginBlock args result).opens = true := rfl
  obtain ⟨hactivated, hawaited⟩ := updates_of_opens hopens word
  have hbrought : brought word = activated word ++ t.pending.toList := by
    rw [h.pending, activated_append_awaited]
  refine ⟨?_, ?_, ?_, fun _ _ => t.applyPending_pending⟩
  · refine t.applyPending_validators.trans ?_
    rw [hactivated, outset_concat rfl, hbrought, List.map_append, List.foldl_append,
      ← h.validators]
  · have hparams : t.pending.toList.filterMap Updates.params
        = (t.pending.bind Updates.params).toList := by
      cases t.pending with
      | none => rfl
      | some updates => cases hupdates : updates.params <;> simp [hupdates]
    refine t.applyPending_params.trans ?_
    rw [hactivated, outset_concat rfl, hbrought, List.filterMap_append, hparams,
      overlaid_append, ← h.params]
  · rw [hawaited]
    exact congrArg Option.toList t.applyPending_pending

/-- The end of a block leaves its updates pending, and there are no others. -/
theorem settleEndBlock (h : Accounts word t) {height : UInt64} (hphase : t.phase = .executing height)
    (args : Args.EndBlock) (result : Result.EndBlock) :
    Accounts (word ++ [.called .endBlock args result]) (t.settleEndBlock height result) := by
  have hopens : (Letter.called .endBlock args result).opens = false := rfl
  obtain ⟨hactivated, hawaited⟩ := updates_of_not_opens hopens word
  -- An open block has nothing pending: what is awaited now is what this end brings.
  have hnone : awaited word = [] := by
    rw [← h.pending, h.opened height hphase]
    rfl
  refine ⟨?_, ?_, ?_, fun _ hnew => ?_⟩
  · rw [hactivated, outset_concat rfl]
    exact h.validators
  · rw [hactivated, outset_concat rfl]
    exact h.params
  · rw [hawaited, hnone]
    rfl
  · simp [Tracker.settleEndBlock] at hnew

theorem settle (htracks : Tracks t word) (h : Accounts word t) {stage : Stage}
    {args : stage.Args} {ticket : Ticket stage} (hcheck : t.check stage args = .ok ticket)
    (result : stage.Result) :
    Accounts (word ++ [.called stage args result]) (t.settle stage ticket result) := by
  cases stage with
  | initChain =>
      obtain ⟨hphase, rfl⟩ := Tracker.checkInitChain_eq_ok_iff.mp hcheck
      -- Genesis passes its check on the empty word only, so that its letter comes first.
      obtain rfl : word = [] := htracks.start.mpr hphase
      exact h.settleInitChain args result
  | beginBlock => exact h.settleBeginBlock args result ticket
  | deliverTx => exact h.keep rfl rfl rfl rfl rfl rfl fun _ => id
  | endBlock => exact h.settleEndBlock (Tracker.checkEndBlock_eq_ok_iff.mp hcheck).1 args result
  | commit =>
      refine h.keep rfl rfl rfl rfl rfl rfl fun height hnew => ?_
      simp [Tracker.settle, Tracker.settleCommit] at hnew

theorem move {letter : Option Letter} (htracks : Tracks t word) (hmove : Moves t letter after)
    (h : Accounts word t) : Accounts (word ++ letter.toList) after := by
  cases hmove with
  | stays => simpa using h
  | settles hcheck result => exact h.settle htracks hcheck result
  | resumes info hphase hheight =>
      refine h.keep rfl rfl rfl rfl rfl rfl fun height hnew => ?_
      simp [Tracker.resume] at hnew

/-- While a call is with the application, nothing of this changes. -/
theorem enter (h : Accounts word t) {stage : Stage} {args : stage.Args} {ticket : Ticket stage}
    {entered : Tracker} (henter : t.enter stage args = .ok (ticket, entered))
    (inside : List Step) : Accounts word (Step.playAll entered inside).2 := by
  obtain ⟨_, _, rfl⟩ := Tracker.enter_eq_ok_iff.mp henter
  rw [(Step.playAll_of_inFlight rfl inside).1]
  exact ⟨h.validators, h.params, h.pending, h.opened⟩

end Accounts

/-- Whether a call was let through and answered by an OK reply. -/
def Accepted (stage : Stage) (answer : Answer stage.Result) (effect : Effect) : Prop :=
  ∃ reply, answer = .replied reply ∧ reply.isOk = true ∧ effect.reached = true

end ChainHost.Lifecycle
