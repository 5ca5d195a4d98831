/-
  A tracker that resumed goes on like the one that was lost.

  Which calls a tracker lets through, and what it makes of their replies, is told
  by its phase, its latest height with the digest, and the call in flight.
  `Agrees` relates trackers that share these, and every step keeps it.  A fresh
  tracker that is told where the application stands shares them with the tracker
  that committed there, so that nobody can tell the two apart by their calls.
-/
import Mathlib.Data.List.Forall2
import ChainHost.Proofs.Lifecycle.Heights
import ChainHost.Proofs.Lifecycle.Updates

set_option autoImplicit false

namespace ChainHost.Lifecycle

/-! ## Trackers that decide alike -/

/-- Two trackers share all that calls are decided by and, when they are synced,
also what is pending. -/
structure Agrees (synced : Prop) (t u : Tracker) : Prop where
  phase : t.phase = u.phase
  latest : t.latest = u.latest
  appHash : t.appHash = u.appHash
  inFlight : t.inFlight = u.inFlight
  pending : synced → t.pending = u.pending

/-- Two steps come to the same, as far as calls and their answers go.  Which
heights can be read depends on the kept ones. -/
def Effect.Same : Effect → Effect → Prop
  | .resolved _, .resolved _ => True
  | effect, other => effect = other

/-- Two steps were played alike, with those during them, and the trackers agree
afterwards. -/
inductive Alike (synced : Prop) : Played → Played → Prop where
  | mk {effect other : Effect} {during inner : List Played} {t u : Tracker}
      (heffect : effect.Same other) (hduring : List.Forall₂ (Alike synced) during inner)
      (hafter : Agrees synced t u) : Alike synced (.mk effect during t) (.mk other inner u)

theorem Effect.same_refl (effect : Effect) : effect.Same effect := by
  cases effect <;> first | rfl | trivial

variable {synced : Prop} {t u : Tracker}

theorem Alike.after {played other : Played} (h : Alike synced played other) :
    Agrees synced played.after other.after := by
  cases h with
  | mk _ _ hafter => exact hafter

namespace Agrees

theorem check (h : Agrees synced t u) (stage : Stage) (args : stage.Args) :
    t.check stage args = u.check stage args := by
  have hopen (call : Stage) : t.openHeight call = u.openHeight call := by
    rw [Tracker.openHeight, Tracker.openHeight, h.phase]
  have hnext : t.nextHeight = u.nextHeight := by
    rw [Tracker.nextHeight, Tracker.nextHeight, h.phase]
  cases stage with
  | initChain => simp only [Tracker.check, Tracker.checkInitChain, h.phase]
  | beginBlock => simp only [Tracker.check, Tracker.checkBeginBlock, hnext, h.latest, h.appHash]
  | deliverTx => exact hopen .deliverTx
  | endBlock => simp only [Tracker.check, Tracker.checkEndBlock, hopen]
  | commit => simp only [Tracker.check, Tracker.checkCommit, h.phase]

/-- Both trackers refuse a call in the same words, or both let it in. -/
theorem enter (h : Agrees synced t u) (stage : Stage) (args : stage.Args) :
    (∃ violation, t.enter stage args = .error violation ∧ u.enter stage args = .error violation)
      ∨ ∃ ticket, t.enter stage args = .ok (ticket, { t with inFlight := some stage })
          ∧ u.enter stage args = .ok (ticket, { u with inFlight := some stage }) := by
  unfold Tracker.enter
  rw [← h.inFlight, ← h.check stage args]
  cases t.inFlight with
  | some running => exact .inl ⟨_, rfl, rfl⟩
  | none =>
      cases t.check stage args with
      | error violation => exact .inl ⟨violation, rfl, rfl⟩
      | ok ticket => exact .inr ⟨ticket, rfl, rfl⟩

theorem mark (h : Agrees synced t u) (running : Option Stage) :
    Agrees synced { t with inFlight := running } { u with inFlight := running } :=
  ⟨h.phase, h.latest, h.appHash, rfl, h.pending⟩

/-- Behind the opening of a block the trackers are synced: nothing is pending. -/
theorem settleBeginBlock (h : Agrees synced t u) (height : UInt64) :
    Agrees True (t.settleBeginBlock height) (u.settleBeginBlock height) := by
  refine ⟨rfl, ?_, ?_, ?_, fun _ => ?_⟩
  · show t.applyPending.latest = u.applyPending.latest
    rw [t.applyPending_frame, u.applyPending_frame]
    exact h.latest
  · show t.applyPending.appHash = u.applyPending.appHash
    rw [t.applyPending_frame, u.applyPending_frame]
    exact h.appHash
  · show t.applyPending.inFlight = u.applyPending.inFlight
    rw [t.applyPending_frame, u.applyPending_frame]
    exact h.inFlight
  · exact t.applyPending_pending.trans u.applyPending_pending.symm

theorem settle (h : Agrees synced t u) (stage : Stage) (ticket : Ticket stage)
    (result : stage.Result) :
    Agrees synced (t.settle stage ticket result) (u.settle stage ticket result) := by
  cases stage with
  | initChain => exact ⟨rfl, h.latest, h.appHash, h.inFlight, h.pending⟩
  | beginBlock =>
      have hopened := h.settleBeginBlock ticket
      exact ⟨rfl, hopened.latest, hopened.appHash, hopened.inFlight, fun _ => hopened.pending trivial⟩
  | deliverTx => exact h
  | endBlock => exact ⟨rfl, h.latest, h.appHash, h.inFlight, fun _ => rfl⟩
  | commit => exact ⟨rfl, rfl, rfl, h.inFlight, h.pending⟩

/-- The same answer comes to the same, with either tracker. -/
theorem leave (h : Agrees synced t u) (stage : Stage) (ticket : Ticket stage)
    (answer : Answer stage.Result) :
    (t.leave stage ticket answer).1 = (u.leave stage ticket answer).1
      ∧ Agrees synced (t.leave stage ticket answer).2 (u.leave stage ticket answer).2 := by
  cases answer with
  | panicked text => exact ⟨rfl, h.mark none⟩
  | replied reply =>
      simp only [Tracker.leave, Tracker.finish]
      split
      · exact ⟨rfl, (h.mark none).settle stage ticket reply.value⟩
      · exact ⟨rfl, h.mark none⟩

theorem observeInfo (h : Agrees synced t u) (info : Result.Info) :
    Agrees synced (t.observeInfo info) (u.observeInfo info) := by
  unfold Tracker.observeInfo
  rw [← h.phase, ← h.inFlight]
  split
  · exact ⟨rfl, rfl, rfl, rfl, h.pending⟩
  · exact h

end Agrees

/-! ## Runs -/

-- The recursion goes through the steps that are played during a call.
mutual
theorem Agrees.play {t u : Tracker} (h : Agrees synced t u) :
    (step : Step) → Alike synced (Step.play t step) (Step.play u step)
  | .call stage args answer during => by
      rcases h.enter stage args with ⟨violation, ht, hu⟩ | ⟨ticket, ht, hu⟩
      · rw [Step.play_call_of_error ht, Step.play_call_of_error hu]
        exact .mk (Effect.same_refl _) .nil h
      · have hentered := h.mark (some stage)
        obtain ⟨heffect, hafter⟩ := hentered.leave stage ticket answer
        rw [Step.play_call_of_ok ht, Step.play_call_of_ok hu, heffect]
        exact .mk (Effect.same_refl _) (hentered.playAll during).1 hafter
  | .observeInfo info => by
      rw [Step.play, Step.play]
      exact .mk rfl .nil (h.observeInfo info)
  | .resolve requested => by
      rw [Step.play, Step.play]
      exact .mk trivial .nil h

/-- Trackers that agree come to the same with all steps, and agree afterwards. -/
theorem Agrees.playAll {t u : Tracker} (h : Agrees synced t u) :
    (steps : List Step) →
      List.Forall₂ (Alike synced) (Step.playAll t steps).1 (Step.playAll u steps).1
        ∧ Agrees synced (Step.playAll t steps).2 (Step.playAll u steps).2
  | [] => by
      rw [Step.playAll, Step.playAll]
      exact ⟨.nil, h⟩
  | step :: rest => by
      have hstep := h.play step
      obtain ⟨hrest, hafter⟩ := hstep.after.playAll rest
      rw [Step.playAll, Step.playAll]
      exact ⟨.cons hstep hrest, hafter⟩
end

/-- Trackers that agree are synced by the first opening that is accepted. -/
theorem Agrees.play_of_accepted (h : Agrees synced t u) {args : Args.BeginBlock}
    {answer : Answer Result.BeginBlock} {during : List Step}
    (haccepted : Accepted .beginBlock answer
      (Step.play t (.call .beginBlock args answer during)).effect) :
    Agrees True (Step.play t (.call .beginBlock args answer during)).after
      (Step.play u (.call .beginBlock args answer during)).after := by
  obtain ⟨reply, rfl, hok, hreached⟩ := haccepted
  rcases h.enter .beginBlock args with ⟨violation, ht, hu⟩ | ⟨ticket, ht, hu⟩
  · rw [Step.play_call_of_error ht] at hreached
    cases hreached
  · rw [Step.play_call_of_ok ht, Step.play_call_of_ok hu]
    simp only [Played.after, Tracker.leave, Tracker.finish, hok, if_true]
    exact (h.mark none).settleBeginBlock ticket

/-- A tracker that committed a height agrees with a fresh one that is told so. -/
theorem agrees_observeInfo {t : Tracker} (hidle : t.Idle) {height : UInt64}
    (hphase : t.phase = .committed height) (hne : height ≠ 0) {info : Result.Info}
    (hheight : info.lastBlockHeight = height) (hdigest : info.lastBlockAppHash = t.appHash) :
    Agrees False t (({} : Tracker).observeInfo info) := by
  rw [Tracker.observeInfo_of_uninitialized rfl rfl (hheight ▸ hne)]
  refine ⟨?_, ?_, hdigest.symm, hidle.free, False.elim⟩
  · rw [hphase, ← hheight]
    rfl
  · rw [hidle.sealed height hphase, ← hheight]
    rfl

/-- **Recovery.**  A fresh tracker that observes the height and the digest of a
tracker between two blocks comes to the same as that tracker with all steps, and
agrees with it after each.  Only validators, parameters, the kept heights and what
is pending may differ, and what is pending only until an opening is accepted. -/
theorem resumed_goes_on_alike (before later : List Step) (height : UInt64) (info : Result.Info)
    (hphase : (Step.playAll {} before).2.phase = .committed height)
    (hheight : info.lastBlockHeight = height)
    (hdigest : info.lastBlockAppHash = (Step.playAll {} before).2.appHash) :
    let lost := (Step.playAll {} before).2
    let resumed := ({} : Tracker).observeInfo info
    List.Forall₂ (Alike False) (Step.playAll lost later).1 (Step.playAll resumed later).1
      ∧ Agrees False (Step.playAll lost later).2 (Step.playAll resumed later).2
      ∧ ∀ (first : List Step) (args : Args.BeginBlock) (answer : Answer Result.BeginBlock)
          (during rest : List Step),
          later = first ++ .call .beginBlock args answer during :: rest →
          Accepted .beginBlock answer
            (Step.play (Step.playAll lost first).2 (.call .beginBlock args answer during)).effect →
            Agrees True (Step.playAll lost later).2 (Step.playAll resumed later).2 := by
  intro lost resumed
  have hidle : lost.Idle := (tracks_spelled before).idle
  have hne : height ≠ 0 := latest_ne_zero (hidle.sealed height hphase)
  have hagrees : Agrees False lost resumed := agrees_observeInfo hidle hphase hne hheight hdigest
  obtain ⟨halike, hafter⟩ := hagrees.playAll later
  refine ⟨halike, hafter, ?_⟩
  intro first args answer during rest hlater haccepted
  have hfirst := (hagrees.playAll first).2
  have hsynced := hfirst.play_of_accepted haccepted
  rw [hlater, (Step.playAll_append lost first _).2, (Step.playAll_append resumed first _).2,
    Step.playAll, Step.playAll]
  exact (hsynced.playAll rest).2

/-- The second block goes on alike behind a first one that brought a validator,
although only one tracker knows of it. -/
theorem resumed_behind_first_block :
    let opening (height : UInt64) (appHash : Bytes) : Step :=
      .call .beginBlock { header := some { height, appHash } } (.replied (.ok {})) []
    let closing (height : UInt64) (validatorUpdates : List ValidatorUpdate) : List Step :=
      [.call .endBlock { height } (.replied (.ok { validatorUpdates })) [],
        .call .commit () (.replied (.ok { data := [7] })) []]
    let before : List Step :=
      .call .initChain {} (.replied (.ok {})) [] :: opening 1 [] :: closing 1 [⟨.ed25519 [1], 3⟩]
    let later : List Step := opening 3 [7] :: opening 2 [7] :: closing 2 []
    let lost := (Step.playAll {} before).2
    let resumed := ({} : Tracker).observeInfo { lastBlockHeight := 1, lastBlockAppHash := [7] }
    lost.pending ≠ resumed.pending
      ∧ List.Forall₂ (Alike False) (Step.playAll lost later).1 (Step.playAll resumed later).1
      ∧ Agrees True (Step.playAll lost later).2 (Step.playAll resumed later).2 := by
  intro opening closing before later lost resumed
  obtain ⟨halike, _, hsynced⟩ := resumed_goes_on_alike before later 1
    { lastBlockHeight := 1, lastBlockAppHash := [7] } (by decide +kernel) rfl (by decide +kernel)
  have haccepted : Accepted .beginBlock (.replied (.ok {}))
      (Step.play (Step.playAll lost [opening 3 [7]]).2 (opening 2 [7])).effect :=
    ⟨.ok {}, rfl, rfl, by decide +kernel⟩
  refine ⟨by decide +kernel, halike, ?_⟩
  exact hsynced [opening 3 [7]] _ _ _ (closing 2 []) rfl haccepted

/-- What a closed block left pending is lost with the tracker, so that more than
validators, parameters and the kept heights may differ. -/
theorem resumed_forgets_pending :
    let before : List Step :=
      [.call .initChain {} (.replied (.ok {})) [],
        .call .beginBlock { header := some { height := 1 } } (.replied (.ok {})) [],
        .call .endBlock { height := 1 } (.replied (.ok {})) [],
        .call .commit () (.replied (.ok {})) []]
    let info : Result.Info := { lastBlockHeight := 1 }
    let lost := (Step.playAll {} before).2
    let resumed := ({} : Tracker).observeInfo info
    lost.phase = .committed 1 ∧ info.lastBlockHeight = 1 ∧ info.lastBlockAppHash = lost.appHash
      ∧ resumed ≠ { lost with
          validators := resumed.validators
          params := resumed.params
          retain := resumed.retain } := by
  decide +kernel

end ChainHost.Lifecycle
