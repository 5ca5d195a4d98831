/-
  What a call does to a tracker.

  A call that entered holds the tracker.  Until it leaves, every other call is
  refused and no report is taken up, so that what is settled is what was
  checked.  However much is played during a call, the call is therefore one
  transition from the tracker before it: `play_call` says so.
-/
import ChainHost.Lifecycle.Scenario

set_option autoImplicit false

namespace ChainHost.Lifecycle

/-! ## Checks -/

namespace Tracker

theorem checkInitChain_eq_ok_iff {t : Tracker} {args ticket : Args.InitChain} :
    t.checkInitChain args = .ok ticket ↔ t.phase = .uninitialized ∧ args = ticket := by
  unfold checkInitChain
  cases t.phase <;> simp

theorem openHeight_eq_ok_iff {t : Tracker} {call : Stage} {height : UInt64} :
    t.openHeight call = .ok height ↔ t.phase = .executing height := by
  unfold openHeight
  cases t.phase <;> simp

theorem nextHeight_eq_ok_iff {t : Tracker} {height : UInt64} :
    t.nextHeight = .ok height ↔
      t.phase = .initialized height
        ∨ ∃ last, t.phase = .committed last ∧ Word.next last = height := by
  unfold nextHeight
  cases t.phase <;> simp

theorem checkBeginBlock_eq_ok_iff {t : Tracker} {args : Args.BeginBlock} {height : UInt64} :
    t.checkBeginBlock args = .ok height ↔
      t.nextHeight = .ok height ∧ ∃ header, args.header = some header ∧ header.height = height
        ∧ (t.latest.isSome → header.appHash = t.appHash) := by
  unfold checkBeginBlock
  cases t.nextHeight with
  | error violation => simp
  | ok expected =>
      cases args.header with
      | none => simp
      | some header =>
          simp only [Except.ok.injEq, Option.some.injEq]
          split
          · next hother =>
              simp only [reduceCtorEq, false_iff]
              rintro ⟨rfl, _, rfl, hsame, _⟩
              exact hother hsame
          · next hsame =>
              split
              · next hdigest =>
                  simp only [reduceCtorEq, false_iff]
                  rintro ⟨rfl, _, rfl, _, hrepeats⟩
                  simp only [Bool.and_eq_true, bne_iff_ne] at hdigest
                  exact hdigest.2 (hrepeats hdigest.1)
              · next hdigest =>
                  simp only [ne_eq, Decidable.not_not] at hsame
                  simp only [Bool.and_eq_true, bne_iff_ne, not_and, Decidable.not_not] at hdigest
                  constructor
                  · rintro h
                    cases h
                    exact ⟨rfl, header, rfl, hsame, hdigest⟩
                  · rintro ⟨rfl, _⟩
                    rfl

theorem checkEndBlock_eq_ok_iff {t : Tracker} {args : Args.EndBlock} {height : UInt64} :
    t.checkEndBlock args = .ok height ↔ t.phase = .executing height ∧ args.height = height := by
  unfold checkEndBlock
  cases hopen : t.openHeight .endBlock with
  | error violation =>
      have : t.phase ≠ .executing height := fun h => by
        rw [openHeight_eq_ok_iff.mpr h] at hopen
        cases hopen
      simp [this]
  | ok found =>
      rw [openHeight_eq_ok_iff.mp hopen]
      by_cases hheight : args.height = found
      · simp only [hheight, if_true, Except.ok.injEq, Phase.executing.injEq]
        exact ⟨fun h => ⟨h, h⟩, And.left⟩
      · simp only [hheight, if_false, reduceCtorEq, Phase.executing.injEq, false_iff]
        rintro ⟨rfl, h⟩
        exact hheight h

theorem checkCommit_eq_ok_iff {t : Tracker} {height : UInt64} :
    t.checkCommit = .ok height ↔ t.phase = .ended height := by
  unfold checkCommit
  cases t.phase <;> simp

/-! ## Entering -/

theorem enter_of_inFlight {t : Tracker} {running : Stage} (h : t.inFlight = some running)
    (stage : Stage) (args : stage.Args) :
    t.enter stage args = .error (.inProgress stage running) := by
  simp [enter, h]

/-- A call enters a free tracker exactly if its check passes, and all it changes
is the mark. -/
theorem enter_eq_ok_iff {t entered : Tracker} {stage : Stage} {args : stage.Args}
    {ticket : Ticket stage} :
    t.enter stage args = .ok (ticket, entered) ↔
      t.inFlight = none ∧ t.check stage args = .ok ticket
        ∧ entered = { t with inFlight := some stage } := by
  unfold enter
  cases hflight : t.inFlight with
  | some running => simp
  | none =>
      cases hcheck : t.check stage args with
      | error violation => simp
      | ok found => simp [eq_comm]

/-- A refusal by a free tracker is one of its check. -/
theorem enter_eq_error_iff {t : Tracker} (hfree : t.inFlight = none) {stage : Stage}
    {args : stage.Args} {violation : Violation} :
    t.enter stage args = .error violation ↔ t.check stage args = .error violation := by
  unfold enter
  rw [hfree]
  cases hcheck : t.check stage args with
  | error found => simp
  | ok ticket => simp

/-- No check speaks of another call. -/
theorem check_ne_inProgress (t : Tracker) (stage : Stage) (args : stage.Args)
    (call running : Stage) : t.check stage args ≠ .error (.inProgress call running) := by
  intro h
  cases stage with
  | initChain =>
      simp only [check, checkInitChain] at h
      split at h <;> simp at h
  | beginBlock =>
      simp only [check, checkBeginBlock, nextHeight] at h
      grind
  | deliverTx =>
      simp only [check, openHeight] at h
      split at h <;> simp at h
  | endBlock =>
      simp only [check, checkEndBlock, openHeight] at h
      grind
  | commit =>
      have h : t.checkCommit = .error (.inProgress call running) := h
      simp only [checkCommit] at h
      split at h <;> simp at h

/-- The tracker at the height that an info reports. -/
def resume (t : Tracker) (info : Result.Info) : Tracker :=
  { t with
    phase := .committed info.lastBlockHeight
    latest := some info.lastBlockHeight
    appHash := info.lastBlockAppHash }

theorem observeInfo_of_uninitialized {t : Tracker} (hphase : t.phase = .uninitialized)
    (hfree : t.inFlight = none) {info : Result.Info} (hheight : info.lastBlockHeight ≠ 0) :
    t.observeInfo info = t.resume info :=
  if_pos ⟨hphase, hfree, hheight⟩

theorem observeInfo_of_inFlight {t : Tracker} {running : Stage} (h : t.inFlight = some running)
    (info : Result.Info) : t.observeInfo info = t := by
  simp [observeInfo, h]

theorem observeInfo_inFlight (t : Tracker) (info : Result.Info) :
    (t.observeInfo info).inFlight = t.inFlight := by
  unfold observeInfo
  split <;> rfl

/-! ## Leaving -/

/-- A call that unwinds leaves the tracker as it was before it entered. -/
theorem unwind_mark {t : Tracker} (hfree : t.inFlight = none) (stage : Stage) :
    ({ t with inFlight := some stage } : Tracker).unwind = t := by
  cases t
  cases hfree
  rfl

/-- Applying what is pending touches validators and parameters only. -/
theorem applyPending_frame (t : Tracker) :
    t.applyPending = { t with
      pending := none
      validators := t.applyPending.validators
      params := t.applyPending.params } := by
  obtain ⟨phase, latest, appHash, retain, validators, params, pending, inFlight⟩ := t
  cases pending <;> rfl

/-- A block that opens leaves the heights that can be read. -/
theorem window_settleBeginBlock (t : Tracker) (height : UInt64) :
    (t.settleBeginBlock height).window = t.window := by
  show Window.mk t.applyPending.latest t.applyPending.retain = t.window
  rw [t.applyPending_frame]
  rfl

theorem settle_inFlight (t : Tracker) (stage : Stage) (ticket : Ticket stage)
    (result : stage.Result) : (t.settle stage ticket result).inFlight = t.inFlight := by
  cases stage with
  | beginBlock =>
      show t.applyPending.inFlight = t.inFlight
      rw [t.applyPending_frame]
  | initChain => rfl
  | deliverTx => rfl
  | endBlock => rfl
  | commit => rfl

/-- What a call that entered comes to, and the tracker after it. -/
def leave (t : Tracker) (stage : Stage) (ticket : Ticket stage) :
    Answer stage.Result → Effect × Tracker
  | .replied reply =>
      (.replied stage (t.finish stage ticket reply).1, (t.finish stage ticket reply).2)
  | .panicked text => (.panicked text, t.unwind)

/-- Leaving clears the mark, with a reply and without one. -/
theorem leave_inFlight (t : Tracker) (stage : Stage) (ticket : Ticket stage)
    (answer : Answer stage.Result) : (t.leave stage ticket answer).2.inFlight = none := by
  cases answer with
  | panicked text => rfl
  | replied reply =>
      simp only [leave, finish]
      split
      · exact settle_inFlight t.unwind stage ticket reply.value
      · rfl

/-- A call with nothing in between: what it comes to, and the tracker after it. -/
def call (t : Tracker) (stage : Stage) (args : stage.Args) (answer : Answer stage.Result) :
    Effect × Tracker :=
  match t.enter stage args with
  | .error violation => (.refused violation, t)
  | .ok (ticket, entered) => entered.leave stage ticket answer

/-- The tracker that a call with an OK reply leaves is the checked one, settled. -/
theorem leave_of_isOk {t : Tracker} (hfree : t.inFlight = none) {stage : Stage}
    (ticket : Ticket stage) {reply : Reply stage.Result} (hok : reply.isOk = true) :
    (({ t with inFlight := some stage } : Tracker).leave stage ticket (.replied reply)).2
      = t.settle stage ticket reply.value := by
  simp only [leave, finish, hok, if_true, unwind_mark hfree]

/-- Without an OK reply a call leaves the tracker as it was before. -/
theorem leave_of_not_isOk {t : Tracker} (hfree : t.inFlight = none) {stage : Stage}
    (ticket : Ticket stage) {reply : Reply stage.Result} (hok : reply.isOk = false) :
    (({ t with inFlight := some stage } : Tracker).leave stage ticket (.replied reply)).2 = t := by
  simp [leave, finish, hok, unwind_mark hfree]

end Tracker

/-! ## Steps during a call -/

/-- Whether the application was called. -/
def Effect.reached : Effect → Bool
  | .replied _ _ | .panicked _ => true
  | .refused _ | .observed | .resolved _ => false

theorem Tracker.leave_reached (t : Tracker) (stage : Stage) (ticket : Ticket stage)
    (answer : Answer stage.Result) : (t.leave stage ticket answer).1.reached = true := by
  cases answer <;> rfl

namespace Step

/-- A step during a call changes nothing and does not reach the application. -/
theorem play_of_inFlight {t : Tracker} {running : Stage} (h : t.inFlight = some running)
    (step : Step) : (play t step).after = t ∧ (play t step).effect.reached = false := by
  cases step with
  | call stage args answer during =>
      rw [play, Tracker.enter_of_inFlight h]
      exact ⟨rfl, rfl⟩
  | observeInfo info =>
      rw [play]
      exact ⟨Tracker.observeInfo_of_inFlight h info, rfl⟩
  | resolve requested =>
      rw [play]
      exact ⟨rfl, rfl⟩

theorem playAll_of_inFlight {t : Tracker} {running : Stage} (h : t.inFlight = some running)
    (steps : List Step) :
    (playAll t steps).2 = t ∧ ∀ played ∈ (playAll t steps).1, played.effect.reached = false := by
  induction steps with
  | nil =>
      rw [playAll]
      exact ⟨rfl, by simp⟩
  | cons step rest ih =>
      obtain ⟨hafter, hreached⟩ := play_of_inFlight h step
      obtain ⟨htracker, hrest⟩ := ih
      rw [playAll]
      simp only [hafter]
      refine ⟨htracker, fun played hmem => ?_⟩
      rcases List.mem_cons.mp hmem with rfl | hmem
      · exact hreached
      · exact hrest played hmem

/-- A call that enters comes to what its answer makes of it, whatever is played
during it. -/
theorem play_call_of_ok {t entered : Tracker} {stage : Stage} {args : stage.Args}
    {ticket : Ticket stage} (henter : t.enter stage args = .ok (ticket, entered))
    (answer : Answer stage.Result) (during : List Step) :
    play t (.call stage args answer during)
      = .mk (entered.leave stage ticket answer).1 (playAll entered during).1
          (entered.leave stage ticket answer).2 := by
  obtain ⟨_, _, hentered⟩ := Tracker.enter_eq_ok_iff.mp henter
  have hflight : entered.inFlight = some stage := by rw [hentered]
  have hsame := (playAll_of_inFlight hflight during).1
  rw [play, henter]
  cases answer with
  | replied reply => simp [hsame, Tracker.leave]
  | panicked text => simp [hsame, Tracker.leave]

theorem play_call_of_error {t : Tracker} {stage : Stage} {args : stage.Args}
    {violation : Violation} (henter : t.enter stage args = .error violation)
    (answer : Answer stage.Result) (during : List Step) :
    play t (.call stage args answer during) = .mk (.refused violation) [] t := by
  rw [play, henter]

/-- A call is one transition, whatever is played during it. -/
theorem play_call (t : Tracker) (stage : Stage) (args : stage.Args) (answer : Answer stage.Result)
    (during : List Step) :
    (play t (.call stage args answer during)).effect = (t.call stage args answer).1
      ∧ (play t (.call stage args answer during)).after = (t.call stage args answer).2 := by
  unfold Tracker.call
  cases henter : t.enter stage args with
  | error violation =>
      rw [play_call_of_error henter]
      exact ⟨rfl, rfl⟩
  | ok found =>
      rw [play_call_of_ok henter]
      exact ⟨rfl, rfl⟩

/-- Nothing that is played during a call reaches the application. -/
theorem reached_of_mem_during {t : Tracker} {step : Step} {inner : Played}
    (h : inner ∈ (play t step).during) : inner.effect.reached = false := by
  cases step with
  | call stage args answer during =>
      cases henter : t.enter stage args with
      | error violation =>
          rw [play_call_of_error henter] at h
          cases h
      | ok found =>
          obtain ⟨_, _, hentered⟩ := Tracker.enter_eq_ok_iff.mp henter
          have hflight : found.2.inFlight = some stage := by rw [hentered]
          rw [play_call_of_ok henter] at h
          exact (playAll_of_inFlight hflight during).2 inner h
  | observeInfo info =>
      rw [play] at h
      cases h
  | resolve requested =>
      rw [play] at h
      cases h

theorem length_playAll (t : Tracker) (steps : List Step) :
    (playAll t steps).1.length = steps.length := by
  induction steps generalizing t with
  | nil =>
      rw [playAll]
      rfl
  | cons step rest ih =>
      rw [playAll]
      simp [ih]

theorem playAll_append (t : Tracker) (first second : List Step) :
    (playAll t (first ++ second)).1
        = (playAll t first).1 ++ (playAll (playAll t first).2 second).1
      ∧ (playAll t (first ++ second)).2 = (playAll (playAll t first).2 second).2 := by
  induction first generalizing t with
  | nil =>
      rw [List.nil_append, playAll]
      exact ⟨rfl, rfl⟩
  | cons step rest ih =>
      obtain ⟨hplayed, hafter⟩ := ih (play t step).after
      rw [List.cons_append, playAll, playAll]
      exact ⟨by simp [hplayed], hafter⟩

end Step

/-! ## Between two calls -/

namespace Tracker

/-- Nothing is in flight, and there is a latest height exactly if the phase says
that a block was committed. -/
structure Idle (t : Tracker) : Prop where
  free : t.inFlight = none
  fresh : ∀ first, t.phase = .uninitialized ∨ t.phase = .initialized first → t.latest = none
  sealed : ∀ height, t.phase = .committed height → t.latest = some height

theorem idle_fresh : ({} : Tracker).Idle where
  free := rfl
  fresh _ _ := rfl
  sealed _ h := by simp at h

theorem Idle.settle {t : Tracker} (h : t.Idle) {stage : Stage} {args : stage.Args}
    {ticket : Ticket stage} (hcheck : t.check stage args = .ok ticket) (result : stage.Result) :
    (t.settle stage ticket result).Idle := by
  have hfree := (settle_inFlight t stage ticket result).trans h.free
  cases stage with
  | initChain =>
      have hphase := (checkInitChain_eq_ok_iff.mp hcheck).1
      refine ⟨hfree, fun _ _ => h.fresh 0 (.inl hphase), fun _ hnew => ?_⟩
      simp [Tracker.settle, settleInitChain] at hnew
  | beginBlock =>
      refine ⟨hfree, fun _ hnew => ?_, fun _ hnew => ?_⟩
      · simp [Tracker.settle, settleBeginBlock] at hnew
      · simp [Tracker.settle, settleBeginBlock] at hnew
  | deliverTx => exact h
  | endBlock =>
      refine ⟨hfree, fun _ hnew => ?_, fun _ hnew => ?_⟩
      · simp [Tracker.settle, settleEndBlock] at hnew
      · simp [Tracker.settle, settleEndBlock] at hnew
  | commit =>
      refine ⟨hfree, fun _ hnew => ?_, fun _ hnew => ?_⟩
      · simp [Tracker.settle, settleCommit] at hnew
      · simpa [Tracker.settle, settleCommit] using hnew

theorem Idle.resume {t : Tracker} (h : t.Idle) (info : Result.Info) : (t.resume info).Idle where
  free := h.free
  fresh _ hnew := by simp [Tracker.resume] at hnew
  sealed _ hnew := by simpa [Tracker.resume] using hnew

end Tracker

end ChainHost.Lifecycle
