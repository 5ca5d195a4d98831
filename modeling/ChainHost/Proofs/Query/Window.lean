/-
  The window of a tracker.

  A window is two numbers, and `resolve` alone does not keep them in order: with
  the lowest height above the latest one, the height zero would be answered and
  the latest height refused.  No tracker comes to that.  `Seated` is what every
  move of a tracker keeps, whatever a commit asks to keep and wherever a chain is
  taken up, and a crowd of clients moves a tracker as one client does.  So in every
  state of every crowd the window is in order, and it only moves up.
-/
import ChainHost.Host
import ChainHost.Proofs.Lifecycle.Heights
import ChainHost.Proofs.Lifecycle.Linearization

set_option autoImplicit false

namespace ChainHost

namespace Window

/-! ## Windows in order -/

/-- The latest height is a real one, and the lowest one is not above it. -/
structure Sound (w : Window) : Prop where
  positive : ∀ latest, w.latest = some latest → 1 ≤ latest
  retained : w.retain ≤ w.latest.getD 0

/-- Neither the latest nor the lowest height of a window is above that of another. -/
structure Below (w later : Window) : Prop where
  latest : w.latest.getD 0 ≤ later.latest.getD 0
  retain : w.retain ≤ later.retain

/-- How heights are resolved once a latest one is committed. -/
structure Resolves (w : Window) (latest : UInt64) : Prop where
  zero : w.resolve 0 = .ok latest
  top : w.resolve latest = .ok latest
  kept : ∀ q, max 1 w.retain ≤ q → q ≤ latest → w.resolve q = .ok q
  future : ∀ q, latest < q → w.resolve q = .error (.future q latest)
  pruned : ∀ q, 0 < q → q < w.retain → w.resolve q = .error (.pruned q w.retain)

theorem Below.refl (w : Window) : w.Below w := ⟨UInt64.le_refl _, UInt64.le_refl _⟩

theorem Below.trans {w later last : Window} (h : w.Below later) (h' : later.Below last) :
    w.Below last :=
  ⟨UInt64.le_trans h.latest h'.latest, UInt64.le_trans h.retain h'.retain⟩

section Resolve

variable {w : Window} {latest : UInt64} (hlatest : w.latest = some latest)

include hlatest

theorem resolve_zero : w.resolve 0 = .ok latest := by
  simp [resolve, hlatest]

theorem resolve_of_lt {q : UInt64} (hq : latest < q) :
    w.resolve q = .error (.future q latest) := by
  have hne : q ≠ 0 := UInt64.pos_iff_ne_zero.mp (UInt64.lt_of_le_of_lt UInt64.zero_le hq)
  simp only [resolve, hlatest]
  rw [if_neg hne, if_pos hq]

theorem resolve_of_le {q : UInt64} (hpositive : 1 ≤ q) (hq : q ≤ latest) :
    w.resolve q = if q < w.retain then .error (.pruned q w.retain) else .ok q := by
  have hne : q ≠ 0 := UInt64.pos_iff_ne_zero.mp hpositive
  simp only [resolve, hlatest]
  rw [if_neg hne, if_neg (UInt64.not_lt.mpr hq)]

/-- What an ordered window makes of each height. -/
theorem Sound.resolves (h : w.Sound) : w.Resolves latest := by
  have hretained : w.retain ≤ latest := by
    have := h.retained
    rwa [hlatest] at this
  have hkept (q : UInt64) (hlow : max 1 w.retain ≤ q) (hq : q ≤ latest) :
      w.resolve q = .ok q := by
    obtain ⟨hpositive, hlow⟩ := Word.max_le_iff.mp hlow
    rw [resolve_of_le hlatest hpositive hq, if_neg (UInt64.not_lt.mpr hlow)]
  refine ⟨resolve_zero hlatest, ?_, hkept, fun q hq => resolve_of_lt hlatest hq, ?_⟩
  · have hlow : max 1 w.retain ≤ latest :=
      Word.max_le_iff.mpr ⟨h.positive latest hlatest, hretained⟩
    exact hkept latest hlow (UInt64.le_refl _)
  · intro q hpositive hq
    have hle : q ≤ latest := UInt64.le_trans (UInt64.le_of_lt hq) hretained
    rw [resolve_of_le hlatest hpositive hle, if_pos hq]

end Resolve

end Window

/-- A query is answered by the height that its own resolves to alone. -/
theorem Host.dispatch_query_congr {σ : Type} (app : Application σ) (h : Host σ)
    (args : Args.Query) {q r : UInt64}
    (hsame : h.tracker.window.resolve q = h.tracker.window.resolve r) :
    h.dispatch app ⟨.query, ({ args with height := q } : Args.Query)⟩
      = h.dispatch app ⟨.query, ({ args with height := r } : Args.Query)⟩ := by
  simp only [Host.dispatch, Host.runQuery, hsame]

namespace Lifecycle

/-! ## Trackers in order -/

/-- The height that a phase is at. -/
def Phase.height? : Phase → Option UInt64
  | uninitialized => none
  | initialized height | executing height | ended height | committed height => some height

namespace Tracker

/-- The window of a tracker is in order, and its phase is not behind it. -/
structure Seated (t : Tracker) : Prop where
  window : t.window.Sound
  fresh : t.phase = .uninitialized → t.latest = none
  ahead : ∀ height, t.phase.height? = some height → 1 ≤ height ∧ t.latest.getD 0 ≤ height

theorem seated_fresh : ({} : Tracker).Seated where
  window := ⟨nofun, UInt64.le_refl 0⟩
  fresh _ := rfl
  ahead := nofun

namespace Seated

variable {t : Tracker} (h : t.Seated)

include h

/-- What a call does to a tracker without a change of the window. -/
theorem of_window_eq (after : Tracker) (hwindow : after.window = t.window)
    (hphase : after.phase ≠ .uninitialized)
    (hahead : ∀ height, after.phase.height? = some height →
      1 ≤ height ∧ t.latest.getD 0 ≤ height) : after.Seated := by
  have hlatest : after.latest = t.latest := congrArg Window.latest hwindow
  refine ⟨hwindow ▸ h.window, fun hnew => absurd hnew hphase, ?_⟩
  rw [hlatest]
  exact hahead

theorem settleInitChain (hphase : t.phase = .uninitialized) (args : Args.InitChain)
    (result : Result.InitChain) : (t.settleInitChain args result).Seated := by
  refine h.of_window_eq (t.settleInitChain args result) rfl nofun ?_
  rintro _ ⟨⟩
  rw [h.fresh hphase]
  refine ⟨?_, UInt64.zero_le⟩
  split
  · exact UInt64.le_refl 1
  · next hne => exact UInt64.pos_iff_ne_zero.mpr hne

theorem settleBeginBlock {height : UInt64} (hnext : t.nextHeight = .ok height) :
    (t.settleBeginBlock height).Seated := by
  have hwindow := t.window_settleBeginBlock height
  refine h.of_window_eq (t.settleBeginBlock height) hwindow nofun ?_
  rintro _ ⟨⟩
  rcases nextHeight_eq_ok_iff.mp hnext with hphase | ⟨last, hphase, rfl⟩
  · exact h.ahead height (by rw [hphase, Phase.height?])
  · obtain ⟨hpositive, hle⟩ := h.ahead last (by rw [hphase, Phase.height?])
    have hrise := Word.le_next last
    exact ⟨UInt64.le_trans hpositive hrise, UInt64.le_trans hle hrise⟩

theorem settleEndBlock {height : UInt64} (hphase : t.phase = .executing height)
    (result : Result.EndBlock) : (t.settleEndBlock height result).Seated := by
  refine h.of_window_eq (t.settleEndBlock height result) rfl nofun ?_
  rintro _ ⟨⟩
  exact h.ahead height (by rw [hphase, Phase.height?])

/-- A height to keep that is above the commit is not taken. -/
theorem settleCommit {height : UInt64} (hphase : t.phase = .ended height)
    (result : Result.Commit) :
    (t.settleCommit height result).Seated
      ∧ t.window.Below (t.settleCommit height result).window := by
  obtain ⟨hpositive, hle⟩ := h.ahead height (by rw [hphase, Phase.height?])
  have hold : t.retain ≤ height := UInt64.le_trans h.window.retained hle
  have hretain : (t.settleCommit height result).retain ≤ height
      ∧ t.retain ≤ (t.settleCommit height result).retain := by
    simp only [Tracker.settleCommit]
    split
    · next hasked => exact ⟨Word.max_le_iff.mpr ⟨hold, hasked⟩, Word.le_max_left ..⟩
    · exact ⟨hold, UInt64.le_refl _⟩
  refine ⟨⟨⟨?_, hretain.1⟩, ?_, ?_⟩, hle, hretain.2⟩
  · rintro _ ⟨⟩
    exact hpositive
  · intro hnew
    cases hnew
  · rintro _ ⟨⟩
    exact ⟨hpositive, UInt64.le_refl _⟩

theorem resume (hphase : t.phase = .uninitialized) {info : Result.Info}
    (hheight : info.lastBlockHeight ≠ 0) :
    (t.resume info).Seated ∧ t.window.Below (t.resume info).window := by
  have hpositive : 1 ≤ info.lastBlockHeight := UInt64.pos_iff_ne_zero.mpr hheight
  have hlow : t.latest.getD 0 ≤ info.lastBlockHeight := by
    rw [h.fresh hphase]
    exact UInt64.zero_le
  refine ⟨⟨⟨?_, UInt64.le_trans h.window.retained hlow⟩, nofun, ?_⟩, hlow, UInt64.le_refl _⟩
  · rintro _ ⟨⟩
    exact hpositive
  · rintro _ ⟨⟩
    exact ⟨hpositive, UInt64.le_refl _⟩

/-- Every move of a tracker keeps its window in order and moves it up. -/
theorem move {letter : Option Letter} {after : Tracker} (hmove : Moves t letter after) :
    after.Seated ∧ t.window.Below after.window := by
  cases hmove with
  | stays => exact ⟨h, .refl _⟩
  | @settles stage args ticket hcheck result =>
      cases stage with
      | initChain =>
          have hphase := (checkInitChain_eq_ok_iff.mp hcheck).1
          exact ⟨h.settleInitChain hphase ticket result, .refl _⟩
      | beginBlock =>
          have hnext := (checkBeginBlock_eq_ok_iff.mp hcheck).1
          have hwindow := t.window_settleBeginBlock ticket
          exact ⟨h.settleBeginBlock hnext, hwindow ▸ .refl _⟩
      | deliverTx => exact ⟨h, .refl _⟩
      | endBlock =>
          have hphase := (checkEndBlock_eq_ok_iff.mp hcheck).1
          exact ⟨h.settleEndBlock hphase result, .refl _⟩
      | commit => exact h.settleCommit (checkCommit_eq_ok_iff.mp hcheck) result
  | resumes info hphase hheight => exact h.resume hphase hheight

end Seated

theorem exists_moves_observeInfo (t : Tracker) (info : Result.Info) :
    ∃ letter, Moves t letter (t.observeInfo info) := by
  unfold observeInfo
  split
  · next htaken => exact ⟨_, .resumes info htaken.1 htaken.2.2⟩
  · exact ⟨none, .stays⟩

/-- A call that passed its check leaves the tracker in one move. -/
theorem exists_moves_leave {t : Tracker} (hfree : t.inFlight = none) {stage : Stage}
    {args : stage.Args} {ticket : Ticket stage} (hcheck : t.check stage args = .ok ticket)
    (answer : Answer stage.Result) :
    ∃ letter, Moves t letter
      (({ t with inFlight := some stage } : Tracker).leave stage ticket answer).2 := by
  cases answer with
  | panicked text =>
      rw [leave, unwind_mark hfree]
      exact ⟨none, .stays⟩
  | replied reply =>
      cases hok : reply.isOk with
      | false =>
          rw [leave_of_not_isOk hfree ticket hok]
          exact ⟨none, .stays⟩
      | true =>
          rw [leave_of_isOk hfree ticket hok]
          exact ⟨_, .settles hcheck reply.value⟩

end Tracker

/-! ## Crowds -/

namespace Crowd

theorem unwind_free {t : Tracker} (hfree : t.inFlight = none) : (free t).tracker.unwind = t := by
  cases t
  cases hfree
  rfl

/-- An action moves the tracker of a crowd as one client would, but for the mark. -/
theorem Orderly.moves {c after : Crowd} {action : Action} {effect : Option Effect}
    (h : c.Orderly) (hact : c.act action = some (effect, after)) :
    ∃ letter, Moves c.tracker.unwind letter after.tracker.unwind := by
  cases h with
  | @free t hfree =>
      cases freeStep_of_act hfree hact with
      | refused | entered | resolved => exact ⟨none, .stays⟩
      | observed info =>
          have hleft := (t.observeInfo_inFlight info).trans hfree
          rw [unwind_free hfree, unwind_free hleft]
          exact t.exists_moves_observeInfo info
  | @held t hfree client stage args ticket hcheck =>
      cases heldStep_of_act hact with
      | refused | observed | resolved => exact ⟨none, .stays⟩
      | left answer =>
          have hentered : (Crowd.held t client stage ticket).tracker.unwind = t :=
            Tracker.unwind_mark hfree stage
          have hleft := Tracker.leave_inFlight { t with inFlight := some stage } stage ticket
            (answer stage)
          rw [hentered, unwind_free hleft]
          exact Tracker.exists_moves_leave hfree hcheck (answer stage)

/-- A run of an orderly crowd keeps the window in order and moves it up. -/
theorem Orderly.seated_actAll {c after : Crowd} {actions : List Action}
    {effects : List (Option Effect)} (h : c.Orderly) (hseated : c.tracker.unwind.Seated)
    (hrun : c.actAll actions = some (effects, after)) :
    after.tracker.unwind.Seated ∧ c.tracker.window.Below after.tracker.window := by
  induction actions generalizing c effects with
  | nil =>
      cases hrun
      exact ⟨hseated, .refl _⟩
  | cons action rest ih =>
      obtain ⟨effect, next, more, hact, hrest, _⟩ := actAll_cons hrun
      obtain ⟨letter, hmove⟩ := h.moves hact
      obtain ⟨hnext, hup⟩ := hseated.move hmove
      obtain ⟨hafter, hrises⟩ := ih (h.act hact) hnext hrest
      exact ⟨hafter, Window.Below.trans hup hrises⟩

/-- **The window of committed heights.**  However the calls of some clients and the
answers to them interleave, the window is in order and only moves up; once a height
is committed, zero and the latest height are resolved alike, and so are the queries
that ask for them. -/
theorem window_of_actAll {before later : List Action} {earlier more : List (Option Effect)}
    {c after : Crowd} (hbefore : Crowd.actAll {} before = some (earlier, c))
    (hlater : c.actAll later = some (more, after)) :
    c.tracker.window.Sound ∧ c.tracker.window.Below after.tracker.window
      ∧ ∀ latest, c.tracker.latest = some latest →
          c.tracker.window.Resolves latest
            ∧ ∀ {σ : Type} (app : Application σ) (state : σ) (args : Args.Query),
              Host.dispatch app ⟨c.tracker, state⟩
                  ⟨.query, ({ args with height := 0 } : Args.Query)⟩
                = Host.dispatch app ⟨c.tracker, state⟩
                    ⟨.query, ({ args with height := latest } : Args.Query)⟩ := by
  have hstart : (free {}).Orderly := .free rfl
  have horderly : c.Orderly := hstart.actAll hbefore
  obtain ⟨hseated, _⟩ := hstart.seated_actAll Tracker.seated_fresh hbefore
  obtain ⟨_, hup⟩ := horderly.seated_actAll hseated hlater
  refine ⟨hseated.window, hup, ?_⟩
  intro latest hlatest
  have hresolves : c.tracker.window.Resolves latest := hseated.window.resolves hlatest
  refine ⟨hresolves, ?_⟩
  intro σ app state args
  apply Host.dispatch_query_congr
  exact hresolves.zero.trans hresolves.top.symm

/-- A chain that starts at the height 5, where the first commit asks to keep nothing
below it.  The next block opens while another client commits. -/
theorem window_of_actAll_overlapping :
    let neutral : (stage : Stage) → Answer stage.Result :=
      fun stage => .replied (.ok stage.verb.neutral)
    let sealing : (stage : Stage) → Answer stage.Result
      | .commit => .replied (.ok { retainHeight := 5 })
      | _ => .panicked none
    let before : List Action :=
      [.enter 0 .initChain { initialHeight := 5 }, .leave 0 neutral,
        .enter 0 .beginBlock { header := some { height := 5 } }, .leave 0 neutral,
        .enter 0 .endBlock { height := 5 }, .leave 0 neutral,
        .enter 0 .commit (), .leave 0 sealing]
    let later : List Action :=
      [.enter 0 .beginBlock { header := some { height := 6 } }, .enter 1 .commit ()]
    let first := (Crowd.actAll {} before).getD ([], {})
    let second := (first.2.actAll later).getD ([], {})
    Crowd.actAll {} before = some first ∧ first.2.actAll later = some second
      ∧ first.2.tracker.window = ⟨some 5, 5⟩ ∧ second.2.tracker.inFlight = some .beginBlock
      ∧ first.2.tracker.window.Sound
      ∧ first.2.tracker.window.Below second.2.tracker.window
      ∧ first.2.tracker.window.Resolves 5 := by
  intro neutral sealing before later first second
  have hbefore : Crowd.actAll {} before = some first := rfl
  have hlater : first.2.actAll later = some second := rfl
  obtain ⟨hsound, hup, hresolves⟩ := window_of_actAll hbefore hlater
  exact ⟨hbefore, hlater, rfl, rfl, hsound, hup, (hresolves 5 rfl).1⟩

end Crowd

end Lifecycle

end ChainHost
