/-
  The histories of a chain, and the calls that a tracker lets through.

  A history is a start, genesis or a resumption, and whole blocks behind it.
  `History` says so as a grammar, without phases.  `Tracks` is the invariant that
  carries the proof: the phase of a tracker determines how the history so far may
  go on.  `reaches_iff_continues` follows, that the calls which reach the
  application are those that continue a history.
-/
import ChainHost.Proofs.Lifecycle.Transition

set_option autoImplicit false

namespace ChainHost.Lifecycle

/-! ## Histories -/

/-- An event that moves a chain on. -/
inductive Letter where
  /-- A call and the result of its OK reply. -/
  | called (stage : Stage) (args : stage.Args) (result : stage.Result)
  /-- An info that a chain without a history was taken up from. -/
  | resumed (info : Result.Info)

/-- Whole blocks, where the first has the height `next` and its header repeats
the digest, if there is one. -/
inductive Blocks : UInt64 → Option Bytes → List Letter → Prop where
  | nil {next : UInt64} {digest : Option Bytes} : Blocks next digest []
  | cons {next : UInt64} {digest : Option Bytes} {rest : List Letter}
      (opening : Args.BeginBlock) (opened : Result.BeginBlock) (header : Header)
      (txs : List (Args.DeliverTx × Result.Tx))
      (closing : Args.EndBlock) (closed : Result.EndBlock) (commit : Result.Commit)
      (hheader : opening.header = some header)
      (hheight : header.height = next)
      (hdigest : ∀ d ∈ digest, header.appHash = d)
      (hclosing : closing.height = next)
      (hrest : Blocks (Word.next next) (some commit.data) rest) :
      Blocks next digest
        (.called .beginBlock opening opened
          :: (txs.map (fun tx => .called .deliverTx tx.1 tx.2)
            ++ .called .endBlock closing closed :: .called .commit () commit :: rest))

/-- A start and whole blocks. -/
inductive History : List Letter → Prop where
  | genesis {blocks : List Letter} (args : Args.InitChain) (result : Result.InitChain)
      (hblocks : Blocks (max args.initialHeight 1) none blocks) :
      History (.called .initChain args result :: blocks)
  | resumed {blocks : List Letter} (info : Result.Info)
      (hheight : info.lastBlockHeight > 0)
      (hblocks : Blocks (Word.next info.lastBlockHeight) (some info.lastBlockAppHash) blocks) :
      History (.resumed info :: blocks)

/-- The beginning of a history. -/
def Begun (word : List Letter) : Prop := ∃ rest, History (word ++ rest)

/-- A call may come after a word: with an OK reply, it continues the word to the
beginning of a history. -/
def Continues (word : List Letter) (stage : Stage) (args : stage.Args) : Prop :=
  ∃ result, Begun (word ++ [.called stage args result])

/-! ## Spelling a run -/

/-- What a step that came to an effect adds to a word.  An OK reply counts when
the call was let through, and an info only before anything else. -/
def letter? (word : List Letter) : Step → Effect → Option Letter
  | .call stage args (.replied reply) _, effect =>
      if effect.reached ∧ reply.isOk then some (.called stage args reply.value) else none
  | .call _ _ (.panicked _) _, _ => none
  | .observeInfo info, _ =>
      if word.isEmpty ∧ info.lastBlockHeight > 0 then some (.resumed info) else none
  | .resolve _, _ => none

/-- The word that steps and their effects spell behind a word. -/
def spell (word : List Letter) (run : List (Step × Effect)) : List Letter :=
  run.foldl (fun word one => word ++ (letter? word one.1 one.2).toList) word

/-- Steps with what they come to on a tracker. -/
def transcript (t : Tracker) (steps : List Step) : List (Step × Effect) :=
  steps.zip ((Step.playAll t steps).1.map Played.effect)

/-- The word that steps spell on a fresh tracker. -/
def spelled (steps : List Step) : List Letter := spell [] (transcript {} steps)

/-! ## What may follow inside a block -/

/-- The rest of a block that is open, and whole blocks behind it. -/
def Inside (height : UInt64) (word : List Letter) : Prop :=
  ∃ (txs : List (Args.DeliverTx × Result.Tx)) (closing : Args.EndBlock)
    (closed : Result.EndBlock) (commit : Result.Commit) (rest : List Letter),
    closing.height = height ∧ Blocks (Word.next height) (some commit.data) rest
      ∧ word = txs.map (fun tx => .called .deliverTx tx.1 tx.2)
        ++ .called .endBlock closing closed :: .called .commit () commit :: rest

/-- The commit of a block that was closed, and whole blocks behind it. -/
def Closing (height : UInt64) (word : List Letter) : Prop :=
  ∃ (commit : Result.Commit) (rest : List Letter),
    Blocks (Word.next height) (some commit.data) rest ∧ word = .called .commit () commit :: rest

theorem history_cons_iff {l : Letter} {word : List Letter} :
    History (l :: word) ↔
      (∃ (args : Args.InitChain) (result : Result.InitChain),
        l = .called .initChain args result ∧ Blocks (max args.initialHeight 1) none word)
      ∨ ∃ info : Result.Info, l = .resumed info ∧ info.lastBlockHeight > 0
        ∧ Blocks (Word.next info.lastBlockHeight) (some info.lastBlockAppHash) word := by
  constructor
  · intro h
    cases h with
    | genesis args result hblocks => exact .inl ⟨args, result, rfl, hblocks⟩
    | resumed info hheight hblocks => exact .inr ⟨info, rfl, hheight, hblocks⟩
  · rintro (⟨args, result, rfl, hblocks⟩ | ⟨info, rfl, hheight, hblocks⟩)
    · exact .genesis args result hblocks
    · exact .resumed info hheight hblocks

theorem blocks_cons_iff {next : UInt64} {digest : Option Bytes} {l : Letter}
    {word : List Letter} :
    Blocks next digest (l :: word) ↔
      ∃ (opening : Args.BeginBlock) (opened : Result.BeginBlock) (header : Header),
        l = .called .beginBlock opening opened ∧ opening.header = some header
          ∧ header.height = next ∧ (∀ d ∈ digest, header.appHash = d) ∧ Inside next word := by
  constructor
  · intro h
    cases h with
    | cons opening opened header txs closing closed commit hheader hheight hdigest hclosing hrest =>
        exact ⟨opening, opened, header, rfl, hheader, hheight, hdigest,
          txs, closing, closed, commit, _, hclosing, hrest, rfl⟩
  · rintro ⟨opening, opened, header, rfl, hheader, hheight, hdigest,
      txs, closing, closed, commit, rest, hclosing, hrest, rfl⟩
    exact .cons opening opened header txs closing closed commit hheader hheight hdigest hclosing
      hrest

theorem inside_cons_iff {height : UInt64} {l : Letter} {word : List Letter} :
    Inside height (l :: word) ↔
      (∃ (args : Args.DeliverTx) (result : Result.Tx),
        l = .called .deliverTx args result ∧ Inside height word)
      ∨ ∃ (closing : Args.EndBlock) (closed : Result.EndBlock),
        l = .called .endBlock closing closed ∧ closing.height = height
          ∧ Closing height word := by
  constructor
  · rintro ⟨txs, closing, closed, commit, rest, hclosing, hrest, hword⟩
    cases txs with
    | nil =>
        obtain ⟨rfl, rfl⟩ := List.cons.inj hword
        exact .inr ⟨closing, closed, rfl, hclosing, commit, rest, hrest, rfl⟩
    | cons tx txs =>
        obtain ⟨rfl, rfl⟩ := List.cons.inj hword
        exact .inl ⟨tx.1, tx.2, rfl, txs, closing, closed, commit, rest, hclosing, hrest, rfl⟩
  · rintro (⟨args, result, rfl, txs, closing, closed, commit, rest, hclosing, hrest, rfl⟩
      | ⟨closing, closed, rfl, hclosing, commit, rest, hrest, rfl⟩)
    · exact ⟨(args, result) :: txs, closing, closed, commit, rest, hclosing, hrest, rfl⟩
    · exact ⟨[], closing, closed, commit, rest, hclosing, hrest, rfl⟩

theorem closing_cons_iff {height : UInt64} {l : Letter} {word : List Letter} :
    Closing height (l :: word) ↔
      ∃ commit : Result.Commit, l = .called .commit () commit
        ∧ Blocks (Word.next height) (some commit.data) word := by
  constructor
  · rintro ⟨commit, rest, hrest, hword⟩
    obtain ⟨rfl, rfl⟩ := List.cons.inj hword
    exact ⟨commit, rfl, hrest⟩
  · rintro ⟨commit, rfl, hrest⟩
    exact ⟨commit, word, hrest, rfl⟩

/-! ## What may follow a phase -/

/-- How a history may go on from a tracker. -/
def Residual (t : Tracker) (word : List Letter) : Prop :=
  match t.phase with
  | .uninitialized => History word
  | .initialized first => Blocks first none word
  | .executing height => Inside height word
  | .ended height => Closing height word
  | .committed height => Blocks (Word.next height) (some t.appHash) word

/-- Every phase has a way on. -/
theorem exists_residual (t : Tracker) : ∃ word, Residual t word := by
  unfold Residual
  cases t.phase with
  | uninitialized => exact ⟨_, .genesis {} {} .nil⟩
  | initialized first => exact ⟨[], .nil⟩
  | executing height => exact ⟨_, [], ⟨height⟩, {}, {}, [], rfl, .nil, rfl⟩
  | ended height => exact ⟨_, {}, [], .nil, rfl⟩
  | committed height => exact ⟨[], .nil⟩

theorem max_one (height : UInt64) : max height 1 = if height = 0 then 1 else height := by
  show (if height ≤ 1 then 1 else height) = _
  by_cases hzero : height = 0
  · simp [hzero]
  · have hpos : height.toNat ≠ 0 := fun h => hzero (UInt64.toNat_inj.mp h)
    rw [if_neg hzero]
    split
    · next hle =>
        have hone : height.toNat ≤ 1 := by simpa using UInt64.le_iff_toNat_le.mp hle
        refine UInt64.toNat_inj.mp ?_
        simp only [UInt64.toNat_one]
        omega
    · rfl

theorem residual_initChain_iff {t : Tracker} {args : Args.InitChain} {result : Result.InitChain}
    {word : List Letter} :
    Residual t (.called .initChain args result :: word) ↔
      t.phase = .uninitialized ∧ Blocks (max args.initialHeight 1) none word := by
  unfold Residual
  cases t.phase with
  | uninitialized => simp [history_cons_iff]
  | initialized first => simp [blocks_cons_iff]
  | executing height => simp [inside_cons_iff]
  | ended height => simp [closing_cons_iff]
  | committed height => simp [blocks_cons_iff]

theorem residual_beginBlock_iff {t : Tracker} (hidle : t.Idle) {args : Args.BeginBlock}
    {result : Result.BeginBlock} {word : List Letter} :
    Residual t (.called .beginBlock args result :: word) ↔
      ∃ height, t.checkBeginBlock args = .ok height ∧ Inside height word := by
  simp only [Tracker.checkBeginBlock_eq_ok_iff, Tracker.nextHeight_eq_ok_iff]
  unfold Residual
  cases hphase : t.phase with
  | uninitialized => simp [history_cons_iff]
  | initialized first =>
      have hlatest := hidle.fresh first (.inr hphase)
      refine blocks_cons_iff.trans ⟨?_, ?_⟩
      · rintro ⟨_, _, header, hletter, hheader, hheight, _, hinside⟩
        cases hletter
        exact ⟨first, ⟨.inl rfl, header, hheader, hheight, by simp [hlatest]⟩, hinside⟩
      · rintro ⟨height, ⟨hnext, header, hheader, hheight, _⟩, hinside⟩
        obtain rfl : first = height := by simpa using hnext
        exact ⟨args, result, header, rfl, hheader, hheight, by simp, hinside⟩
  | executing height => simp [inside_cons_iff]
  | ended height => simp [closing_cons_iff]
  | committed height =>
      have hlatest := hidle.sealed height hphase
      refine blocks_cons_iff.trans ⟨?_, ?_⟩
      · rintro ⟨_, _, header, hletter, hheader, hheight, hdigest, hinside⟩
        cases hletter
        exact ⟨_, ⟨.inr ⟨height, rfl, rfl⟩, header, hheader, hheight, fun _ => hdigest _ rfl⟩,
          hinside⟩
      · rintro ⟨next, ⟨hnext, header, hheader, hheight, hdigest⟩, hinside⟩
        obtain rfl : Word.next height = next := by simpa using hnext
        refine ⟨args, result, header, rfl, hheader, hheight, ?_, hinside⟩
        simpa using hdigest (by simp [hlatest])

theorem residual_deliverTx_iff {t : Tracker} {args : Args.DeliverTx} {result : Result.Tx}
    {word : List Letter} :
    Residual t (.called .deliverTx args result :: word) ↔
      (∃ height, t.phase = .executing height) ∧ Residual t word := by
  unfold Residual
  cases t.phase with
  | uninitialized => simp [history_cons_iff]
  | initialized first => simp [blocks_cons_iff]
  | executing height => simp [inside_cons_iff]
  | ended height => simp [closing_cons_iff]
  | committed height => simp [blocks_cons_iff]

theorem residual_endBlock_iff {t : Tracker} {args : Args.EndBlock} {result : Result.EndBlock}
    {word : List Letter} :
    Residual t (.called .endBlock args result :: word) ↔
      t.phase = .executing args.height ∧ Closing args.height word := by
  unfold Residual
  cases t.phase with
  | uninitialized => simp [history_cons_iff]
  | initialized first => simp [blocks_cons_iff]
  | executing height =>
      simp only [inside_cons_iff]
      grind
  | ended height => simp [closing_cons_iff]
  | committed height => simp [blocks_cons_iff]

theorem residual_commit_iff {t : Tracker} {result : Result.Commit} {word : List Letter} :
    Residual t (.called .commit () result :: word) ↔
      ∃ height, t.phase = .ended height ∧ Blocks (Word.next height) (some result.data) word := by
  unfold Residual
  cases t.phase with
  | uninitialized => simp [history_cons_iff]
  | initialized first => simp [blocks_cons_iff]
  | executing height => simp [inside_cons_iff]
  | ended height => simp [closing_cons_iff]
  | committed height => simp [blocks_cons_iff]

/-- A history goes on by a call from a tracker exactly if the call's check
passes, and from there as from the settled tracker. -/
theorem residual_called_iff {t : Tracker} (hidle : t.Idle) (stage : Stage) (args : stage.Args)
    (result : stage.Result) (word : List Letter) :
    Residual t (.called stage args result :: word) ↔
      ∃ ticket, t.check stage args = .ok ticket
        ∧ Residual (t.settle stage ticket result) word := by
  cases stage with
  | initChain =>
      refine residual_initChain_iff.trans ?_
      rw [max_one]
      constructor
      · rintro ⟨hphase, hblocks⟩
        exact ⟨args, Tracker.checkInitChain_eq_ok_iff.mpr ⟨hphase, rfl⟩, hblocks⟩
      · rintro ⟨ticket, hcheck, hblocks⟩
        obtain ⟨hphase, rfl⟩ := Tracker.checkInitChain_eq_ok_iff.mp hcheck
        exact ⟨hphase, hblocks⟩
  | beginBlock => exact residual_beginBlock_iff hidle
  | deliverTx =>
      refine residual_deliverTx_iff.trans ?_
      constructor
      · rintro ⟨⟨height, hphase⟩, hrest⟩
        exact ⟨height, Tracker.openHeight_eq_ok_iff.mpr hphase, hrest⟩
      · rintro ⟨height, hcheck, hrest⟩
        exact ⟨⟨height, Tracker.openHeight_eq_ok_iff.mp hcheck⟩, hrest⟩
  | endBlock =>
      refine residual_endBlock_iff.trans ?_
      constructor
      · rintro ⟨hphase, hclosing⟩
        exact ⟨_, Tracker.checkEndBlock_eq_ok_iff.mpr ⟨hphase, rfl⟩, hclosing⟩
      · rintro ⟨height, hcheck, hclosing⟩
        obtain ⟨hphase, rfl⟩ := Tracker.checkEndBlock_eq_ok_iff.mp hcheck
        exact ⟨hphase, hclosing⟩
  | commit =>
      refine residual_commit_iff.trans ?_
      constructor
      · rintro ⟨height, hphase, hblocks⟩
        exact ⟨height, Tracker.checkCommit_eq_ok_iff.mpr hphase, hblocks⟩
      · rintro ⟨height, hcheck, hblocks⟩
        exact ⟨height, Tracker.checkCommit_eq_ok_iff.mp hcheck, hblocks⟩

/-- A history goes on from an info exactly if the tracker takes it up. -/
theorem residual_resumed_iff {t : Tracker} (info : Result.Info) (word : List Letter) :
    Residual t (.resumed info :: word) ↔
      t.phase = .uninitialized ∧ info.lastBlockHeight > 0
        ∧ Blocks (Word.next info.lastBlockHeight) (some info.lastBlockAppHash) word := by
  unfold Residual
  cases t.phase with
  | uninitialized => simp [history_cons_iff]
  | initialized first => simp [blocks_cons_iff]
  | executing height => simp [inside_cons_iff]
  | ended height => simp [closing_cons_iff]
  | committed height => simp [blocks_cons_iff]

theorem settle_phase_ne {t : Tracker} {stage : Stage} {args : stage.Args} {ticket : Ticket stage}
    (hcheck : t.check stage args = .ok ticket) (result : stage.Result) :
    (t.settle stage ticket result).phase ≠ .uninitialized := by
  cases stage with
  | deliverTx =>
      have hphase := Tracker.openHeight_eq_ok_iff.mp hcheck
      simp [Tracker.settle, hphase]
  | initChain => simp [Tracker.settle, Tracker.settleInitChain]
  | beginBlock => simp [Tracker.settle, Tracker.settleBeginBlock]
  | endBlock => simp [Tracker.settle, Tracker.settleEndBlock]
  | commit => simp [Tracker.settle, Tracker.settleCommit]

/-! ## One step -/

/-- What a step does to a tracker, with the letter that it adds to the word: it
leaves the tracker as it was, or is the transition of its letter. -/
inductive Moves (t : Tracker) : Option Letter → Tracker → Prop where
  | stays : Moves t none t
  | settles {stage : Stage} {args : stage.Args} {ticket : Ticket stage}
      (hcheck : t.check stage args = .ok ticket) (result : stage.Result) :
      Moves t (some (.called stage args result)) (t.settle stage ticket result)
  | resumes (info : Result.Info) (hphase : t.phase = .uninitialized)
      (hheight : info.lastBlockHeight ≠ 0) :
      Moves t (some (.resumed info)) (t.resume info)

theorem moves_call (t : Tracker) (word : List Letter) (stage : Stage) (args : stage.Args)
    (answer : Answer stage.Result) (during : List Step) :
    Moves t (letter? word (.call stage args answer during) (t.call stage args answer).1)
      (t.call stage args answer).2 := by
  unfold Tracker.call
  cases henter : t.enter stage args with
  | error violation =>
      cases answer <;> simpa [letter?, Effect.reached] using Moves.stays
  | ok found =>
      obtain ⟨ticket, entered⟩ := found
      obtain ⟨hfree, hcheck, rfl⟩ := Tracker.enter_eq_ok_iff.mp henter
      cases answer with
      | panicked text =>
          simpa [letter?, Tracker.leave, Tracker.unwind_mark hfree] using Moves.stays
      | replied reply =>
          cases hok : reply.isOk with
          | false =>
              simp only [Tracker.leave_of_not_isOk hfree ticket hok]
              simpa [letter?, hok] using Moves.stays
          | true =>
              simp only [Tracker.leave_of_isOk hfree ticket hok]
              simpa [letter?, hok, Tracker.leave_reached] using Moves.settles hcheck reply.value

theorem moves_observeInfo {t : Tracker} {word : List Letter} (hfree : t.inFlight = none)
    (hstart : word = [] ↔ t.phase = .uninitialized) (info : Result.Info) (effect : Effect) :
    Moves t (letter? word (.observeInfo info) effect) (t.observeInfo info) := by
  have hheight : info.lastBlockHeight > 0 ↔ info.lastBlockHeight ≠ 0 := UInt64.pos_iff_ne_zero
  by_cases htaken : t.phase = .uninitialized ∧ info.lastBlockHeight ≠ 0
  · obtain ⟨hphase, hne⟩ := htaken
    have hletter : letter? word (.observeInfo info) effect = some (.resumed info) := by
      simp [letter?, hstart.mpr hphase, hheight, hne]
    rw [hletter, Tracker.observeInfo_of_uninitialized hphase hfree hne]
    exact .resumes info hphase hne
  · have hafter : t.observeInfo info = t := by
      unfold Tracker.observeInfo
      rw [if_neg fun hall => htaken ⟨hall.1, hall.2.2⟩]
    have hletter : letter? word (.observeInfo info) effect = none := by
      simp only [letter?, List.isEmpty_iff, hstart, hheight, htaken, if_false]
    rw [hletter, hafter]
    exact .stays

/-- Every step moves the tracker as its letter says. -/
theorem moves_play {t : Tracker} {word : List Letter} (hfree : t.inFlight = none)
    (hstart : word = [] ↔ t.phase = .uninitialized) (step : Step) :
    Moves t (letter? word step (Step.play t step).effect) (Step.play t step).after := by
  cases step with
  | call stage args answer during =>
      obtain ⟨heffect, hafter⟩ := Step.play_call t stage args answer during
      rw [heffect, hafter]
      exact moves_call t word stage args answer during
  | observeInfo info =>
      rw [Step.play]
      exact moves_observeInfo hfree hstart info _
  | resolve requested =>
      rw [Step.play]
      exact .stays

/-- What each step keeps, a run keeps. -/
theorem invariant_playAll {P : List Letter → Tracker → Prop}
    (hstep : ∀ word t step, P word t →
      P (word ++ (letter? word step (Step.play t step).effect).toList) (Step.play t step).after)
    {word : List Letter} {t : Tracker} (h : P word t) (steps : List Step) :
    P (spell word (transcript t steps)) (Step.playAll t steps).2 := by
  induction steps generalizing t word with
  | nil =>
      rw [Step.playAll]
      exact h
  | cons step rest ih =>
      have hrest := ih (hstep word t step h)
      unfold transcript at hrest ⊢
      rw [Step.playAll]
      exact hrest

/-! ## Runs -/

/-- A tracker stands where a word leads. -/
structure Tracks (t : Tracker) (word : List Letter) : Prop where
  idle : t.Idle
  residual : ∀ rest, History (word ++ rest) ↔ Residual t rest
  start : word = [] ↔ t.phase = .uninitialized

theorem tracks_fresh : Tracks {} [] := ⟨Tracker.idle_fresh, fun _ => Iff.rfl, by simp⟩

namespace Tracks

variable {t : Tracker} {word : List Letter}

theorem begun (h : Tracks t word) : Begun word := by
  obtain ⟨rest, hrest⟩ := exists_residual t
  exact ⟨rest, (h.residual rest).mpr hrest⟩

/-- A call continues the word exactly if it passes the check. -/
theorem continues_iff (h : Tracks t word) (stage : Stage) (args : stage.Args) :
    Continues word stage args ↔ ∃ ticket, t.check stage args = .ok ticket := by
  have hnext (result : stage.Result) (rest : List Letter) :
      History (word ++ [.called stage args result] ++ rest)
        ↔ Residual t (.called stage args result :: rest) := by
    rw [List.append_assoc]
    exact h.residual _
  constructor
  · rintro ⟨result, rest, hrest⟩
    rw [hnext, residual_called_iff h.idle] at hrest
    obtain ⟨ticket, hcheck, _⟩ := hrest
    exact ⟨ticket, hcheck⟩
  · rintro ⟨ticket, hcheck⟩
    obtain ⟨rest, hrest⟩ := exists_residual (t.settle stage ticket stage.verb.neutral)
    refine ⟨stage.verb.neutral, rest, ?_⟩
    rw [hnext, residual_called_iff h.idle]
    exact ⟨ticket, hcheck, hrest⟩

/-- An OK reply to a call that passed the check advances the word. -/
theorem settle (h : Tracks t word) {stage : Stage} {args : stage.Args} {ticket : Ticket stage}
    (hcheck : t.check stage args = .ok ticket) (result : stage.Result) :
    Tracks (t.settle stage ticket result) (word ++ [.called stage args result]) where
  idle := h.idle.settle hcheck result
  residual rest := by
    rw [List.append_assoc, h.residual]
    refine (residual_called_iff h.idle stage args result rest).trans ⟨?_, ?_⟩
    · rintro ⟨found, hfound, hrest⟩
      rw [hcheck] at hfound
      cases hfound
      exact hrest
    · exact fun hrest => ⟨ticket, hcheck, hrest⟩
  start := by simp [settle_phase_ne hcheck]

theorem resume (h : Tracks t word) (info : Result.Info) (hphase : t.phase = .uninitialized)
    (hheight : info.lastBlockHeight ≠ 0) :
    Tracks (t.resume info) (word ++ [.resumed info]) where
  idle := h.idle.resume info
  residual rest := by
    rw [List.append_assoc, h.residual]
    refine (residual_resumed_iff info rest).trans ?_
    exact ⟨fun hrest => hrest.2.2, fun hrest => ⟨hphase, UInt64.pos_iff_ne_zero.mpr hheight, hrest⟩⟩
  start := by simp [Tracker.resume]

theorem move {letter : Option Letter} {after : Tracker} (h : Tracks t word)
    (hmove : Moves t letter after) : Tracks after (word ++ letter.toList) := by
  cases hmove with
  | stays => simpa using h
  | settles hcheck result => exact h.settle hcheck result
  | resumes info hphase hheight => exact h.resume info hphase hheight

theorem moves (h : Tracks t word) (step : Step) :
    Moves t (letter? word step (Step.play t step).effect) (Step.play t step).after :=
  moves_play h.idle.free h.start step

end Tracks

/-- Where a run leads, the tracker stands. -/
theorem tracks_spelled (steps : List Step) : Tracks (Step.playAll {} steps).2 (spelled steps) :=
  invariant_playAll (P := fun word t => Tracks t word) (fun _ _ step h => h.move (h.moves step))
    tracks_fresh steps

/-- What every move keeps holds of a run and the word that it spells. -/
theorem invariant_spelled {P : List Letter → Tracker → Prop} (hstart : P [] {})
    (hmove : ∀ {word t letter after}, Tracks t word → Moves t letter after → P word t →
      P (word ++ letter.toList) after) (steps : List Step) :
    P (spelled steps) (Step.playAll {} steps).2 := by
  have hboth := invariant_playAll (P := fun word t => Tracks t word ∧ P word t)
    (fun _ _ step h => ⟨h.1.move (h.1.moves step), hmove h.1 (h.1.moves step) h.2⟩)
    ⟨tracks_fresh, hstart⟩ steps
  exact hboth.2

theorem call_reached_iff {t : Tracker} (hidle : t.Idle) (stage : Stage) (args : stage.Args)
    (answer : Answer stage.Result) :
    (t.call stage args answer).1.reached = true ↔ ∃ ticket, t.check stage args = .ok ticket := by
  unfold Tracker.call
  cases henter : t.enter stage args with
  | error violation =>
      have hcheck := (Tracker.enter_eq_error_iff hidle.free).mp henter
      simp [Effect.reached, hcheck]
  | ok found =>
      obtain ⟨ticket, entered⟩ := found
      obtain ⟨_, hcheck, _⟩ := Tracker.enter_eq_ok_iff.mp henter
      simp [Tracker.leave_reached, hcheck]

/-- In every run on a fresh tracker, and at every place of it, the word so far
begins a history, it is empty exactly while the tracker is uninitialized, and a
call reaches the application exactly if it continues that word.  Nothing that
comes in while a call is with the application reaches it. -/
theorem reaches_iff_continues (before after : List Step) (stage : Stage) (args : stage.Args)
    (answer : Answer stage.Result) (during : List Step) :
    Begun (spelled before)
      ∧ (spelled before = [] ↔ (Step.playAll {} before).2.phase = .uninitialized)
      ∧ ∃ played, (Step.playAll {} (before ++ .call stage args answer during :: after)).1[before.length]?
            = some played
          ∧ (played.effect.reached = true ↔ Continues (spelled before) stage args)
          ∧ ∀ inner ∈ played.during, inner.effect.reached = false := by
  have htracks := tracks_spelled before
  refine ⟨htracks.begun, htracks.start,
    Step.play (Step.playAll {} before).2 (.call stage args answer during), ?_, ?_, ?_⟩
  · rw [(Step.playAll_append {} before _).1, Step.playAll]
    rw [List.getElem?_append_right (by simp [Step.length_playAll])]
    simp [Step.length_playAll]
  · rw [(Step.play_call _ stage args answer during).1, call_reached_iff htracks.idle,
      htracks.continues_iff]
  · exact fun inner => Step.reached_of_mem_during

end ChainHost.Lifecycle
