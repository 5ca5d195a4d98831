/-
  The heights of a chain rise.

  A word opens and seals blocks.  `marks` lists the heights at which it does so;
  a commit seals the block that was opened last, and a resumption counts as a
  seal.  Since a history goes from each height to the next one, what comes after
  a seal has a greater height.  The largest number is its own successor, so that
  this one height can be opened and sealed again: `marks_rise` says exactly that
  much, and `sealed_again_at_largest` that it happens.
-/
import ChainHost.Proofs.Lifecycle.Language

set_option autoImplicit false

namespace ChainHost

namespace Word

theorem le_largest (a : UInt64) : a ≤ largest := by
  have hlargest : largest.toNat = 2 ^ 64 - 1 := rfl
  have hlt := a.toNat_lt
  rw [UInt64.le_iff_toNat_le]
  omega

theorem toNat_next (a : UInt64) : (next a).toNat = min (a.toNat + 1) (2 ^ 64 - 1) :=
  toNat_addSaturating a 1

/-- Between a number and the next one lies nothing. -/
theorem next_le_of_lt {a b : UInt64} (h : a < b) : next a ≤ b := by
  have hlt := UInt64.lt_iff_toNat_lt.mp h
  rw [UInt64.le_iff_toNat_le, toNat_next]
  omega

theorem le_next (a : UInt64) : a ≤ next a := by
  have hlt := a.toNat_lt
  rw [UInt64.le_iff_toNat_le, toNat_next]
  omega

/-- Only the largest number is not below the next one. -/
theorem lt_next_or (a : UInt64) : a < next a ∨ (a = largest ∧ next a = largest) := by
  have hlargest : largest.toNat = 2 ^ 64 - 1 := rfl
  have hnext := toNat_next a
  have hlt := a.toNat_lt
  by_cases htop : a.toNat + 1 < 2 ^ 64
  · left
    rw [UInt64.lt_iff_toNat_lt]
    omega
  · right
    constructor <;> refine UInt64.toNat_inj.mp ?_ <;> omega

end Word

namespace Lifecycle

/-! ## Marks -/

/-- What happens at a height. -/
inductive Mark where
  | opened (height : UInt64)
  | sealed (height : UInt64)
  deriving DecidableEq, Repr

namespace Mark

def height : Mark → UInt64
  | opened height | sealed height => height

/-- The height of a seal. -/
def sealed? : Mark → Option UInt64
  | opened _ => none
  | sealed height => some height

/-- After a seal come greater heights, or the largest one again. -/
def Precedes (first second : Mark) : Prop :=
  ∀ height, first = .sealed height →
    height < second.height ∨ (height = Word.largest ∧ second.height = Word.largest)

theorem Precedes.of_next_le {height : UInt64} {second : Mark}
    (h : Word.next height ≤ second.height) : (Mark.sealed height).Precedes second := by
  rintro _ ⟨⟩
  rcases Word.lt_next_or height with hlt | ⟨htop, hnext⟩
  · exact .inl (UInt64.lt_of_lt_of_le hlt h)
  · exact .inr ⟨htop, UInt64.le_antisymm (Word.le_largest _) (hnext ▸ h)⟩

end Mark

namespace Letter

/-- The height of the block that was opened last, with the one before the letter. -/
def openHeight (current : UInt64) : Letter → UInt64
  | .called .beginBlock args _ => args.height?.getD current
  | _ => current

/-- What a letter does at a height, behind a block of the current height. -/
def mark? (current : UInt64) : Letter → Option Mark
  | .called .beginBlock args _ => args.height?.map Mark.opened
  | .called .commit _ _ => some (.sealed current)
  | .resumed info => some (.sealed info.lastBlockHeight)
  | _ => none

end Letter

/-- What a word does at its heights, behind a block of the current height. -/
def marksFrom (current : UInt64) : List Letter → List Mark
  | [] => []
  | letter :: rest => (letter.mark? current).toList ++ marksFrom (letter.openHeight current) rest

/-- What a word does at its heights. -/
def marks (word : List Letter) : List Mark := marksFrom 0 word

/-- The height of the block that a word opened last. -/
def openHeight (word : List Letter) : UInt64 := word.foldl Letter.openHeight 0

/-- The heights that a word seals. -/
def sealedHeights (word : List Letter) : List UInt64 := (marks word).filterMap Mark.sealed?

theorem marksFrom_append (current : UInt64) (word rest : List Letter) :
    marksFrom current (word ++ rest)
      = marksFrom current word ++ marksFrom (word.foldl Letter.openHeight current) rest := by
  induction word generalizing current with
  | nil => rfl
  | cons letter word ih => simp [marksFrom, ih]

theorem marks_concat (word : List Letter) (letter : Letter) :
    marks (word ++ [letter]) = marks word ++ (letter.mark? (openHeight word)).toList := by
  simp [marks, marksFrom_append, marksFrom, openHeight]

theorem openHeight_concat (word : List Letter) (letter : Letter) :
    openHeight (word ++ [letter]) = letter.openHeight (openHeight word) := by
  simp [openHeight]

theorem sealedHeights_concat (word : List Letter) (letter : Letter) :
    sealedHeights (word ++ [letter])
      = sealedHeights word ++ ((letter.mark? (openHeight word)).bind Mark.sealed?).toList := by
  rw [sealedHeights, marks_concat, List.filterMap_append]
  cases hmark : letter.mark? (openHeight word) with
  | none => simp [sealedHeights]
  | some mark => cases hsealed : mark.sealed? <;> simp [sealedHeights, hsealed]

/-! ## Marks of histories -/

theorem marksFrom_txs (current : UInt64) (txs : List (Args.DeliverTx × Result.Tx))
    (rest : List Letter) :
    marksFrom current (txs.map (fun tx => .called .deliverTx tx.1 tx.2) ++ rest)
      = marksFrom current rest := by
  induction txs with
  | nil => rfl
  | cons tx txs ih => exact ih

/-- A whole block opens and seals its height. -/
theorem marksFrom_block (current : UInt64) {next : UInt64} {opening : Args.BeginBlock}
    {header : Header} (hheader : opening.header = some header) (hheight : header.height = next)
    (opened : Result.BeginBlock) (txs : List (Args.DeliverTx × Result.Tx))
    (closing : Args.EndBlock) (closed : Result.EndBlock) (commit : Result.Commit)
    (rest : List Letter) :
    marksFrom current
        (.called .beginBlock opening opened
          :: (txs.map (fun tx => .called .deliverTx tx.1 tx.2)
            ++ .called .endBlock closing closed :: .called .commit () commit :: rest))
      = .opened next :: .sealed next :: marksFrom next rest := by
  have hopening : opening.height? = some next := by
    simp [Args.BeginBlock.height?, hheader, hheight]
  simp [marksFrom, Letter.mark?, Letter.openHeight, hopening, marksFrom_txs]

/-- Whole blocks are at their first height or above it, and rise. -/
theorem marks_of_blocks {next : UInt64} {digest : Option Bytes} {word : List Letter}
    (h : Blocks next digest word) (current : UInt64) :
    (∀ mark ∈ marksFrom current word, next ≤ mark.height)
      ∧ (marksFrom current word).Pairwise Mark.Precedes := by
  induction h generalizing current with
  | nil => exact ⟨List.forall_mem_nil _, .nil⟩
  | @cons next digest rest opening opened header txs closing closed commit hheader hheight hdigest
      hclosing hrest ih =>
      obtain ⟨habove, hrises⟩ := ih next
      rw [marksFrom_block current hheader hheight]
      constructor
      · intro mark hmem
        rcases List.mem_cons.mp hmem with rfl | hmem
        · exact UInt64.le_refl next
        · rcases List.mem_cons.mp hmem with rfl | hmem
          · exact UInt64.le_refl next
          · exact UInt64.le_trans (Word.le_next next) (habove mark hmem)
      · refine List.pairwise_cons.mpr ⟨fun mark _ => nofun, List.pairwise_cons.mpr ⟨?_, hrises⟩⟩
        exact fun mark hmem => .of_next_le (habove mark hmem)

/-- Histories rise, and have no height zero. -/
theorem marks_of_history {word : List Letter} (h : History word) :
    (∀ mark ∈ marks word, 1 ≤ mark.height) ∧ (marks word).Pairwise Mark.Precedes := by
  cases h with
  | @genesis blocks args result hblocks =>
      obtain ⟨habove, hrises⟩ := marks_of_blocks hblocks 0
      refine ⟨fun mark hmem => UInt64.le_trans ?_ (habove mark hmem), hrises⟩
      rw [max_one]
      split
      · exact UInt64.le_refl 1
      · next hzero => exact UInt64.pos_iff_ne_zero.mpr hzero
  | @resumed blocks info hheight hblocks =>
      obtain ⟨habove, hrises⟩ := marks_of_blocks hblocks 0
      have hmarks : marks (.resumed info :: blocks)
          = .sealed info.lastBlockHeight :: marksFrom 0 blocks := rfl
      rw [hmarks]
      constructor
      · intro mark hmem
        rcases List.mem_cons.mp hmem with rfl | hmem
        · exact hheight
        · exact UInt64.le_trans (UInt64.le_trans hheight (Word.le_next _)) (habove mark hmem)
      · exact List.pairwise_cons.mpr ⟨fun mark hmem => .of_next_le (habove mark hmem), hrises⟩

/-- So do their beginnings. -/
theorem marks_of_begun {word : List Letter} (h : Begun word) :
    (∀ mark ∈ marks word, 1 ≤ mark.height) ∧ (marks word).Pairwise Mark.Precedes := by
  obtain ⟨rest, hrest⟩ := h
  obtain ⟨habove, hrises⟩ := marks_of_history hrest
  rw [marks, marksFrom_append] at habove hrises
  exact ⟨fun mark hmem => habove mark (List.mem_append_left _ hmem),
    (List.pairwise_append.mp hrises).1⟩

/-! ## Heights of a tracker -/

/-- A tracker is at the heights that its word leads to. -/
structure Stands (word : List Letter) (t : Tracker) : Prop where
  latest : t.latest = (sealedHeights word).getLast?
  current : ∀ height, t.phase = .executing height ∨ t.phase = .ended height →
    openHeight word = height

theorem stands_fresh : Stands [] {} where
  latest := rfl
  current height h := by simp at h

theorem latest_settle_of_ne {t : Tracker} {stage : Stage} (hne : stage ≠ .commit)
    (ticket : Ticket stage) (result : stage.Result) :
    (t.settle stage ticket result).latest = t.latest := by
  cases stage with
  | beginBlock =>
      show t.applyPending.latest = t.latest
      rw [t.applyPending_frame]
  | commit => exact absurd rfl hne
  | _ => rfl

theorem sealedHeights_of_ne {stage : Stage} (hne : stage ≠ .commit) (word : List Letter)
    (args : stage.Args) (result : stage.Result) :
    sealedHeights (word ++ [.called stage args result]) = sealedHeights word := by
  rw [sealedHeights_concat]
  cases stage with
  | beginBlock => cases hheight : args.height? <;> simp [Letter.mark?, hheight, Mark.sealed?]
  | commit => exact absurd rfl hne
  | _ => simp [Letter.mark?]

theorem Stands.settle {word : List Letter} {t : Tracker} (h : Stands word t) {stage : Stage}
    {args : stage.Args} {ticket : Ticket stage} (hcheck : t.check stage args = .ok ticket)
    (result : stage.Result) :
    Stands (word ++ [.called stage args result]) (t.settle stage ticket result) where
  latest := by
    by_cases hcommit : stage = .commit
    · subst hcommit
      have hopen := h.current ticket (.inr (Tracker.checkCommit_eq_ok_iff.mp hcheck))
      rw [sealedHeights_concat, hopen]
      simp [Letter.mark?, Mark.sealed?, Tracker.settle, Tracker.settleCommit]
    · rw [latest_settle_of_ne hcommit, sealedHeights_of_ne hcommit]
      exact h.latest
  current height hphase := by
    rw [openHeight_concat]
    cases stage with
    | initChain => simp [Tracker.settle, Tracker.settleInitChain] at hphase
    | beginBlock =>
        obtain ⟨_, header, hheader, hheight, _⟩ := Tracker.checkBeginBlock_eq_ok_iff.mp hcheck
        have hargs : Args.BeginBlock.height? args = some ticket := by
          simp [Args.BeginBlock.height?, hheader, hheight]
        simpa [Letter.openHeight, hargs, Tracker.settle, Tracker.settleBeginBlock] using hphase
    | deliverTx => exact h.current height hphase
    | endBlock =>
        obtain rfl : ticket = height := by
          simpa [Tracker.settle, Tracker.settleEndBlock] using hphase
        exact h.current ticket (.inl (Tracker.checkEndBlock_eq_ok_iff.mp hcheck).1)
    | commit => simp [Tracker.settle, Tracker.settleCommit] at hphase

theorem Stands.move {word : List Letter} {t after : Tracker} {letter : Option Letter}
    (h : Stands word t) (hmove : Moves t letter after) :
    Stands (word ++ letter.toList) after := by
  cases hmove with
  | stays => simpa using h
  | settles hcheck result => exact h.settle hcheck result
  | resumes info hphase hheight =>
      refine ⟨?_, fun height hnew => by simp [Tracker.resume] at hnew⟩
      rw [Option.toList_some, sealedHeights_concat]
      simp [Letter.mark?, Mark.sealed?, Tracker.resume]

theorem stands_spelled (steps : List Step) :
    Stands (spelled steps) (Step.playAll {} steps).2 :=
  invariant_spelled stands_fresh (fun _ hmove h => h.move hmove) steps

/-- No run commits the height zero. -/
theorem latest_ne_zero {steps : List Step} {height : UInt64}
    (h : (Step.playAll {} steps).2.latest = some height) : height ≠ 0 := by
  rw [(stands_spelled steps).latest] at h
  obtain ⟨mark, hmem, hmark⟩ := List.mem_filterMap.mp (List.mem_of_getLast? h)
  have hpos := (marks_of_begun (tracks_spelled steps).begun).1 mark hmem
  cases mark with
  | opened other => cases hmark
  | sealed other =>
      cases hmark
      exact UInt64.pos_iff_ne_zero.mp hpos

/-- **Heights rise.**  In every run, a block is opened or sealed only at a height
greater than all that were sealed before, of which the tracker has the latest;
or else both are the largest number. -/
theorem marks_rise (steps : List Step) :
    (marks (spelled steps)).Pairwise Mark.Precedes
      ∧ (Step.playAll {} steps).2.latest = (sealedHeights (spelled steps)).getLast? :=
  ⟨(marks_of_begun (tracks_spelled steps).begun).2, (stands_spelled steps).latest⟩

/-- A chain that starts at the largest height seals its first block twice. -/
theorem sealed_again_at_largest :
    let block : List Step :=
      [.call .beginBlock { header := some { height := Word.largest } } (.replied (.ok {})) [],
        .call .endBlock { height := Word.largest } (.replied (.ok {})) [],
        .call .commit () (.replied (.ok {})) []]
    let steps : List Step :=
      .call .initChain { initialHeight := Word.largest } (.replied (.ok {})) [] :: (block ++ block)
    sealedHeights (spelled steps) = [Word.largest, Word.largest]
      ∧ ¬(sealedHeights (spelled steps)).Pairwise (· < ·) := by
  intro block steps
  have hsealed : sealedHeights (spelled steps) = [Word.largest, Word.largest] := rfl
  rw [hsealed]
  exact ⟨rfl, by decide⟩

end Lifecycle

end ChainHost
