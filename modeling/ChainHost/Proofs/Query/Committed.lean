/-
  The heights that an application is asked at.

  Blocks follow one another without a gap, so that a chain has sealed every height
  from its first one up to the latest.  A window lets through the heights between
  the lowest and the latest, and knows nothing of the first: a chain that starts
  above 1 has its application asked at heights below, which were never committed.
  `Host.StartsAt.resolved` says that these are the only ones.
-/
import ChainHost.Proofs.Lifecycle.Requests
import ChainHost.Proofs.Query.Window

set_option autoImplicit false

namespace ChainHost

namespace Lifecycle

/-! ## Sealed heights without gaps -/

/-- From the first of some heights on, none is left out. -/
def Unbroken (first : UInt64) (heights : List UInt64) : Prop :=
  ∀ last ∈ heights, ∀ q, first ≤ q → q ≤ last → q ∈ heights

/-- The heights that some marks seal. -/
theorem mem_sealed_iff {marks : List Mark} {q : UInt64} :
    q ∈ marks.filterMap Mark.sealed? ↔ Mark.sealed q ∈ marks := by
  rw [List.mem_filterMap]
  constructor
  · rintro ⟨mark, hmem, hmark⟩
    cases mark with
    | opened height => cases hmark
    | sealed height =>
        cases hmark
        exact hmem
  · intro hmem
    exact ⟨_, hmem, rfl⟩

/-- Whole blocks seal all heights from their first one on. -/
theorem unbroken_of_blocks {next : UInt64} {digest : Option Bytes} {word : List Letter}
    (h : Blocks next digest word) (current : UInt64) :
    Unbroken next ((marksFrom current word).filterMap Mark.sealed?) := by
  induction h generalizing current with
  | nil => exact fun last hlast => nomatch hlast
  | @cons next digest rest opening opened header txs closing closed commit hheader hheight hdigest
      hclosing hrest ih =>
      intro last hlast q hlow hle
      rw [mem_sealed_iff, marksFrom_block current hheader hheight] at hlast ⊢
      by_cases hq : q = next
      · subst hq
        exact List.mem_cons_of_mem _ List.mem_cons_self
      · have hlt : next < q := UInt64.lt_of_le_of_ne hlow (Ne.symm hq)
        have hlater : Mark.sealed last ∈ marksFrom next rest := by
          rcases List.mem_cons.mp hlast with hopened | hlast
          · cases hopened
          · rcases List.mem_cons.mp hlast with hsealed | hlast
            · cases hsealed
              exact absurd hle (UInt64.not_le.mpr hlt)
            · exact hlast
        have hmem := ih next last (mem_sealed_iff.mpr hlater) q (Word.next_le_of_lt hlt) hle
        exact List.mem_cons_of_mem _ (List.mem_cons_of_mem _ (mem_sealed_iff.mp hmem))

/-- What comes behind some marks that rise seals none of the heights up to theirs. -/
theorem unbroken_of_append {first : UInt64} {marks later : List Mark}
    (hrises : (marks ++ later).Pairwise Mark.Precedes)
    (h : Unbroken first ((marks ++ later).filterMap Mark.sealed?)) :
    Unbroken first (marks.filterMap Mark.sealed?) := by
  intro last hlast q hlow hle
  have hsealed := mem_sealed_iff.mp hlast
  have hall : last ∈ (marks ++ later).filterMap Mark.sealed? :=
    mem_sealed_iff.mpr (List.mem_append_left _ hsealed)
  have hq := mem_sealed_iff.mp (h last hall q hlow hle)
  rcases List.mem_append.mp hq with hq | hq
  · exact mem_sealed_iff.mpr hq
  · -- What is sealed later is greater than `last`, or both are the largest number.
    have hprecedes := (List.pairwise_append.mp hrises).2.2 _ hsealed _ hq last rfl
    rcases hprecedes with hlt | ⟨rfl, hsame⟩
    · exact absurd hle (UInt64.not_le.mpr hlt)
    · have hsame : q = Word.largest := hsame
      rw [hsame]
      exact hlast

/-- A chain that starts with a genesis has sealed all heights from its first one up to
the latest. -/
theorem unbroken_of_begun {args : Args.InitChain} {result : Result.InitChain}
    {rest : List Letter} (h : Begun (.called .initChain args result :: rest)) :
    Unbroken (max args.initialHeight 1)
      (sealedHeights (.called .initChain args result :: rest)) := by
  obtain ⟨more, hmore⟩ := h
  have hrises := (marks_of_history hmore).2
  rcases history_cons_iff.mp hmore with ⟨found, _, hletter, hblocks⟩ | ⟨info, hletter, -⟩
  · cases hletter
    have hblocks : Blocks (max args.initialHeight 1) none (rest ++ more) := hblocks
    have hall := unbroken_of_blocks hblocks 0
    have hmarks : marks (.called .initChain args result :: rest ++ more)
        = marksFrom 0 rest ++ marksFrom (rest.foldl Letter.openHeight 0) more :=
      marksFrom_append 0 rest more
    rw [marksFrom_append] at hall
    rw [hmarks] at hrises
    exact unbroken_of_append hrises hall
  · cases hletter

/-- The trackers of a word and their windows are in order. -/
theorem seated_word {σ : Type} (app : Application σ) (state : σ) (requests : List Request) :
    (Host.dispatchAll app { state } requests).2.tracker.Seated :=
  (Host.invariant_word (P := fun _ t => t.Seated) Tracker.seated_fresh
    (fun _ hmove h => (h.move hmove).1) app state requests).2

end Lifecycle

/-! ## Queries -/

/-- What a window lets through once a height is committed: the latest height in the
place of zero, and what lies between the lowest and the latest. -/
theorem Window.resolve_eq_ok {w : Window} {latest q height : UInt64}
    (hlatest : w.latest = some latest) (h : w.resolve q = .ok height) :
    (q = 0 ∧ height = latest)
      ∨ (q = height ∧ 0 < height ∧ height ≤ latest ∧ w.retain ≤ height) := by
  by_cases hzero : q = 0
  · subst hzero
    rw [resolve_zero hlatest] at h
    cases h
    exact .inl ⟨rfl, rfl⟩
  · have hpositive : 0 < q := UInt64.pos_iff_ne_zero.mpr hzero
    by_cases hle : q ≤ latest
    · rw [resolve_of_le hlatest hpositive hle] at h
      split at h
      · cases h
      · next hlow =>
          cases h
          exact .inr ⟨rfl, hpositive, hle, UInt64.not_lt.mp hlow⟩
    · rw [resolve_of_lt hlatest (UInt64.not_le.mp hle)] at h
      cases h

namespace Host

open Lifecycle

variable {σ : Type}

/-- What a query comes to when the application is asked at a height. -/
def ask (app : Application σ) (h : Host σ) (args : Args.Query) (height : UInt64) :
    Response × Host σ :=
  let asked := app.call .query ({ args with height } : Args.Query) h.state
  (respond .query ((contain .query asked.1).map (fillHeight height)), { h with state := asked.2 })

/-- A query is refused for its height, and nothing else happens, or the application is
asked once at the height that it resolves to. -/
theorem dispatch_query_cases (app : Application σ) (h : Host σ) (args : Args.Query) :
    (∃ text, h.dispatch app ⟨.query, args⟩
        = (.failed (.verb .query) (.heightUnavailable text), h))
      ∨ ∃ height, h.tracker.window.resolve args.height = .ok height
          ∧ h.dispatch app ⟨.query, args⟩ = h.ask app args height := by
  cases hresolve : h.tracker.window.resolve args.height with
  | error refusal =>
      refine .inl ⟨refusal.message, ?_⟩
      simp only [dispatch, runQuery, hresolve]
      rfl
  | ok height =>
      refine .inr ⟨height, rfl, ?_⟩
      simp only [dispatch, runQuery, hresolve]
      rfl

/-- The requests of a run start a chain with a genesis, which names its first height. -/
def StartsAt (app : Application σ) (state : σ) (requests : List Request) (first : UInt64) : Prop :=
  ∃ args result rest,
    word app state requests = .called .initChain args result :: rest
      ∧ first = max args.initialHeight 1

/-- In a run from a genesis, the height that a query is let through at was committed
and is still kept, or is below the first height of the chain. -/
theorem StartsAt.resolved {app : Application σ} {state : σ} {requests : List Request}
    {first latest : UInt64} (hstart : StartsAt app state requests first)
    (hlatest : (dispatchAll app { state } requests).2.tracker.latest = some latest)
    {q height : UInt64}
    (hresolve : (dispatchAll app { state } requests).2.tracker.window.resolve q = .ok height) :
    (height ∈ sealedHeights (word app state requests)
        ∧ (dispatchAll app { state } requests).2.tracker.retain ≤ height)
      ∨ (q = height ∧ 0 < height ∧ height < first) := by
  obtain ⟨args, result, rest, hword, rfl⟩ := hstart
  have hbegun := (tracks_word app state requests).begun
  have hlast : latest ∈ sealedHeights (word app state requests) := by
    have hstands := (stands_word app state requests).latest
    rw [hlatest] at hstands
    exact List.mem_of_getLast? hstands.symm
  have hunbroken : Unbroken (max args.initialHeight 1)
      (sealedHeights (word app state requests)) := by
    rw [hword] at hbegun ⊢
    exact unbroken_of_begun hbegun
  rcases Window.resolve_eq_ok hlatest hresolve with
    ⟨-, rfl⟩ | ⟨hsame, hpositive, hle, hretain⟩
  · have hretain := (seated_word app state requests).window.retained
    rw [Tracker.window, hlatest] at hretain
    exact .inl ⟨hlast, hretain⟩
  · by_cases hlow : max args.initialHeight 1 ≤ height
    · exact .inl ⟨hunbroken latest hlast height hlow hle, hretain⟩
    · exact .inr ⟨hsame, hpositive, UInt64.not_le.mp hlow⟩

end Host

end ChainHost
