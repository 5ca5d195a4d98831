/-
  The word of a run of requests.

  Each request has the tracker of a host play at most one step: a call with the
  reply that the application has for it, an info that is reported, or a height that
  is resolved.  So the requests of a run spell a word as steps do, and what holds of
  the histories of a tracker holds of a host in front of any application.
-/
import ChainHost.Proofs.Lifecycle.Dispatch
import ChainHost.Proofs.Lifecycle.Heights

set_option autoImplicit false

namespace ChainHost.Host

open Lifecycle

variable {σ : Type}

/-! ## Steps -/

/-- The call of a stage, with the reply that the application has for it. -/
def callStep (app : Application σ) (h : Host σ) (stage : Stage) (args : stage.Args) : Step :=
  .call stage args (.replied (contain stage.verb (app.call stage.verb args h.state).1)) []

/-- What a request has the tracker play. -/
def step? (app : Application σ) (h : Host σ) : Request → Option Step
  | ⟨.initChain, args⟩ => some (h.callStep app .initChain args)
  | ⟨.beginBlock, args⟩ => some (h.callStep app .beginBlock args)
  | ⟨.deliverTx, args⟩ => some (h.callStep app .deliverTx args)
  | ⟨.endBlock, args⟩ => some (h.callStep app .endBlock args)
  | ⟨.commit, args⟩ => some (h.callStep app .commit args)
  | ⟨.info, args⟩ =>
      let reply := contain .info (app.call .info args h.state).1
      if reply.isOk then some (.observeInfo reply.value) else none
  | ⟨.query, args⟩ => some (.resolve (args : Args.Query).height)
  | _ => none

/-- What a request adds to a word. -/
def letter? (app : Application σ) (word : List Letter) (h : Host σ) (r : Request) :
    Option Letter :=
  (h.step? app r).bind fun step =>
    Lifecycle.letter? word step (Step.play h.tracker step).effect

/-- The word after some requests, behind a word. -/
def wordFrom (app : Application σ) (word : List Letter) (h : Host σ) :
    List Request → List Letter
  | [] => word
  | r :: rest =>
      wordFrom app (word ++ (h.letter? app word r).toList) (h.dispatch app r).2 rest

/-- The word that requests spell on a fresh tracker in front of an application. -/
def word (app : Application σ) (state : σ) (requests : List Request) : List Letter :=
  wordFrom app [] { state } requests

variable {app : Application σ} {word : List Letter} {h : Host σ}

theorem tracker_runStage (app : Application σ) (h : Host σ) (stage : Stage)
    (args : stage.Args) :
    (h.runStage app stage args).2.tracker
      = (Step.play h.tracker (h.callStep app stage args)).after := by
  cases henter : h.tracker.enter stage args with
  | error violation =>
      rw [runStage_of_refused henter, callStep, Step.play_call_of_error henter]
      rfl
  | ok found =>
      obtain ⟨ticket, entered⟩ := found
      rw [callStep, Step.play_call_of_ok henter, runStage, henter]
      rfl

/-- A request moves the tracker by its step. -/
theorem tracker_dispatch (app : Application σ) (h : Host σ) (r : Request) :
    (h.dispatch app r).2.tracker
      = ((h.step? app r).map fun step => (Step.play h.tracker step).after).getD h.tracker := by
  obtain ⟨verb, args⟩ := r
  cases verb with
  | initChain => exact tracker_runStage app h .initChain args
  | beginBlock => exact tracker_runStage app h .beginBlock args
  | deliverTx => exact tracker_runStage app h .deliverTx args
  | endBlock => exact tracker_runStage app h .endBlock args
  | commit => exact tracker_runStage app h .commit args
  | info =>
      simp only [dispatch, runInfo, step?]
      split
      · rw [Option.map_some, Step.play]
        rfl
      · rfl
  | query =>
      simp only [dispatch, runQuery, step?, Option.map_some, Step.play]
      split <;> rfl
  | _ => rfl

/-- A request moves the tracker as the letter that it adds says. -/
theorem moves_dispatch (htracks : Tracks h.tracker word) (r : Request) :
    Moves h.tracker (h.letter? app word r) (h.dispatch app r).2.tracker := by
  rw [tracker_dispatch, letter?]
  cases h.step? app r with
  | none => exact .stays
  | some step => exact htracks.moves step

/-! ## Letters -/

/-- Only the request of a call adds it to a word. -/
theorem verb_of_letter? {r : Request} {stage : Stage} {args : stage.Args} {result : stage.Result}
    (hletter : h.letter? app word r = some (.called stage args result)) :
    r.verb = stage.verb := by
  obtain ⟨verb, asked⟩ := r
  have hcall (other : Stage) (given : other.Args) (effect : Effect)
      (hcalled : Lifecycle.letter? word (h.callStep app other given) effect
        = some (.called stage args result)) : other.verb = stage.verb := by
    simp only [callStep, Lifecycle.letter?] at hcalled
    split at hcalled
    · cases hcalled
      rfl
    · cases hcalled
  cases verb with
  | initChain => exact hcall .initChain asked _ hletter
  | beginBlock => exact hcall .beginBlock asked _ hletter
  | deliverTx => exact hcall .deliverTx asked _ hletter
  | endBlock => exact hcall .endBlock asked _ hletter
  | commit => exact hcall .commit asked _ hletter
  | info =>
      simp only [letter?, step?] at hletter
      split at hletter
      · simp [Lifecycle.letter?] at hletter
      · cases hletter
  | _ => cases hletter

/-- A call that the tracker refuses adds nothing. -/
theorem letter?_callStep_of_error {stage : Stage} {args : stage.Args} {violation : Violation}
    (henter : h.tracker.enter stage args = .error violation) :
    Lifecycle.letter? word (h.callStep app stage args)
      (Step.play h.tracker (h.callStep app stage args)).effect = none := by
  rw [callStep, Step.play_call_of_error henter]
  simp [Lifecycle.letter?, Played.effect, Effect.reached]

/-- A call that is let in adds itself, if the reply is OK. -/
theorem letter?_callStep_of_ok {stage : Stage} {args : stage.Args} {ticket : Ticket stage}
    {entered : Tracker} (henter : h.tracker.enter stage args = .ok (ticket, entered)) :
    Lifecycle.letter? word (h.callStep app stage args)
        (Step.play h.tracker (h.callStep app stage args)).effect
      = let reply := contain stage.verb (app.call stage.verb args h.state).1
        if reply.isOk then some (.called stage args reply.value) else none := by
  rw [callStep, Step.play_call_of_ok henter]
  simp [Lifecycle.letter?, Played.effect, Tracker.leave_reached]

/-! ## Runs -/

/-- What each request keeps holds after every run, of the host and the word. -/
theorem invariant_wordFrom {P : List Letter → Host σ → Prop}
    (hstep : ∀ word h r, P word h →
      P (word ++ (h.letter? app word r).toList) (h.dispatch app r).2)
    (hstart : P word h) (requests : List Request) :
    P (wordFrom app word h requests) (h.dispatchAll app requests).2 := by
  induction requests generalizing word h with
  | nil => exact hstart
  | cons r rest ih => exact ih (hstep word h r hstart)

/-- What every move keeps holds after every run, of the tracker and the word. -/
theorem invariant_word {P : List Letter → Tracker → Prop} (hstart : P [] {})
    (hmove : ∀ {word t letter after}, Tracks t word → Moves t letter after → P word t →
      P (word ++ letter.toList) after)
    (app : Application σ) (state : σ) (requests : List Request) :
    let after := (dispatchAll app { state } requests).2.tracker
    Tracks after (Host.word app state requests) ∧ P (Host.word app state requests) after := by
  have hstep (word : List Letter) (h : Host σ) (r : Request)
      (hboth : Tracks h.tracker word ∧ P word h.tracker) :
      Tracks (h.dispatch app r).2.tracker (word ++ (h.letter? app word r).toList)
        ∧ P (word ++ (h.letter? app word r).toList) (h.dispatch app r).2.tracker := by
    have hmoves : Moves h.tracker (h.letter? app word r) (h.dispatch app r).2.tracker :=
      moves_dispatch hboth.1 r
    exact ⟨hboth.1.move hmoves, hmove hboth.1 hmoves hboth.2⟩
  exact invariant_wordFrom hstep (h := { state }) ⟨tracks_fresh, hstart⟩ requests

theorem tracks_word (app : Application σ) (state : σ) (requests : List Request) :
    Tracks (dispatchAll app { state } requests).2.tracker (Host.word app state requests) :=
  (invariant_word (P := fun _ _ => True) trivial (fun _ _ _ => trivial) app state requests).1

/-- The tracker of a host stands at the heights of its word. -/
theorem stands_word (app : Application σ) (state : σ) (requests : List Request) :
    Stands (Host.word app state requests) (dispatchAll app { state } requests).2.tracker :=
  (invariant_word stands_fresh (fun _ hmove h => h.move hmove) app state requests).2

end ChainHost.Host
