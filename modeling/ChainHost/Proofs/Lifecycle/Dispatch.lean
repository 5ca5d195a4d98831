/-
  What a request does behind the tracker.

  A call of a stage is answered by the check, without the application, or it is
  passed on, and then the tracker is settled exactly if the reply is OK.  What
  holds of a fresh host and is kept by each request holds after every run of
  requests, of the host and of what was asked and answered so far.
-/
import ChainHost.Host
import ChainHost.Proofs.Lifecycle.Transition

set_option autoImplicit false

namespace ChainHost

/-- A request with its response. -/
abbrev Exchange : Type := Request × Response

theorem Response.isOk_failed_core (kind : Kind) (code : Fault.Code) (log : String) :
    (failed kind (.core code log)).isOk = false := Fault.core_isOk code log

namespace Host

open Lifecycle

variable {σ : Type} {app : Application σ} {h : Host σ}

/-! ## Calls of a stage -/

section Stage

variable {stage : Stage} {args : stage.Args}

/-- A call that the tracker refuses changes nothing. -/
theorem runStage_of_refused {violation : Violation}
    (henter : h.tracker.enter stage args = .error violation) :
    h.runStage app stage args = (.failed (.verb stage.verb) violation.fault, h) := by
  rw [runStage, henter]

/-- A call that passes its check is answered by the application. -/
theorem runStage_of_check {ticket : Ticket stage} (hfree : h.tracker.inFlight = none)
    (hcheck : h.tracker.check stage args = .ok ticket) :
    h.runStage app stage args =
      let reply := contain stage.verb (app.call stage.verb args h.state).1
      let state := (app.call stage.verb args h.state).2
      if reply.isOk then
        (respond stage.verb (Tracker.amend stage ticket reply),
          ⟨h.tracker.settle stage ticket reply.value, state⟩)
      else (respond stage.verb reply, ⟨h.tracker, state⟩) := by
  have henter := Tracker.enter_eq_ok_iff.mpr ⟨hfree, hcheck, rfl⟩
  simp only [runStage, henter, Tracker.finish, Tracker.unwind_mark hfree]
  split <;> rfl

/-- What a call of a stage comes to: a failure of its own kind that changes
nothing, or the answer of the application. -/
theorem runStage_cases (app : Application σ) (args : stage.Args)
    (hfree : h.tracker.inFlight = none) :
    (∃ violation, h.tracker.check stage args = .error violation ∧
        h.runStage app stage args = (.failed (.verb stage.verb) violation.fault, h)) ∨
      ∃ ticket, h.tracker.check stage args = .ok ticket := by
  cases hcheck : h.tracker.check stage args with
  | error violation =>
      have henter := (Tracker.enter_eq_error_iff hfree).mpr hcheck
      exact .inl ⟨violation, rfl, runStage_of_refused henter⟩
  | ok ticket => exact .inr ⟨ticket, rfl⟩

end Stage

/-! ## Runs -/

/-- What was asked and answered in a run. -/
def transcript (app : Application σ) (h : Host σ) (requests : List Request) : List Exchange :=
  requests.zip (h.dispatchAll app requests).1

theorem transcript_cons (app : Application σ) (h : Host σ) (r : Request) (rest : List Request) :
    h.transcript app (r :: rest)
      = (r, (h.dispatch app r).1) :: (h.dispatch app r).2.transcript app rest := rfl

/-- What each request keeps holds after every run. -/
theorem invariant_dispatchAll {P : Host σ → List Exchange → Prop}
    (hstep : ∀ h t r, P h t → P (h.dispatch app r).2 (t ++ [(r, (h.dispatch app r).1)]))
    {t : List Exchange} (hstart : P h t) (requests : List Request) :
    P (h.dispatchAll app requests).2 (t ++ h.transcript app requests) := by
  induction requests generalizing h t with
  | nil =>
      rw [transcript, List.zip_nil_left, List.append_nil]
      exact hstart
  | cons r rest ih =>
      have hrest := ih (hstep h t r hstart)
      rw [List.append_assoc, List.singleton_append, ← transcript_cons] at hrest
      exact hrest

end Host

end ChainHost
