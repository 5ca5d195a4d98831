/-
  A host adds nothing to what its application says.

  A request makes at most one call, the one it asks for, and makes none exactly when the
  tracker or the window of heights refuses it.  What the application returns comes back as
  it is, but for the height of a query that names none and for a commit that asks for too
  much.  All of this holds whatever the application does and wherever the tracker stands.
-/
import ChainHost.Proofs.Host.Calls

set_option autoImplicit false

namespace ChainHost.Host

open Lifecycle

variable {σ : Type}

/-- What a request does in front of an application. -/
structure Faithful (app : Application σ) (h : Host σ) (r : Request) : Prop where
  /-- The response answers the verb of the request. -/
  kind : (h.dispatch app r).1.kind = .verb r.verb
  /-- Listing the calls changes nothing else. -/
  listed : ∀ log, (h.listing log).dispatch app.recording r
    = ((h.dispatch app r).1, (h.dispatch app r).2.listing (log ++ h.calls app r))
  /-- No call is made exactly if the request is refused. -/
  refused : h.calls app r = [] ↔ ∃ fault, Refuses h.tracker r fault
  /-- A request that is not refused passes, and makes the one call that it asks for; the
  application is left as it leaves itself. -/
  called : (∀ fault, ¬ Refuses h.tracker r fault) → ∃ asked, Passes h.tracker r asked
    ∧ h.calls app r = [app.callOf asked h.state]
    ∧ (h.dispatch app r).2.state = app.stateAfter asked h.state
  /-- The call is of the verb of the request, with its arguments; a query alone is asked at
  another height. -/
  same : ∀ asked, Passes h.tracker r asked →
    asked.verb = r.verb ∧ (r.verb ≠ .query → asked = r)
  /-- What the call returns is carried to the response. -/
  carried : ∀ call ∈ h.calls app r, ∀ reply, call.answer = .replied reply →
    Carries h.tracker call.verb call.args reply (h.dispatch app r).1
  /-- Other requests than an info and the calls of stages leave the tracker. -/
  tracker : r.verb ≠ .info → (∀ stage : Stage, r.verb ≠ stage.verb) →
    (h.dispatch app r).2.tracker = h.tracker

theorem kind_dispatch (app : Application σ) (h : Host σ) (r : Request) :
    (h.dispatch app r).1.kind = .verb r.verb := by
  rcases refuses_or_passes h.tracker r with ⟨fault, hrefuses⟩ | ⟨asked, hpasses⟩
  · rw [dispatch_of_refuses app hrefuses]
    rfl
  · rw [(dispatch_of_passes app hpasses).1.kind, hpasses.verb_eq]

/-- **Dispatching is faithful**, for every request, in front of every application, with the
tracker in every state. -/
theorem dispatch_faithful (app : Application σ) (h : Host σ) (r : Request) : Faithful app h r := by
  refine ⟨kind_dispatch app h r, fun log => dispatch_recording app log, calls_eq_nil_iff app h r,
    fun hnot => ?_, fun asked hpasses => ?_, fun call hcall reply hreply => ?_,
    tracker_dispatch_of_ne app⟩
  · rcases refuses_or_passes h.tracker r with ⟨fault, hrefuses⟩ | ⟨asked, hpasses⟩
    · exact absurd hrefuses (hnot fault)
    · obtain ⟨-, hstate⟩ := dispatch_of_passes app hpasses
      exact ⟨asked, hpasses, calls_of_passes app hpasses, hstate⟩
  · exact ⟨hpasses.verb_eq, hpasses.eq_of_ne⟩
  · have hcarries := carries_of_mem_calls hcall
    rw [hreply] at hcarries
    exact hcarries

end ChainHost.Host
