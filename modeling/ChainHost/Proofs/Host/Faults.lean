/-
  Answers to requests that fail in the host.

  A request that is refused is answered with the neutral payload of its verb and a fault
  of the core, and so is one whose call panics.  There is one exception: the height of a
  query is put into whatever stands in for the reply, so that after a panic the payload
  names the height at which the application was asked.
-/
import ChainHost.Proofs.Host.Calls

set_option autoImplicit false

namespace ChainHost.Host

open Lifecycle

variable {σ : Type}

/-- The fault for a call that panicked. -/
def panicFault (v : Verb) (text : Option String) : Fault :=
  .internalFault (v.name ++ " handler panicked: " ++ Answer.panicText text)

/-- A refusal is a fault of the core: a call out of place, or a height that cannot be
read. -/
theorem Refuses.core {t : Tracker} {r : Request} {fault : Fault} (h : Refuses t r fault) :
    ∃ text, ((∃ stage : Stage, r.verb = stage.verb) ∧ fault = .protocolViolation text)
      ∨ (r.verb = .query ∧ fault = .heightUnavailable text) := by
  cases h with
  | @call stage args violation henter => exact ⟨violation.message, .inl ⟨⟨stage, rfl⟩, rfl⟩⟩
  | @query args refusal hresolve => exact ⟨refusal.message, .inr ⟨rfl, rfl⟩⟩

/-- What stands in for the reply of a call that panicked comes back as it is, unless the
call was a query. -/
theorem Carries.panicked {t : Tracker} {v : Verb} {args : v.Args} {text : Option String}
    {response : Response} (h : Carries t v args (contain v (.panicked text)) response)
    (hquery : v ≠ .query) : response = .failed (.verb v) (panicFault v text) := by
  cases h with
  | same hquery hcommit => rfl
  | placed hheight => exact absurd rfl hquery
  | unplaced hheight => exact absurd rfl hquery
  | within hwithin => rfl
  | above hok hphase habove => cases hok

/-- A query that panicked comes back with the height at which it was asked. -/
theorem Carries.panicked_query {t : Tracker} {args : Args.Query} {text : Option String}
    {response : Response} (h : Carries t .query args (contain .query (.panicked text)) response) :
    response = ⟨.ofResult .query ({ height := args.height } : Result.Query),
      some (panicFault .query text)⟩ := by
  cases h with
  | same hquery hcommit => exact absurd rfl hquery
  | placed hheight => exact absurd rfl hheight
  | unplaced hheight => rfl

/-! ## Answers -/

/-- What a request is answered with when it fails. -/
structure FailsWith (app : Application σ) (h : Host σ) (r : Request) : Prop where
  /-- A request that makes no call gets the neutral payload and a fault of the core. -/
  refused : h.calls app r = [] → ∃ fault text,
    ((∃ stage : Stage, r.verb = stage.verb) ∧ fault = .protocolViolation text
        ∨ r.verb = .query ∧ fault = .heightUnavailable text)
      ∧ (h.dispatch app r).1 = .failed (.verb r.verb) fault
  /-- So does a request whose call panics, of any verb but one. -/
  panicked : ∀ call ∈ h.calls app r, ∀ text, call.answer = .panicked text → r.verb ≠ .query →
    (h.dispatch app r).1 = .failed (.verb r.verb) (panicFault r.verb text)
  /-- After the panic of a query the payload is neutral but for the height, which is the
  one at which the application was asked. -/
  query : ∀ args : Args.Query, r = ⟨.query, args⟩ →
    ∀ call ∈ h.calls app r, ∀ text, call.answer = .panicked text →
      ∃ height, h.tracker.window.resolve args.height = .ok height
        ∧ (h.dispatch app r).1
          = ⟨.ofResult .query ({ height } : Result.Query), some (panicFault .query text)⟩
        ∧ ((h.dispatch app r).1 = .failed (.verb .query) (panicFault .query text) ↔ height = 0)

section Answers

variable {app : Application σ} {h : Host σ} {r : Request} {call : Call} {text : Option String}

theorem refused_of_calls (hnone : h.calls app r = []) : ∃ fault text,
    ((∃ stage : Stage, r.verb = stage.verb) ∧ fault = .protocolViolation text
        ∨ r.verb = .query ∧ fault = .heightUnavailable text)
      ∧ (h.dispatch app r).1 = .failed (.verb r.verb) fault := by
  obtain ⟨fault, hrefuses⟩ := (calls_eq_nil_iff app h r).mp hnone
  obtain ⟨text, hcore⟩ := hrefuses.core
  refine ⟨fault, text, hcore, ?_⟩
  rw [dispatch_of_refuses app hrefuses]

theorem panicked_of_mem_calls (hcall : call ∈ h.calls app r) (hpanic : call.answer = .panicked text)
    (hquery : r.verb ≠ .query) :
    (h.dispatch app r).1 = .failed (.verb r.verb) (panicFault r.verb text) := by
  have hcarries := carries_of_mem_calls hcall
  have hverb := verb_of_mem_calls hcall
  rw [hpanic] at hcarries
  rw [← hverb] at hquery ⊢
  exact hcarries.panicked hquery

theorem panicked_query_of_mem_calls {args : Args.Query} (hcall : call ∈ h.calls app ⟨.query, args⟩)
    (hpanic : call.answer = .panicked text) :
    ∃ height, h.tracker.window.resolve args.height = .ok height
      ∧ (h.dispatch app ⟨.query, args⟩).1
        = ⟨.ofResult .query ({ height } : Result.Query), some (panicFault .query text)⟩ := by
  cases hresolve : h.tracker.window.resolve args.height with
  | error refusal =>
      rw [calls_of_refuses app (.query hresolve)] at hcall
      cases hcall
  | ok height =>
      rw [calls_of_passes app (.query hresolve)] at hcall
      obtain rfl := List.mem_singleton.mp hcall
      have hcarries := (dispatch_of_passes app (.query hresolve)).1
      have hanswer : (app.call .query ({ args with height } : Args.Query) h.state).1
          = .panicked text := hpanic
      rw [hanswer] at hcarries
      exact ⟨height, rfl, hcarries.panicked_query⟩

/-- The payload that is left of a query is the neutral one at height zero alone. -/
theorem failed_query_iff (height : UInt64) (fault : Fault) :
    (⟨.ofResult .query ({ height } : Result.Query), some fault⟩ : Response)
      = .failed (.verb .query) fault ↔ height = 0 := by
  constructor
  · intro hfailed
    injection hfailed with hvalue
    injection hvalue with hkind hbody
    exact congrArg Result.Query.height hbody
  · rintro rfl
    rfl

end Answers

/-- **Failures are answered in the host**, for every request, in front of every
application, with the tracker in every state. -/
theorem dispatch_failsWith (app : Application σ) (h : Host σ) (r : Request) :
    FailsWith app h r := by
  refine ⟨refused_of_calls, fun call hcall text hpanic hquery => ?_, ?_⟩
  · exact panicked_of_mem_calls hcall hpanic hquery
  · rintro args rfl call hcall text hpanic
    obtain ⟨height, hresolve, hresponse⟩ := panicked_query_of_mem_calls hcall hpanic
    refine ⟨height, hresolve, hresponse, ?_⟩
    rw [hresponse]
    exact failed_query_iff height _

/-- An application that breaks down at every call. -/
def breaking : Application Unit where
  call _ _ state := (.panicked (some "boom"), state)

/-- A query that panics at height three is answered with that height, under any fault. -/
theorem panicked_query_not_failed :
    let h : Host Unit := { state := () }
    let r : Request := ⟨.query, ({ height := 3 } : Args.Query)⟩
    (∃ call, h.calls breaking r = [call] ∧ call.answer = .panicked (some "boom"))
      ∧ ∀ fault, (h.dispatch breaking r).1 ≠ .failed (.verb r.verb) fault := by
  intro h r
  refine ⟨⟨_, rfl, rfl⟩, fun fault hfailed => ?_⟩
  have hvalue : (h.dispatch breaking r).1.value = .neutral (.verb .query) := by rw [hfailed]; rfl
  have hheight : (h.dispatch breaking r).1.value ≠ .neutral (.verb .query) := by decide
  exact hheight hvalue

end ChainHost.Host
