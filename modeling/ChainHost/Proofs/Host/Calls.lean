/-
  The calls that a request makes of an application.

  An application that also lists its calls answers as it did before, so the list says what
  a host asks of any application.  The tracker refuses a request or lets it pass, and so do
  the heights that can be read: `Refuses` and `Passes` are the two outcomes.  What is refused
  makes no call, and what passes makes one, whose reply `Carries` follows to the response.
-/
import ChainHost.Proofs.Lifecycle.Failure

set_option autoImplicit false

namespace ChainHost

open Lifecycle

variable {σ : Type}

/-! ## Applications that list their calls -/

/-- A call with the answer that it got. -/
structure Call where
  verb : Verb
  args : verb.Args
  answer : Answer verb.Result

namespace Application

/-- The call of a request, with the answer that an application has for it in a state. -/
def callOf (app : Application σ) (r : Request) (state : σ) : Call :=
  ⟨r.verb, r.args, (app.call r.verb r.args state).1⟩

/-- The state that the call of a request leaves. -/
def stateAfter (app : Application σ) (r : Request) (state : σ) : σ :=
  (app.call r.verb r.args state).2

/-- The application that also lists its calls. -/
def recording (app : Application σ) : Application (σ × List Call) where
  call v args s :=
    ((app.call v args s.1).1, (app.call v args s.1).2, s.2 ++ [app.callOf ⟨v, args⟩ s.1])

end Application

namespace Host

/-- The host with a list of calls beside the state of its application. -/
def listing (h : Host σ) (calls : List Call) : Host (σ × List Call) := ⟨h.tracker, h.state, calls⟩

/-- The calls that a request makes. -/
def calls (app : Application σ) (h : Host σ) (r : Request) : List Call :=
  ((h.listing []).dispatch app.recording r).2.state.2

/-! ## What is decided before an application is called -/

/-- The verbs that nothing stands in front of, and whose replies nobody looks at. -/
def isFree : Verb → Bool
  | .initChain | .beginBlock | .deliverTx | .endBlock | .commit | .info | .query => false
  | .echo | .flush | .setOption | .checkTx => true
  | .listSnapshots | .offerSnapshot | .loadSnapshotChunk | .applySnapshotChunk => true

/-- A request is refused: the tracker does not let its call in, or its height cannot be
read. -/
inductive Refuses (t : Tracker) : Request → Fault → Prop where
  | call {stage : Stage} {args : stage.Args} {violation : Violation}
      (henter : t.enter stage args = .error violation) :
      Refuses t ⟨stage.verb, args⟩ violation.fault
  | query {args : Args.Query} {refusal : Window.Refusal}
      (hresolve : t.window.resolve args.height = .error refusal) :
      Refuses t ⟨.query, args⟩ refusal.fault

/-- A request passes, with what the application is asked: the request itself, but for the
height of a query, which is the one that its own resolves to. -/
inductive Passes (t : Tracker) : Request → Request → Prop where
  | call {stage : Stage} {args : stage.Args} {found : Ticket stage × Tracker}
      (henter : t.enter stage args = .ok found) : Passes t ⟨stage.verb, args⟩ ⟨stage.verb, args⟩
  | query {args : Args.Query} {height : UInt64}
      (hresolve : t.window.resolve args.height = .ok height) :
      Passes t ⟨.query, args⟩ ⟨.query, ({ args with height } : Args.Query)⟩
  | info (args : Args.Info) : Passes t ⟨.info, args⟩ ⟨.info, args⟩
  | free {verb : Verb} (hfree : isFree verb = true) (args : verb.Args) :
      Passes t ⟨verb, args⟩ ⟨verb, args⟩

theorem refuses_or_passes_call (t : Tracker) (stage : Stage) (args : stage.Args) :
    (∃ fault, Refuses t ⟨stage.verb, args⟩ fault) ∨ ∃ asked, Passes t ⟨stage.verb, args⟩ asked := by
  cases henter : t.enter stage args with
  | error violation => exact .inl ⟨_, .call henter⟩
  | ok found => exact .inr ⟨_, .call henter⟩

theorem refuses_or_passes (t : Tracker) (r : Request) :
    (∃ fault, Refuses t r fault) ∨ ∃ asked, Passes t r asked := by
  obtain ⟨verb, args⟩ := r
  cases verb with
  | initChain => exact refuses_or_passes_call t .initChain args
  | beginBlock => exact refuses_or_passes_call t .beginBlock args
  | deliverTx => exact refuses_or_passes_call t .deliverTx args
  | endBlock => exact refuses_or_passes_call t .endBlock args
  | commit => exact refuses_or_passes_call t .commit args
  | query =>
      cases hresolve : t.window.resolve (args : Args.Query).height with
      | error refusal => exact .inl ⟨_, .query hresolve⟩
      | ok height => exact .inr ⟨_, .query hresolve⟩
  | info => exact .inr ⟨_, .info args⟩
  | _ => exact .inr ⟨_, .free rfl args⟩

theorem Passes.verb_eq {t : Tracker} {r asked : Request} (h : Passes t r asked) :
    asked.verb = r.verb := by
  cases h <;> rfl

theorem Passes.eq_of_ne {t : Tracker} {r asked : Request} (h : Passes t r asked)
    (hquery : r.verb ≠ .query) : asked = r := by
  cases h with
  | query hresolve => exact absurd rfl hquery
  | call henter => rfl
  | info args => rfl
  | free hfree args => rfl

/-! ## Manners of serving -/

theorem dispatch_call (app : Application σ) (h : Host σ) (stage : Stage) (args : stage.Args) :
    h.dispatch app ⟨stage.verb, args⟩ = h.runStage app stage args := by
  cases stage <;> rfl

theorem dispatch_free (app : Application σ) (h : Host σ) {verb : Verb}
    (hfree : isFree verb = true) (args : verb.Args) :
    h.dispatch app ⟨verb, args⟩ = h.runFree app verb args := by
  cases verb with
  | initChain | beginBlock | deliverTx | endBlock | commit | query | info => cases hfree
  | _ => rfl

/-! ## What comes back -/

/-- What a host makes of the reply to a call: it hands on payload and error fields, puts in
the height of a query that names none, and marks a commit that asks for too much. -/
inductive Carries (t : Tracker) : (v : Verb) → v.Args → Reply v.Result → Response → Prop where
  | same {v : Verb} {args : v.Args} {reply : Reply v.Result} (hquery : v ≠ .query)
      (hcommit : v ≠ .commit) : Carries t v args reply ⟨.ofResult v reply.value, reply.error⟩
  | placed {args : Args.Query} {reply : Reply Result.Query} (hheight : reply.value.height ≠ 0) :
      Carries t .query args reply ⟨.ofResult .query reply.value, reply.error⟩
  | unplaced {args : Args.Query} {reply : Reply Result.Query} (hheight : reply.value.height = 0) :
      Carries t .query args reply
        ⟨.ofResult .query ({ reply.value with height := args.height } : Result.Query), reply.error⟩
  | within {reply : Reply Result.Commit}
      (hwithin : reply.isOk = true → ∀ height, t.phase = .ended height →
        reply.value.retainHeight ≤ height) :
      Carries t .commit () reply ⟨.ofResult .commit reply.value, reply.error⟩
  | above {reply : Reply Result.Commit} {height : UInt64} (hok : reply.isOk = true)
      (hphase : t.phase = .ended height) (habove : height < reply.value.retainHeight) :
      Carries t .commit () reply
        ⟨.ofResult .commit reply.value,
          some (Violation.retainAbove reply.value.retainHeight height).fault⟩

theorem Carries.kind {t : Tracker} {v : Verb} {args : v.Args} {reply : Reply v.Result}
    {response : Response} (h : Carries t v args reply response) : response.kind = .verb v := by
  cases h <;> rfl

/-- The reply to a commit comes back as it is, or marked. -/
theorem carries_commit {t : Tracker} {height : UInt64} (hphase : t.phase = .ended height)
    (reply : Reply Result.Commit) :
    Carries t .commit () reply
      (respond .commit (if reply.isOk then Tracker.amend .commit height reply else reply)) := by
  by_cases habove : reply.isOk = true ∧ height < reply.value.retainHeight
  · obtain ⟨hok, hlt⟩ := habove
    have hamend : Tracker.amend .commit height reply
        = ⟨reply.value, some (Violation.retainAbove reply.value.retainHeight height).fault⟩ :=
      if_pos hlt
    rw [if_pos hok, hamend]
    exact .above hok hphase hlt
  · have hsame : (if reply.isOk then Tracker.amend .commit height reply else reply) = reply := by
      split
      · next hok => exact if_neg fun hlt => habove ⟨hok, hlt⟩
      · rfl
    rw [hsame]
    refine .within fun hok other hother => ?_
    obtain rfl : height = other := Phase.ended.inj (hphase.symm.trans hother)
    exact UInt64.not_lt.mp fun hlt => habove ⟨hok, hlt⟩

/-- No other reply to a call of a stage is changed. -/
theorem amend_of_ne {stage : Stage} (hne : stage ≠ .commit) (ticket : Ticket stage)
    (reply : Reply stage.Result) : Tracker.amend stage ticket reply = reply := by
  cases stage with
  | commit => exact absurd rfl hne
  | _ => rfl

theorem verb_of_ne {stage : Stage} (hne : stage ≠ .commit) :
    stage.verb ≠ .query ∧ stage.verb ≠ .commit := by
  cases stage with
  | commit => exact absurd rfl hne
  | _ => exact ⟨by decide, by decide⟩

/-- The reply to a call of a stage comes back as the tracker finishes it. -/
theorem carries_finish {t entered : Tracker} {stage : Stage} {args : stage.Args}
    {ticket : Ticket stage} (henter : t.enter stage args = .ok (ticket, entered))
    (reply : Reply stage.Result) :
    Carries t stage.verb args reply (respond stage.verb (entered.finish stage ticket reply).1) := by
  have hanswer : (entered.finish stage ticket reply).1
      = if reply.isOk then Tracker.amend stage ticket reply else reply := by
    unfold Tracker.finish
    split <;> rfl
  rw [hanswer]
  by_cases hcommit : stage = .commit
  · subst hcommit
    obtain ⟨-, hcheck, -⟩ := Tracker.enter_eq_ok_iff.mp henter
    exact carries_commit (Tracker.checkCommit_eq_ok_iff.mp hcheck) reply
  · obtain ⟨hquery, hother⟩ := verb_of_ne hcommit
    rw [amend_of_ne hcommit, ite_self]
    exact .same hquery hother

/-- The reply to a query comes back with a height. -/
theorem carries_fillHeight (t : Tracker) (args : Args.Query) (reply : Reply Result.Query) :
    Carries t .query args reply (respond .query (reply.map (fillHeight args.height))) := by
  by_cases hheight : reply.value.height = 0
  · have hfilled : fillHeight args.height reply.value = { reply.value with height := args.height } :=
      if_pos hheight
    rw [Reply.map, hfilled]
    exact .unplaced hheight
  · have hkept : fillHeight args.height reply.value = reply.value := if_neg hheight
    rw [Reply.map, hkept]
    exact .placed hheight

/-! ## What a request comes to -/

section Dispatch

variable (app : Application σ) {h : Host σ} {r asked : Request} {fault : Fault}

/-- A request that is refused is answered with the fault, and nothing else happens. -/
theorem dispatch_of_refuses (hrefuses : Refuses h.tracker r fault) :
    h.dispatch app r = (.failed (.verb r.verb) fault, h) := by
  cases hrefuses with
  | call henter =>
      rw [dispatch_call]
      exact runStage_of_refused henter
  | query hresolve => simp only [dispatch, runQuery, hresolve]

/-- A request that passes becomes one call, whose reply is carried to the response. -/
theorem dispatch_of_passes (hpasses : Passes h.tracker r asked) :
    Carries h.tracker asked.verb asked.args
        (contain asked.verb (app.call asked.verb asked.args h.state).1) (h.dispatch app r).1
      ∧ (h.dispatch app r).2.state = app.stateAfter asked h.state := by
  cases hpasses with
  | call henter =>
      rw [dispatch_call]
      simp only [runStage, henter]
      exact ⟨carries_finish henter _, rfl⟩
  | query hresolve =>
      simp only [dispatch, runQuery, hresolve]
      exact ⟨carries_fillHeight _ _ _, rfl⟩
  | info args =>
      have hother : Verb.info ≠ .query ∧ Verb.info ≠ .commit := by decide
      exact ⟨.same hother.1 hother.2, rfl⟩
  | @free verb hfree args =>
      have hquery : verb ≠ .query := by
        rintro rfl
        cases hfree
      have hcommit : verb ≠ .commit := by
        rintro rfl
        cases hfree
      rw [dispatch_free app h hfree]
      exact ⟨.same hquery hcommit, rfl⟩

/-- Only an info and the calls of stages can move the tracker. -/
theorem tracker_dispatch_of_ne (hinfo : r.verb ≠ .info)
    (hstage : ∀ stage : Stage, r.verb ≠ stage.verb) :
    (h.dispatch app r).2.tracker = h.tracker := by
  rcases refuses_or_passes h.tracker r with ⟨fault, hrefuses⟩ | ⟨asked, hpasses⟩
  · rw [dispatch_of_refuses app hrefuses]
  · cases hpasses with
    | @call stage args found henter => exact absurd rfl (hstage stage)
    | query hresolve => simp only [dispatch, runQuery, hresolve]
    | info args => exact absurd rfl hinfo
    | free hfree args => rw [dispatch_free app h hfree, runFree]

/-! ## The calls of a request -/

theorem calls_of_refuses (hrefuses : Refuses h.tracker r fault) : h.calls app r = [] := by
  have hrefused : (h.listing []).dispatch app.recording r
      = (.failed (.verb r.verb) fault, h.listing []) := dispatch_of_refuses app.recording hrefuses
  rw [calls, hrefused, listing]

theorem calls_of_passes (hpasses : Passes h.tracker r asked) :
    h.calls app r = [app.callOf asked h.state] := by
  obtain ⟨-, hstate⟩ := dispatch_of_passes app.recording (h := h.listing []) hpasses
  rw [calls, hstate]
  rfl

/-- The list is only added to, and nothing else is changed by keeping it. -/
theorem dispatch_recording (log : List Call) :
    (h.listing log).dispatch app.recording r
      = ((h.dispatch app r).1, (h.dispatch app r).2.listing (log ++ h.calls app r)) := by
  rcases refuses_or_passes h.tracker r with ⟨fault, hrefuses⟩ | ⟨asked, hpasses⟩
  · rw [dispatch_of_refuses app hrefuses, calls_of_refuses app hrefuses, List.append_nil]
    exact dispatch_of_refuses app.recording hrefuses
  · rw [calls_of_passes app hpasses]
    cases hpasses with
    | call henter =>
        rw [dispatch_call, dispatch_call]
        simp only [runStage, listing, henter]
        rfl
    | query hresolve =>
        simp only [dispatch, runQuery, listing, hresolve]
        rfl
    | info args => rfl
    | free hfree args =>
        rw [dispatch_free _ _ hfree, dispatch_free _ _ hfree]
        rfl

/-- No call is made exactly if the request is refused. -/
theorem calls_eq_nil_iff (h : Host σ) (r : Request) :
    h.calls app r = [] ↔ ∃ fault, Refuses h.tracker r fault := by
  constructor
  · intro hnone
    refine (refuses_or_passes h.tracker r).resolve_right ?_
    rintro ⟨asked, hpasses⟩
    rw [calls_of_passes app hpasses] at hnone
    cases hnone
  · rintro ⟨fault, hrefuses⟩
    exact calls_of_refuses app hrefuses

variable {app}

/-- A request calls its own verb, and nothing else. -/
theorem verb_of_mem_calls {call : Call} (hcall : call ∈ h.calls app r) : call.verb = r.verb := by
  rcases refuses_or_passes h.tracker r with ⟨fault, hrefuses⟩ | ⟨asked, hpasses⟩
  · rw [calls_of_refuses app hrefuses] at hcall
    cases hcall
  · rw [calls_of_passes app hpasses] at hcall
    obtain rfl := List.mem_singleton.mp hcall
    exact hpasses.verb_eq

/-- What a call of a request returns is carried to the response, also when the call breaks
down and a fault stands in for its reply. -/
theorem carries_of_mem_calls {call : Call} (hcall : call ∈ h.calls app r) :
    Carries h.tracker call.verb call.args (contain call.verb call.answer) (h.dispatch app r).1 := by
  rcases refuses_or_passes h.tracker r with ⟨fault, hrefuses⟩ | ⟨asked, hpasses⟩
  · rw [calls_of_refuses app hrefuses] at hcall
    cases hcall
  · rw [calls_of_passes app hpasses] at hcall
    obtain rfl := List.mem_singleton.mp hcall
    exact (dispatch_of_passes app hpasses).1

end Dispatch

end Host

end ChainHost
