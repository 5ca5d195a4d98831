/-
  Calls that fail.

  A call is refused before the application sees it, or the application rejects it or
  panics; either way the tracker stays as it was, in all its fields, whatever happens on it
  while the application runs.  One failure moves the chain on: a commit that went well and
  asks to keep nothing below a height above its own.  `Oversteps` is that case.
-/
import ChainHost.Proofs.Lifecycle.Dispatch

set_option autoImplicit false

namespace ChainHost.Lifecycle

/-- A commit with an OK reply that asks for too much: the height counts as committed with
its digest, the kept heights stay, and the answer has a violation next to the digest. -/
inductive Oversteps (t : Tracker) :
    (stage : Stage) → Reply stage.Result → Reply stage.Result → Tracker → Prop where
  | commit {reply : Reply Result.Commit} {height : UInt64} (hphase : t.phase = .ended height)
      (hok : reply.isOk = true) (habove : height < reply.value.retainHeight) :
      Oversteps t .commit reply
        ⟨reply.value, some (Violation.retainAbove reply.value.retainHeight height).fault⟩
        { t with phase := .committed height, latest := some height, appHash := reply.value.data }

/-- What an overstepping commit is finished with. -/
theorem Oversteps.settled {t after : Tracker} {stage : Stage} {reply answered : Reply stage.Result}
    (h : Oversteps t stage reply answered after) :
    reply.isOk = true ∧ ∃ ticket, (∀ args, t.check stage args = .ok ticket)
      ∧ Tracker.amend stage ticket reply = answered
      ∧ t.settle stage ticket reply.value = after := by
  cases h with
  | @commit reply height hphase hok habove =>
      have hretain : ¬reply.value.retainHeight ≤ height := UInt64.not_le.mpr habove
      refine ⟨hok, height, fun args => Tracker.checkCommit_eq_ok_iff.mpr hphase, if_pos habove, ?_⟩
      simp only [Tracker.settle, Tracker.settleCommit, hretain, if_false]

theorem Oversteps.isOk_eq_false {t after : Tracker} {stage : Stage}
    {reply answered : Reply stage.Result} (h : Oversteps t stage reply answered after) :
    answered.isOk = false := by
  cases h with
  | commit => exact Fault.core_isOk _ _

/-! ## Calls -/

namespace Tracker

variable {t : Tracker} {stage : Stage} {args : stage.Args}

/-- A reply comes back with its own error fields, or oversteps. -/
theorem amend_eq_or {ticket : Ticket stage} (hcheck : t.check stage args = .ok ticket)
    {reply : Reply stage.Result} (hok : reply.isOk = true) :
    amend stage ticket reply = reply
      ∨ Oversteps t stage reply (amend stage ticket reply) (t.settle stage ticket reply.value) := by
  cases stage with
  | commit =>
      have hphase : t.phase = .ended ticket := checkCommit_eq_ok_iff.mp hcheck
      by_cases habove : ticket < (reply.value : Result.Commit).retainHeight
      · have hoversteps := Oversteps.commit hphase hok habove
        obtain ⟨-, other, hother, hanswer, hafter⟩ := hoversteps.settled
        obtain rfl : ticket = other := Except.ok.inj (hcheck.symm.trans (hother args))
        rw [hanswer, hafter]
        exact .inr hoversteps
      · exact .inl (if_neg habove)
  | initChain => exact .inl rfl
  | beginBlock => exact .inl rfl
  | deliverTx => exact .inl rfl
  | endBlock => exact .inl rfl

theorem call_of_error {violation : Violation} (henter : t.enter stage args = .error violation)
    (answer : Answer stage.Result) : t.call stage args answer = (.refused violation, t) := by
  rw [call, henter]

/-- A call that passes its check comes to what its reply makes of it. -/
theorem call_of_check {ticket : Ticket stage} (hfree : t.inFlight = none)
    (hcheck : t.check stage args = .ok ticket) (reply : Reply stage.Result) :
    t.call stage args (.replied reply)
      = if reply.isOk then
          (.replied stage (amend stage ticket reply), t.settle stage ticket reply.value)
        else (.replied stage reply, t) := by
  have henter := enter_eq_ok_iff.mpr ⟨hfree, hcheck, rfl⟩
  simp only [call, henter, leave, finish, unwind_mark hfree]
  split <;> rfl

/-- A call is refused, and then for any answer; or it passes its check. -/
theorem enter_cases (t : Tracker) (stage : Stage) (args : stage.Args) :
    (∃ violation, t.enter stage args = .error violation)
      ∨ t.inFlight = none ∧ ∃ ticket, t.check stage args = .ok ticket := by
  cases henter : t.enter stage args with
  | error violation => exact .inl ⟨violation, rfl⟩
  | ok found =>
      obtain ⟨hfree, hcheck, -⟩ := enter_eq_ok_iff.mp henter
      exact .inr ⟨hfree, _, hcheck⟩

theorem enter_of_refused {reply : Reply stage.Result} {violation : Violation}
    (h : (t.call stage args (.replied reply)).1 = .refused violation) :
    t.enter stage args = .error violation := by
  rcases t.enter_cases stage args with ⟨found, henter⟩ | ⟨hfree, ticket, hcheck⟩
  · rw [call_of_error henter] at h
    cases h
    exact henter
  · rw [call_of_check hfree hcheck] at h
    split at h <;> cases h

theorem check_of_reached {reply : Reply stage.Result}
    (h : (t.call stage args (.replied reply)).1.reached = true) :
    t.inFlight = none ∧ ∃ ticket, t.check stage args = .ok ticket := by
  rcases t.enter_cases stage args with ⟨violation, henter⟩ | hentered
  · rw [call_of_error henter] at h
    cases h
  · exact hentered

/-- A transaction, however it is answered, leaves the tracker as it was. -/
theorem call_deliverTx (t : Tracker) (args : Stage.deliverTx.Args)
    (reply : Reply Stage.deliverTx.Result) :
    (t.call .deliverTx args (.replied reply)).2 = t := by
  rcases t.enter_cases .deliverTx args with ⟨violation, henter⟩ | ⟨hfree, ticket, hcheck⟩
  · rw [call_of_error henter]
  · rw [call_of_check hfree hcheck]
    split <;> rfl

/-- A call that is answered with a failure leaves the tracker as it was, or oversteps. -/
theorem call_failed {reply answered : Reply stage.Result}
    (h : (t.call stage args (.replied reply)).1 = .replied stage answered)
    (hfailed : answered.isOk = false) :
    (t.call stage args (.replied reply)).2 = t
      ∨ Oversteps t stage reply answered (t.call stage args (.replied reply)).2 := by
  rcases t.enter_cases stage args with ⟨violation, henter⟩ | ⟨hfree, ticket, hcheck⟩
  · rw [call_of_error henter]
    exact .inl rfl
  · rw [call_of_check hfree hcheck] at h ⊢
    cases hok : reply.isOk with
    | false => exact .inl rfl
    | true =>
        rw [hok] at h
        cases h
        refine .inr ((amend_eq_or hcheck hok).resolve_left fun hsame => ?_)
        rw [hsame, hok] at hfailed
        cases hfailed

theorem call_of_oversteps {reply answered : Reply stage.Result} {after : Tracker}
    (hfree : t.inFlight = none) (h : Oversteps t stage reply answered after) :
    t.call stage args (.replied reply) = (.replied stage answered, after) := by
  obtain ⟨hok, ticket, hcheck, hanswer, hafter⟩ := h.settled
  rw [call_of_check hfree (hcheck args), if_pos hok, hanswer, hafter]

end Tracker

/-! ## Failures -/

/-- **Failed calls leave no trace.**  Take any tracker, any call, any answer of the
application, a panic being contained, and whatever happens on the tracker meanwhile.  A
refusal is one for every answer and in front of every application, none of which is
called.  A reply without an OK, like what stands in for a panic, comes back as it is, and
the tracker is free and as it was before.  A transaction changes nothing at all.  And the
one failure that does is a commit that oversteps. -/
theorem failed_calls_leave_no_trace (t : Tracker) (stage : Stage) (args : stage.Args)
    (answer : Answer stage.Result) (during : List Step) :
    let reply := Host.contain stage.verb answer
    let played := Step.play t (.call stage args (.replied reply) during)
    (∀ violation, played.effect = .refused violation →
        (∀ other meanwhile, Step.play t (.call stage args other meanwhile)
            = .mk (.refused violation) [] t)
          ∧ ∀ {σ : Type} (app : Application σ) (state : σ),
            Host.runStage app ⟨t, state⟩ stage args
              = (.failed (.verb stage.verb) violation.fault, ⟨t, state⟩))
      ∧ (played.effect.reached = true → reply.isOk = false →
          played.effect = .replied stage reply ∧ played.after = t ∧ t.inFlight = none
            ∧ ∀ {σ : Type} (app : Application σ) (state : σ),
              (app.call stage.verb args state).1 = answer →
                Host.runStage app ⟨t, state⟩ stage args
                  = (Host.respond stage.verb reply, ⟨t, (app.call stage.verb args state).2⟩))
      ∧ (∀ text, answer = .panicked text →
          reply = ⟨stage.verb.neutral, some (.internalFault
              (stage.name ++ " handler panicked: " ++ Answer.panicText text))⟩
            ∧ reply.isOk = false)
      ∧ (stage = .deliverTx → played.after = t)
      ∧ (∀ answered, played.effect = .replied stage answered → answered.isOk = false →
          played.after = t ∨ Oversteps t stage reply answered played.after)
      ∧ ∀ answered after, t.inFlight = none → Oversteps t stage reply answered after →
          played.effect = .replied stage answered ∧ answered.isOk = false
            ∧ played.after = after := by
  intro reply played
  obtain ⟨heffect, hafter⟩ : played.effect = (t.call stage args (.replied reply)).1
      ∧ played.after = (t.call stage args (.replied reply)).2 :=
    Step.play_call t stage args (.replied reply) during
  rw [heffect, hafter]
  refine ⟨fun violation hrefused => ?_, fun hreached hok => ?_, fun text hpanic => ?_,
    fun hstage => ?_, fun answered hanswer hfailed => Tracker.call_failed hanswer hfailed,
    fun answered after hfree hoversteps => ?_⟩
  · have henter := Tracker.enter_of_refused hrefused
    exact ⟨fun other meanwhile => Step.play_call_of_error henter other meanwhile,
      fun app state => Host.runStage_of_refused henter⟩
  · obtain ⟨hfree, ticket, hcheck⟩ := Tracker.check_of_reached hreached
    rw [Tracker.call_of_check hfree hcheck, hok]
    refine ⟨rfl, rfl, hfree, fun app state hanswer => ?_⟩
    have hreply : Host.contain stage.verb (app.call stage.verb args state).1 = reply := by
      rw [hanswer]
    refine (Host.runStage_of_check hfree hcheck).trans ?_
    simp only [hreply, hok, Bool.false_eq_true, if_false]
  · subst hpanic
    exact ⟨rfl, Fault.core_isOk _ _⟩
  · subst hstage
    exact Tracker.call_deliverTx t args reply
  · rw [Tracker.call_of_oversteps hfree hoversteps]
    exact ⟨rfl, hoversteps.isOk_eq_false, rfl⟩

end ChainHost.Lifecycle
