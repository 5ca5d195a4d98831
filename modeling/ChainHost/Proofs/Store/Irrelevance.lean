/-
  Requests that leave consensus as it is.

  What replicas have to agree on is everything but the heights that each keeps:
  `bare` takes these away from trackers, stores and responses.  A call of a stage
  commutes with it, so that two hosts which are equal but for what they keep answer
  alike and stay so; and all other requests, refused calls and transactions that
  cannot be read change nothing else.  Deleting some of these from a run is therefore
  seen by no call that is left.
-/
import Mathlib.Data.List.Forall2
import ChainHost.Proofs.Store.History

set_option autoImplicit false

namespace ChainHost

open Lifecycle

/-! ## What is not about retention -/

/-- The tracker without the lowest height that it keeps. -/
def Lifecycle.Tracker.bare (t : Tracker) : Tracker := { t with retain := 0 }

/-- The store without the states that it keeps, and without their number. -/
def Store.bare (s : Store) : Store := { s with snapshots := .empty, retainBlocks := 0 }

/-- The host without what it keeps. -/
def Host.bare (h : Host Store) : Host Store := ⟨h.tracker.bare, h.state.bare⟩

/-- The result of a call without the height that a commit asks to keep. -/
def Lifecycle.Stage.bareResult : (stage : Stage) → stage.Result → stage.Result
  | .commit, result => ({ data := (result : Result.Commit).data } : Result.Commit)
  | _, result => result

/-- The reply to a call without the height that a commit asks to keep. -/
def Lifecycle.Stage.bareReply (stage : Stage) (reply : Reply stage.Result) : Reply stage.Result :=
  reply.map stage.bareResult

/-- The response without the height that a commit asks to keep. -/
def Response.bare : Response → Response
  | ⟨⟨.verb .commit, result⟩, error⟩ =>
      ⟨.ofResult .commit ({ data := (result : Result.Commit).data } : Result.Commit), error⟩
  | response => response

namespace Lifecycle.Tracker

theorem bare_settle (t : Tracker) (stage : Stage) (ticket : Ticket stage) (result : stage.Result) :
    (t.settle stage ticket result).bare
      = (t.bare.settle stage ticket (stage.bareResult result)).bare := by
  cases stage with
  | beginBlock =>
      obtain ⟨phase, latest, appHash, retain, validators, params, pending, inFlight⟩ := t
      cases pending <;> rfl
  | commit =>
      simp only [settle, settleCommit, bare]
      rfl
  | _ => rfl

theorem check_bare (t : Tracker) (stage : Stage) (args : stage.Args) :
    t.bare.check stage args = t.check stage args := by
  cases stage <;> rfl

end Lifecycle.Tracker

theorem Host.bare_respond (stage : Stage) (reply : Reply stage.Result) :
    (Host.respond stage.verb reply).bare = Host.respond stage.verb (stage.bareReply reply) := by
  cases stage <;> rfl

namespace Store

theorem bare_initChain (s : Store) (args : Args.InitChain) :
    (s.initChain args).bare = (s.bare.initChain args).bare := by
  unfold initChain
  induction args.validators generalizing s with
  | nil => rfl
  | cons update rest ih => exact ih (s.apply (.validator update))

/-- A call of a stage replies and writes alike, whatever is kept. -/
theorem bare_reply (s : Store) (stage : Stage) (args : stage.Args) :
    stage.bareReply (s.reply stage.verb args).1 = stage.bareReply (s.bare.reply stage.verb args).1
      ∧ (s.reply stage.verb args).2.bare = (s.bare.reply stage.verb args).2.bare := by
  cases stage with
  | initChain => exact ⟨rfl, s.bare_initChain args⟩
  | deliverTx =>
      simp only [reply, deliverTx]
      split <;> exact ⟨rfl, rfl⟩
  | _ => exact ⟨rfl, rfl⟩

/-! ## Requests -/

section Requests

variable {h : Host Store} {l : Ledger}

/-- No reply of the store is amended. -/
theorem Aligned.amend_eq (ha : Aligned h l) {stage : Stage} {args : stage.Args}
    {ticket : Ticket stage} (hcheck : h.tracker.check stage args = .ok ticket) :
    Tracker.amend stage ticket (h.state.reply stage.verb args).1
      = (h.state.reply stage.verb args).1 := by
  cases stage with
  | commit =>
      have hphase := Tracker.checkCommit_eq_ok_iff.mp hcheck
      have hblock := ha.block_ended hphase
      have hhint : h.state.retainHeight h.state.blockHeight ≤ ticket := by
        rw [hblock]
        exact retainHeight_le h.state ticket
      exact if_neg (UInt64.not_lt.mpr hhint)
  | _ => rfl

/-- Without retention there is nothing to amend. -/
theorem amend_bare (s : Store) (stage : Stage) (args : stage.Args) (ticket : Ticket stage) :
    Tracker.amend stage ticket (s.bare.reply stage.verb args).1
      = (s.bare.reply stage.verb args).1 := by
  cases stage with
  | commit =>
      have hhint : s.bare.retainHeight s.bare.blockHeight ≤ ticket := by
        rw [retainHeight, if_pos (.inl rfl)]
        exact UInt64.zero_le
      simp only [Tracker.amend]
      exact if_neg (UInt64.not_lt.mpr hhint)
  | _ => rfl

/-- What a call of a stage that was let in comes to. -/
def settled (h : Host Store) (stage : Stage) (args : stage.Args) (ticket : Ticket stage) :
    Response × Host Store :=
  let reply := (h.state.reply stage.verb args).1
  (Host.respond stage.verb reply,
    ⟨if reply.isOk then h.tracker.settle stage ticket reply.value else h.tracker,
      (h.state.reply stage.verb args).2⟩)

theorem runStage_eq_settled (hfree : h.tracker.inFlight = none) {stage : Stage}
    {args : stage.Args} {ticket : Ticket stage} (hcheck : h.tracker.check stage args = .ok ticket)
    (hamend : Tracker.amend stage ticket (h.state.reply stage.verb args).1
      = (h.state.reply stage.verb args).1) :
    h.runStage application stage args = settled h stage args ticket := by
  have hcall : application.call stage.verb args h.state
      = (.replied (h.state.reply stage.verb args).1, (h.state.reply stage.verb args).2) := rfl
  rw [Host.runStage_of_check hfree hcheck, hcall, settled]
  simp only [Host.contain, hamend]
  split <;> rfl

/-- A call of a stage is answered alike, and leaves alike, whatever is kept. -/
theorem Aligned.bare_runStage (ha : Aligned h l) (stage : Stage) (args : stage.Args) :
    (h.runStage application stage args).1.bare = (h.bare.runStage application stage args).1.bare
      ∧ (h.runStage application stage args).2.bare
        = (h.bare.runStage application stage args).2.bare := by
  have hsame := h.tracker.check_bare stage args
  have hfree : h.bare.tracker.inFlight = none := ha.free
  cases hcheck : h.tracker.check stage args with
  | error violation =>
      rw [hcheck] at hsame
      have hrefused : h.runStage application stage args
          = (.failed (.verb stage.verb) violation.fault, h) :=
        Host.runStage_of_refused ((Tracker.enter_eq_error_iff ha.free).mpr hcheck)
      have hrefused' : h.bare.runStage application stage args
          = (.failed (.verb stage.verb) violation.fault, h.bare) :=
        Host.runStage_of_refused ((Tracker.enter_eq_error_iff hfree).mpr hsame)
      rw [hrefused, hrefused']
      exact ⟨rfl, rfl⟩
  | ok ticket =>
      rw [hcheck] at hsame
      obtain ⟨hreply, hstate⟩ := h.state.bare_reply stage args
      have hvalue : stage.bareResult (h.state.reply stage.verb args).1.value
          = stage.bareResult (h.state.bare.reply stage.verb args).1.value :=
        congrArg Reply.value hreply
      have hok : (h.state.reply stage.verb args).1.isOk
          = (h.state.bare.reply stage.verb args).1.isOk := by
        have hsame := congrArg Reply.isOk hreply
        exact hsame
      rw [runStage_eq_settled ha.free hcheck (ha.amend_eq hcheck),
        runStage_eq_settled hfree hsame (amend_bare h.state stage args ticket)]
      constructor
      · rw [settled, settled, Host.bare_respond, Host.bare_respond]
        exact congrArg (Host.respond stage.verb) hreply
      · have htracker : (settled h stage args ticket).2.tracker.bare
            = (settled h.bare stage args ticket).2.tracker.bare := by
          simp only [settled, Host.bare, ← hok]
          split
          · rw [Tracker.bare_settle h.tracker, hvalue]
            exact (Tracker.bare_settle h.tracker.bare stage ticket _).symm
          · rfl
        exact congrArg₂ Host.mk htracker hstate

/-! ## Deletions -/

/-- What may be deleted from a run: a request that is no call of a stage, a call that
was answered with a violation of the protocol, and a transaction that was answered as
one that cannot be read. -/
inductive Irrelevant : Exchange → Prop where
  | other {e : Exchange} (hverb : ∀ stage : Stage, e.1.verb ≠ stage.verb) : Irrelevant e
  | refused {e : Exchange} {fault : Fault} (herror : e.2.error = some fault)
      (hcode : fault.code = Fault.Code.protocolViolation.number) : Irrelevant e
  | unreadable {e : Exchange} {fault : Fault} (reason : Transaction.Fault)
      (hverb : e.1.verb = .deliverTx) (herror : e.2.error = some fault)
      (hcode : fault.code = (Refusal.badTransaction reason).code) : Irrelevant e

/-- What is left of a run when some irrelevant requests are deleted from it. -/
inductive Thins : List Exchange → List Exchange → Prop where
  | nil : Thins [] []
  | keep {e : Exchange} {run kept : List Exchange} (hrest : Thins run kept) :
      Thins (e :: run) (e :: kept)
  | delete {e : Exchange} {run kept : List Exchange} (hdeleted : Irrelevant e)
      (hrest : Thins run kept) : Thins (e :: run) kept

/-- An irrelevant request has failed, or is no call of a stage. -/
theorem Irrelevant.quiet {e : Exchange} (h : Irrelevant e) :
    e.2.isOk = false ∨ ∀ stage : Stage, e.1.verb ≠ stage.verb := by
  have hfailed {fault : Fault} (herror : e.2.error = some fault) (hcode : fault.code ≠ 0) :
      e.2.isOk = false := by
    simp [Response.isOk, Fault.noneOf, herror, Fault.isOk, hcode]
  cases h with
  | other hverb => exact .inr hverb
  | refused herror hcode =>
      refine .inl (hfailed herror ?_)
      rw [hcode]
      decide
  | unreadable reason hverb herror hcode =>
      refine .inl (hfailed herror ?_)
      rw [hcode, Refusal.code]
      decide

/-- What failed, and what is no call of a stage, changes at most what is kept. -/
theorem Aligned.bare_of_served (ha : Aligned h l) {e : Exchange} {after : Host Store}
    (hserved : Served h e after)
    (hquiet : e.2.isOk = false ∨ ∀ stage : Stage, e.1.verb ≠ stage.verb) :
    after.bare = h.bare := by
  have hloud (stage : Stage) (hverb : e.1.verb = stage.verb) (hok : e.2.isOk = true) :
      after.bare = h.bare := by
    rcases hquiet with hfailed | hother
    · rw [hok] at hfailed
      cases hfailed
    · exact absurd hverb (hother stage)
  cases hserved with
  | quiet hsame => rfl
  | observed => rw [ha.observeInfo_eq]
  | optioned blocks => rfl
  | founded hphase => exact hloud .initChain rfl rfl
  | opened hnext hheight => exact hloud .beginBlock rfl rfl
  | delivered hphase hread => exact hloud .deliverTx rfl rfl
  | closed hphase => exact hloud .endBlock rfl rfl
  | committed hphase =>
      apply hloud .commit rfl
      rw [respond_commit (ha.block_ended hphase)]
      rfl

/-- Hosts that are equal but for what they keep answer consensus alike, and stay equal. -/
theorem Aligned.bare_dispatch (ha : Aligned h l) {k : Host Store} {m : Ledger} (hb : Aligned k m)
    (hsame : h.bare = k.bare) (r : Request) :
    (h.dispatch application r).2.bare = (k.dispatch application r).2.bare
      ∧ (r.capability = .consensus →
          (h.dispatch application r).1.bare = (k.dispatch application r).1.bare) := by
  have hstage (stage : Stage) (args : stage.Args) :
      (h.runStage application stage args).2.bare = (k.runStage application stage args).2.bare
        ∧ (h.runStage application stage args).1.bare
          = (k.runStage application stage args).1.bare := by
    obtain ⟨hresponse, hafter⟩ := ha.bare_runStage stage args
    obtain ⟨hresponse', hafter'⟩ := hb.bare_runStage stage args
    rw [hresponse, hafter, hsame]
    exact ⟨hafter'.symm, hresponse'.symm⟩
  have hother (hverb : ∀ stage : Stage, r.verb ≠ stage.verb) :
      (h.dispatch application r).2.bare = (k.dispatch application r).2.bare := by
    rw [ha.bare_of_served (served_dispatch ha.free r) (.inr hverb), hsame,
      hb.bare_of_served (served_dispatch hb.free r) (.inr hverb)]
  obtain ⟨verb, args⟩ := r
  cases verb with
  | initChain => exact ⟨(hstage .initChain args).1, fun _ => (hstage .initChain args).2⟩
  | beginBlock => exact ⟨(hstage .beginBlock args).1, fun _ => (hstage .beginBlock args).2⟩
  | deliverTx => exact ⟨(hstage .deliverTx args).1, fun _ => (hstage .deliverTx args).2⟩
  | endBlock => exact ⟨(hstage .endBlock args).1, fun _ => (hstage .endBlock args).2⟩
  | commit => exact ⟨(hstage .commit args).1, fun _ => (hstage .commit args).2⟩
  | flush => exact ⟨hother fun stage => by cases stage <;> exact nofun, fun _ => rfl⟩
  | _ => exact ⟨hother fun stage => by cases stage <;> exact nofun, nofun⟩

/-- Two hosts that are equal but for what they keep stay so, when one of them is spared
some irrelevant requests. -/
theorem Aligned.bare_of_thins (ha : Aligned h l) {k : Host Store} {m : Ledger} (hb : Aligned k m)
    (hsame : h.bare = k.bare) {requests : List Request} {kept : List Exchange}
    (hthins : Thins (h.transcript application requests) kept) :
    List.Forall₂ (fun e response => e.1.capability = .consensus → e.2.bare = response.bare) kept
        (k.dispatchAll application (kept.map (·.1))).1
      ∧ (h.dispatchAll application requests).2.bare
        = (k.dispatchAll application (kept.map (·.1))).2.bare := by
  induction requests generalizing h k l m kept with
  | nil =>
      have hnone : Thins [] kept := hthins
      cases hnone
      exact ⟨.nil, hsame⟩
  | cons r rest ih =>
      have hafter := ha.served (served_dispatch ha.free r)
      rw [Host.transcript_cons] at hthins
      cases hthins with
      | keep hrest =>
          obtain ⟨hstep, hresponse⟩ := ha.bare_dispatch hb hsame r
          obtain ⟨hresponses, hend⟩ := ih hafter (hb.served (served_dispatch hb.free r)) hstep hrest
          exact ⟨.cons hresponse hresponses, hend⟩
      | delete hdeleted hrest =>
          -- Only the first host serves this one, and what is not about retention stays.
          have hstep := ha.bare_of_served (served_dispatch ha.free r) hdeleted.quiet
          exact ih hafter hb (hstep.trans hsame) hrest

end Requests

/-- **Irrelevant requests leave consensus as it is.**  Delete from any run of a fresh
store behind a fresh host any of: the requests that are no calls of a stage, the calls
that were answered with a violation of the protocol, and the transactions that were
answered as unreadable.  When the rest is run again, every request of consensus that is
left gets the same response, but for the height that a commit asks to keep, and phase,
digest, validators and parameters are the same in the end. -/
theorem consensus_of_thins (blocks : UInt64) (requests : List Request) (kept : List Exchange) :
    let fresh : Host Store := { state := keeping blocks }
    let run := fresh.dispatchAll application requests
    let again := fresh.dispatchAll application (kept.map (·.1))
    Thins (fresh.transcript application requests) kept →
      List.Forall₂ (fun e response => e.1.capability = .consensus → e.2.bare = response.bare)
          kept again.1
        ∧ run.2.tracker.phase = again.2.tracker.phase
        ∧ run.2.tracker.appHash = again.2.tracker.appHash
        ∧ run.2.tracker.validators = again.2.tracker.validators
        ∧ run.2.tracker.params = again.2.tracker.params := by
  intro fresh run again hthins
  have haligned := aligned_fresh blocks
  obtain ⟨hresponses, hend⟩ := haligned.bare_of_thins haligned rfl hthins
  have htracker : run.2.tracker.bare = again.2.tracker.bare := congrArg Host.tracker hend
  simp only [Tracker.bare, Tracker.mk.injEq] at htracker
  obtain ⟨hphase, -, hdigest, -, hvalidators, hparams, -⟩ := htracker
  exact ⟨hresponses, hphase, hdigest, hvalidators, hparams⟩

/-- A block among requests that leave consensus as it is. -/
def distracted : List Request :=
  [⟨.setOption, ({ key := retainOption, value := "1" } : Args.SetOption)⟩,
    ⟨.initChain, ({} : Args.InitChain)⟩,
    ⟨.commit, ()⟩,
    ⟨.beginBlock, ({ header := some { height := 1 } } : Args.BeginBlock)⟩,
    .deliverTx (Bytes.ofText "=1"),
    .deliverTx (Bytes.ofText "a=1"),
    ⟨.info, ({} : Args.Info)⟩,
    .endBlock 1,
    ⟨.commit, ()⟩,
    ⟨.query, ({} : Args.Query)⟩]

/-- Without the option, the early commit, the unreadable transaction and the queries, the
block of `distracted` is answered as it was, but for the height to keep. -/
theorem consensus_of_thins_distracted :
    let fresh : Host Store := { state := keeping 0 }
    let run := fresh.dispatchAll application distracted
    ∃ kept, Thins (fresh.transcript application distracted) kept
      ∧ kept.map (·.1)
        = [⟨.initChain, ({} : Args.InitChain)⟩,
          ⟨.beginBlock, ({ header := some { height := 1 } } : Args.BeginBlock)⟩,
          .deliverTx (Bytes.ofText "a=1"), .endBlock 1, ⟨.commit, ()⟩]
      ∧ let again := fresh.dispatchAll application (kept.map (·.1))
        run.2.tracker.retain ≠ again.2.tracker.retain
          ∧ List.Forall₂
            (fun e response => e.1.capability = .consensus → e.2.bare = response.bare)
            kept again.1
          ∧ run.2.tracker.phase = again.2.tracker.phase
          ∧ run.2.tracker.appHash = again.2.tracker.appHash
          ∧ run.2.tracker.validators = again.2.tracker.validators
          ∧ run.2.tracker.params = again.2.tracker.params := by
  intro fresh run
  have hother {e : Exchange}
      (hverb : e.1.verb = .setOption ∨ e.1.verb = .info ∨ e.1.verb = .query) : Irrelevant e := by
    apply Irrelevant.other
    intro stage hstage
    rcases hverb with hverb | hverb | hverb <;> rw [hverb] at hstage <;> cases stage <;>
      cases hstage
  have hthins : Thins (fresh.transcript application distracted) _ :=
    .delete (hother (.inl rfl)) (.keep (.delete (.refused rfl rfl) (.keep
      (.delete (.unreadable .emptyKey rfl rfl rfl) (.keep (.delete (hother (.inr (.inl rfl)))
        (.keep (.keep (.delete (hother (.inr (.inr rfl))) .nil)))))))))
  refine ⟨_, hthins, rfl, ?_, consensus_of_thins 0 distracted _ hthins⟩
  decide +kernel

end Store

end ChainHost
