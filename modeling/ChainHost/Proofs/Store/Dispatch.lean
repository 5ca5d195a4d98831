/-
  The store behind a host.

  `Served` says once what a request can do to the two: each case names what the
  tracker checked and what the store answers with.  Everything that is kept from
  request to request is shown by going through these cases.
-/
import ChainHost.Proofs.Lifecycle.Dispatch
import ChainHost.Store.Basic

set_option autoImplicit false

namespace ChainHost.Store

open Lifecycle
open Host (respond contain)

/-- What a request with its response did to a host of the store. -/
inductive Served (h : Host Store) : Exchange → Host Store → Prop where
  /-- The request failed, or only read. -/
  | quiet {e : Exchange} (hquiet : e.2.isOk = false ∨ ∀ stage : Stage, e.1.verb ≠ stage.verb) :
      Served h e h
  | observed {args : Args.Info} {response : Response} :
      Served h (⟨.info, args⟩, response) ⟨h.tracker.observeInfo h.state.info, h.state⟩
  | optioned {args : Args.SetOption} {response : Response} (blocks : UInt64) :
      Served h (⟨.setOption, args⟩, response)
        ⟨h.tracker, { h.state with retainBlocks := blocks }⟩
  | founded {args : Args.InitChain} (hphase : h.tracker.phase = .uninitialized) :
      Served h (⟨.initChain, args⟩, .ok (.ofResult .initChain {}))
        ⟨h.tracker.settleInitChain args {}, h.state.initChain args⟩
  | opened {args : Args.BeginBlock} {height : UInt64}
      (hnext : h.tracker.nextHeight = .ok height) (hheight : args.height? = some height) :
      Served h (⟨.beginBlock, args⟩, .ok (.ofResult .beginBlock {}))
        ⟨h.tracker.settleBeginBlock height, h.state.beginBlock args⟩
  | delivered {args : Args.DeliverTx} {height : UInt64} {tx : Transaction}
      (hphase : h.tracker.phase = .executing height) (hread : Transaction.read args.tx = .ok tx) :
      Served h (⟨.deliverTx, args⟩, .ok (.ofResult .deliverTx { events := [acceptedEvent (keyOf tx)] }))
        ⟨h.tracker, h.state.apply tx⟩
  | closed {args : Args.EndBlock} {height : UInt64}
      (hphase : h.tracker.phase = .executing height) :
      Served h (⟨.endBlock, args⟩, .ok (.ofResult .endBlock { validatorUpdates := h.state.updates }))
        ⟨h.tracker.settleEndBlock height { validatorUpdates := h.state.updates },
          { h.state with updates := [] }⟩
  | committed {height : UInt64} (hphase : h.tracker.phase = .ended height) :
      Served h (⟨.commit, ()⟩, respond .commit (Tracker.amend .commit height h.state.commit.1))
        ⟨h.tracker.settleCommit height h.state.commit.1.value, h.state.commit.2⟩

section Serve

variable {h : Host Store} (hfree : h.tracker.inFlight = none)

/-- What only reads does nothing. -/
theorem served_runFree {v : Verb} (args : v.Args) (hstage : ∀ stage : Stage, v ≠ stage.verb)
    (hsame : (h.state.reply v args).2 = h.state) :
    Served h (⟨v, args⟩, (h.runFree application v args).1) (h.runFree application v args).2 := by
  have hhost : (h.runFree application v args).2 = h := by
    rw [Host.runFree]
    simp only [application, hsame]
  rw [hhost]
  exact .quiet (.inr hstage)

theorem served_setOption (args : Args.SetOption) :
    Served h (⟨.setOption, args⟩, (h.runFree application .setOption args).1)
      (h.runFree application .setOption args).2 := by
  have hhost : (h.runFree application .setOption args).2
      = ⟨h.tracker, (h.state.setOption args).2⟩ := rfl
  have hstage : ∀ stage : Stage, Verb.setOption ≠ stage.verb := by
    intro stage
    cases stage <;> decide
  rw [hhost, setOption]
  split
  · exact .quiet (.inr hstage)
  · split
    · exact .quiet (.inr hstage)
    · exact .optioned _

theorem served_query (args : Args.Query) :
    Served h (⟨.query, args⟩, (h.runQuery application args).1) (h.runQuery application args).2 := by
  have hhost : (h.runQuery application args).2 = h := by
    unfold Host.runQuery
    split <;> rfl
  have hstage : ∀ stage : Stage, Verb.query ≠ stage.verb := by
    intro stage
    cases stage <;> decide
  rw [hhost]
  exact .quiet (.inr hstage)

include hfree

/-- A refused call of a stage does nothing, and a call that passes its check does
what is shown of it. -/
theorem served_runStage (stage : Stage) (args : stage.Args)
    (hpassed : ∀ ticket, h.tracker.check stage args = .ok ticket →
      Served h (⟨stage.verb, args⟩, (h.runStage application stage args).1)
        (h.runStage application stage args).2) :
    Served h (⟨stage.verb, args⟩, (h.runStage application stage args).1)
      (h.runStage application stage args).2 := by
  rcases Host.runStage_cases application args hfree with ⟨violation, -, hrefused⟩ | ⟨ticket, hcheck⟩
  · rw [hrefused]
    exact .quiet (.inl (Response.isOk_failed_core ..))
  · exact hpassed ticket hcheck

theorem served_initChain (args : Args.InitChain) :
    Served h (⟨.initChain, args⟩, (h.runStage application .initChain args).1)
      (h.runStage application .initChain args).2 := by
  apply served_runStage hfree .initChain args
  intro ticket hcheck
  obtain ⟨hphase, rfl⟩ := Tracker.checkInitChain_eq_ok_iff.mp hcheck
  rw [Host.runStage_of_check hfree hcheck]
  exact .founded hphase

theorem served_beginBlock (args : Args.BeginBlock) :
    Served h (⟨.beginBlock, args⟩, (h.runStage application .beginBlock args).1)
      (h.runStage application .beginBlock args).2 := by
  apply served_runStage hfree .beginBlock args
  intro height hcheck
  obtain ⟨hnext, header, hheader, hheight, -⟩ := Tracker.checkBeginBlock_eq_ok_iff.mp hcheck
  rw [Host.runStage_of_check hfree hcheck]
  refine .opened hnext ?_
  rw [Args.BeginBlock.height?, hheader, Option.map_some, hheight]

theorem served_deliverTx (args : Args.DeliverTx) :
    Served h (⟨.deliverTx, args⟩, (h.runStage application .deliverTx args).1)
      (h.runStage application .deliverTx args).2 := by
  apply served_runStage hfree .deliverTx args
  intro height hcheck
  have hphase := Tracker.openHeight_eq_ok_iff.mp hcheck
  have hcall : application.call .deliverTx args h.state
      = (.replied (h.state.deliverTx args).1, (h.state.deliverTx args).2) := rfl
  rw [Host.runStage_of_check hfree hcheck, hcall, deliverTx]
  cases hread : Transaction.read args.tx with
  | error fault => exact .quiet (.inl rfl)
  | ok tx => exact .delivered hphase hread

theorem served_endBlock (args : Args.EndBlock) :
    Served h (⟨.endBlock, args⟩, (h.runStage application .endBlock args).1)
      (h.runStage application .endBlock args).2 := by
  apply served_runStage hfree .endBlock args
  intro height hcheck
  rw [Host.runStage_of_check hfree hcheck]
  exact .closed (Tracker.checkEndBlock_eq_ok_iff.mp hcheck).1

theorem served_commit :
    Served h (⟨.commit, ()⟩, (h.runStage application .commit ()).1)
      (h.runStage application .commit ()).2 := by
  apply served_runStage hfree .commit ()
  intro height hcheck
  rw [Host.runStage_of_check hfree hcheck]
  exact .committed (Tracker.checkCommit_eq_ok_iff.mp hcheck)

/-- Every request does one of these. -/
theorem served_dispatch (r : Request) :
    Served h (r, (h.dispatch application r).1) (h.dispatch application r).2 := by
  obtain ⟨verb, args⟩ := r
  cases verb with
  | initChain => exact served_initChain hfree args
  | beginBlock => exact served_beginBlock hfree args
  | deliverTx => exact served_deliverTx hfree args
  | endBlock => exact served_endBlock hfree args
  | commit => exact served_commit hfree
  | info => exact .observed
  | setOption => exact served_setOption args
  | query => exact served_query args
  | _ => exact served_runFree args (fun stage => by cases stage <;> decide) rfl

end Serve

end ChainHost.Store
