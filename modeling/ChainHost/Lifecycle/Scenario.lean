/-
  Scenarios: calls, and what happens on the same tracker while they run.

  A call that enters is with the application for a while.  The steps `during`
  it are played in that time, before the application answers.
-/
import ChainHost.Lifecycle.Tracker

set_option autoImplicit false

namespace ChainHost.Lifecycle

/-- One step on a tracker. -/
inductive Step where
  /-- A call, the answer the application has for it, and what happens before
  that answer. -/
  | call (stage : Stage) (args : stage.Args) (answer : Answer stage.Result) (during : List Step)
  | observeInfo (info : Result.Info)
  /-- A read of a height. -/
  | resolve (requested : UInt64)

/-- What a step comes to. -/
inductive Effect where
  /-- The call never reached the application. -/
  | refused (violation : Violation)
  | replied (stage : Stage) (reply : Reply stage.Result)
  | panicked (text : Option String)
  | observed
  | resolved (height : Except Window.Refusal UInt64)

/-- A step that was played: what it came to, what the steps during it came to,
and the tracker after it. -/
inductive Played where
  | mk (effect : Effect) (during : List Played) (after : Tracker)

namespace Played

/-- What a played step came to. -/
def effect : Played → Effect
  | mk effect _ _ => effect

/-- The steps that were played while the application ran. -/
def during : Played → List Played
  | mk _ during _ => during

/-- The tracker after a played step. -/
def after : Played → Tracker
  | mk _ _ after => after

end Played

namespace Step

mutual
/-- Plays a step. -/
def play (t : Tracker) : Step → Played
  | call stage args answer during =>
      match t.enter stage args with
      | .error violation => .mk (.refused violation) [] t
      | .ok (ticket, entered) =>
          let (inner, t) := playAll entered during
          match answer with
          | .replied reply =>
              let (reply, t) := t.finish stage ticket reply
              .mk (.replied stage reply) inner t
          | .panicked text => .mk (.panicked text) inner t.unwind
  | observeInfo info => .mk .observed [] (t.observeInfo info)
  | resolve requested => .mk (.resolved (t.window.resolve requested)) [] t

/-- Plays steps one after another. -/
def playAll (t : Tracker) : List Step → List Played × Tracker
  | [] => ([], t)
  | step :: rest =>
      let played := play t step
      let (more, t) := playAll played.after rest
      (played :: more, t)
end

end Step

end ChainHost.Lifecycle
