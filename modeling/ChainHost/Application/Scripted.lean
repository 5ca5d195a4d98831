/-
  An application that plays answers from a script and records its calls.
-/
import ChainHost.Application.Basic

set_option autoImplicit false

namespace ChainHost.Application

/-- An answer for a verb. -/
structure Cue where
  verb : Verb
  answer : Answer verb.Result

/-- What is left of the script, and the calls so far. -/
structure Script where
  cues : List Cue := []
  calls : List Request := []

namespace Script

/-- The script with one more cue at its end. -/
def add (s : Script) (cue : Cue) : Script := { s with cues := s.cues ++ [cue] }

/-- The first cue for a verb, and the cues without it. -/
def takeCue (v : Verb) : List Cue → Option (Answer v.Result) × List Cue
  | [] => (none, [])
  | cue :: rest =>
      if h : cue.verb = v then (some (h ▸ cue.answer), rest)
      else
        let (found, rest) := takeCue v rest
        (found, cue :: rest)

/-- The calls of one group, consensus or not, in order. -/
def callsOf (s : Script) (consensus : Bool) : List Request :=
  s.calls.filter fun r => (r.capability == .consensus) == consensus

/-- The script with its record of calls cleared. -/
def clear (s : Script) : Script := { s with calls := [] }

end Script

/-- Answers with the next cue for the verb, or has nothing to tell. -/
def scripted : Application Script where
  call v args s :=
    let (found, cues) := Script.takeCue v s.cues
    (found.getD (.replied (.ok v.neutral)), { cues, calls := s.calls ++ [⟨v, args⟩] })

end ChainHost.Application
