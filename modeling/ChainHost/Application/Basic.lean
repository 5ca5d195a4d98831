/-
  Applications: what a host runs requests on.
-/
import ChainHost.Message.Request
import ChainHost.Application.Answer

set_option autoImplicit false

namespace ChainHost

/-- An application with states of a type: one call for each verb. -/
structure Application (σ : Type) where
  call : (v : Verb) → v.Args → σ → Answer v.Result × σ

namespace Application

/-- The answer of a verb that an application leaves out: an echo repeats the
message, and every other verb has nothing to tell. -/
def omitted : (v : Verb) → v.Args → v.Result
  | .echo, args => ({ message := (args : Args.Echo).message } : Result.Echo)
  | v, _ => v.neutral

/-- The application that leaves every verb out. -/
def minimal : Application Unit where
  call v args state := (.replied (.ok (omitted v args)), state)

end Application

end ChainHost
