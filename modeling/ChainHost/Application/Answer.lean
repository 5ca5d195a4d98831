/-
  How a call of the application ends.
-/
import ChainHost.Message.Reply

set_option autoImplicit false

namespace ChainHost

/-- How a call of the application ends. -/
inductive Answer (α : Type) where
  | replied (reply : Reply α)
  /-- The call broke down; the panic carries a text, or something else. -/
  | panicked (text : Option String)
  deriving DecidableEq, Repr

/-- The words for what a panic carries. -/
def Answer.panicText (text : Option String) : String := text.getD "non-string panic payload"

end ChainHost
