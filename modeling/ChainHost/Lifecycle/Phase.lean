/-
  The stages of a block, and the phases between them.
-/
import ChainHost.Message.Verb
import ChainHost.Message.Fault

set_option autoImplicit false

namespace ChainHost.Lifecycle

/-- The calls that move a chain from block to block. -/
inductive Stage where
  | initChain
  | beginBlock
  | deliverTx
  | endBlock
  | commit
  deriving DecidableEq, Repr

namespace Stage

/-- The verb of a stage. -/
abbrev verb : Stage → Verb
  | initChain => .initChain
  | beginBlock => .beginBlock
  | deliverTx => .deliverTx
  | endBlock => .endBlock
  | commit => .commit

/-- The name of the call of a stage. -/
def name (s : Stage) : String := s.verb.name

/-- What the call of a stage asks with. -/
abbrev Args (s : Stage) : Type := s.verb.Args

/-- What the call of a stage is answered with. -/
abbrev Result (s : Stage) : Type := s.verb.Result

end Stage

/-- Where a chain stands between two calls. -/
inductive Phase where
  | uninitialized
  /-- After genesis, before the first block. -/
  | initialized (first : UInt64)
  /-- Inside a block. -/
  | executing (height : UInt64)
  /-- After the end of a block. -/
  | ended (height : UInt64)
  | committed (height : UInt64)
  deriving DecidableEq, Repr

/-- The words for a phase. -/
def Phase.message : Phase → String
  | uninitialized => "uninitialized"
  | initialized first => "initialized (first block " ++ toString first.toNat ++ ")"
  | executing height => "executing block " ++ toString height.toNat
  | ended height => "awaiting commit of block " ++ toString height.toNat
  | committed height => "committed at height " ++ toString height.toNat

/-- Why a call is refused. -/
inductive Violation where
  | alreadyInitialized (phase : Phase)
  | outOfOrder (call : Stage) (phase : Phase)
  | inProgress (call running : Stage)
  | missingHeader
  | unexpectedHeight (call : Stage) (expected actual : UInt64)
  | digestMismatch (expected actual : Bytes)
  /-- A commit asks to keep nothing below a height above its own. -/
  | retainAbove (retain height : UInt64)
  deriving DecidableEq, Repr

namespace Violation

/-- The words for a violation. -/
def message : Violation → String
  | alreadyInitialized phase =>
      "init_chain is not allowed once the chain is " ++ phase.message
  | outOfOrder call phase => call.name ++ " is not allowed while " ++ phase.message
  | inProgress call running =>
      call.name ++ " is not allowed while " ++ running.name ++ " is in progress"
  | missingHeader => "begin_block carries no header"
  | unexpectedHeight call expected actual =>
      call.name ++ " for height " ++ toString actual.toNat ++ ", expected height "
        ++ toString expected.toNat
  | digestMismatch expected actual =>
      "begin_block header app_hash " ++ Bytes.listing actual
        ++ " does not match committed digest " ++ Bytes.listing expected
  | retainAbove retain height =>
      "commit retain_height " ++ toString retain.toNat ++ " exceeds committed height "
        ++ toString height.toNat

/-- The fault that answers a refused call. -/
def fault (v : Violation) : Fault := .protocolViolation v.message

end Violation

end ChainHost.Lifecycle
