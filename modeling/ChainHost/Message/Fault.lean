/-
  The error fields of a response.

  A fault with the code zero is none: `isOk` tells.  The core's own faults
  have a codespace of their own.
-/
import ChainHost.Message.Record

set_option autoImplicit false

namespace ChainHost

open Json (Format)
open Json.Format (word32 structured)

/-- The error fields of a response. -/
structure Fault where
  code : UInt32 := 0
  codespace : String := ""
  log : String := ""
  info : String := ""
  deriving DecidableEq, Repr

namespace Fault

/-- The codespace of the core. -/
def coreCodespace : String := "abci"

/-- The codes of the core. -/
inductive Code where
  /-- A call out of place. -/
  | protocolViolation
  /-- A call that broke down. -/
  | internalFault
  /-- A height that cannot be read. -/
  | heightUnavailable
  deriving DecidableEq, Repr

/-- The number of a code. -/
def Code.number : Code → UInt32
  | protocolViolation => 0xA8C10001
  | internalFault => 0xA8C10002
  | heightUnavailable => 0xA8C10003

/-- A fault of the core. -/
def core (code : Code) (log : String) : Fault :=
  { code := code.number, codespace := coreCodespace, log }

/-- A fault for a call out of place. -/
def protocolViolation (log : String) : Fault := core .protocolViolation log

/-- A fault for a call that broke down. -/
def internalFault (log : String) : Fault := core .internalFault log

/-- A fault for a height that cannot be read. -/
def heightUnavailable (log : String) : Fault := core .heightUnavailable log

/-- Code zero reports no error. -/
def isOk (f : Fault) : Bool := f.code == 0

/-- Whether the core reports the fault, and not the application. -/
def isCore (f : Fault) : Bool := f.codespace == coreCodespace

theorem core_isOk (code : Code) (log : String) : (core code log).isOk = false := by
  cases code <;> rfl

/-- The words for a fault. -/
def message (f : Fault) : String :=
  (if f.codespace.isEmpty then "code " else f.codespace ++ "/") ++ toString f.code.toNat
    ++ (if f.log.isEmpty then "" else ": " ++ f.log)

def wire : Format Fault :=
  structured
    (.defaulting "code" word32 0
      (.defaulting "codespace" .text ""
      (.defaulting "log" .text "" (.defaulting "info" .text "" .nil))))
    (fun (code, codespace, log, info, ()) => ⟨code, codespace, log, info⟩)
    (fun f => (f.code, f.codespace, f.log, f.info, ()))
    fun _ => rfl

end Fault

end ChainHost
