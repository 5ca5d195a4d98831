/-
  The command line: a store behind standard input and output.

  The configuration comes from a file, the environment and the flags.  The
  frames of one session arrive on standard input, and its answers leave on
  standard output.
-/
import ChainHost.Config.Basic
import ChainHost.Session.Run
import ChainHost.Store.Basic

set_option autoImplicit false

namespace ChainHost

/-- Reads a stream to its end. -/
partial def readAll (input : IO.FS.Stream) (front : ByteArray) : IO ByteArray := do
  let piece ← input.read 65536
  if piece.isEmpty then return front else readAll input (front ++ piece)

/-- The variables of the environment that set something. -/
def environment : IO (List (String × String)) :=
  Config.variableNames.filterMapM fun name => do
    return (← IO.getEnv name).map fun text => (name, text)

/-- What lies under a path. -/
def find (path : String) : IO Config.Found := do
  try return .text (← IO.FS.readFile path)
  catch
    | .noFileOrDirectory .. => return .nothing
    | _ => return .unreadable

/-- What a session that failed says about it. -/
def complaint? : Session.Outcome → Option String
  | .finished _ _ => none
  | .readFault (.frame fault) => some fault.message
  | .readFault .decode => some "request cannot be decoded"
  | .writeFault fault => some fault.message
  | .panicked => some "capacity overflow"

/-- Serves one session on standard input and output. -/
def serveStandard (config : Config) : IO UInt32 := do
  let bytes ← readAll (← IO.getStdin) .empty
  let host : Host Store := { state := {} }
  let ran := Session.run Store.application .json config.maxFrameBytes.toNat none
    (.whole bytes.toList) host
  let output ← IO.getStdout
  output.write (ByteArray.mk ran.output.toArray)
  output.flush
  match complaint? ran.outcome with
  | none => return 0
  | some text =>
      IO.eprintln ("abci-kvstore: " ++ text)
      return 1

/-- Loads the configuration and serves. -/
def runCommand (args : List String) : IO UInt32 := do
  let settings ← environment
  let found ←
    match Config.path? settings args with
    | none => pure .nothing
    | some (path, _) => find path
  match Config.load? (fun _ => found) settings args with
  | some config => serveStandard config
  | none =>
      IO.eprintln "abci-kvstore: failed to load configuration"
      return 1

end ChainHost

/-- Serves the store; the arguments are flags of the configuration. -/
def main (args : List String) : IO UInt32 := ChainHost.runCommand args
