/-
  The process of the store: it comes up, serves until it is told to stop, and
  stops.
-/
import ChainHost.Serving.Listener
import ChainHost.Serving.Server
import ChainHost.Store.Basic
import ChainHost.Config.Basic

set_option autoImplicit false

namespace ChainHost.Serving

/-- Why the process fails. -/
inductive LaunchFault where
  | start (fault : StartFault)
  | serve (fault : ServeFault)
  /-- It cannot wait to be told to stop. -/
  | signal (reason : String)
  deriving DecidableEq, Repr

/-- The words for a signal that cannot be waited for. -/
def signalMessage (reason : String) : String :=
  "failed to register termination signals: " ++ reason

/-- A process that has ended. -/
structure Launched where
  fault : Option LaunchFault
  /-- What the peer of each session received. -/
  received : List (List Bytes) := []
  events : List Event
  site : Site

/-- Brings a configuration into force. -/
def start (site : Site) (config : Option Config) :
    Except StartFault Config × Site × List Event :=
  match config with
  | none => (.error .configuration, site, [.starting, .notReady .configuration])
  | some config =>
      match prepare site config.listenSocket with
      | (some fault, site) =>
          (.error (.directory fault), site, [.starting, .notReady (.directory fault)])
      | (none, site) =>
          (.ok config, site,
            [.starting, .ready config.listenSocket config.maxFrameBytes.toNat])

/-- The transport of an endpoint. -/
def transport : Endpoint → Endpoint.Transport
  | .unix _ => .unix
  | .tcp _ _ => .tcp

/-- Runs the process with what its configuration comes to, the streams of its
sessions, and why it cannot wait for its end, if it cannot. -/
def launch (site : Site) (config : Option Config) (streams : List Bytes)
    (signal : Option String) : Launched :=
  match start site config with
  | (.error fault, site, events) => { fault := some (.start fault), events, site }
  | (.ok config, site, events) =>
      match serve site [config.listenSocket] with
      | (.error fault, site, more) =>
          { fault := some (.serve fault), events := events ++ more, site }
      | (.ok listeners, site, more) =>
          let server : Server Store :=
            { host := { state := {} }, limit := config.maxFrameBytes.toNat }
          let (received, later, _) :=
            server.acceptAll Store.application (transport config.listenSocket) streams
          { fault := signal.map .signal, received, events := events ++ more ++ later
            site := Listener.stopAll site listeners }

end ChainHost.Serving
