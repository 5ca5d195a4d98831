/-
  Events: what a server tells about itself.
-/
import ChainHost.Serving.Directory
import ChainHost.Session.Run

set_option autoImplicit false

namespace ChainHost.Serving

/-- Why a server does not come up. -/
inductive StartFault where
  /-- There is no configuration. -/
  | configuration
  | directory (fault : DirectoryFault)
  deriving DecidableEq, Repr

/-- What a server tells about itself. -/
inductive Event where
  | starting
  /-- The configuration is in force: where to listen, and how long frames may be. -/
  | ready (endpoint : Endpoint) (limit : Nat)
  | notReady (fault : StartFault)
  | bound (endpoint : Endpoint)
  | notBound (endpoint : Endpoint) (fault : Site.BindFault)
  | opened (session : Nat) (peer : Endpoint.Transport)
  | closed (session : Nat) (outcome : Session.Outcome)
  deriving DecidableEq, Repr

end ChainHost.Serving
