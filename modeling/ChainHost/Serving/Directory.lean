/-
  The directory that a listener's socket lies in.
-/
import ChainHost.Site.Basic
import ChainHost.Endpoint.Basic

set_option autoImplicit false

namespace ChainHost.Serving

/-- Why there is no directory for a socket. -/
inductive DirectoryFault where
  /-- The path is a name alone. -/
  | missingParent (path : String)
  /-- The directory at this path cannot be made. -/
  | notMade (path : String)
  deriving DecidableEq, Repr

/-- The words for a fault. -/
def DirectoryFault.message : DirectoryFault → String
  | missingParent path => "socket path '" ++ path ++ "' has no parent directory"
  | notMade path => "failed to create socket directory '" ++ path ++ "'"

/-- Makes the directory that an endpoint's socket needs.  What lies there and is
no directory is left to the listener to find. -/
def prepare (site : Site) (endpoint : Endpoint) : Option DirectoryFault × Site :=
  match endpoint.unixPath? with
  | none => (none, site)
  | some path =>
      match Path.ancestors path with
      | [] => (some (.missingParent path), site)
      | parent :: above =>
          match site.ensureDirectories (parent :: above) with
          | (none, site) => (none, site)
          | (some .occupied, site) => (none, site)
          | (some _, site) => (some (.notMade parent), site)

end ChainHost.Serving
