/-
  Sites: the files, the sockets and the network around a server.

  A site holds directories, files and sockets under names.  `find?` is its view:
  what lies at a location.  The working directory and what lies above it are
  always directories.
-/
import ChainHost.Site.Network
import ChainHost.Site.Path
import ChainHost.Table

set_option autoImplicit false

namespace ChainHost

/-- A place on a site: the names that lead to it from the root. -/
abbrev Location := List String

/-- What lies at a location. -/
inductive Entry where
  | directory
  | file
  /-- A socket that nothing listens on. -/
  | stale
  /-- A socket that something listens on. -/
  | live
  deriving DecidableEq, Repr

/-- The files, the sockets and the network around a server. -/
structure Site where
  /-- The working directory. -/
  here : Location := ["var", "chain"]
  /-- What lies elsewhere. -/
  entries : Table Location Entry := .empty
  network : Network := {}

namespace Site

/-- What lies at a location. -/
def find? (site : Site) (loc : Location) : Option Entry :=
  if loc.isPrefixOf site.here then some .directory else site.entries.find? loc

/-- The site with an entry at a location. -/
def put (site : Site) (loc : Location) (entry : Entry) : Site :=
  { site with entries := site.entries.insert loc entry }

/-- The site with nothing at a location. -/
def remove (site : Site) (loc : Location) : Site :=
  { site with entries := site.entries.erase loc }

/-! ## Following paths -/

/-- Why a path leads nowhere. -/
inductive Obstacle where
  /-- Something on the way is missing. -/
  | missing
  /-- Something on the way is no directory, or the path is no path. -/
  | blocked
  deriving DecidableEq, Repr

/-- Where a segment leads from a location. -/
def follow (site : Site) (loc : Location) (segment : String) : Except Obstacle Location :=
  match site.find? loc with
  | some .directory =>
      if Path.isIdle segment then .ok loc
      else if segment = ".." then .ok loc.dropLast
      else .ok (loc ++ [segment])
  | none => .error .missing
  | some _ => .error .blocked

/-- Where a path leads.  What it names at its end need not exist. -/
def locate (site : Site) (path : String) : Except Obstacle Location :=
  if Path.isUsable path then
    match Path.segments path with
    | "" :: rest => rest.foldlM site.follow []
    | all => all.foldlM site.follow site.here
  else .error .blocked

/-- What a path names. -/
def lookup (site : Site) (path : String) : Option Entry :=
  match site.locate path with
  | .ok loc => site.find? loc
  | .error _ => none

/-- Whether something lies at a path. -/
def exists? (site : Site) (path : String) : Bool := (site.lookup path).isSome

/-- Whether a directory lies at a path. -/
def isDirectory (site : Site) (path : String) : Bool := site.lookup path == some .directory

/-! ## Directories -/

/-- Why a directory is not made. -/
inductive MakeFault where
  /-- Something lies at the path. -/
  | occupied
  | missing
  | blocked
  deriving DecidableEq, Repr

/-- Makes a directory. -/
def makeDirectory (site : Site) (path : String) : Except MakeFault Site :=
  match site.locate path with
  | .error .missing => .error .missing
  | .error .blocked => .error .blocked
  | .ok loc =>
      match site.find? loc with
      | some _ => .error .occupied
      | none =>
          if Path.byteCount (loc.getLastD "") ≤ Path.longestName then .ok (site.put loc .directory)
          else .error .blocked

/-- Makes a directory, if it is not there yet. -/
def ensureDirectory (site : Site) (path : String) : Except MakeFault Site :=
  match site.makeDirectory path with
  | .error .occupied => if site.isDirectory path then .ok site else .error .occupied
  | made => made

/-- Makes the first of some directories, each of which lies in the next, and as
many of the others as that takes.  What was made stays, also after a fault. -/
def ensureDirectories (site : Site) : List String → Option MakeFault × Site
  | [] => (none, site)
  | path :: above =>
      match site.ensureDirectory path with
      | .ok made => (none, made)
      | .error .missing =>
          match site.ensureDirectories above with
          | (some fault, site) => (some fault, site)
          | (none, site) =>
              match site.ensureDirectory path with
              | .ok made => (none, made)
              | .error fault => (some fault, site)
      | .error fault => (some fault, site)

/-! ## Sockets -/

/-- Why a socket is not bound. -/
inductive BindFault where
  /-- Something listens on it. -/
  | inUse
  /-- What lies there is no socket. -/
  | notSocket
  /-- It is there, but nobody can tell whether something listens on it. -/
  | unreachable
  /-- There is no such place, or the path is no address; or the network has no
  address for it. -/
  | refused
  deriving DecidableEq, Repr

/-- Binds a socket at a path and listens on it, in the place of a stale one.  The
empty path binds one that lies nowhere. -/
def bind (site : Site) (path : String) : Except BindFault (Option Location × Site) :=
  match site.locate path with
  | .error _ => if path = "" then .ok (none, site) else .error .refused
  | .ok loc =>
      match site.find? loc with
      | some .directory => .error .notSocket
      | some .file => .error .notSocket
      | some .live => .error (if Path.fitsSocket path then .inUse else .unreachable)
      | some .stale =>
          if Path.fitsSocket path then .ok (some loc, site.put loc .live) else .error .unreachable
      | none =>
          if Path.fitsSocket path then .ok (some loc, site.put loc .live) else .error .refused

/-- Listens on the first address of a host. -/
def listen (site : Site) (host : String) (port : UInt16) : Except BindFault (Address × Site) :=
  match site.network.bind host port with
  | none => .error .refused
  | some (address, network) => .ok (address, { site with network })

/-- The site after an address was given up. -/
def release (site : Site) (address : Option Address) : Site :=
  { site with network := site.network.release address }

/-- What is left when a socket is dropped: nothing listens on it any more. -/
def drop (site : Site) (socket : Option Location) : Site :=
  match socket with
  | none => site
  | some loc => site.put loc .stale

/-- What is left when a socket is closed: nothing. -/
def close (site : Site) (socket : Option Location) : Site :=
  match socket with
  | none => site
  | some loc => site.remove loc

end Site

end ChainHost
