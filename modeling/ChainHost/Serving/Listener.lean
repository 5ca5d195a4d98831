/-
  Listeners: endpoints that are bound.

  A list of endpoints is bound in order.  At the first that cannot be bound the
  listeners before it are dropped: nothing listens on their sockets any more,
  and the sockets stay.  Listeners that are stopped take their sockets along.
-/
import ChainHost.Serving.Event

set_option autoImplicit false

namespace ChainHost.Serving

/-- An endpoint that is bound, and where its socket lies or its address. -/
structure Listener where
  endpoint : Endpoint
  socket : Option Location := none
  address : Option Address := none
  deriving DecidableEq, Repr

/-- Why nothing listens. -/
inductive ServeFault where
  | noEndpoints
  | listener (endpoint : Endpoint) (fault : Site.BindFault)
  deriving DecidableEq, Repr

/-- The words for having no endpoints. -/
def noEndpointsMessage : String := "no listening endpoints were supplied"

namespace Listener

/-- Binds an endpoint. -/
def bind (site : Site) (endpoint : Endpoint) : Except Site.BindFault (Listener × Site) :=
  match endpoint with
  | .tcp host port =>
      (site.listen host port).map fun (address, site) => ({ endpoint, address := some address }, site)
  | .unix path => (site.bind path).map fun (socket, site) => ({ endpoint, socket }, site)

/-- Binds endpoints in order, until one cannot be bound: the listeners, what
stopped them, the site, and the events. -/
def bindAll (site : Site) :
    List Endpoint → (List Listener × Option (Endpoint × Site.BindFault)) × Site × List Event
  | [] => (([], none), site, [])
  | endpoint :: rest =>
      match bind site endpoint with
      | .error fault => (([], some (endpoint, fault)), site, [.notBound endpoint fault])
      | .ok (listener, site) =>
          let ((more, stop), site, events) := bindAll site rest
          ((listener :: more, stop), site, .bound endpoint :: events)

/-- The site after a listener was dropped. -/
def drop (site : Site) (l : Listener) : Site := (site.drop l.socket).release l.address

/-- The site after listeners were dropped. -/
def dropAll (site : Site) (listeners : List Listener) : Site := listeners.foldl drop site

/-- The site after a listener was stopped. -/
def stop (site : Site) (l : Listener) : Site := (site.close l.socket).release l.address

/-- The site after listeners were stopped. -/
def stopAll (site : Site) (listeners : List Listener) : Site := listeners.foldl stop site

end Listener

/-- Listens on endpoints, or on none of them. -/
def serve (site : Site) (endpoints : List Endpoint) :
    Except ServeFault (List Listener) × Site × List Event :=
  if endpoints.isEmpty then (.error .noEndpoints, site, [])
  else
    match Listener.bindAll site endpoints with
    | ((listeners, none), site, events) => (.ok listeners, site, events)
    | ((listeners, some (endpoint, fault)), site, events) =>
        (.error (.listener endpoint fault), Listener.dropAll site listeners, events)

/-- A way for a peer to come in. -/
inductive Door where
  /-- A private pair of sockets. -/
  | pair
  | path (path : String)
  | network
  deriving DecidableEq, Repr

/-- Whether a connection to a path reaches one of some listeners. -/
def reaches (site : Site) (listeners : List Listener) (path : String) : Bool :=
  match site.locate path with
  | .error _ => false
  | .ok loc => Path.fitsSocket path && listeners.any fun l => l.socket == some loc

/-- How a peer that comes in by a door is connected, if the door is open.  Sites
are closed to the network. -/
def Door.connect? (site : Site) (listeners : List Listener) : Door → Option Endpoint.Transport
  | pair => some .unix
  | path p => if reaches site listeners p then some .unix else none
  | network => none

end ChainHost.Serving
