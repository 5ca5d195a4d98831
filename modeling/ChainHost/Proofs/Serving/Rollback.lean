/-
  What a call leaves that cannot bind all its endpoints.

  Binding keeps to free locations, and all that it changes is that something listens there
  and on the addresses that it was given.  Dropping takes that back but for the sockets,
  which stay as stale ones.  So no failed call leaves anything that listens, but each
  leaves the sockets of the endpoints in front of the one that failed.
-/
import ChainHost.Serving.Listener
import ChainHost.Proofs.Site.Basic
import Mathlib.Data.List.Basic

set_option autoImplicit false

namespace ChainHost.Serving

/-- Where the socket of an endpoint lies, if it has one that lies somewhere. -/
def socketOf (site : Site) : Endpoint → Option Location
  | .unix path => (site.locate path).toOption
  | .tcp _ _ => none

theorem socketOf_of_same {site other : Site} (h : site.SameDirectories other) :
    socketOf other = socketOf site := by
  funext endpoint
  cases endpoint with
  | unix path => exact Site.toOption_locate_of_same h path
  | tcp host port => rfl

namespace Listener

/-! ## Binding one endpoint -/

/-- What binding an endpoint changes. -/
structure Binds (site : Site) (endpoint : Endpoint) (l : Listener) (after : Site) : Prop where
  names : l.endpoint = endpoint
  lies : l.socket = socketOf site endpoint
  free : ∀ loc, l.socket = some loc → site.Free loc
  same : site.SameDirectories after
  found : ∀ loc, after.find? loc = if l.socket = some loc then some .live else site.find? loc
  network : after.network
    = { site.network with listening := l.address.toList ++ site.network.listening }

theorem binds_of_bind {site after : Site} {endpoint : Endpoint} {l : Listener}
    (h : bind site endpoint = .ok (l, after)) : Binds site endpoint l after := by
  cases endpoint with
  | tcp host port =>
      obtain ⟨⟨address, listened⟩, hlisten, hbound⟩ := exists_of_map_eq_ok h
      cases hbound
      rw [Site.listen_eq_ok hlisten]
      exact ⟨rfl, rfl, fun _ hloc => (by cases hloc), ⟨rfl, fun loc => Iff.rfl⟩,
        fun loc => rfl, rfl⟩
  | unix path =>
      obtain ⟨⟨socket, bound⟩, hbind, hbound⟩ := exists_of_map_eq_ok h
      cases hbound
      obtain ⟨hsocket, hchange⟩ := Site.bind_eq_ok hbind
      cases socket with
      | none =>
          rw [show after = site from hchange]
          exact ⟨rfl, hsocket, fun _ hloc => (by cases hloc), ⟨rfl, fun loc => Iff.rfl⟩,
            fun loc => rfl, rfl⟩
      | some loc =>
          obtain ⟨hfree, rfl⟩ := hchange
          refine ⟨rfl, hsocket, fun other hother => ?_, .put hfree.no_directory (by decide),
            fun other => ?_, rfl⟩
          · rw [← Option.some.inj hother]
            exact hfree
          · rw [Site.find?_put hfree.no_directory]
            simp only [Option.some.injEq]

/-! ## Binding in order -/

/-- Where the sockets of listeners lie. -/
def sockets (listeners : List Listener) : List Location := listeners.filterMap (·.socket)

/-- The addresses of listeners. -/
def addresses (listeners : List Listener) : List Address := listeners.filterMap (·.address)

theorem sockets_cons (l : Listener) (listeners : List Listener) :
    sockets (l :: listeners) = l.socket.toList ++ sockets listeners := by
  unfold sockets
  cases hl : l.socket <;> simp [hl]

theorem mem_sockets_cons {l : Listener} {listeners : List Listener} {loc : Location} :
    loc ∈ sockets (l :: listeners) ↔ l.socket = some loc ∨ loc ∈ sockets listeners := by
  simp [sockets]

theorem addresses_cons (l : Listener) (listeners : List Listener) :
    addresses (l :: listeners) = l.address.toList ++ addresses listeners := by
  unfold addresses
  cases hl : l.address <;> simp [hl]

/-- What binding endpoints in order changes, until one cannot be bound. -/
structure BindsAll (site : Site) (endpoints : List Endpoint) (listeners : List Listener)
    (stop : Option (Endpoint × Site.BindFault)) (after : Site) (events : List Event) : Prop where
  reached : match stop with
    | none => endpoints = listeners.map (·.endpoint)
    | some (endpoint, _) => ∃ rest, endpoints = listeners.map (·.endpoint) ++ endpoint :: rest
  told : events = listeners.map (fun l => .bound l.endpoint)
    ++ stop.toList.map fun (endpoint, fault) => .notBound endpoint fault
  lie : sockets listeners = (listeners.map (·.endpoint)).filterMap (socketOf site)
  free : ∀ loc ∈ sockets listeners, site.Free loc
  found : ∀ loc, after.find? loc
    = if loc ∈ sockets listeners then some .live else site.find? loc
  network : after.network = { site.network with
    listening := (addresses listeners).reverse ++ site.network.listening }

/-- An endpoint is bound, and then the others on the site that this leaves. -/
theorem BindsAll.cons {site bound after : Site} {endpoint : Endpoint} {rest : List Endpoint}
    {l : Listener} {listeners : List Listener} {stop : Option (Endpoint × Site.BindFault)}
    {events : List Event} (hone : Binds site endpoint l bound)
    (hall : BindsAll bound rest listeners stop after events) :
    BindsAll site (endpoint :: rest) (l :: listeners) stop after (.bound endpoint :: events) where
  reached := by
    have hreached := hall.reached
    cases stop with
    | none => simp [hreached, hone.names]
    | some stopped =>
        obtain ⟨behind, hbehind⟩ := hreached
        exact ⟨behind, by simp [hbehind, hone.names]⟩
  told := by simp [hall.told, hone.names]
  lie := by
    rw [sockets_cons, hall.lie, hone.lies, socketOf_of_same hone.same, List.map_cons, hone.names]
    cases hplace : socketOf site endpoint <;> simp [hplace]
  free := by
    intro loc hloc
    by_cases hsocket : l.socket = some loc
    · exact hone.free loc hsocket
    · -- The first socket changed nothing here, so what is free now was free before.
      have hlater := (mem_sockets_cons.mp hloc).resolve_left hsocket
      have hbound := hall.free loc hlater
      rwa [Site.Free, hone.found, if_neg hsocket] at hbound
  found := by
    intro loc
    rw [hall.found, hone.found]
    simp only [mem_sockets_cons]
    by_cases hlater : loc ∈ sockets listeners <;> simp [hlater]
  network := by
    rw [hall.network, hone.network, addresses_cons]
    cases l.address <;> simp

theorem bindsAll_of_bindAll {site after : Site} {endpoints : List Endpoint}
    {listeners : List Listener} {stop : Option (Endpoint × Site.BindFault)} {events : List Event}
    (h : bindAll site endpoints = ((listeners, stop), after, events)) :
    BindsAll site endpoints listeners stop after events := by
  induction endpoints generalizing site listeners events with
  | nil =>
      cases h
      exact ⟨rfl, rfl, rfl, fun _ hloc => (by cases hloc), fun loc => rfl, rfl⟩
  | cons endpoint rest ih =>
      unfold bindAll at h
      split at h
      · next fault hbind =>
          cases h
          exact ⟨⟨rest, rfl⟩, rfl, rfl, fun _ hloc => (by cases hloc), fun loc => rfl, rfl⟩
      · next l bound hbind =>
          generalize hrest : bindAll bound rest = result at h
          obtain ⟨⟨more, stopped⟩, last, later⟩ := result
          cases h
          exact (ih hrest).cons (binds_of_bind hbind)

/-! ## Dropping -/

theorem dropAll_cons (site : Site) (l : Listener) (listeners : List Listener) :
    dropAll site (l :: listeners) = dropAll (drop site l) listeners := rfl

/-- Dropped listeners leave stale sockets. -/
theorem find?_dropAll {site : Site} {listeners : List Listener}
    (h : ∀ loc ∈ sockets listeners, site.find? loc ≠ some .directory) (loc : Location) :
    (dropAll site listeners).find? loc
      = if loc ∈ sockets listeners then some .stale else site.find? loc := by
  induction listeners generalizing site with
  | nil => rfl
  | cons l rest ih =>
      have hdrop : ∀ other, (drop site l).find? other
          = if l.socket = some other then some .stale else site.find? other :=
        Site.find?_drop fun other hother => h other (mem_sockets_cons.mpr (.inl hother))
      have hrest : ∀ other ∈ sockets rest, (drop site l).find? other ≠ some .directory := by
        intro other hother
        rw [hdrop]
        split
        · exact fun heq => by cases heq
        · exact h other (mem_sockets_cons.mpr (.inr hother))
      rw [dropAll_cons, ih hrest, hdrop]
      simp only [mem_sockets_cons]
      by_cases hlater : loc ∈ sockets rest <;> simp [hlater]

theorem network_drop (site : Site) (l : Listener) : (drop site l).network = { site.network with
    listening := site.network.listening.diff l.address.toList } := by
  have hdrop : (drop site l).network = site.network.release l.address := by
    unfold drop
    cases l.socket <;> rfl
  rw [hdrop]
  cases l.address with
  | none => rfl
  | some address => simp [Network.release]

/-- Dropped listeners give up their addresses. -/
theorem network_dropAll (site : Site) (listeners : List Listener) :
    (dropAll site listeners).network = { site.network with
      listening := site.network.listening.diff (addresses listeners) } := by
  induction listeners generalizing site with
  | nil => rfl
  | cons l rest ih => rw [dropAll_cons, ih, network_drop, addresses_cons, List.diff_append]

/-- Elements that were put in front one by one can be taken away in that order. -/
theorem diff_reverse_append {α : Type} [DecidableEq α] (xs ys : List α) :
    (xs.reverse ++ ys).diff xs = ys := by
  induction xs generalizing ys with
  | nil => rfl
  | cons x rest ih =>
      rw [List.reverse_cons, List.append_assoc, List.diff_cons_right, ih]
      exact List.erase_cons_head ..

end Listener

/-! ## Calls that fail -/

/-- What a call leaves of a site that has bound some endpoints and could not bind the
next. -/
structure GivenUp (site : Site) (bound : List Endpoint) (after : Site) : Prop where
  /-- What listens on the network did so before. -/
  network : after.network = site.network
  /-- So does what listens on sockets. -/
  live : ∀ loc, after.find? loc = some .live ↔ site.find? loc = some .live
  /-- What was no stale socket is as it was. -/
  kept : ∀ loc entry, site.find? loc = some entry → entry ≠ .stale →
    after.find? loc = some entry
  /-- The sockets of the endpoints that were bound are left as stale ones, and all else is
  as it was. -/
  left : ∀ loc, after.find? loc
    = if loc ∈ bound.filterMap (socketOf site) then some .stale else site.find? loc

theorem givenUp_of_bindsAll {site after : Site} {endpoints : List Endpoint}
    {listeners : List Listener} {stop : Option (Endpoint × Site.BindFault)} {events : List Event}
    (h : Listener.BindsAll site endpoints listeners stop after events) :
    GivenUp site (listeners.map (·.endpoint)) (Listener.dropAll after listeners) := by
  have hlive : ∀ loc ∈ Listener.sockets listeners, after.find? loc = some .live :=
    fun loc hloc => by rw [h.found, if_pos hloc]
  have hleft : ∀ loc, (Listener.dropAll after listeners).find? loc
      = if loc ∈ Listener.sockets listeners then some .stale else site.find? loc := by
    intro loc
    rw [Listener.find?_dropAll fun loc hloc => by simp [hlive loc hloc], h.found]
    split <;> rfl
  refine ⟨?_, ?_, ?_, ?_⟩
  · rw [Listener.network_dropAll, h.network]
    simp only [Listener.diff_reverse_append]
  · intro loc
    rw [hleft]
    split
    · next hloc =>
        rcases h.free loc hloc with hfree | hfree <;> simp [hfree]
    · exact Iff.rfl
  · intro loc entry hentry hstale
    rw [hleft, if_neg, hentry]
    intro hloc
    rcases h.free loc hloc with hfree | hfree
    · rw [hfree] at hentry
      cases hentry
    · rw [hfree] at hentry
      exact hstale (Option.some.inj hentry).symm
  · rw [← h.lie]
    exact hleft

/-- **Calls that fail leave nothing that listens.**  If an endpoint cannot be bound, those
in front of it were, and nothing listens that did not before; no live socket and nothing
that is no socket was touched.  But the sockets in front stay as stale ones. -/
theorem serve_gives_up {site after : Site} {endpoints : List Endpoint} {endpoint : Endpoint}
    {fault : Site.BindFault} {events : List Event}
    (h : serve site endpoints = (.error (.listener endpoint fault), after, events)) :
    ∃ bound rest, endpoints = bound ++ endpoint :: rest
      ∧ events = bound.map .bound ++ [.notBound endpoint fault]
      ∧ GivenUp site bound after := by
  unfold serve at h
  split at h
  · cases h
  · split at h
    · cases h
    · next listeners stopped fault' bound told hbind =>
        cases h
        have hall := Listener.bindsAll_of_bindAll hbind
        obtain ⟨rest, hrest⟩ := hall.reached
        refine ⟨listeners.map (·.endpoint), rest, hrest, ?_, givenUp_of_bindsAll hall⟩
        rw [hall.told, List.map_map]
        rfl

/-- A port that something listens on stops the endpoints in front of it. -/
theorem serve_gives_up_port :
    let site : Site := { network := { listening := [⟨"localhost", 26658⟩] } }
    let endpoints := [.unix "a.sock", .tcp "localhost" 0, .tcp "localhost" 26658]
    let (result, after, events) := serve site endpoints
    result = .error (.listener (.tcp "localhost" 26658) .refused)
      ∧ ∃ bound rest, endpoints = bound ++ .tcp "localhost" 26658 :: rest
        ∧ events = bound.map .bound ++ [.notBound (.tcp "localhost" 26658) .refused]
        ∧ GivenUp site bound after := by
  intro site endpoints
  have hresult : (serve site endpoints).1
      = .error (.listener (.tcp "localhost" 26658) .refused) := by rfl
  exact ⟨hresult, serve_gives_up (Prod.ext hresult rfl)⟩

/-- The socket of the first endpoint stays when a file is in the place of the second. -/
theorem bound_socket_remains :
    let site : Site := ({} : Site).put ["var", "chain", "f"] .file
    ∃ after events,
      serve site [.unix "a.sock", .unix "f"]
          = (.error (.listener (.unix "f") .notSocket), after, events)
        ∧ site.lookup "a.sock" = none ∧ after.lookup "a.sock" = some .stale := by
  intro site
  exact ⟨_, _, rfl, rfl, rfl⟩

end ChainHost.Serving
