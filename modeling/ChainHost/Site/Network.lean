/-
  The network around a site.

  The name of a host is looked up, and the first address that it stands for is
  listened on.  What names stand for and which addresses can be had is for the
  machine to say.  Unless it says otherwise a name stands for itself, and only an
  address that something listens on cannot be had.
-/
set_option autoImplicit false

namespace ChainHost

/-- An address of the network. -/
structure Address where
  host : String
  /-- Port 0 is any port that is free. -/
  port : UInt16
  deriving DecidableEq, Repr

/-- The network around a site. -/
structure Network where
  /-- The addresses that something listens on. -/
  listening : List Address := []
  /-- The hosts that a name stands for, if it can be looked up. -/
  hosts : String → Option (List String) := fun name => some [name]
  /-- The address that is had when one is asked for, beside those that something
  listens on. -/
  grant : List Address → Address → Option Address := fun taken address =>
    if address.port ≠ 0 ∧ address ∈ taken then none else some address

namespace Network

/-- The first address of a host. -/
def resolve (network : Network) (host : String) (port : UInt16) : Option Address :=
  (network.hosts host).bind fun hosts => hosts.head?.map fun first => ⟨first, port⟩

/-- Listens on the first address of a host. -/
def bind (network : Network) (host : String) (port : UInt16) : Option (Address × Network) :=
  (network.resolve host port).bind fun asked =>
    (network.grant network.listening asked).map fun address =>
      (address, { network with listening := address :: network.listening })

/-- The network after an address was given up. -/
def release (network : Network) (address : Option Address) : Network :=
  match address with
  | none => network
  | some address => { network with listening := network.listening.erase address }

end Network

end ChainHost
