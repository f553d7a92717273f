import MockCollector.Net.Address
/-!
# Networks

* `Network`         what the network of a machine lets through;
* `Network.up`      one that stands in nobody's way;
* `Network.down`    one of which no interface is up;
* `Network.refusal?`   why one cannot listen at an address, if one cannot.
-/

namespace MockCollector

structure Network where
  /-- where one can listen -/
  binds : IpAddress → Bool
  /-- whether clients get through to whoever listens -/
  connects : Bool

namespace Network

def up : Network := ⟨fun _ => true, true⟩

/-- While no interface is up, nothing is known of where an address of version four belongs, and none is
turned down, in whichever form it is given.  One of version six has to belong to an interface, and only
the one that stands for all of them is left. -/
def down : Network where
  binds
    | .v4 _ => true
    | .v6 a => a.isMapped || a.groups.toList.all (· == 0)
  connects := false

def refusal? (n : Network) (a : SocketAddress) : Option String :=
  if n.binds a.host then none else some "Cannot assign requested address (os error 99)"

end Network

end MockCollector
