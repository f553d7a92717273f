import MockCollector.Net.Network
import MockCollector.Server.Basic
/-!
# Bringing a server up

Before it runs, a server is a plan, in which one thing after the other can be set.

* `Setting`                   one thing that is set;
* `Plan.standard`             the plan in which nothing was set;
* `Plan.set`, `Plan.setAll`   set one thing, or one after the other;
* `Plan.launch refusal? p`    brings up the server of a plan; `refusal?` tells where one cannot listen, and why;
* `Launch`                    what comes of it.

That one cannot listen is an error.  A capacity that no queue can have is not: it is a panic.
-/

namespace MockCollector

inductive Setting where
  | host (a : IpAddress)
  | port (n : UInt16)
  | queueCapacity (n : UInt64)
  | throttleDelay (d : Duration)
  | store (s : ReportStore)
  deriving DecidableEq

structure Plan where
  settings : Settings
  /-- a store that is there already -/
  store? : Option ReportStore
  deriving DecidableEq

inductive Launch where
  | up (s : Server)
  | failed (e : CollectorError)
  | panicked (e : CapacityError)
  deriving DecidableEq

namespace Plan

def standard : Plan := ⟨Settings.standard, none⟩

def set (p : Plan) : Setting → Plan
  | .host a => { p with settings := { p.settings with host := a } }
  | .port n => { p with settings := { p.settings with port := n } }
  | .queueCapacity n => { p with settings := p.settings.withQueueCapacity n.toNat }
  | .throttleDelay d => { p with settings := { p.settings with throttleDelay := d } }
  | .store s => { p with store? := some s }

def setAll (p : Plan) (calls : List Setting) : Plan := calls.foldl set p

def address (p : Plan) : SocketAddress := .of p.settings.port p.settings.host

def store (p : Plan) : ReportStore := p.store?.getD .empty

def launch (refusal? : SocketAddress → Option String) (p : Plan) : Launch :=
  match refusal? p.address with
  | some cause => .failed (.bind p.address cause)
  | none =>
    match Server.start p.settings p.store with
    | .error e => .panicked e
    | .ok s => .up s

end Plan

end MockCollector
