import MockCollector.Duration
import MockCollector.Net.Address
/-!
# Settings of a collector

* `Settings`            where to listen, how many reports may queue, and how long a throttled stream
                        pauses before each span;
* `Settings.standard`   the settings nobody changed;
* `Settings.text`       what they read as.
-/

namespace MockCollector

structure Settings where
  host : IpAddress
  port : UInt16
  queueCapacity : Nat
  throttleDelay : Duration
  deriving DecidableEq, Repr

namespace Settings

def loopback : IpAddress := .v4 ⟨127, 0, 0, 1⟩

def standardQueueCapacity : Nat := 5

def standardThrottleDelay : Duration := .ofMillis 100

def standard : Settings := ⟨loopback, 0, standardQueueCapacity, standardThrottleDelay⟩

/-- a queue holds one report at least -/
def withQueueCapacity (s : Settings) (n : Nat) : Settings := { s with queueCapacity := max n 1 }

def text (s : Settings) : String :=
  "MockSatelliteBuilder \x7b store: None, host: " ++ s.host.text ++ ", port: "
    ++ toString s.port.toNat ++ ", queue_capacity: " ++ toString s.queueCapacity
    ++ ", throttle_delay: " ++ s.throttleDelay.text ++ " \x7d"

end Settings

end MockCollector
