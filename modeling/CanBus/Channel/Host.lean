import CanBus.Channel.Event
import CanBus.Metrics
import CanBus.Socket.Layer

namespace CanBus

structure Host (σ : Type) where
  net : σ
  counters : Counters
  log : List Event

namespace Host

variable {σ α : Type}

def call (call : Call σ α) (host : Host σ) : Except Fault α × Host σ :=
  ((call host.net).1, { host with net := (call host.net).2 })

def note (event : Event) (host : Host σ) : Host σ :=
  { host with log := host.log ++ [event] }

def count (metered : Bool) (change : Counters → Counters) (host : Host σ) : Host σ :=
  if metered then { host with counters := change host.counters } else host

def pause (layer : Layer σ) (time : Duration) (host : Host σ) : Host σ :=
  { host with net := layer.pause time host.net }

end Host

end CanBus
