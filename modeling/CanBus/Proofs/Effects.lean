import CanBus.Channel.Host
import CanBus.Proofs.Calls

namespace CanBus

/-- What an operation does to its host, as a value. -/
structure Effect where
  calls : List SocketCall := []
  taken : Nat := 0
  written : List Frame := []
  /-- What the writes are reported as, in all. -/
  bytes : Nat := 0
  filters : List Filter := []
  closed : List Int32 := []
  timeout : Option Duration := none
  time : Nat := 0
  failures : Nat := 0
  events : List Event := []

namespace Effect

def andThen (e f : Effect) : Effect where
  calls := e.calls ++ f.calls
  taken := e.taken + f.taken
  written := e.written ++ f.written
  bytes := e.bytes + f.bytes
  filters := e.filters ++ f.filters
  closed := e.closed ++ f.closed
  timeout := f.timeout.or e.timeout
  time := e.time + f.time
  failures := e.failures + f.failures
  events := e.events ++ f.events

theorem andThen_assoc (e f g : Effect) : (e.andThen f).andThen g = e.andThen (f.andThen g) := by
  simp only [andThen, Nat.add_assoc, List.append_assoc, Option.or_assoc]

def net (e : Effect) (s : Simulator) : Simulator :=
  { s.entered e.calls with
    inbound := s.inbound.drop e.taken
    written := s.written ++ e.written
    filters := s.filters ++ e.filters
    openHandles := e.closed.foldl (fun handles handle => handles.filter (· != handle))
      s.openHandles
    lastTimeout := e.timeout.or s.lastTimeout
    clock := s.clock + e.time }

def count (e : Effect) (c : Counters) : Counters where
  sentFrames := c.sentFrames + UInt64.ofNat e.written.length
  sentBytes := c.sentBytes + UInt64.ofNat e.bytes
  receivedFrames := c.receivedFrames + UInt64.ofNat e.taken
  errors := c.errors + UInt64.ofNat e.failures

def on (metered : Bool) (e : Effect) (host : Host Simulator) : Host Simulator where
  net := e.net host.net
  counters := if metered then e.count host.counters else host.counters
  log := host.log ++ e.events

theorem net_calls (kinds : List SocketCall) (s : Simulator) :
    ({ calls := kinds } : Effect).net s = s.entered kinds := by
  simp [net, Simulator.entered]

theorem net_nothing (s : Simulator) : ({} : Effect).net s = s := by
  rw [net_calls, Simulator.entered_nil]

theorem count_nothing (c : Counters) : ({} : Effect).count c = c := by
  simp [count]

@[simp] theorem on_nothing (metered : Bool) (host : Host Simulator) :
    ({} : Effect).on metered host = host := by
  simp [on, net_nothing, count_nothing]

theorem net_andThen (e f : Effect) (s : Simulator) : (e.andThen f).net s = f.net (e.net s) := by
  have entered := Simulator.entered_entered e.calls f.calls s
  simp only [Simulator.entered, Simulator.mk.injEq] at entered
  simp only [net, andThen, Simulator.entered, List.drop_drop, List.append_assoc, List.foldl_append,
    Option.or_assoc, Nat.add_assoc, entered]
  rfl

theorem count_andThen (e f : Effect) (c : Counters) :
    (e.andThen f).count c = f.count (e.count c) := by
  simp only [count, andThen, List.length_append, UInt64.ofNat_add, UInt64.add_assoc]

theorem on_andThen (metered : Bool) (e f : Effect) (host : Host Simulator) :
    (e.andThen f).on metered host = f.on metered (e.on metered host) := by
  have told : host.log ++ (e.andThen f).events = host.log ++ e.events ++ f.events :=
    (List.append_assoc _ _ _).symm
  cases metered with
  | false =>
    simp only [on, net_andThen, told]
    rfl
  | true => simp only [on, net_andThen, count_andThen, told, if_true]

theorem on_uncounted {e : Effect} (metered : Bool) (host : Host Simulator) (taken : e.taken = 0)
    (written : e.written = []) (bytes : e.bytes = 0) (failures : e.failures = 0) :
    e.on metered host = { host with net := e.net host.net, log := host.log ++ e.events } := by
  have still : e.count host.counters = host.counters := by
    simp [count, taken, written, bytes, failures]
  simp only [on, still, ite_self]

theorem on_calls (metered : Bool) (kinds : List SocketCall) (host : Host Simulator) :
    ({ calls := kinds } : Effect).on metered host =
      { host with net := host.net.entered kinds } := by
  rw [on_uncounted metered host rfl rfl rfl rfl, net_calls, List.append_nil]

theorem on_passing (metered : Bool) (time : Nat) (host : Host Simulator) :
    ({ time := time } : Effect).on metered host =
      { host with net := { host.net with clock := host.net.clock + time } } := by
  rw [on_uncounted metered host rfl rfl rfl rfl, List.append_nil]
  have net : ({ time := time } : Effect).net host.net =
      { ({} : Effect).net host.net with clock := host.net.clock + time } := rfl
  rw [net, net_nothing]

theorem on_told (metered : Bool) (event : Event) (host : Host Simulator) :
    ({ events := [event] } : Effect).on metered host = host.note event := by
  have net : ({ events := [event] } : Effect).net host.net = ({} : Effect).net host.net := rfl
  rw [on_uncounted metered host rfl rfl rfl rfl, net, net_nothing]
  rfl

theorem on_failed (metered : Bool) (kinds : List SocketCall) (host : Host Simulator) :
    ({ calls := kinds, failures := 1 } : Effect).on metered host =
      Host.count metered Counters.failed { host with net := host.net.entered kinds } := by
  have net : ({ calls := kinds, failures := 1 } : Effect).net host.net =
      ({ calls := kinds } : Effect).net host.net := rfl
  have more : ({ calls := kinds, failures := 1 } : Effect).count host.counters =
      host.counters.failed := by
    simp [count, Counters.failed, Counters.addErrors]
  simp only [on, net, net_calls, more, List.append_nil, Host.count]
  cases metered <;> rfl

end Effect

end CanBus
