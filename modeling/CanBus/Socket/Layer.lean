import CanBus.Duration
import CanBus.Message
import CanBus.Socket.Fault

namespace CanBus

inductive SocketCall
  | openSocket
  | interfaceIndex
  | setNonblocking
  | setFilter
  | bind
  | poll
  | read
  | write
  | close
deriving DecidableEq

abbrev Call (σ α : Type) := σ → Except Fault α × σ

structure Layer (σ : Type) where
  openSocket : (protocol : Int32) → Call σ Int32
  interfaceIndex : (handle : Int32) → (name : String) → Call σ Int32
  setNonblocking : (handle : Int32) → Call σ Unit
  setFilter : (handle : Int32) → Filter → Call σ Unit
  bind : (handle : Int32) → (index : Int32) → Call σ Unit
  /-- How many frames, or how much readiness, the handle has within the time. -/
  poll : (handle : Int32) → (timeout : Duration) → Call σ Int32
  read : (handle : Int32) → Call σ Frame
  write : (handle : Int32) → Frame → Call σ Nat
  close : (handle : Int32) → Call σ Unit
  now : σ → Timestamp
  pause : Duration → σ → σ

/-- The same layer, with every successful write reported as `count` bytes if a count is given. -/
def Layer.reporting {σ : Type} (count : Option Nat) (layer : Layer σ) : Layer σ :=
  { layer with
    write := fun handle frame state =>
      match layer.write handle frame state with
      | (.ok written, state) => (.ok (count.getD written), state)
      | (.error fault, state) => (.error fault, state) }

end CanBus
