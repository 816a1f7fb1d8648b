import CanBus.Bench.Step
import CanBus.Proofs.Calls

namespace CanBus

namespace Simulator

def closed (handle : Int32) (s : Simulator) : Simulator :=
  { s.entered [.close] with openHandles := s.openHandles.filter (· != handle) }

theorem close_injected {s : Simulator} {code : Int32} (handle : Int32)
    (set : s.failures .close = some code) :
    close handle s = (.error (.errno code), s.entered [.close]) :=
  call_injected set

theorem close_open {s : Simulator} {handle : Int32} (unset : s.failures .close = none)
    (isOpen : s.isOpen handle = true) : close handle s = (.ok (), s.closed handle) := by
  unfold close
  rw [call_free unset, isOpen_entered, isOpen]
  rfl

end Simulator

namespace Channel

open Simulator (layer)

variable {c : Channel} {host : Host Simulator}

theorem close_succeeds (isOpen : c.isOpen = true) (unset : host.net.failures .close = none)
    (held : host.net.isOpen c.handle = true) :
    c.close layer host =
      (.ok (), { c with handle := -1 },
        { host with
          net := host.net.closed c.handle
          log := host.log ++ [.closed c.interface c.handle] }) := by
  simp only [close, isOpen, if_true, Host.call, layer, Simulator.close_open unset held]
  rfl

theorem close_fails {code : Int32} (isOpen : c.isOpen = true)
    (set : host.net.failures .close = some code) :
    c.close layer host =
      (.error (.closeFailed c.handle (.errno code)), c,
        { host with net := host.net.entered [.close] }) := by
  simp only [close, isOpen, if_true, Host.call, layer, Simulator.close_injected _ set]

theorem close_idle (isClosed : c.isOpen = false) :
    c.close layer host = (.error (.alreadyClosed c.handle), c, host) := by
  simp only [close, isClosed, Bool.false_eq_true, if_false]

theorem drop_succeeds (isOpen : c.isOpen = true) (unset : host.net.failures .close = none)
    (held : host.net.isOpen c.handle = true) :
    c.drop layer host =
      { host with
        net := host.net.closed c.handle
        log := host.log ++ [.closed c.interface c.handle] } := by
  simp only [drop, isOpen, if_true, close_succeeds isOpen unset held]

theorem drop_fails {code : Int32} (isOpen : c.isOpen = true)
    (set : host.net.failures .close = some code) :
    c.drop layer host =
      { host with
        net := host.net.entered [.close]
        log := host.log ++
          [.closeOnDropFailed c.interface (.closeFailed c.handle (.errno code))] } := by
  simp only [drop, isOpen, if_true, close_fails isOpen set]
  rfl

theorem drop_idle (isClosed : c.isOpen = false) : c.drop layer host = host := by
  simp only [drop, isClosed, Bool.false_eq_true, if_false]

theorem drop_reporting {σ : Type} (layer : Layer σ) (count : Option Nat) (c : Channel)
    (host : Host σ) : c.drop (layer.reporting count) host = c.drop layer host := rfl

theorem close_reporting {σ : Type} (layer : Layer σ) (count : Option Nat) (c : Channel)
    (host : Host σ) : c.close (layer.reporting count) host = c.close layer host := rfl

end Channel

end CanBus
