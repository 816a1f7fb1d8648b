import CanBus.Proofs.Upkeep

namespace CanBus

namespace Simulator

variable {s : Simulator} {handle : Int32}

def wrote (frame : Frame) (s : Simulator) : Simulator :=
  { s.entered [.write] with written := s.written ++ [frame] }

theorem write_held (frame : Frame) (unset : s.failures .write = none)
    (held : s.isOpen handle = true) : write handle frame s = (.ok frameBytes, s.wrote frame) := by
  unfold write
  rw [call_open unset held]
  rfl

structure Writable (handle : Int32) (s : Simulator) : Prop where
  unset : s.failures .write = none
  held : s.isOpen handle = true

theorem Writable.wrote (writable : s.Writable handle) (frame : Frame) :
    (s.wrote frame).Writable handle where
  unset := by simp [Simulator.wrote]
  held := writable.held

theorem Writable.pause (writable : s.Writable handle) (time : Duration) :
    (s.pause time).Writable handle :=
  ⟨writable.unset, writable.held⟩

end Simulator

namespace Channel

open Simulator (layer)

variable {c : Channel} {host : Host Simulator} {message : Message}

theorem send_succeeds (forceExtended : Bool) (isOpen : c.isOpen = true)
    (short : message.payload.length ≤ maxPayload) (writable : host.net.Writable c.handle) :
    ∃ later, c.send layer message forceExtended host = (.ok frameBytes, later) ∧
      later.net = host.net.wrote (message.sentFrame forceExtended) := by
  have written :=
    Simulator.write_held (message.sentFrame forceExtended) writable.unset writable.held
  have fits : ¬ maxPayload < message.payload.length := Nat.not_lt.mpr short
  simp only [send, isOpen, if_true, fits, if_false, Host.call, layer, written]
  refine ⟨_, rfl, ?_⟩
  rw [Host.net_count, Host.net_note]

theorem sendNext_succeeds (delay : Duration) (forceExtended isFirst : Bool)
    (isOpen : c.isOpen = true) (short : message.payload.length ≤ maxPayload)
    (writable : host.net.Writable c.handle) :
    ∃ later, c.sendNext layer delay forceExtended isFirst message host = (.ok frameBytes, later) ∧
      later.net.written = host.net.written ++ [message.sentFrame forceExtended] ∧
      later.net.Writable c.handle := by
  unfold sendNext
  cases isFirst with
  | true =>
    obtain ⟨later, sent, net⟩ := send_succeeds forceExtended isOpen short writable
    refine ⟨later, sent, ?_⟩
    rw [net]
    exact ⟨rfl, writable.wrote _⟩
  | false =>
    have paused : (host.pause layer delay).net.Writable c.handle := writable.pause delay
    obtain ⟨later, sent, net⟩ := send_succeeds forceExtended isOpen short paused
    refine ⟨later, sent, ?_⟩
    rw [net]
    exact ⟨rfl, paused.wrote _⟩

theorem sendRest_succeeds {messages : List Message} (delay : Duration) (forceExtended : Bool)
    (taken total : Nat) (isOpen : c.isOpen = true)
    (short : ∀ message ∈ messages, message.payload.length ≤ maxPayload)
    (writable : host.net.Writable c.handle) :
    ∃ later, c.sendRest layer delay forceExtended taken total messages host =
        (.ok (total + frameBytes * messages.length), taken + messages.length, later) ∧
      later.net.written =
        host.net.written ++ messages.map fun message => message.sentFrame forceExtended := by
  induction messages generalizing taken total host with
  | nil => exact ⟨_, rfl, (List.append_nil _).symm⟩
  | cons message rest ih =>
    obtain ⟨fits, shortRest⟩ := List.forall_mem_cons.mp short
    obtain ⟨first, sent, wrote, stillWritable⟩ :=
      sendNext_succeeds delay forceExtended (taken == 0) isOpen fits writable
    obtain ⟨later, sentRest, wroteRest⟩ :=
      ih (taken + 1) (total + frameBytes) shortRest stillWritable
    have bytes : total + frameBytes + frameBytes * rest.length =
        total + frameBytes * (rest.length + 1) := by
      rw [Nat.mul_succ]
      omega
    have count : taken + 1 + rest.length = taken + (rest.length + 1) := by omega
    refine ⟨later, ?_, ?_⟩
    · simp only [sendRest, sent, sentRest, bytes, count, List.length_cons]
    · rw [wroteRest, wrote, List.append_assoc]
      rfl

theorem sendBatch_succeeds {messages : List Message} (delay : Option Duration)
    (forceExtended : Bool) (isOpen : c.isOpen = true)
    (short : ∀ message ∈ messages, message.payload.length ≤ maxPayload)
    (writable : host.net.Writable c.handle) :
    ∃ later, c.sendBatch layer messages delay forceExtended host =
        (.ok (frameBytes * messages.length), later) ∧
      later.net.written =
        host.net.written ++ messages.map fun message => message.sentFrame forceExtended := by
  obtain ⟨later, sent, wrote⟩ :=
    sendRest_succeeds (delay.getD c.batchDelay) forceExtended 0 0 isOpen short writable
  refine ⟨later, ?_, wrote⟩
  simp only [sendBatch, sendCounted, isOpen, if_true, sent, Nat.zero_add]

end Channel

end CanBus
