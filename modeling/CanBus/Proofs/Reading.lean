import CanBus.Proofs.Upkeep

namespace CanBus

def Message.arrival (time : Timestamp) (frame : Frame) : Message := (ofFrame frame).stamped time

namespace Simulator

variable {s : Simulator} {handle : Int32}

theorem read_empty (unset : s.failures .read = none) (isOpen : s.isOpen handle = true)
    (empty : s.inbound = []) : read handle s = (.error .emptyQueue, s.entered [.read]) := by
  unfold read
  rw [call_open unset isOpen]
  simp only [entered_inbound, empty]

theorem read_queued {frame : Frame} {rest : List Frame} (unset : s.failures .read = none)
    (isOpen : s.isOpen handle = true) (queued : s.inbound = frame :: rest) :
    read handle s = (.ok frame, { s.entered [.read] with inbound := rest }) := by
  unfold read
  rw [call_open unset isOpen]
  simp only [entered_inbound, queued]

end Simulator

namespace Channel

section

variable {σ : Type}

theorem readOne_reporting (layer : Layer σ) (count : Option Nat) (c : Channel) (host : Host σ) :
    c.readOne (layer.reporting count) host = c.readOne layer host := rfl

theorem drain_reporting (layer : Layer σ) (count : Option Nat) (c : Channel) (expected left : Nat)
    (got : List Message) (host : Host σ) :
    c.drain (layer.reporting count) expected left got host =
      c.drain layer expected left got host := by
  induction left generalizing got host with
  | zero => rfl
  | succ left ih => simp only [drain, readOne_reporting, ih]

theorem receiveBatch_reporting (layer : Layer σ) (count : Option Nat) (c : Channel)
    (host : Host σ) :
    c.receiveBatch (layer.reporting count) host = c.receiveBatch layer host := by
  simp only [receiveBatch, drain_reporting]

theorem readOne_fails (layer : Layer σ) {c : Channel} {host : Host σ} {fault : Fault} {after : σ}
    (failed : layer.read c.handle host.net = (.error fault, after)) :
    c.readOne layer host = (.error fault, { host with net := after }) := by
  simp only [readOne, Host.call, failed]

theorem readOne_succeeds (layer : Layer σ) {c : Channel} {host : Host σ} {frame : Frame} {after : σ}
    (read : layer.read c.handle host.net = (.ok frame, after)) :
    ∃ later, c.readOne layer host = (.ok (Message.arrival (layer.now after) frame), later) ∧
      later.net = after := by
  simp only [readOne, Host.call, read]
  refine ⟨_, rfl, ?_⟩
  rw [Host.net_count, Host.net_note]

section

variable {layer : Layer σ} {c : Channel} {host : Host σ} {after : σ} {fault : Fault}

section

variable (layer) (expected left : Nat) (got : List Message)

theorem drain_read {frame : Frame} (read : layer.read c.handle host.net = (.ok frame, after)) :
    ∃ later, c.drain layer expected (left + 1) got host =
        c.drain layer expected left (got ++ [Message.arrival (layer.now after) frame]) later ∧
      later.net = after := by
  obtain ⟨later, made, net⟩ := readOne_succeeds layer read
  refine ⟨later, ?_, net⟩
  simp only [drain, made]

theorem drain_stale (soft : fault.wouldBlock = true)
    (failed : layer.read c.handle host.net = (.error fault, after)) :
    ∃ later, c.drain layer expected (left + 1) got host = (.ok got, later) ∧
      later.net = after := by
  simp only [drain, readOne_fails layer failed, soft, if_true]
  exact ⟨_, rfl, rfl⟩

theorem drain_fails (hard : fault.wouldBlock = false)
    (failed : layer.read c.handle host.net = (.error fault, after)) :
    ∃ later, c.drain layer expected (left + 1) got host =
        (.error (.transferFailed .read c.handle fault), later) ∧ later.net = after := by
  simp only [drain, readOne_fails layer failed, hard, Bool.false_eq_true, if_false]
  exact ⟨_, rfl, Host.net_count _ _⟩

end

theorem wait_reports (layer : Layer σ) {c : Channel} {host : Host σ} {after : σ}
    {timeout : Option Duration} {count : Int32} (isOpen : c.isOpen = true)
    (polled : layer.poll c.handle (timeout.getD c.waitTimeout) host.net = (.ok count, after)) :
    ∃ later, c.wait layer timeout host = (.ok (0 < count), { c with pending := count }, later) ∧
      later.net = after := by
  simp only [wait, isOpen, if_true, Host.call, polled, settle]
  exact ⟨_, rfl, rfl⟩

theorem receiveBatch_done {messages : List Message} {later : Host σ} (isOpen : c.isOpen = true)
    (ended : drain layer { c with pending := 0 } c.expected c.expected [] host =
      (.ok messages, later)) :
    c.receiveBatch layer host =
      (.ok messages, { c with pending := 0 },
        later.note (.batchReceived c.handle messages.length)) := by
  simp only [receiveBatch, isOpen, if_true, ended]

theorem receiveBatch_failed {error : ChannelError} {later : Host σ} (isOpen : c.isOpen = true)
    (ended : drain layer { c with pending := 0 } c.expected c.expected [] host =
      (.error error, later)) :
    c.receiveBatch layer host = (.error error, { c with pending := 0 }, later) := by
  simp only [receiveBatch, isOpen, if_true, ended]

theorem receiveBatch_idle (isClosed : c.isOpen = false) :
    c.receiveBatch layer host = (.error (.notOpen c.handle), c, host) := by
  simp only [receiveBatch, isClosed, Bool.false_eq_true, if_false]

end

end

open Simulator (layer)

variable {c : Channel} {host : Host Simulator}

/-- Nothing but the empty queue stops a batch after its first read. -/
theorem drain_queued (expected left : Nat) (got : List Message)
    (unset : host.net.failures .read = none) (held : host.net.isOpen c.handle = true) :
    ∃ later, c.drain layer expected left got host =
        (.ok (got ++ (host.net.inbound.take left).map (Message.arrival host.net.now)), later) ∧
      later.net.inbound = host.net.inbound.drop left := by
  -- a read that went through leaves no failure set and the handle open, so the next one does too
  induction left generalizing got host with
  | zero => exact ⟨host, by simp [drain], rfl⟩
  | succ left ih =>
    cases queued : host.net.inbound with
    | nil =>
      obtain ⟨later, stale, net⟩ := drain_stale layer expected left got rfl
        (Simulator.read_empty unset held queued)
      rw [List.take_nil, List.map_nil, List.append_nil, List.drop_nil]
      exact ⟨later, stale, by rw [net, Simulator.entered_inbound, queued]⟩
    | cons frame rest =>
      obtain ⟨first, made, net⟩ := drain_read layer expected left got
        (Simulator.read_queued unset held queued)
      have stillUnset : first.net.failures .read = none := by
        rw [net]
        simp only [Simulator.entered_failures, List.mem_singleton, if_true]
      have stillHeld : first.net.isOpen c.handle = true := by
        rw [net]
        exact held
      have shorter : first.net.inbound = rest := by rw [net]
      have sameTime : first.net.now = host.net.now := by
        rw [net]
        rfl
      obtain ⟨later, drained, remains⟩ := ih (got ++ [_]) stillUnset stillHeld
      rw [shorter] at drained remains
      refine ⟨later, ?_, remains⟩
      rw [made, drained, sameTime, List.take_succ_cons, List.map_cons, List.append_assoc]
      rfl

end Channel

end CanBus
