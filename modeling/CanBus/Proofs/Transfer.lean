import CanBus.Proofs.Encoding
import CanBus.Proofs.Reading
import CanBus.Proofs.Sending

namespace CanBus

namespace Simulator

variable {s : Simulator} {handle : Int32}

def polled (timeout : Duration) (s : Simulator) : Simulator :=
  { s.entered [.poll] with lastTimeout := some timeout }.pause (s.pollDelay.shorter timeout)

theorem poll_held (timeout : Duration) (unset : s.failures .poll = none)
    (held : s.isOpen handle = true) :
    poll handle timeout s = (.ok s.ready, s.polled timeout) := by
  unfold poll beginPoll
  rw [call_open unset held]
  rfl

theorem queued_toInt (s : Simulator) : s.queued.toInt = min s.inbound.length (2 ^ 31 - 1) := by
  have most : Int32.maxValue.toInt = 2 ^ 31 - 1 := by decide
  unfold queued
  split
  · rename_i fits
    rw [Int32.toInt_ofNat_of_lt (by omega)]
    omega
  · rw [most]
    omega

theorem ready_unscripted (unscripted : s.readyOverride = none) : s.ready = s.queued := by
  rw [ready, unscripted, Option.getD_none]

theorem foldl_push (frames : List Frame) (s : Simulator) :
    frames.foldl (fun s frame => s.push frame) s = { s with inbound := s.inbound ++ frames } := by
  induction frames generalizing s with
  | nil => simp
  | cons frame rest ih =>
    rw [List.foldl_cons, ih]
    simp [push]

end Simulator

namespace Channel

open Simulator (layer)

variable {c : Channel} {host : Host Simulator}

theorem wait_ready (timeout : Option Duration) (isOpen : c.isOpen = true)
    (unset : host.net.failures .poll = none) (held : host.net.isOpen c.handle = true) :
    ∃ later, c.wait layer timeout host =
        (.ok (0 < host.net.ready), { c with pending := host.net.ready }, later) ∧
      later.net = host.net.polled (timeout.getD c.waitTimeout) := by
  exact wait_reports layer isOpen (Simulator.poll_held (timeout.getD c.waitTimeout) unset held)

theorem receiveBatch_queued (isOpen : c.isOpen = true) (unset : host.net.failures .read = none)
    (held : host.net.isOpen c.handle = true) :
    ∃ later, c.receiveBatch layer host =
        (.ok ((host.net.inbound.take c.expected).map (Message.arrival host.net.now)),
          { c with pending := 0 }, later) ∧
      later.net.inbound = host.net.inbound.drop c.expected := by
  obtain ⟨later, drained, queue⟩ := drain_queued (c := { c with pending := 0 }) c.expected
    c.expected [] unset held
  rw [List.nil_append] at drained
  exact ⟨_, receiveBatch_done isOpen drained, queue⟩

theorem wait_receiveBatch_most (timeout : Option Duration) (isOpen : c.isOpen = true)
    (held : host.net.isOpen c.handle = true) (polls : host.net.failures .poll = none)
    (reads : host.net.failures .read = none) (unscripted : host.net.readyOverride = none) :
    let waited := c.wait layer timeout host
    let batch := waited.2.1.receiveBatch layer waited.2.2
    waited.1 = .ok (!host.net.inbound.isEmpty) ∧
      (∃ time, batch.1 =
        .ok ((host.net.inbound.take (2 ^ 31 - 1)).map (Message.arrival time))) ∧
      batch.2.2.net.inbound = host.net.inbound.drop (2 ^ 31 - 1) ∧ batch.2.1.pending = 0 := by
  intro waited batch
  have ready := Simulator.ready_unscripted unscripted
  have count := host.net.queued_toInt
  -- the poll leaves the queue and what the reads depend on
  obtain ⟨first, waits, net⟩ := wait_ready timeout isOpen polls held
  have waitedEq : waited = _ := waits
  have unset : first.net.failures .read = none := by
    rw [net]
    exact reads
  have stillHeld : first.net.isOpen c.handle = true := by
    rw [net]
    exact held
  have queue : first.net.inbound = host.net.inbound := by
    rw [net]
    rfl
  obtain ⟨last, receives, rest⟩ := receiveBatch_queued
    (c := { c with pending := host.net.ready }) isOpen unset stillHeld
  have expected : ({ c with pending := host.net.ready } : Channel).expected =
      min (2 ^ 31 - 1) host.net.inbound.length := by
    simp only [Channel.expected, ready, count]
    omega
  rw [expected, queue] at receives rest
  rw [← List.take_eq_take_min] at receives
  rw [← List.drop_eq_drop_min] at rest
  have same :
      batch = ({ c with pending := host.net.ready } : Channel).receiveBatch layer first := by
    simp only [batch, waitedEq]
  have batchEq := same.trans receives
  have positive : 0 < host.net.ready ↔ host.net.inbound ≠ [] := by
    rw [ready, Int32.lt_iff_toInt_lt, count, Int32.toInt_zero, ← List.length_pos_iff]
    omega
  refine ⟨?_, ?_, ?_, ?_⟩
  · have answer : decide (0 < host.net.ready) = !host.net.inbound.isEmpty := by
      by_cases queued : host.net.inbound = [] <;> simp [positive, queued]
    rw [waitedEq, answer]
  · exact ⟨first.net.now, by rw [batchEq]⟩
  · rw [batchEq]
    exact rest
  · rw [batchEq]

theorem wait_receiveBatch (timeout : Option Duration) (isOpen : c.isOpen = true)
    (held : host.net.isOpen c.handle = true) (polls : host.net.failures .poll = none)
    (reads : host.net.failures .read = none) (unscripted : host.net.readyOverride = none)
    (few : host.net.inbound.length < 2 ^ 31) :
    let waited := c.wait layer timeout host
    let batch := waited.2.1.receiveBatch layer waited.2.2
    waited.1 = .ok (!host.net.inbound.isEmpty) ∧
      (∃ time, batch.1 = .ok (host.net.inbound.map (Message.arrival time))) ∧
      batch.2.2.net.inbound = [] ∧ batch.2.1.pending = 0 := by
  intro waited batch
  have all : host.net.inbound.length ≤ 2 ^ 31 - 1 := by omega
  obtain ⟨waits, receives, rest, used⟩ :=
    wait_receiveBatch_most timeout isOpen held polls reads unscripted
  rw [List.take_of_length_le all] at receives
  rw [List.drop_of_length_le all] at rest
  exact ⟨waits, receives, rest, used⟩

theorem arrivals_readBack {messages : List Message} (forceExtended : Bool) (time : Timestamp)
    (short : ∀ message ∈ messages, message.payload.length ≤ maxPayload) :
    List.Forall₂
      (fun sent received =>
        Message.ReadBack forceExtended sent received ∧ received.stamp.isSome = true)
      messages
      ((messages.map fun message => message.sentFrame forceExtended).map
        (Message.arrival time)) := by
  induction messages with
  | nil => exact .nil
  | cons message rest ih =>
    obtain ⟨fits, shortRest⟩ := List.forall_mem_cons.mp short
    have back := Message.sentFrame_readBack forceExtended fits
    exact .cons ⟨⟨back.raw, back.extended, back.payload, back.remote⟩, rfl⟩ (ih shortRest)

/-- A batch sent over one simulated layer and put into the queue of another, or of the same one,
arrives whole. -/
theorem batch_arrives (sender receiver : Channel) (near far : Host Simulator)
    (messages : List Message) (delay timeout : Option Duration) (forceExtended : Bool)
    (short : ∀ message ∈ messages, message.payload.length ≤ maxPayload)
    (few : messages.length ≤ 2 ^ 31 - 1)
    (senderOpen : sender.isOpen = true) (senderHeld : near.net.isOpen sender.handle = true)
    (writes : near.net.failures .write = none)
    (receiverOpen : receiver.isOpen = true) (receiverHeld : far.net.isOpen receiver.handle = true)
    (empty : far.net.inbound = []) (unscripted : far.net.readyOverride = none)
    (polls : far.net.failures .poll = none) (reads : far.net.failures .read = none) :
    let sent := sender.sendBatch layer messages delay forceExtended near
    let frames := sent.2.net.written.drop near.net.written.length
    let filled := { far with net := frames.foldl (fun net frame => net.push frame) far.net }
    let waited := receiver.wait layer timeout filled
    let batch := waited.2.1.receiveBatch layer waited.2.2
    sent.1 = .ok (frameBytes * messages.length) ∧
      sent.2.net.written = near.net.written ++ frames ∧
      waited.1 = .ok (!messages.isEmpty) ∧
      (∃ received, batch.1 = .ok received ∧
        List.Forall₂
          (fun sent received =>
            Message.ReadBack forceExtended sent received ∧ received.stamp.isSome = true)
          messages received) ∧
      batch.2.2.net.inbound = [] ∧ batch.2.1.pending = 0 := by
  intro sent frames filled waited batch
  obtain ⟨after, sends, written⟩ :=
    sendBatch_succeeds delay forceExtended senderOpen short ⟨writes, senderHeld⟩
  have sentEq : sent = (.ok (frameBytes * messages.length), after) := sends
  have framesEq : frames = messages.map fun message => message.sentFrame forceExtended := by
    simp only [frames, sentEq, written, List.drop_left]
  have net : filled.net = { far.net with inbound := frames } := by
    simp only [filled, Simulator.foldl_push, empty, List.nil_append]
  have held : filled.net.isOpen receiver.handle = true := by
    rw [net]
    exact receiverHeld
  have noPollFailure : filled.net.failures .poll = none := by
    rw [net]
    exact polls
  have noReadFailure : filled.net.failures .read = none := by
    rw [net]
    exact reads
  have noOverride : filled.net.readyOverride = none := by
    rw [net]
    exact unscripted
  have length : filled.net.inbound.length < 2 ^ 31 := by
    simp only [net, framesEq, List.length_map]
    omega
  obtain ⟨waits, ⟨time, receives⟩, rest, used⟩ := wait_receiveBatch timeout
    receiverOpen held noPollFailure noReadFailure noOverride length
  have queue : filled.net.inbound =
      messages.map fun message => message.sentFrame forceExtended := by
    rw [net, framesEq]
  rw [queue] at waits receives
  refine ⟨by rw [sentEq], ?_, ?_, ⟨_, receives, ?_⟩, rest, used⟩
  · rw [framesEq, sentEq, written]
  · rw [List.isEmpty_map] at waits
    exact waits
  · exact arrivals_readBack forceExtended time short

theorem two_messages_arrive :
    let host := ((Bench.start [] false).run
      [.create 0 "mock0" 1 0 Identifier.zero false,
        .create 1 "mock0" 1 0 Identifier.zero false]).host
    let sender : Channel := { fresh "mock0" 1 0 Identifier.zero with handle := 3 }
    let receiver : Channel := { fresh "mock0" 1 0 Identifier.zero with handle := 4 }
    let messages :=
      [Message.ofPayload ⟨0x123, false, by decide⟩ [1, 2, 3],
        Message.request ⟨0x12345, true, by decide⟩ 4]
    let sent := sender.sendBatch layer messages none true host
    let frames := sent.2.net.written.drop host.net.written.length
    let filled := { host with net := frames.foldl (fun net frame => net.push frame) host.net }
    let waited := receiver.wait layer none filled
    let batch := waited.2.1.receiveBatch layer waited.2.2
    waited.1 = .ok true ∧
      ∃ received, batch.1 = .ok received ∧
        List.Forall₂
          (fun sent received =>
            Message.ReadBack true sent received ∧ received.stamp.isSome = true)
          messages received := by
  intro host sender receiver messages sent frames filled waited batch
  obtain ⟨_, _, waits, receives, _⟩ := batch_arrives sender receiver host host messages none none
    true (by decide) (by decide) (by decide) (by decide) (by decide) (by decide) (by decide)
    (by decide) (by decide) (by decide) (by decide)
  exact ⟨waits, receives⟩

end Channel

end CanBus
