import CanBus.Proofs.Effects
import CanBus.Proofs.Reading
import CanBus.Proofs.Slots
import Mathlib.Logic.Function.Basic

namespace CanBus

namespace Simulator

theorem reporting_write (reported : Option Nat) (handle : Int32) (frame : Frame)
    (s : Simulator) :
    (layer.reporting reported).write handle frame s =
      match s.gate .write (some handle) with
      | some fault => (.error fault, s.entered [.write])
      | none =>
        (.ok (reported.getD frameBytes),
          { s.entered [.write] with written := s.written ++ [frame] }) := by
  have same : layer.write handle frame s = write handle frame s := rfl
  simp only [Layer.reporting, same, write, call_eq]
  cases s.gate .write (some handle) <;> rfl

theorem gate_eq_none_iff {kind : SocketCall} {handle : Int32} {s : Simulator} :
    s.gate kind (some handle) = none ↔ s.failures kind = none ∧ s.isOpen handle = true := by
  unfold gate
  cases s.failures kind with
  | some code => simp
  | none => simp

theorem gate_set {kind : SocketCall} {code : Int32} {s : Simulator} (handle : Option Int32)
    (set : s.failures kind = some code) : s.gate kind handle = some (.errno code) := by
  unfold gate
  rw [set]

/-- Nothing that calls of these kinds look at differs. -/
structure Alike (kinds : List SocketCall) (s t : Simulator) : Prop where
  failures : ∀ kind ∈ kinds, s.failures kind = t.failures kind
  openHandles : s.openHandles = t.openHandles
  readyOverride : s.readyOverride = t.readyOverride
  pollDelay : s.pollDelay = t.pollDelay
  inbound : .poll ∈ kinds ∨ .read ∈ kinds → s.inbound = t.inbound

section

variable {kinds : List SocketCall} {s t : Simulator}

theorem Alike.isOpen (alike : Alike kinds s t) (handle : Int32) :
    s.isOpen handle = t.isOpen handle := by
  unfold Simulator.isOpen
  rw [alike.openHandles]

theorem Alike.gate (alike : Alike kinds s t) {kind : SocketCall} (member : kind ∈ kinds)
    (handle : Option Int32) : s.gate kind handle = t.gate kind handle := by
  unfold Simulator.gate
  rw [alike.failures kind member]
  simp only [alike.isOpen]

theorem Alike.ready (alike : Alike kinds s t) (polls : .poll ∈ kinds) : s.ready = t.ready := by
  unfold Simulator.ready queued
  rw [alike.readyOverride, alike.inbound (.inl polls)]

end

theorem layer_poll (handle : Int32) (timeout : Duration) (s : Simulator) :
    layer.poll handle timeout s =
      match s.gate .poll (some handle) with
      | some fault => (.error fault, s.entered [.poll])
      | none =>
        (.ok s.ready,
          { s.entered [.poll] with
            lastTimeout := some timeout
            clock := s.clock + (s.pollDelay.shorter timeout).nanos }) := by
  simp only [layer, poll, beginPoll, call_eq]
  cases s.gate .poll (some handle) <;> rfl

end Simulator

structure Outcome (α : Type) where
  answer : α
  channel : Channel
  effect : Effect

namespace Outcome

variable {α : Type}

def map {β : Type} (f : α → β) (o : Outcome α) : Outcome β := ⟨f o.answer, o.channel, o.effect⟩

def result (o : Outcome α) (metered : Bool) (host : Host Simulator) :
    α × Channel × Host Simulator :=
  (o.answer, o.channel, o.effect.on metered host)

end Outcome

namespace Channel

variable (c : Channel) (s : Simulator)

def closeOutcome : Outcome (Except ChannelError Unit) :=
  if c.isOpen then
    match s.gate .close none with
    | some fault => ⟨.error (.closeFailed c.handle fault), c, { calls := [.close] }⟩
    | none =>
      if s.isOpen c.handle then
        ⟨.ok (), { c with handle := -1 },
          { calls := [.close]
            closed := [c.handle]
            events := [.closed c.interface c.handle] }⟩
      else
        ⟨.error (.closeFailed c.handle (.badHandle c.handle)), c, { calls := [.close] }⟩
  else ⟨.error (.alreadyClosed c.handle), c, {}⟩

def waitOutcome (timeout : Option Duration) : Outcome (Except ChannelError Bool) :=
  if c.isOpen then
    let limit := timeout.getD c.waitTimeout
    match s.gate .poll (some c.handle) with
    | some fault =>
      ⟨.error (.transferFailed .wait c.handle fault), { c with pending := 0 },
        { calls := [.poll], failures := 1 }⟩
    | none =>
      ⟨.ok (0 < s.ready), { c with pending := s.ready },
        { calls := [.poll]
          timeout := some limit
          time := (s.pollDelay.shorter limit).nanos
          events := [.waited c.handle s.ready limit] }⟩
  else ⟨.error (.notOpen c.handle), c, {}⟩

def taking (frames : List Frame) : Effect where
  calls := frames.map fun _ => .read
  taken := frames.length
  events := frames.map fun frame =>
    .received c.handle frame.identifier (Message.ofFrame frame).payload.length

def receiveOutcome : Except ChannelError Frame × Effect :=
  if c.isOpen then
    match s.gate .read (some c.handle), s.inbound with
    | some fault, _ =>
      (.error (.transferFailed .read c.handle fault), { calls := [.read], failures := 1 })
    | none, [] =>
      (.error (.transferFailed .read c.handle .emptyQueue), { calls := [.read], failures := 1 })
    | none, frame :: _ => (.ok frame, c.taking [frame])
  else (.error (.notOpen c.handle), {})

def stopping (expected got : Nat) : Effect where
  calls := [.read]
  events := [.staleCount c.handle expected got]

/-- The reads of a batch. Only the first of them can meet a fault; the queue alone stops the
others. -/
def drainOutcome (expected : Nat) : Except ChannelError (List Frame) × Effect :=
  if expected = 0 then (.ok [], {})
  else
    match s.gate .read (some c.handle) with
    | some fault =>
      if fault.wouldBlock then (.ok [], c.stopping expected 0)
      else (.error (.transferFailed .read c.handle fault), { calls := [.read], failures := 1 })
    | none =>
      (.ok (s.inbound.take expected), (c.taking (s.inbound.take expected)).andThen
        (if s.inbound.length < expected then c.stopping expected s.inbound.length else {}))

def receiveBatchOutcome : Outcome (Except ChannelError (List Frame)) :=
  if c.isOpen then
    match c.drainOutcome s c.expected with
    | (.error error, e) => ⟨.error error, { c with pending := 0 }, e⟩
    | (.ok frames, e) =>
      ⟨.ok frames, { c with pending := 0 },
        e.andThen { events := [.batchReceived c.handle frames.length] }⟩
  else ⟨.error (.notOpen c.handle), c, {}⟩

def filterOutcome (mask id : UInt32) : Outcome (Except ChannelError Unit) :=
  if c.isOpen then
    let word := if id = 0 then c.sender.raw else id
    match s.gate .setFilter (some c.handle) with
    | some fault =>
      ⟨.error (.setupFailed (.filter mask c.handle) fault), c, { calls := [.setFilter] }⟩
    | none =>
      ⟨.ok (), { c with filterMask := mask, filterId := word },
        { calls := [.setFilter]
          filters := [⟨word, mask⟩]
          events := [.filterInstalled c.handle word mask] }⟩
  else ⟨.error (.notOpen c.handle), c, {}⟩

section

variable (reported : Option Nat) (forceExtended : Bool)

def sendOutcome (message : Message) : Except ChannelError Nat × Effect :=
  if c.isOpen then
    if maxPayload < message.payload.length then
      (.error (.payloadTooLong message.payload.length c.handle), {})
    else
      let frame := message.sentFrame forceExtended
      match s.gate .write (some c.handle) with
      | some fault =>
        (.error (.transferFailed .write c.handle fault), { calls := [.write], failures := 1 })
      | none =>
        let written := reported.getD frameBytes
        (.ok written,
          { calls := [.write]
            written := [frame]
            bytes := written
            events := [.sent c.handle frame.word written] })
  else (.error (.notOpen c.handle), {})

/-- The messages left of a batch. A message that went out leaves no fault for the next one, so the
state from before the batch tells what each of them meets. -/
def sendRestOutcome (delay : Duration) :
    (taken total : Nat) → List Message → Except ChannelError Nat × Nat × Effect
  | taken, total, [] => (.ok total, taken, { events := [.batchSent c.interface total] })
  | taken, total, message :: rest =>
    let pause : Effect := { time := if taken == 0 then 0 else delay.nanos }
    match c.sendOutcome s reported forceExtended message with
    | (.error error, e) => (.error error, taken + 1, pause.andThen e)
    | (.ok written, e) =>
      match sendRestOutcome delay (taken + 1) (total + written) rest with
      | (answer, taken, more) => (answer, taken, (pause.andThen e).andThen more)

def sendBatchOutcome (messages : List Message) (delay : Option Duration) :
    Except ChannelError Nat × Nat × Effect :=
  if c.isOpen then
    c.sendRestOutcome s reported forceExtended (delay.getD c.batchDelay) 0 0 messages
  else (.error (.notOpen c.handle), 0, {})

end

open Simulator (layer)

variable {c : Channel}

theorem wait_outcome (timeout : Option Duration) (c : Channel) (host : Host Simulator) :
    c.wait layer timeout host =
      (c.waitOutcome host.net timeout).result c.metered host := by
  unfold wait waitOutcome
  cases c.isOpen with
  | false => simp [Outcome.result]
  | true =>
    simp only [if_true, Host.call, Simulator.layer_poll]
    cases host.net.gate .poll (some c.handle) with
    | some fault => simp only [settle, Outcome.result, Effect.on_failed]
    | none =>
      simp only [settle, Outcome.result]
      rw [Effect.on_uncounted c.metered host rfl rfl rfl rfl]
      simp [Effect.net, Host.note, Simulator.entered]

theorem filter_outcome (mask id : UInt32) (c : Channel) (host : Host Simulator) :
    c.setFilter layer mask id host =
      (c.filterOutcome host.net mask id).result c.metered host := by
  unfold setFilter installFilter filterOutcome
  cases c.isOpen with
  | false => simp [Outcome.result]
  | true =>
    simp only [if_true, Host.call, layer, Simulator.setFilter, Simulator.call_eq]
    cases host.net.gate .setFilter (some c.handle) with
    | some fault => simp only [Outcome.result, Effect.on_calls]
    | none =>
      simp only [Outcome.result]
      rw [Effect.on_uncounted c.metered host rfl rfl rfl rfl]
      simp [Effect.net, Host.note, Simulator.entered]

theorem close_outcome (c : Channel) (host : Host Simulator) :
    c.close layer host =
      (c.closeOutcome host.net).result c.metered host := by
  unfold close closeOutcome
  cases c.isOpen with
  | false => simp [Outcome.result]
  | true =>
    simp only [if_true, Host.call, layer, Simulator.close, Simulator.call_eq]
    cases host.net.gate .close none with
    | some fault => simp only [Outcome.result, Effect.on_calls]
    | none =>
      cases held : host.net.isOpen c.handle with
      | false =>
        simp only [Simulator.isOpen_entered, held, Bool.false_eq_true, if_false, Outcome.result,
          Effect.on_calls]
      | true =>
        simp only [Simulator.isOpen_entered, held, if_true, Outcome.result]
        rw [Effect.on_uncounted c.metered host rfl rfl rfl rfl]
        simp [Effect.net, Host.note, Simulator.entered]

theorem readOne_outcome (c : Channel) (host : Host Simulator) :
    c.readOne layer host =
      match host.net.gate .read (some c.handle), host.net.inbound with
      | some fault, _ => (.error fault, { host with net := host.net.entered [.read] })
      | none, [] => (.error .emptyQueue, { host with net := host.net.entered [.read] })
      | none, frame :: _ =>
        (.ok (Message.arrival host.net.now frame), (c.taking [frame]).on c.metered host) := by
  unfold readOne
  simp only [Host.call, layer, Simulator.read, Simulator.call_eq, Simulator.entered_inbound]
  cases host.net.gate .read (some c.handle) with
  | some fault => rfl
  | none =>
    cases queue : host.net.inbound with
    | nil => rfl
    | cons frame rest =>
      have net : (c.taking [frame]).net host.net =
          { host.net.entered [.read] with inbound := rest } := by
        simp [Effect.net, taking, Simulator.entered, queue]
      have count : (c.taking [frame]).count host.counters = host.counters.received := by
        simp [Effect.count, taking, Counters.received, Counters.addReceivedFrames]
      simp only [Effect.on, net, count, Host.count]
      cases c.metered <;> rfl

theorem receive_outcome (c : Channel) (host : Host Simulator) :
    c.receive layer host =
      ((c.receiveOutcome host.net).1.map (Message.arrival host.net.now),
        (c.receiveOutcome host.net).2.on c.metered host) := by
  unfold receive receiveOutcome
  rw [readOne_outcome]
  cases c.isOpen with
  | false => simp [Except.map]
  | true =>
    simp only [if_true]
    cases host.net.gate .read (some c.handle) with
    | some fault => simp only [readFailed, Except.map, Effect.on_failed]
    | none =>
      cases host.net.inbound with
      | nil => simp only [readFailed, Except.map, Effect.on_failed]
      | cons frame rest => simp only [Except.map]

theorem taking_cons (c : Channel) (frame : Frame) (rest : List Frame) :
    c.taking (frame :: rest) = (c.taking [frame]).andThen (c.taking rest) := by
  simp [taking, Effect.andThen, Nat.add_comm]

theorem on_stopping (c : Channel) (metered : Bool) (expected got : Nat) (host : Host Simulator) :
    (c.stopping expected got).on metered host =
      Host.note (.staleCount c.handle expected got)
        { host with net := host.net.entered [.read] } := by
  rw [Effect.on_uncounted metered host rfl rfl rfl rfl]
  have net : (c.stopping expected got).net host.net = host.net.entered [.read] :=
    Effect.net_calls [.read] host.net
  rw [net]
  rfl

theorem gate_taking (c : Channel) (frames : List Frame) {s : Simulator}
    (passes : s.gate .read (some c.handle) = none) :
    ((c.taking frames).net s).gate .read (some c.handle) = none := by
  obtain ⟨unset, held⟩ := Simulator.gate_eq_none_iff.mp passes
  apply Simulator.gate_eq_none_iff.mpr
  constructor
  · simp [Effect.net, unset]
  · exact held

theorem drain_passes (expected left : Nat) (got : List Message) (c : Channel)
    (host : Host Simulator) (passes : host.net.gate .read (some c.handle) = none) :
    c.drain layer expected left got host =
      (.ok (got ++ (host.net.inbound.take left).map (Message.arrival host.net.now)),
        ((c.taking (host.net.inbound.take left)).andThen
          (if host.net.inbound.length < left then
            c.stopping expected (got.length + host.net.inbound.length) else {})).on c.metered
          host) := by
  -- what lets the first read through lets every read through, until the queue is empty
  induction left generalizing got host with
  | zero =>
    have none : c.taking [] = {} := rfl
    simp [drain, none, Effect.on_andThen]
  | succ left ih =>
    unfold drain
    rw [readOne_outcome, passes]
    cases queue : host.net.inbound with
    | nil =>
      have none : c.taking [] = {} := rfl
      have stale : Fault.wouldBlock .emptyQueue = true := rfl
      simp [none, stale, Effect.on_andThen, on_stopping]
    | cons frame rest =>
      have shorter : ((c.taking [frame]).on c.metered host).net.inbound = rest := by
        simp [Effect.on, Effect.net, taking, queue]
      have sameTime : ((c.taking [frame]).on c.metered host).net.now = host.net.now := rfl
      have first : c.taking (frame :: rest.take left) =
          (c.taking [frame]).andThen (c.taking (rest.take left)) := taking_cons c _ _
      have count : (got ++ [Message.arrival host.net.now frame]).length + rest.length =
          got.length + (frame :: rest).length := by
        simp only [List.length_append, List.length_cons, List.length_nil]
        omega
      simp only []
      rw [ih _ _ (c.gate_taking [frame] passes), shorter, sameTime, List.take_succ_cons, first]
      rw [count]
      simp only [Effect.on_andThen, List.map_cons, List.append_assoc, List.singleton_append,
        List.length_cons, Nat.add_lt_add_iff_right]

theorem drain_outcome (expected : Nat) (c : Channel) (host : Host Simulator) :
    c.drain layer expected expected [] host =
      ((c.drainOutcome host.net expected).1.map (·.map (Message.arrival host.net.now)),
        (c.drainOutcome host.net expected).2.on c.metered host) := by
  unfold drainOutcome
  cases expected with
  | zero => simp [drain, Except.map]
  | succ left =>
    simp only [Nat.succ_ne_zero, if_false]
    cases gate : host.net.gate .read (some c.handle) with
    | none => simp [drain_passes _ _ _ c host gate, Except.map]
    | some fault =>
      simp only [drain, readOne_outcome, gate]
      cases fault.wouldBlock with
      | true => simp [Except.map, on_stopping]
      | false => simp [readFailed, Except.map, Effect.on_failed]

theorem receiveBatch_outcome (c : Channel) (host : Host Simulator) :
    c.receiveBatch layer host =
      ((c.receiveBatchOutcome host.net).answer.map (·.map (Message.arrival host.net.now)),
        (c.receiveBatchOutcome host.net).channel,
        (c.receiveBatchOutcome host.net).effect.on c.metered host) := by
  unfold receiveBatch receiveBatchOutcome
  cases c.isOpen with
  | false => simp [Except.map]
  | true =>
    have drained := drain_outcome c.expected { c with pending := 0 } host
    have same : drainOutcome { c with pending := 0 } host.net c.expected =
      c.drainOutcome host.net c.expected := rfl
    simp only [if_true, drained, same]
    rcases c.drainOutcome host.net c.expected with ⟨error | frames, e⟩
    · rfl
    · simp only [Except.map, Effect.on_andThen, Effect.on_told, List.length_map]

section

variable (reported : Option Nat) (forceExtended : Bool)

theorem send_outcome (message : Message) (c : Channel) (host : Host Simulator) :
    c.send (layer.reporting reported) message forceExtended host =
      ((c.sendOutcome host.net reported forceExtended message).1,
        (c.sendOutcome host.net reported forceExtended message).2.on c.metered host) := by
  unfold send sendOutcome
  cases c.isOpen with
  | false => simp
  | true =>
    simp only [if_true]
    by_cases long : maxPayload < message.payload.length
    · simp [long]
    · simp only [long, if_false, Host.call, Simulator.reporting_write]
      cases host.net.gate .write (some c.handle) with
      | some fault => simp only [Effect.on_failed]
      | none =>
        simp [Effect.on, Effect.net, Effect.count, Host.count, Host.note, Counters.sent,
          Simulator.entered, Counters.addSentFrames, Counters.addSentBytes]
        cases c.metered <;> rfl

theorem sendOutcome_congr {s t : Simulator}
    (same : s.gate .write (some c.handle) = t.gate .write (some c.handle)) (message : Message) :
    c.sendOutcome s reported forceExtended message =
      c.sendOutcome t reported forceExtended message := by
  simp only [sendOutcome, same]

theorem gate_sent {s : Simulator} {message : Message} {written : Nat} {e : Effect} (time : Nat)
    (sent : c.sendOutcome s reported forceExtended message = (.ok written, e)) :
    ((Effect.andThen { time := time } e).net s).gate .write (some c.handle) =
      s.gate .write (some c.handle) := by
  unfold sendOutcome at sent
  split at sent
  · split at sent
    · cases sent
    · simp only [] at sent
      split at sent
      · cases sent
      · rename_i passes
        obtain ⟨unset, held⟩ := Simulator.gate_eq_none_iff.mp passes
        rw [passes, ← (Prod.mk.inj sent).2]
        apply Simulator.gate_eq_none_iff.mpr
        refine ⟨?_, held⟩
        simp [Effect.net, Effect.andThen]
  · cases sent

theorem sendNext_outcome (delay : Duration) (isFirst : Bool) (message : Message) {s : Simulator}
    (host : Host Simulator)
    (same : host.net.gate .write (some c.handle) = s.gate .write (some c.handle)) :
    c.sendNext (layer.reporting reported) delay forceExtended isFirst message host =
      ((c.sendOutcome s reported forceExtended message).1,
        (Effect.andThen { time := if isFirst then 0 else delay.nanos }
          (c.sendOutcome s reported forceExtended message).2).on c.metered host) := by
  unfold sendNext
  rw [Effect.on_andThen, Effect.on_passing, send_outcome, ← sendOutcome_congr _ _ same]
  cases isFirst <;> rfl

theorem sendRest_outcome (delay : Duration) (taken total : Nat) (messages : List Message)
    {s : Simulator} (host : Host Simulator)
    (same : host.net.gate .write (some c.handle) = s.gate .write (some c.handle)) :
    c.sendRest (layer.reporting reported) delay forceExtended taken total messages host =
      ((c.sendRestOutcome s reported forceExtended delay taken total messages).1,
        (c.sendRestOutcome s reported forceExtended delay taken total messages).2.1,
        (c.sendRestOutcome s reported forceExtended delay taken total messages).2.2.on
          c.metered host) := by
  -- `s` stays the state before the batch, while the host goes on
  induction messages generalizing taken total host with
  | nil => simp only [sendRest, sendRestOutcome, Effect.on_told]
  | cons message rest ih =>
    unfold sendRest sendRestOutcome
    rw [sendNext_outcome _ _ _ _ _ _ same]
    cases sent : c.sendOutcome s reported forceExtended message with
    | mk answer e =>
      cases answer with
      | error error => rfl
      | ok written =>
        have again : c.sendOutcome host.net reported forceExtended message = (.ok written, e) :=
          (sendOutcome_congr _ _ same message).trans sent
        have still := gate_sent reported forceExtended (if taken == 0 then 0 else delay.nanos) again
        simp only []
        rw [ih _ _ _ (still.trans same)]
        simp only [Effect.on_andThen]

theorem sendCounted_outcome (messages : List Message) (delay : Option Duration) (c : Channel)
    (host : Host Simulator) :
    c.sendCounted (layer.reporting reported) messages delay forceExtended host =
      ((c.sendBatchOutcome host.net reported forceExtended messages delay).1,
        (c.sendBatchOutcome host.net reported forceExtended messages delay).2.1,
        (c.sendBatchOutcome host.net reported forceExtended messages delay).2.2.on
          c.metered host) := by
  unfold sendCounted sendBatchOutcome
  cases c.isOpen with
  | false => simp
  | true => exact sendRest_outcome _ _ _ _ _ messages host rfl

end

def outcome (reported : Option Nat) (c : Channel) (s : Simulator) :
    ChannelStep → Outcome (Timestamp → Reply)
  | .close => (c.closeOutcome s).map fun result _ => Bench.replyOf (fun _ => .done) result
  | .wait timeout => (c.waitOutcome s timeout).map fun result _ => Bench.replyOf .flag result
  | .receive =>
    ⟨fun time => Bench.replyOf .message ((c.receiveOutcome s).1.map (Message.arrival time)), c,
      (c.receiveOutcome s).2⟩
  | .receiveBatch =>
    (c.receiveBatchOutcome s).map fun result time =>
      Bench.replyOf .messages (result.map (·.map (Message.arrival time)))
  | .send message forceExtended =>
    ⟨fun _ => Bench.replyOf .count (c.sendOutcome s reported forceExtended message).1, c,
      (c.sendOutcome s reported forceExtended message).2⟩
  | .sendBatch messages delay forceExtended =>
    match c.sendBatchOutcome s reported forceExtended messages delay with
    | (result, taken, e) => ⟨fun _ => .batch taken result e.time, c, e⟩
  | .setFilter mask id =>
    (c.filterOutcome s mask id).map fun result _ => Bench.replyOf (fun _ => .done) result
  | .setSender sender => ⟨fun _ => .identifier sender, c.setSender sender, {}⟩
  | .filterMask => ⟨fun _ => .word c.filterMask, c, {}⟩
  | .socket => ⟨fun _ => .handle c.handle, c, {}⟩
  | .info => ⟨fun _ => .info c, c, {}⟩

theorem channel_outcome (reported : Option Nat) (c : Channel) (s : Simulator)
    (step : ChannelStep) :
    let d := (c.outcome reported s step).channel
    d = { c with
      handle := d.handle
      filterMask := d.filterMask
      filterId := d.filterId
      sender := d.sender
      pending := d.pending } := by
  cases step with
  | close =>
    simp only [outcome, Outcome.map, closeOutcome]
    repeat' split
    all_goals rfl
  | wait timeout =>
    simp only [outcome, Outcome.map, waitOutcome]
    repeat' split
    all_goals rfl
  | receiveBatch =>
    simp only [outcome, Outcome.map, receiveBatchOutcome]
    repeat' split
    all_goals rfl
  | setFilter mask id =>
    simp only [outcome, Outcome.map, filterOutcome]
    repeat' split
    all_goals rfl
  | receive | send | sendBatch | setSender | filterMask | socket | info => rfl

theorem metered_outcome (reported : Option Nat) (c : Channel) (s : Simulator)
    (step : ChannelStep) : (c.outcome reported s step).channel.metered = c.metered := by
  rw [channel_outcome reported c s step]

theorem waitTimeout_outcome (reported : Option Nat) (c : Channel) (s : Simulator)
    (step : ChannelStep) : (c.outcome reported s step).channel.waitTimeout = c.waitTimeout := by
  rw [channel_outcome reported c s step]

section

variable {s t : Simulator}

theorem sendRestOutcome_congr (reported : Option Nat) (forceExtended : Bool) (delay : Duration)
    (same : s.gate .write (some c.handle) = t.gate .write (some c.handle)) (taken total : Nat)
    (messages : List Message) :
    c.sendRestOutcome s reported forceExtended delay taken total messages =
      c.sendRestOutcome t reported forceExtended delay taken total messages := by
  induction messages generalizing taken total with
  | nil => rfl
  | cons message rest ih => simp only [sendRestOutcome, sendOutcome_congr _ _ same, ih]

theorem sendRestOutcome_same {d : Channel} (handle : c.handle = d.handle)
    (interface : c.interface = d.interface) (s : Simulator) (reported : Option Nat)
    (forceExtended : Bool) (delay : Duration) (taken total : Nat) (messages : List Message) :
    c.sendRestOutcome s reported forceExtended delay taken total messages =
      d.sendRestOutcome s reported forceExtended delay taken total messages := by
  induction messages generalizing taken total with
  | nil => simp only [sendRestOutcome, interface]
  | cons message rest ih => simp only [sendRestOutcome, sendOutcome, isOpen, handle, ih]

theorem outcome_congr {step : ChannelStep} (alike : Simulator.Alike step.calls s t)
    (reported : Option Nat) (c : Channel) :
    c.outcome reported s step = c.outcome reported t step := by
  have only {kind : SocketCall} : kind ∈ [kind] := List.mem_singleton.mpr rfl
  cases step with
  | close => simp only [outcome, closeOutcome, alike.gate only, alike.isOpen]
  | wait timeout =>
    simp only [outcome, waitOutcome, alike.gate only, alike.ready only, alike.pollDelay]
  | receive => simp only [outcome, receiveOutcome, alike.gate only, alike.inbound (.inr only)]
  | receiveBatch =>
    simp only [outcome, receiveBatchOutcome, drainOutcome, alike.gate only,
      alike.inbound (.inr only)]
  | send message forceExtended =>
    simp only [outcome, sendOutcome_congr _ _ (alike.gate only _)]
  | sendBatch messages delay forceExtended =>
    simp only [outcome, sendBatchOutcome, sendRestOutcome_congr _ _ _ (alike.gate only _)]
  | setFilter mask id => simp only [outcome, filterOutcome, alike.gate only]
  | setSender sender | filterMask | socket | info => rfl

end

end Channel

namespace Bench

variable {b : Bench} {slot : Nat} {c : Channel}

structure Undergoes (b : Bench) (slot : Nat) (metered : Bool) (o : Outcome (Timestamp → Reply))
    (result : Reply × Bench) : Prop where
  reply : result.1 = o.answer b.host.net.now
  host : result.2.host = o.effect.on metered b.host
  channels : result.2.channel? = Function.update b.channel? slot (some o.channel)
  metered : result.2.metered = b.metered
  reported : result.2.reported = b.reported

section

variable {metered : Bool} {o : Outcome (Timestamp → Reply)} {result : Reply × Bench}

theorem Undergoes.channel? (undergoes : b.Undergoes slot metered o result) (other : Nat) :
    result.2.channel? other = if other = slot then some o.channel else b.channel? other := by
  have here := congrFun undergoes.channels other
  rwa [Function.update_apply] at here

theorem Undergoes.here (undergoes : b.Undergoes slot metered o result) :
    result.2.channel? slot = some o.channel := by
  rw [undergoes.channel?, if_pos rfl]

theorem Undergoes.elsewhere (undergoes : b.Undergoes slot metered o result) {other : Nat}
    (apart : other ≠ slot) : result.2.channel? other = b.channel? other := by
  rw [undergoes.channel?, if_neg apart]

end

theorem channels_put (slot : Nat) (c : Channel) (b : Bench) :
    (b.put slot c).channel? = Function.update b.channel? slot (some c) := by
  funext other
  rw [channel?_put, Function.update_apply]

theorem channels_kept (found : b.channel? slot = some c) :
    b.channel? = Function.update b.channel? slot (some c) := by
  rw [← found, Function.update_eq_self]

theorem step_outcome (found : b.channel? slot = some c) (step : ChannelStep) :
    b.Undergoes slot c.metered (c.outcome b.reported b.host.net step)
      (b.step (.channel slot step)) := by
  have kept := channels_kept found
  have placed (c : Channel) := channels_put slot c b
  rw [step_found found]
  cases step with
  | close =>
    have made : c.close b.layer b.host = _ := Channel.close_outcome c b.host
    simp only [channelStep, made, Outcome.result]
    exact ⟨rfl, rfl, placed _, rfl, rfl⟩
  | wait timeout =>
    have made : c.wait b.layer timeout b.host = _ := Channel.wait_outcome timeout c b.host
    simp only [channelStep, made, Outcome.result]
    exact ⟨rfl, rfl, placed _, rfl, rfl⟩
  | receive =>
    have made : c.receive b.layer b.host = _ := Channel.receive_outcome c b.host
    simp only [channelStep, made]
    exact ⟨rfl, rfl, kept, rfl, rfl⟩
  | receiveBatch =>
    simp only [channelStep, layer, Channel.receiveBatch_reporting, Channel.receiveBatch_outcome]
    exact ⟨rfl, rfl, placed _, rfl, rfl⟩
  | send message forceExtended =>
    simp only [channelStep, layer, Channel.send_outcome]
    exact ⟨rfl, rfl, kept, rfl, rfl⟩
  | sendBatch messages delay forceExtended =>
    simp only [channelStep, layer, Channel.sendCounted_outcome]
    refine ⟨?_, rfl, kept, rfl, rfl⟩
    exact congrArg _ (Nat.add_sub_cancel_left _ _)
  | setFilter mask id =>
    have made : c.setFilter b.layer mask id b.host = _ := Channel.filter_outcome mask id c b.host
    simp only [channelStep, made, Outcome.result]
    exact ⟨rfl, rfl, placed _, rfl, rfl⟩
  | setSender sender =>
    refine ⟨rfl, ?_, placed _, rfl, rfl⟩
    exact (Effect.on_nothing _ _).symm
  | filterMask | socket | info =>
    refine ⟨rfl, ?_, kept, rfl, rfl⟩
    exact (Effect.on_nothing _ _).symm

end Bench

end CanBus
