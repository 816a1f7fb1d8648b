import CanBus.Proofs.Outcomes

namespace CanBus

namespace Event

def sent? : Event → Option (UInt32 × Nat)
  | sent _ word written => some (word, written)
  | _ => none

def received? : Event → Option (String × Nat)
  | received _ id length => some (id.text, length)
  | _ => none

def installed? : Event → Option Filter
  | filterInstalled _ id mask => some ⟨id, mask⟩
  | _ => none

def closed? : Event → Option Int32
  | closed _ socket => some socket
  | _ => none

def stale? : Event → Option (Int32 × Nat × Nat)
  | staleCount socket expected read => some (socket, expected, read)
  | _ => none

theorem kind_by_text (event : Event) :
    (event.sent?.isSome ↔ event.text = "frame sent") ∧
      (event.received?.isSome ↔ event.text = "frame received") ∧
      (event.installed?.isSome ↔ event.text = "CAN filter installed") ∧
      (event.closed?.isSome ↔ event.text = "CAN channel closed") ∧
      (event.stale?.isSome ↔ event.text = "pending count was stale") ∧
      (event.stale?.isSome → event.level = .warn) := by
  cases event <;> simp [text, level, sent?, received?, installed?, closed?, stale?]

end Event

structure Digest where
  sent : List (UInt32 × Nat) := []
  received : List (String × Nat) := []
  installed : List Filter := []
  closed : List Int32 := []
  /-- The socket, the count that the batch went by, and how many frames it found. -/
  stale : List (Int32 × Nat × Nat) := []

namespace Digest

def of (log : List Event) : Digest where
  sent := log.filterMap Event.sent?
  received := log.filterMap Event.received?
  installed := log.filterMap Event.installed?
  closed := log.filterMap Event.closed?
  stale := log.filterMap Event.stale?

def andThen (d e : Digest) : Digest where
  sent := d.sent ++ e.sent
  received := d.received ++ e.received
  installed := d.installed ++ e.installed
  closed := d.closed ++ e.closed
  stale := d.stale ++ e.stale

theorem andThen_assoc (d e f : Digest) :
    (d.andThen e).andThen f = d.andThen (e.andThen f) := by
  simp only [andThen, List.append_assoc]

theorem andThen_nothing (d : Digest) : d.andThen {} = d := by
  simp only [andThen, List.append_nil]

theorem of_append (log more : List Event) : of (log ++ more) = (of log).andThen (of more) := by
  simp only [of, andThen, List.filterMap_append]

end Digest

def Frame.told (frame : Frame) : String × Nat :=
  ((Message.ofFrame frame).id.text, (Message.ofFrame frame).payload.length)

namespace Effect

variable {e f : Effect} {queue : List Frame} {closed : List Int32}
variable {stale more : List (Int32 × Nat × Nat)}

/-- The events of the effect tell what it does. Its frames come from this queue. -/
structure Tells (e : Effect) (queue : List Frame) (closed : List Int32)
    (stale : List (Int32 × Nat × Nat)) : Prop where
  closes : e.closed = closed
  events : Digest.of e.events =
    { sent := e.written.map fun frame => (frame.word, frameBytes)
      received := (queue.take e.taken).map Frame.told
      installed := e.filters
      closed := closed
      stale := stale }

theorem Tells.andThen (first : e.Tells queue closed stale)
    (second : f.Tells (queue.drop e.taken) [] more) :
    (e.andThen f).Tells queue closed (stale ++ more) where
  closes := by
    simp only [Effect.andThen, first.closes, second.closes, List.append_nil]
  events := by
    simp only [Effect.andThen, Digest.of_append, first.events, second.events, Digest.andThen,
      List.map_append, List.take_add, List.append_nil]

end Effect

/-- The batch that found fewer frames than the count it went by, if the step was one. -/
def ChannelStep.shortfall (c : Channel) : ChannelStep → Reply → List (Int32 × Nat × Nat)
  | receiveBatch, .messages messages =>
    if (messages.length : Int) < c.pending.toInt then
      [(c.handle, c.pending.toInt.toNat, messages.length)]
    else []
  | _, _ => []

namespace Channel

open Effect (Tells)

variable (c : Channel) (s : Simulator)

theorem closeOutcome_tells :
    (c.closeOutcome s).effect.Tells s.inbound [] [] ∨
      c.handle ∈ s.openHandles ∧ (c.closeOutcome s).effect.Tells s.inbound [c.handle] [] := by
  unfold closeOutcome
  cases c.isOpen with
  | false => exact .inl ⟨rfl, rfl⟩
  | true =>
    cases s.gate .close none with
    | some fault => exact .inl ⟨rfl, rfl⟩
    | none =>
      cases held : s.isOpen c.handle with
      | true => exact .inr ⟨Simulator.isOpen_iff.mp held, rfl, rfl⟩
      | false => exact .inl ⟨rfl, rfl⟩

theorem waitOutcome_tells (timeout : Option Duration) :
    (c.waitOutcome s timeout).effect.Tells s.inbound [] [] := by
  unfold waitOutcome
  cases c.isOpen with
  | false => exact ⟨rfl, rfl⟩
  | true => cases s.gate .poll (some c.handle) <;> exact ⟨rfl, rfl⟩

theorem filterOutcome_tells (mask id : UInt32) :
    (c.filterOutcome s mask id).effect.Tells s.inbound [] [] := by
  unfold filterOutcome
  cases c.isOpen with
  | false => exact ⟨rfl, rfl⟩
  | true => cases s.gate .setFilter (some c.handle) <;> exact ⟨rfl, rfl⟩

theorem taking_tells (frames rest : List Frame) :
    (c.taking frames).Tells (frames ++ rest) [] [] := by
  induction frames with
  | nil => exact ⟨rfl, rfl⟩
  | cons frame frames ih =>
    have first : (c.taking [frame]).Tells (frame :: (frames ++ rest)) [] [] := ⟨rfl, rfl⟩
    rw [taking_cons]
    exact first.andThen ih

theorem receiveOutcome_tells : (c.receiveOutcome s).2.Tells s.inbound [] [] := by
  unfold receiveOutcome
  cases c.isOpen with
  | false => exact ⟨rfl, rfl⟩
  | true =>
    cases s.gate .read (some c.handle) with
    | some fault => exact ⟨rfl, rfl⟩
    | none => cases s.inbound <;> exact ⟨rfl, rfl⟩

def missing (expected : Nat) : Except ChannelError (List Frame) → List (Int32 × Nat × Nat)
  | .ok frames =>
    if frames.length < expected then [(c.handle, expected, frames.length)] else []
  | .error _ => []

theorem missing_take (expected : Nat) (queue : List Frame) :
    c.missing expected (.ok (queue.take expected)) =
      if queue.length < expected then [(c.handle, expected, queue.length)] else [] := by
  simp only [missing, List.length_take]
  by_cases short : queue.length < expected
  · rw [Nat.min_eq_right (Nat.le_of_lt short)]
  · have enough : ¬ min expected queue.length < expected := by omega
    rw [if_neg short, if_neg enough]

theorem missing_messages (result : Except ChannelError (List Frame)) (time : Timestamp) :
    ChannelStep.receiveBatch.shortfall c
        (Bench.replyOf .messages (result.map (·.map (Message.arrival time)))) =
      c.missing c.expected result := by
  cases result with
  | error error => rfl
  | ok frames =>
    have fewer : (frames.length : Int) < c.pending.toInt ↔ frames.length < c.expected := by
      rw [expected]
      omega
    simp only [Except.map, Bench.replyOf, ChannelStep.shortfall, missing, List.length_map, fewer]
    rfl

theorem drainOutcome_tells (expected : Nat) :
    (c.drainOutcome s expected).2.Tells s.inbound []
      (c.missing expected (c.drainOutcome s expected).1) := by
  have stops (got : Nat) (queue : List Frame) :
      (c.stopping expected got).Tells queue [] [(c.handle, expected, got)] := ⟨rfl, rfl⟩
  have quiet (queue : List Frame) : Tells {} queue [] [] := ⟨rfl, rfl⟩
  unfold drainOutcome
  by_cases none : expected = 0
  · -- a batch of no frames makes no call, and cannot come short
    rw [if_pos none, none]
    exact quiet _
  rw [if_neg none]
  cases s.gate .read (some c.handle) with
  | some fault =>
    simp only []
    cases fault.wouldBlock with
    | true =>
      have short : c.missing expected (.ok []) = [(c.handle, expected, 0)] :=
        if_pos (Nat.pos_of_ne_zero none)
      simp only [if_true, short]
      exact stops 0 _
    | false => exact ⟨rfl, rfl⟩
  | none =>
    have front := c.taking_tells (s.inbound.take expected) (s.inbound.drop expected)
    rw [List.take_append_drop] at front
    simp only [missing_take]
    split
    · exact front.andThen (stops _ _)
    · exact front.andThen (quiet _)

theorem receiveBatchOutcome_tells :
    (c.receiveBatchOutcome s).effect.Tells s.inbound []
      (c.missing c.expected (c.receiveBatchOutcome s).answer) := by
  have drained := drainOutcome_tells c s c.expected
  unfold receiveBatchOutcome
  cases c.isOpen with
  | false => exact ⟨rfl, rfl⟩
  | true =>
    simp only [if_true]
    rcases made : c.drainOutcome s c.expected with ⟨error | frames, e⟩ <;> rw [made] at drained
    · exact drained
    · have told (queue : List Frame) : Tells { events := [.batchReceived c.handle frames.length] }
          queue [] [] := ⟨rfl, rfl⟩
      have both := drained.andThen (told _)
      rwa [List.append_nil] at both

theorem sendOutcome_tells (forceExtended : Bool) (message : Message) (queue : List Frame) :
    (c.sendOutcome s none forceExtended message).2.Tells queue [] [] := by
  unfold sendOutcome
  cases c.isOpen with
  | false => exact ⟨rfl, rfl⟩
  | true =>
    by_cases long : maxPayload < message.payload.length
    · simp only [long, if_true]
      exact ⟨rfl, rfl⟩
    · simp only [long, if_true, if_false]
      cases s.gate .write (some c.handle) <;> exact ⟨rfl, rfl⟩

theorem sendRestOutcome_tells (forceExtended : Bool) (delay : Duration) (taken total : Nat)
    (messages : List Message) (queue : List Frame) :
    (c.sendRestOutcome s none forceExtended delay taken total messages).2.2.Tells queue [] [] := by
  induction messages generalizing taken total queue with
  | nil => exact ⟨rfl, rfl⟩
  | cons message rest ih =>
    have pause (time : Nat) : Tells { time := time } queue [] [] := ⟨rfl, rfl⟩
    have one := fun queue => sendOutcome_tells c s forceExtended message queue
    unfold sendRestOutcome
    rcases sent : c.sendOutcome s none forceExtended message with ⟨error | written, e⟩ <;>
      rw [sent] at one
    · exact (pause _).andThen (one _)
    · exact ((pause _).andThen (one _)).andThen (ih _ _ _)

theorem sendBatchOutcome_tells (forceExtended : Bool) (messages : List Message)
    (delay : Option Duration) (queue : List Frame) :
    (c.sendBatchOutcome s none forceExtended messages delay).2.2.Tells queue [] [] := by
  unfold sendBatchOutcome
  cases c.isOpen with
  | false => exact ⟨rfl, rfl⟩
  | true => exact sendRestOutcome_tells c s forceExtended _ 0 0 messages queue

theorem outcome_tells (step : ChannelStep) (time : Timestamp) :
    ∃ closed, (closed = [] ∨ ∃ handle ∈ s.openHandles, closed = [handle]) ∧
      (c.outcome none s step).effect.Tells s.inbound closed
        (step.shortfall c ((c.outcome none s step).answer time)) := by
  cases step with
  | close =>
    rcases c.closeOutcome_tells s with tells | ⟨held, tells⟩
    · exact ⟨[], .inl rfl, tells⟩
    · exact ⟨[c.handle], .inr ⟨c.handle, held, rfl⟩, tells⟩
  | wait timeout => exact ⟨[], .inl rfl, waitOutcome_tells c s timeout⟩
  | receive => exact ⟨[], .inl rfl, receiveOutcome_tells c s⟩
  | receiveBatch =>
    refine ⟨[], .inl rfl, ?_⟩
    have tells := receiveBatchOutcome_tells c s
    rwa [← c.missing_messages _ time] at tells
  | send message forceExtended =>
    exact ⟨[], .inl rfl, sendOutcome_tells c s forceExtended message s.inbound⟩
  | sendBatch messages delay forceExtended =>
    exact ⟨[], .inl rfl, sendBatchOutcome_tells c s forceExtended messages delay s.inbound⟩
  | setFilter mask id => exact ⟨[], .inl rfl, filterOutcome_tells c s mask id⟩
  | setSender | filterMask | socket | info => exact ⟨[], .inl rfl, rfl, rfl⟩

end Channel

end CanBus
