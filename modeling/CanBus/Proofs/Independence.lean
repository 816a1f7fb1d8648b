import CanBus.Proofs.Conservation
import CanBus.Proofs.Outcomes

namespace CanBus

def ChannelStep.sends : ChannelStep → Bool
  | send _ _ | sendBatch _ _ _ => true
  | _ => false

/-- The operations of the receiving side that neither close nor only ask. -/
def ChannelStep.receives : ChannelStep → Bool
  | wait _ | receive | receiveBatch | setFilter _ _ | setSender _ => true
  | _ => false

def SocketCall.isWrite (kind : SocketCall) : Bool := kind == .write

def Event.isSent : Event → Bool
  | sent .. | batchSent .. => true
  | _ => false

/-- The reply without the times of arrival. -/
def Reply.untimed : Reply → Reply
  | message received => message { received with stamp := none }
  | messages received => messages (received.map ({ · with stamp := none }))
  | reply => reply

namespace Effect

variable {e f g : Effect}

/-- The same, but for how the calls and events of the two sides lie between each other. -/
structure Rearranges (e f : Effect) : Prop where
  calls : ∀ side, e.calls.filter (·.isWrite == side) = f.calls.filter (·.isWrite == side)
  events : ∀ side, e.events.filter (·.isSent == side) = f.events.filter (·.isSent == side)
  rest : { e with calls := f.calls, events := f.events } = f

namespace Rearranges

theorem refl (e : Effect) : Rearranges e e := ⟨fun _ => rfl, fun _ => rfl, rfl⟩

theorem symm (same : Rearranges e f) : Rearranges f e where
  calls side := (same.calls side).symm
  events side := (same.events side).symm
  rest := by rw [← same.rest]

theorem trans (first : Rearranges e f) (second : Rearranges f g) : Rearranges e g where
  calls side := (first.calls side).trans (second.calls side)
  events side := (first.events side).trans (second.events side)
  rest := by rw [← second.rest, ← first.rest]

theorem andThen_left (d : Effect) (same : Rearranges e f) :
    Rearranges (d.andThen e) (d.andThen f) where
  calls side := by simp only [andThen, List.filter_append, same.calls side]
  events side := by simp only [andThen, List.filter_append, same.events side]
  rest := by
    rw [← same.rest]
    rfl

theorem andThen_right (d : Effect) (same : Rearranges e f) :
    Rearranges (e.andThen d) (f.andThen d) where
  calls side := by simp only [andThen, List.filter_append, same.calls side]
  events side := by simp only [andThen, List.filter_append, same.events side]
  rest := by
    rw [← same.rest]
    rfl

end Rearranges

structure Sending (e : Effect) : Prop where
  calls : ∀ kind ∈ e.calls, kind.isWrite = true
  events : ∀ event ∈ e.events, event.isSent = true
  taken : e.taken = 0
  filters : e.filters = []
  closed : e.closed = []
  timeout : e.timeout = none

structure Receiving (e : Effect) : Prop where
  calls : ∀ kind ∈ e.calls, kind.isWrite = false
  events : ∀ event ∈ e.events, event.isSent = false
  written : e.written = []
  bytes : e.bytes = 0
  closed : e.closed = []

theorem Sending.nothing : Sending {} := by
  constructor <;> simp

theorem Receiving.nothing : Receiving {} := by
  constructor <;> simp

theorem Sending.andThen (first : Sending e) (second : Sending f) : Sending (e.andThen f) where
  calls kind member := (List.mem_append.mp member).elim (first.calls kind) (second.calls kind)
  events event member :=
    (List.mem_append.mp member).elim (first.events event) (second.events event)
  taken := by simp only [Effect.andThen, first.taken, second.taken]
  filters := by simp only [Effect.andThen, first.filters, second.filters, List.append_nil]
  closed := by simp only [Effect.andThen, first.closed, second.closed, List.append_nil]
  timeout := by simp only [Effect.andThen, first.timeout, second.timeout, Option.or_none]

theorem Receiving.andThen (first : Receiving e) (second : Receiving f) :
    Receiving (e.andThen f) where
  calls kind member := (List.mem_append.mp member).elim (first.calls kind) (second.calls kind)
  events event member :=
    (List.mem_append.mp member).elim (first.events event) (second.events event)
  written := by simp only [Effect.andThen, first.written, second.written, List.append_nil]
  bytes := by simp only [Effect.andThen, first.bytes, second.bytes]
  closed := by simp only [Effect.andThen, first.closed, second.closed, List.append_nil]

theorem filter_append_comm {α : Type} {p : α → Bool} {xs ys : List α} (side : Bool)
    (left : ∀ x ∈ xs, p x = true) (right : ∀ y ∈ ys, p y = false) :
    (xs ++ ys).filter (p · == side) = (ys ++ xs).filter (p · == side) := by
  cases side with
  | true =>
    have none : ys.filter (p · == true) = [] := by
      apply List.filter_eq_nil_iff.mpr
      intro y member
      simp [right y member]
    rw [List.filter_append, List.filter_append, none, List.append_nil, List.nil_append]
  | false =>
    have none : xs.filter (p · == false) = [] := by
      apply List.filter_eq_nil_iff.mpr
      intro x member
      simp [left x member]
    rw [List.filter_append, List.filter_append, none, List.append_nil, List.nil_append]

theorem Rearranges.swap (sending : Sending e) (receiving : Receiving f) :
    Rearranges (f.andThen e) (e.andThen f) where
  calls side := (filter_append_comm side sending.calls receiving.calls).symm
  events side := (filter_append_comm side sending.events receiving.events).symm
  rest := by
    simp [Effect.andThen, sending.taken, sending.filters, sending.closed, sending.timeout,
      receiving.written, receiving.bytes, receiving.closed, Nat.add_comm]

end Effect

namespace Simulator

variable {kinds : List SocketCall} {s t : Simulator} {e : Effect}

theorem Alike.refl (kinds : List SocketCall) (s : Simulator) : Alike kinds s s :=
  ⟨fun _ _ => rfl, rfl, rfl, rfl, fun _ => rfl⟩

theorem Alike.mono {fewer : List SocketCall} (alike : Alike kinds s t) (among : fewer ⊆ kinds) :
    Alike fewer s t where
  failures kind member := alike.failures kind (among member)
  openHandles := alike.openHandles
  readyOverride := alike.readyOverride
  pollDelay := alike.pollDelay
  inbound looks := alike.inbound (looks.imp (among ·) (among ·))

theorem Alike.net (alike : Alike kinds s t) (e : Effect) : Alike kinds (e.net s) (e.net t) where
  failures kind member := by simp only [Effect.net, entered_failures, alike.failures kind member]
  openHandles := by simp only [Effect.net, alike.openHandles]
  readyOverride := alike.readyOverride
  pollDelay := alike.pollDelay
  inbound looks := by simp only [Effect.net, alike.inbound looks]

theorem Alike.unseen (alike : Alike kinds s t) (apart : ∀ kind ∈ e.calls, kind ∉ kinds)
    (closed : e.closed = []) (untaken : .poll ∈ kinds ∨ .read ∈ kinds → e.taken = 0) :
    Alike kinds (e.net s) t where
  failures kind member := by
    have missing : kind ∉ e.calls := fun made => apart kind made member
    simp only [Effect.net, entered_failures, missing, if_false, alike.failures kind member]
  openHandles := by simp only [Effect.net, closed, List.foldl_nil, alike.openHandles]
  readyOverride := alike.readyOverride
  pollDelay := alike.pollDelay
  inbound looks := by
    simp only [Effect.net, untaken looks, List.drop_zero, alike.inbound looks]

def receivingCalls : List SocketCall := [.poll, .read, .setFilter]

theorem Alike.sending (alike : Alike receivingCalls s t) (sending : e.Sending) :
    Alike receivingCalls (e.net s) t := by
  refine alike.unseen ?_ sending.closed fun _ => sending.taken
  intro kind made
  obtain rfl : kind = .write := beq_iff_eq.mp (sending.calls kind made)
  decide

theorem Alike.receiving (alike : Alike [.write] s t) (receiving : e.Receiving) :
    Alike [.write] (e.net s) t := by
  refine alike.unseen ?_ receiving.closed (by simp)
  intro kind made writes
  obtain rfl := List.mem_singleton.mp writes
  exact absurd (receiving.calls _ made) (by decide)

end Simulator

namespace Channel

variable {step : ChannelStep}

section

open Effect (Sending Receiving)

theorem sendOutcome_sending (c : Channel) (s : Simulator) (reported : Option Nat)
    (forceExtended : Bool) (message : Message) :
    Sending (c.sendOutcome s reported forceExtended message).2 := by
  unfold sendOutcome
  split
  · split
    · exact .nothing
    · simp only []
      split <;> constructor <;> simp [SocketCall.isWrite, Event.isSent]
  · exact .nothing

theorem sendRestOutcome_sending (c : Channel) (s : Simulator) (reported : Option Nat)
    (forceExtended : Bool) (delay : Duration) (taken total : Nat) (messages : List Message) :
    Sending (c.sendRestOutcome s reported forceExtended delay taken total messages).2.2 := by
  induction messages generalizing taken total with
  | nil => constructor <;> simp [sendRestOutcome, Event.isSent]
  | cons message rest ih =>
    have one := sendOutcome_sending c s reported forceExtended message
    have pause (time : Nat) : Sending { time := time } := by constructor <;> simp
    unfold sendRestOutcome
    rcases sent : c.sendOutcome s reported forceExtended message with ⟨error | written, e⟩
    · rw [sent] at one
      exact (pause _).andThen one
    · rw [sent] at one
      exact ((pause _).andThen one).andThen (ih _ _)

theorem outcome_sending (sends : step.sends = true) (reported : Option Nat) (c : Channel)
    (s : Simulator) :
    (c.outcome reported s step).channel = c ∧ Sending (c.outcome reported s step).effect := by
  cases step with
  | send message forceExtended => exact ⟨rfl, sendOutcome_sending _ _ _ _ _⟩
  | sendBatch messages delay forceExtended =>
    refine ⟨rfl, ?_⟩
    show Sending (c.sendBatchOutcome s reported forceExtended messages delay).2.2
    unfold sendBatchOutcome
    split
    · exact sendRestOutcome_sending _ _ _ _ _ _ _ _
    · exact .nothing
  | _ => cases sends

theorem taking_receiving (c : Channel) (frames : List Frame) : Receiving (c.taking frames) := by
  constructor <;> simp [taking, SocketCall.isWrite, Event.isSent]

theorem stopping_receiving (c : Channel) (expected got : Nat) :
    Receiving (c.stopping expected got) := by
  constructor <;> simp [stopping, SocketCall.isWrite, Event.isSent]

theorem drainOutcome_receiving (c : Channel) (s : Simulator) (expected : Nat) :
    Receiving (c.drainOutcome s expected).2 := by
  unfold drainOutcome
  split
  · exact .nothing
  · split
    · split
      · exact stopping_receiving _ _ _
      · constructor <;> simp [SocketCall.isWrite]
    · refine (taking_receiving _ _).andThen ?_
      split
      · exact stopping_receiving _ _ _
      · exact .nothing

def tuned (c d : Channel) : Channel :=
  { c with
    filterMask := d.filterMask
    filterId := d.filterId
    sender := d.sender
    pending := d.pending }

theorem outcome_receiving (receives : step.receives = true) (reported : Option Nat) (c : Channel)
    (s : Simulator) :
    c.tuned (c.outcome reported s step).channel = (c.outcome reported s step).channel ∧
      Receiving (c.outcome reported s step).effect := by
  cases step with
  | wait timeout =>
    simp only [outcome, Outcome.map, waitOutcome]
    split
    · split <;> refine ⟨rfl, ?_⟩ <;> constructor <;> simp [SocketCall.isWrite, Event.isSent]
    · exact ⟨rfl, .nothing⟩
  | receive =>
    refine ⟨rfl, ?_⟩
    simp only [outcome, receiveOutcome]
    split
    · split
      · constructor <;> simp [SocketCall.isWrite]
      · constructor <;> simp [SocketCall.isWrite]
      · exact taking_receiving _ _
    · exact .nothing
  | receiveBatch =>
    have drained := drainOutcome_receiving c s c.expected
    simp only [outcome, Outcome.map, receiveBatchOutcome]
    split
    · split <;> rename_i made <;> rw [made] at drained <;> refine ⟨rfl, ?_⟩
      · exact drained
      · refine drained.andThen ?_
        constructor <;> simp [Event.isSent]
    · exact ⟨rfl, .nothing⟩
  | setFilter mask id =>
    simp only [outcome, Outcome.map, filterOutcome]
    split
    · split <;> refine ⟨rfl, ?_⟩ <;> constructor <;> simp [SocketCall.isWrite, Event.isSent]
    · exact ⟨rfl, .nothing⟩
  | setSender sender => exact ⟨rfl, .nothing⟩
  | _ => cases receives

theorem calls_of_sends (sends : step.sends = true) : step.calls ⊆ [.write] := by
  cases step with
  | send | sendBatch => exact List.Subset.refl _
  | _ => cases sends

theorem calls_of_receives (receives : step.receives = true) :
    step.calls ⊆ Simulator.receivingCalls := by
  cases step with
  | wait | receive | receiveBatch | setFilter | setSender =>
    simp [ChannelStep.calls, Simulator.receivingCalls]
  | _ => cases receives

end

/-- The sending side sees nothing of what the receiving side does to the channel. -/
theorem outcome_tuned (sends : step.sends = true) (reported : Option Nat) (c d : Channel)
    (s : Simulator) :
    ((c.tuned d).outcome reported s step).answer = (c.outcome reported s step).answer ∧
      ((c.tuned d).outcome reported s step).effect = (c.outcome reported s step).effect := by
  cases step with
  | send message forceExtended => exact ⟨rfl, rfl⟩
  | sendBatch messages delay forceExtended =>
    have same : (c.tuned d).sendBatchOutcome s reported forceExtended messages delay =
        c.sendBatchOutcome s reported forceExtended messages delay := by
      unfold sendBatchOutcome
      rw [sendRestOutcome_same (c := c.tuned d) (d := c) rfl rfl]
      rfl
    simp only [outcome, same, and_self]
  | _ => cases sends

theorem outcome_untimed (reported : Option Nat) (c : Channel) (s : Simulator) (step : ChannelStep)
    (time other : Timestamp) :
    ((c.outcome reported s step).answer time).untimed =
      ((c.outcome reported s step).answer other).untimed := by
  cases step with
  | receive =>
    simp only [outcome]
    cases (c.receiveOutcome s).1 <;> rfl
  | receiveBatch =>
    simp only [outcome, Outcome.map]
    cases (c.receiveBatchOutcome s).answer with
    | error error => rfl
    | ok frames =>
      simp only [Except.map, Bench.replyOf, Reply.untimed, List.map_map]
      rfl
  | _ => rfl

def outcomes (reported : Option Nat) :
    Channel → Simulator → List ChannelStep → Outcome (List (ChannelStep × Reply))
  | c, _, [] => ⟨[], c, {}⟩
  | c, s, step :: rest =>
    let o := c.outcome reported s step
    let later := outcomes reported o.channel (o.effect.net s) rest
    ⟨(step, (o.answer s.now).untimed) :: later.answer, later.channel,
      o.effect.andThen later.effect⟩

theorem outcomes_cons (reported : Option Nat) (c : Channel) (s : Simulator) (step : ChannelStep)
    (rest : List ChannelStep) :
    c.outcomes reported s (step :: rest) =
      let o := c.outcome reported s step
      let later := o.channel.outcomes reported (o.effect.net s) rest
      ⟨(step, (o.answer s.now).untimed) :: later.answer, later.channel,
        o.effect.andThen later.effect⟩ := rfl

theorem outcomes_sending (reported : Option Nat) (c : Channel) (s : Simulator)
    {steps : List ChannelStep} (send : ∀ step ∈ steps, step.sends = true) :
    (c.outcomes reported s steps).effect.Sending := by
  induction steps generalizing c s with
  | nil => exact .nothing
  | cons step rest ih =>
    have first := (outcome_sending (send step List.mem_cons_self) reported c s).2
    exact first.andThen (ih _ _ fun step member => send step (List.mem_cons_of_mem _ member))

structure Splits (joint sending receiving : Outcome (List (ChannelStep × Reply))) : Prop where
  sent : joint.answer.filter (·.1.sends == true) = sending.answer
  received : joint.answer.filter (·.1.sends == false) = receiving.answer
  channel : joint.channel = receiving.channel
  effect : joint.effect.Rearranges (sending.effect.andThen receiving.effect)

theorem Splits.send {joint sending receiving : Outcome (List (ChannelStep × Reply))}
    (splits : Splits joint sending receiving) {step : ChannelStep} (sends : step.sends = true)
    (reply : Reply) (e : Effect) :
    Splits ⟨(step, reply) :: joint.answer, joint.channel, e.andThen joint.effect⟩
      ⟨(step, reply) :: sending.answer, sending.channel, e.andThen sending.effect⟩
      receiving where
  sent := by
    rw [← splits.sent]
    exact List.filter_cons_of_pos (beq_iff_eq.mpr sends)
  received := by
    rw [← splits.received]
    apply List.filter_cons_of_neg
    simp [sends]
  channel := splits.channel
  effect := by
    rw [Effect.andThen_assoc]
    exact splits.effect.andThen_left e

theorem Splits.receive {joint sending receiving : Outcome (List (ChannelStep × Reply))}
    (splits : Splits joint sending receiving) {step : ChannelStep} (quiet : step.sends = false)
    (reply : Reply) {e : Effect} (receives : e.Receiving) (sends : sending.effect.Sending) :
    Splits ⟨(step, reply) :: joint.answer, joint.channel, e.andThen joint.effect⟩ sending
      ⟨(step, reply) :: receiving.answer, receiving.channel, e.andThen receiving.effect⟩ where
  sent := by
    rw [← splits.sent]
    apply List.filter_cons_of_neg
    simp [quiet]
  received := by
    rw [← splits.received]
    exact List.filter_cons_of_pos (beq_iff_eq.mpr quiet)
  channel := splits.channel
  effect := by
    have first := splits.effect.andThen_left e
    have swapped := (Effect.Rearranges.swap sends receives).andThen_right receiving.effect
    rw [Effect.andThen_assoc, Effect.andThen_assoc] at swapped
    exact first.trans swapped

theorem outcomes_split (reported : Option Nat) {steps : List ChannelStep} {c d : Channel}
    {s alone apart : Simulator}
    (sided : ∀ step ∈ steps, step.sends = true ∨ step.receives = true) (tuned : d.tuned c = c)
    (sending : Simulator.Alike [.write] s alone)
    (receiving : Simulator.Alike Simulator.receivingCalls s apart) :
    Splits (c.outcomes reported s steps)
      (d.outcomes reported alone (steps.filter (·.sends == true)))
      (c.outcomes reported apart (steps.filter (·.sends == false))) := by
  -- a step of one side is what it is alone, and leaves the other side as it was
  induction steps generalizing c d s alone apart with
  | nil => exact ⟨rfl, rfl, rfl, .refl _⟩
  | cons step rest ih =>
    have later : ∀ step ∈ rest, step.sends = true ∨ step.receives = true :=
      fun step member => sided step (List.mem_cons_of_mem _ member)
    cases side : step.sends with
    | true =>
      have own : (step :: rest).filter (·.sends == true) =
          step :: rest.filter (·.sends == true) := List.filter_cons_of_pos (beq_iff_eq.mpr side)
      have others : (step :: rest).filter (·.sends == false) =
          rest.filter (·.sends == false) := by
        apply List.filter_cons_of_neg
        simp [side]
      obtain ⟨kept, does⟩ := outcome_sending side reported c s
      obtain ⟨keeps, -⟩ := outcome_sending side reported d alone
      obtain ⟨answer, effect⟩ := outcome_tuned side reported d c s
      rw [tuned, outcome_congr (sending.mono (calls_of_sends side)) reported d] at answer effect
      have untimed := outcome_untimed reported d alone step s.now alone.now
      rw [own, others, outcomes_cons, outcomes_cons]
      simp only [kept, keeps, answer, effect, untimed]
      rw [effect] at does
      exact (ih later tuned (sending.net _) (receiving.sending does)).send side _ _
    | false =>
      have own : (step :: rest).filter (·.sends == false) =
          step :: rest.filter (·.sends == false) := List.filter_cons_of_pos (beq_iff_eq.mpr side)
      have others : (step :: rest).filter (·.sends == true) = rest.filter (·.sends == true) := by
        apply List.filter_cons_of_neg
        simp [side]
      have receives : step.receives = true := by
        rcases sided step List.mem_cons_self with sends | receives
        · rw [side] at sends
          cases sends
        · exact receives
      have same := outcome_congr (receiving.mono (calls_of_receives receives)) reported c
      obtain ⟨changed, does⟩ := outcome_receiving receives reported c apart
      have untimed := outcome_untimed reported c apart step s.now apart.now
      have still : d.tuned (c.outcome reported apart step).channel =
          (c.outcome reported apart step).channel := by
        rw [← changed, ← tuned]
        rfl
      have sender : ∀ step ∈ rest.filter (·.sends == true), step.sends = true :=
        fun step member => beq_iff_eq.mp (List.mem_filter.mp member).2
      have splits := ih later still (sending.receiving does) (receiving.net _)
      rw [own, others, outcomes_cons, outcomes_cons]
      simp only [same, untimed]
      exact splits.receive side _ does (outcomes_sending reported d alone sender)

end Channel

namespace Effect.Rearranges

variable {e f : Effect}

theorem mem_calls (same : Rearranges e f) (kind : SocketCall) :
    kind ∈ e.calls ↔ kind ∈ f.calls := by
  have side := same.calls kind.isWrite
  have among (calls : List SocketCall) :
      kind ∈ calls ↔ kind ∈ calls.filter (·.isWrite == kind.isWrite) := by
    simp
  rw [among e.calls, side, ← among f.calls]

theorem net (same : Rearranges e f) (s : Simulator) :
    { e.net s with calls := (f.net s).calls } = f.net s := by
  have failures : (fun kind => if kind ∈ e.calls then none else s.failures kind) =
      fun kind => if kind ∈ f.calls then none else s.failures kind := by
    funext kind
    simp only [same.mem_calls kind]
  have whole : f.net s = ({ e with calls := f.calls, events := f.events } : Effect).net s := by
    rw [same.rest]
  rw [whole]
  simp only [Effect.net, Simulator.entered, failures]

theorem count (same : Rearranges e f) (counters : Counters) :
    e.count counters = f.count counters := by
  rw [← same.rest]
  rfl

end Effect.Rearranges

namespace Bench

/-- The operations on the slot's channel with their replies, times of arrival aside. -/
def trace (slot : Nat) (steps : List ChannelStep) (b : Bench) : List (ChannelStep × Reply) :=
  steps.zip ((replies (steps.map (.channel slot)) b).map Reply.untimed)

variable {b : Bench} {slot : Nat} {c : Channel}

theorem run_outcomes (steps : List ChannelStep) (found : b.channel? slot = some c) :
    b.trace slot steps = (c.outcomes b.reported b.host.net steps).answer ∧
      (b.run (steps.map (.channel slot))).host =
        (c.outcomes b.reported b.host.net steps).effect.on c.metered b.host ∧
      (b.run (steps.map (.channel slot))).channel? =
        Function.update b.channel? slot
          (some (c.outcomes b.reported b.host.net steps).channel) := by
  induction steps generalizing b c with
  | nil => exact ⟨rfl, (Effect.on_nothing _ _).symm, channels_kept found⟩
  | cons step rest ih =>
    have first := step_outcome found step
    obtain ⟨traced, host, channels⟩ := ih first.here
    have net : (b.step (.channel slot step)).2.host.net =
        (c.outcome b.reported b.host.net step).effect.net b.host.net :=
      congrArg Host.net first.host
    rw [first.reported, net] at traced host channels
    rw [Channel.metered_outcome] at host
    refine ⟨?_, ?_, ?_⟩
    · show (step, (b.step (.channel slot step)).1.untimed) ::
        (b.step (.channel slot step)).2.trace slot rest = _
      rw [traced, first.reply]
      rfl
    · show ((b.step (.channel slot step)).2.run (rest.map (.channel slot))).host = _
      rw [host, first.host, ← Effect.on_andThen]
      rfl
    · show ((b.step (.channel slot step)).2.run (rest.map (.channel slot))).channel? = _
      rw [channels, first.channels, Function.update_idem]
      rfl

/-- Two runs of operations on one channel that differ in how its two sides take turns: each
operation is answered alike, and the ends differ in the order of calls and events between the
sides. -/
theorem sides_independent (found : b.channel? slot = some c) {first second : List ChannelStep}
    (sided : ∀ step ∈ first ++ second, step.sends = true ∨ step.receives = true)
    (sameOrder : ∀ side, first.filter (·.sends == side) = second.filter (·.sends == side)) :
    let one := b.run (first.map (.channel slot))
    let other := b.run (second.map (.channel slot))
    (∀ side, (b.trace slot first).filter (·.1.sends == side) =
        (b.trace slot second).filter (·.1.sends == side)) ∧
      one.channel? = other.channel? ∧ one.host.counters = other.host.counters ∧
      { one.host.net with calls := other.host.net.calls } = other.host.net ∧
      (∀ side, one.host.net.calls.filter (·.isWrite == side) =
        other.host.net.calls.filter (·.isWrite == side)) ∧
      ∀ side, one.host.log.filter (·.isSent == side) =
        other.host.log.filter (·.isSent == side) := by
  intro one other
  have splits {steps : List ChannelStep} (among : steps ⊆ first ++ second) :=
    Channel.outcomes_split b.reported (c := c) (d := c)
      (fun step member => sided step (among member)) rfl
      (Simulator.Alike.refl [.write] b.host.net)
      (Simulator.Alike.refl Simulator.receivingCalls b.host.net)
  have left := splits (List.subset_append_left first second)
  have right := splits (List.subset_append_right first second)
  rw [sameOrder true, sameOrder false] at left
  obtain ⟨tracedOne, hostOne, channelsOne⟩ := run_outcomes first found
  obtain ⟨tracedOther, hostOther, channelsOther⟩ := run_outcomes second found
  have same := left.effect.trans right.effect.symm
  refine ⟨?_, ?_, ?_, ?_, ?_, ?_⟩
  · intro side
    rw [tracedOne, tracedOther]
    cases side with
    | true => rw [left.sent, right.sent]
    | false => rw [left.received, right.received]
  · rw [channelsOne, channelsOther, left.channel, right.channel]
  · rw [hostOne, hostOther]
    simp only [Effect.on, same.count]
  · rw [hostOne, hostOther]
    exact same.net _
  · intro side
    rw [hostOne, hostOther]
    show (b.host.net.calls ++ _).filter _ = (b.host.net.calls ++ _).filter _
    rw [List.filter_append, List.filter_append, same.calls side]
  · intro side
    rw [hostOne, hostOther]
    show (b.host.log ++ _).filter _ = (b.host.log ++ _).filter _
    rw [List.filter_append, List.filter_append, same.events side]

theorem failing_sides_independent :
    let message : Message := .ofPayload Identifier.zero [7]
    let first : List ChannelStep :=
      [.send message false, .wait none, .sendBatch [message, message] none false, .receive]
    let second : List ChannelStep :=
      [.wait none, .receive, .send message false, .sendBatch [message, message] none false]
    let b := (start [] true).run
      [.create 0 "mock0" 1 0 Identifier.zero true, .script .clearCalls,
        .script (.push ⟨0x123, 1, 0, 0, 0, #v[7, 0, 0, 0, 0, 0, 0, 0]⟩),
        .script (.failNext .write 5), .script (.failNext .poll 7)]
    let one := b.run (first.map (.channel 0))
    let other := b.run (second.map (.channel 0))
    one.host.net.calls = [.write, .poll, .write, .write, .read] ∧
      other.host.net.calls = [.poll, .read, .write, .write, .write] ∧
      one.host.counters = ⟨2, 32, 1, 2⟩ ∧ other.host.counters = ⟨2, 32, 1, 2⟩ ∧
      one.channel? = other.channel? := by
  intro message first second b one other
  have found : b.channel? 0 =
      some { Channel.fresh "mock0" 1 0 Identifier.zero with handle := 3, metered := true } := rfl
  have sided : ∀ step ∈ first ++ second, step.sends = true ∨ step.receives = true := by
    simp [first, second, ChannelStep.sends, ChannelStep.receives]
  have sameOrder (side : Bool) :
      first.filter (·.sends == side) = second.filter (·.sends == side) := by
    cases side <;> rfl
  obtain ⟨-, channels, -⟩ := sides_independent found sided sameOrder
  exact ⟨by decide, by decide, by decide, by decide, channels⟩

end Bench

end CanBus
