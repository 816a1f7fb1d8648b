import CanBus.Proofs.Outcomes

namespace CanBus

def ChannelStep.transfers : ChannelStep → Bool
  | wait _ | receive | receiveBatch | send _ _ | sendBatch _ _ _ => true
  | close | setFilter _ _ | setSender _ | filterMask | socket | info => false

namespace Simulator

variable {kind : SocketCall} {handle : Option Int32} {code : Int32} {s : Simulator}

def unset (kind : SocketCall) (s : Simulator) : Simulator :=
  { s with failures := Function.update s.failures kind none }

theorem entered_eq_unset (kind : SocketCall) (s : Simulator) :
    s.entered [kind] = { s.unset kind with calls := s.calls ++ [kind] } := by
  have same : (fun other => if other ∈ [kind] then none else s.failures other) =
      Function.update s.failures kind none := by
    funext other
    simp only [List.mem_singleton, Function.update_apply]
  simp only [entered, unset, same]

theorem alike_unset (kinds : List SocketCall) (kind : SocketCall) (s : Simulator) :
    Alike kinds (s.entered [kind]) (s.unset kind) := by
  rw [entered_eq_unset]
  constructor <;> intros <;> rfl

theorem gate_code {fault : Fault} (turned : s.gate kind handle = some fault)
    (set : s.failures kind = some code) : fault.code? = some code := by
  have injected := gate_set handle set
  rw [turned] at injected
  rw [Option.some.inj injected]
  rfl

theorem gate_passed {P : Prop} (passes : s.gate kind handle = none)
    (set : s.failures kind = some code) : P := by
  have injected := gate_set handle set
  rw [passes] at injected
  cases injected

end Simulator

namespace Channel

/-- The channel after a step that failed. A wait or a batch uses up what the last wait reported, if
it got as far as its call. -/
def afterFailure (c : Channel) : ChannelStep → Channel
  | .wait _ | .receiveBatch => if c.isOpen then { c with pending := 0 } else c
  | _ => c

/-- What a failed step does: nothing, or one call in vain. The error is that of the failure that was
injected for the call, if there was one. -/
inductive InVain (s : Simulator) (step : ChannelStep) (error : ChannelError) : Effect → Prop
  | refused : InVain s step error {}
  | called {kind : SocketCall} (only : step.calls = [kind])
      (shown : ∀ code, s.failures kind = some code → error.code? = some code) :
      InVain s step error { calls := [kind], failures := if step.transfers then 1 else 0 }

variable {c : Channel} {s : Simulator} {error : ChannelError}

theorem close_in_vain (failed : (c.closeOutcome s).answer = .error error) :
    (c.closeOutcome s).channel = c ∧ InVain s .close error (c.closeOutcome s).effect := by
  revert failed
  unfold closeOutcome
  cases c.isOpen with
  | false => exact fun _ => ⟨rfl, .refused⟩
  | true =>
    simp only [if_true]
    cases turned : s.gate .close none with
    | some fault =>
      rintro ⟨⟩
      exact ⟨rfl, .called rfl fun _ set => Simulator.gate_code turned set⟩
    | none =>
      cases s.isOpen c.handle with
      | true => exact nofun
      | false => exact fun _ => ⟨rfl, .called rfl fun _ set => Simulator.gate_passed turned set⟩

theorem wait_in_vain {timeout : Option Duration}
    (failed : (c.waitOutcome s timeout).answer = .error error) :
    (c.waitOutcome s timeout).channel = c.afterFailure (.wait timeout) ∧
      InVain s (.wait timeout) error (c.waitOutcome s timeout).effect := by
  revert failed
  unfold waitOutcome afterFailure
  cases c.isOpen with
  | false => exact fun _ => ⟨rfl, .refused⟩
  | true =>
    simp only [if_true]
    cases turned : s.gate .poll (some c.handle) with
    | some fault =>
      rintro ⟨⟩
      exact ⟨rfl, .called rfl fun _ set => Simulator.gate_code turned set⟩
    | none => exact nofun

theorem receive_in_vain (failed : (c.receiveOutcome s).1 = .error error) :
    InVain s .receive error (c.receiveOutcome s).2 := by
  revert failed
  unfold receiveOutcome
  cases c.isOpen with
  | false => exact fun _ => .refused
  | true =>
    simp only [if_true]
    cases turned : s.gate .read (some c.handle) with
    | some fault =>
      rintro ⟨⟩
      exact .called rfl fun _ set => Simulator.gate_code turned set
    | none =>
      cases s.inbound with
      | nil => exact fun _ => .called rfl fun _ set => Simulator.gate_passed turned set
      | cons frame rest => exact nofun

theorem drain_in_vain {expected : Nat} (failed : (c.drainOutcome s expected).1 = .error error) :
    InVain s .receiveBatch error (c.drainOutcome s expected).2 := by
  revert failed
  unfold drainOutcome
  split
  · exact nofun
  · cases turned : s.gate .read (some c.handle) with
    | none => exact nofun
    | some fault =>
      cases soft : fault.wouldBlock with
      | true =>
        simp only [soft, if_true]
        exact nofun
      | false =>
        simp only [soft, Bool.false_eq_true, if_false]
        rintro ⟨⟩
        exact .called rfl fun _ set => Simulator.gate_code turned set

theorem receiveBatch_in_vain (failed : (c.receiveBatchOutcome s).answer = .error error) :
    (c.receiveBatchOutcome s).channel = c.afterFailure .receiveBatch ∧
      InVain s .receiveBatch error (c.receiveBatchOutcome s).effect := by
  revert failed
  unfold receiveBatchOutcome afterFailure
  cases c.isOpen with
  | false => exact fun _ => ⟨rfl, .refused⟩
  | true =>
    have vain : (c.drainOutcome s c.expected).1 = .error error → _ := drain_in_vain
    rcases drained : c.drainOutcome s c.expected with ⟨cause | frames, e⟩
    · rw [drained] at vain
      rintro ⟨⟩
      exact ⟨rfl, vain rfl⟩
    · exact nofun

theorem send_in_vain {reported : Option Nat} {message : Message} {forceExtended : Bool}
    (failed : (c.sendOutcome s reported forceExtended message).1 = .error error) :
    InVain s (.send message forceExtended) error
      (c.sendOutcome s reported forceExtended message).2 := by
  revert failed
  unfold sendOutcome
  cases c.isOpen with
  | false => exact fun _ => .refused
  | true =>
    by_cases long : maxPayload < message.payload.length
    · simp only [long, if_true]
      exact fun _ => .refused
    · simp only [long, if_true, if_false]
      cases turned : s.gate .write (some c.handle) with
      | some fault =>
        rintro ⟨⟩
        exact .called rfl fun _ set => Simulator.gate_code turned set
      | none => exact nofun

theorem filter_in_vain {mask id : UInt32}
    (failed : (c.filterOutcome s mask id).answer = .error error) :
    (c.filterOutcome s mask id).channel = c ∧
      InVain s (.setFilter mask id) error (c.filterOutcome s mask id).effect := by
  revert failed
  unfold filterOutcome
  cases c.isOpen with
  | false => exact fun _ => ⟨rfl, .refused⟩
  | true =>
    simp only [if_true]
    cases turned : s.gate .setFilter (some c.handle) with
    | some fault =>
      rintro ⟨⟩
      exact ⟨rfl, .called rfl fun _ set => Simulator.gate_code turned set⟩
    | none => exact nofun

theorem replyOf_failed {α : Type} {ok : α → Reply} {result : Except ChannelError α}
    (failed : Bench.replyOf ok result = .failed error)
    (fine : ∀ value, ok value ≠ .failed error) : result = .error error := by
  cases result with
  | ok value => exact absurd failed (fine value)
  | error other =>
    obtain rfl := Reply.failed.inj failed
    rfl

theorem error_of_map {α β ε : Type} {f : α → β} {result : Except ε α} {error : ε}
    (failed : result.map f = .error error) : result = .error error := by
  cases result with
  | ok value => cases failed
  | error other =>
    obtain rfl := Except.error.inj failed
    rfl

theorem outcome_in_vain {step : ChannelStep} {time : Timestamp} (reported : Option Nat)
    (failed : (c.outcome reported s step).answer time = .failed error) :
    (c.outcome reported s step).channel = c.afterFailure step ∧
      InVain s step error (c.outcome reported s step).effect := by
  cases step with
  | close => exact close_in_vain (replyOf_failed failed (by simp))
  | wait timeout => exact wait_in_vain (replyOf_failed failed (by simp))
  | receive => exact ⟨rfl, receive_in_vain (error_of_map (replyOf_failed failed (by simp)))⟩
  | receiveBatch => exact receiveBatch_in_vain (error_of_map (replyOf_failed failed (by simp)))
  | send message forceExtended =>
    exact ⟨rfl, send_in_vain (replyOf_failed failed (by simp))⟩
  | setFilter mask id => exact filter_in_vain (replyOf_failed failed (by simp))
  | sendBatch messages delay forceExtended => cases failed
  | setSender sender | filterMask | socket | info => cases failed

theorem metered_afterFailure (c : Channel) (step : ChannelStep) :
    (c.afterFailure step).metered = c.metered := by
  cases step with
  | wait | receiveBatch =>
    simp only [afterFailure]
    split <;> rfl
  | close | receive | send | sendBatch | setFilter | setSender | filterMask | socket | info => rfl

theorem outcome_afterFailure {step : ChannelStep} (single : step ≠ .receiveBatch)
    (reported : Option Nat) (c : Channel) (s : Simulator) :
    (c.afterFailure step).outcome reported s step = c.outcome reported s step := by
  cases step with
  | wait timeout =>
    unfold afterFailure
    cases isOpen : c.isOpen with
    | false => rfl
    | true =>
      have still : ({ c with pending := 0 } : Channel).isOpen = true := isOpen
      simp only [outcome, waitOutcome, isOpen, still, if_true]
  | receiveBatch => exact absurd rfl single
  | close | receive | send | sendBatch | setFilter | setSender | filterMask | socket | info => rfl

namespace InVain

variable {step : ChannelStep} {e : Effect} {kind : SocketCall} {code : Int32}

theorem net (vain : InVain s step error e) :
    { e.net s with calls := s.calls, failures := s.failures } = s := by
  cases vain <;> simp [Effect.net, Simulator.entered]

theorem spent (vain : InVain s step error e) (set : s.failures kind = some code)
    (gone : (e.net s).failures kind = none) :
    error.code? = some code ∧ e.net s = s.entered [kind] ∧ e.events = [] ∧
      ∀ counters, e.count counters = counters.addErrors (if step.transfers then 1 else 0) := by
  cases vain with
  | refused =>
    rw [Effect.net_nothing, set] at gone
    cases gone
  | @called called only shown =>
    have same : kind = called := by
      by_contra other
      simp [Effect.net, other, set] at gone
    subst same
    refine ⟨shown code set, ?_, rfl, ?_⟩
    · exact Effect.net_calls [kind] s
    · intro counters
      cases step.transfers <;> simp [Effect.count, Counters.addErrors]

end InVain

end Channel

theorem Effect.count_addErrors (e : Effect) (n : UInt64) (counters : Counters) :
    e.count (counters.addErrors n) = (e.count counters).addErrors n := by
  simp only [count, Counters.addErrors, UInt64.add_assoc, UInt64.add_comm n]

theorem Effect.net_entered (e : Effect) (kind : SocketCall) (s : Simulator) :
    { e.net (s.entered [kind]) with calls := (e.net (s.unset kind)).calls } =
      e.net (s.unset kind) := by
  rw [Simulator.entered_eq_unset]
  rfl

namespace Bench

/-- Two ends of a step that differ in the log of calls, and in how many failures were counted. -/
structure SameEnd (errors : UInt64) (one other : Reply × Bench) : Prop where
  reply : one.1 = other.1
  channels : one.2.channel? = other.2.channel?
  net : { one.2.host.net with calls := other.2.host.net.calls } = other.2.host.net
  log : one.2.host.log = other.2.host.log
  counters : one.2.host.counters = other.2.host.counters.addErrors errors

variable {b after : Bench} {slot : Nat} {c : Channel} {step : ChannelStep} {error : ChannelError}
  {kind : SocketCall} {code : Int32}

def counted (c : Channel) (step : ChannelStep) : UInt64 :=
  if c.metered && step.transfers then 1 else 0

structure Missed (b : Bench) (slot : Nat) (c : Channel) (step : ChannelStep) (kind : SocketCall)
    (after : Bench) : Prop where
  channels : after.channel? = Function.update b.channel? slot (some (c.afterFailure step))
  net : after.host.net = b.host.net.entered [kind]
  log : after.host.log = b.host.log
  counters : after.host.counters = b.host.counters.addErrors (counted c step)
  reported : after.reported = b.reported

theorem Missed.again (missed : Missed b slot c step kind after) (found : b.channel? slot = some c)
    (single : step ≠ .receiveBatch) :
    SameEnd (counted c step) (after.step (.channel slot step))
      ((b.setNet (b.host.net.unset kind)).step (.channel slot step)) := by
  have there : after.channel? slot = some (c.afterFailure step) := by
    have here := congrFun missed.channels slot
    rwa [Function.update_self] at here
  have again := step_outcome there step
  have plain := step_outcome (b := b.setNet (b.host.net.unset kind)) found step
  -- the second try meets the same layer, but for the log of calls, at which nothing looks
  have same : (c.afterFailure step).outcome after.reported after.host.net step =
      c.outcome b.reported (b.host.net.unset kind) step := by
    rw [Channel.outcome_afterFailure single, missed.net, missed.reported]
    exact Channel.outcome_congr (Simulator.alike_unset _ _ _) _ _
  rw [same, c.metered_afterFailure step] at again
  constructor
  · rw [again.reply, plain.reply, missed.net]
    rfl
  · rw [again.channels, plain.channels, missed.channels, Function.update_idem]
    rfl
  · rw [again.host, plain.host]
    simp only [Effect.on, missed.net]
    exact Effect.net_entered _ _ _
  · rw [again.host, plain.host]
    simp only [Effect.on, missed.log]
    rfl
  · rw [again.host, plain.host]
    simp only [Effect.on, missed.counters]
    cases metered : c.metered with
    | false => rfl
    | true => exact Effect.count_addErrors _ _ _

/-- A step that fails leaves the channel and all that the layer holds, but for what the last wait
reported. If an injected failure made it fail, then the same step taken again ends as if the failure
had not been injected. -/
theorem failed_step_harmless (found : b.channel? slot = some c)
    (failed : b.step (.channel slot step) = (.failed error, after)) :
    after.channel? = Function.update b.channel? slot (some (c.afterFailure step)) ∧
      { after.host.net with calls := b.host.net.calls, failures := b.host.net.failures } =
        b.host.net ∧
      ∀ kind code, step ≠ .receiveBatch → b.host.net.failures kind = some code →
        after.host.net.failures kind = none →
          error.code? = some code ∧
            SameEnd (counted c step) (after.step (.channel slot step))
              ((b.setNet (b.host.net.unset kind)).step (.channel slot step)) := by
  obtain ⟨reply, host, channels, -, reported⟩ := step_outcome found step
  rw [failed] at reply host channels reported
  obtain ⟨channel, vain⟩ := Channel.outcome_in_vain b.reported reply.symm
  rw [channel] at channels
  have net : after.host.net = (c.outcome b.reported b.host.net step).effect.net b.host.net :=
    congrArg Host.net host
  refine ⟨channels, ?_, ?_⟩
  · rw [net]
    exact vain.net
  · intro kind code single set gone
    rw [net] at gone
    obtain ⟨shown, entered, quiet, more⟩ := vain.spent set gone
    refine ⟨shown, ?_⟩
    have missed : Missed b slot c step kind after := by
      refine ⟨channels, net.trans entered, ?_, ?_, reported⟩
      · have log := congrArg Host.log host
        simpa only [Effect.on, quiet, List.append_nil] using log
      · have counters := congrArg Host.counters host
        simp only [Effect.on, more] at counters
        rw [counters]
        unfold counted
        cases c.metered <;> cases step.transfers <;> simp [Counters.addErrors]
    exact missed.again found single

theorem failed_read_retried :
    let b := (start [] true).run
      [.create 0 "mock0" 1 0 Identifier.zero true,
        .script (.push ⟨0x123, 1, 0, 0, 0, #v[7, 0, 0, 0, 0, 0, 0, 0]⟩),
        .script (.failNext .read 5)]
    let after := (b.step (.channel 0 .receive)).2
    b.step (.channel 0 .receive) = (.failed (.transferFailed .read 3 (.errno 5)), after) ∧
      after.host.net.inbound = b.host.net.inbound ∧
      SameEnd 1 (after.step (.channel 0 .receive))
        ((b.setNet (b.host.net.unset .read)).step (.channel 0 .receive)) := by
  intro b after
  have found : b.channel? 0 =
      some { Channel.fresh "mock0" 1 0 Identifier.zero with handle := 3, metered := true } := rfl
  have failed : b.step (.channel 0 .receive) =
      (.failed (.transferFailed .read 3 (.errno 5)), after) := rfl
  obtain ⟨-, left, retried⟩ := failed_step_harmless found failed
  have queue := congrArg Simulator.inbound left
  obtain ⟨-, ends⟩ := retried .read 5 nofun rfl rfl
  exact ⟨failed, queue, ends⟩

end Bench

end CanBus
