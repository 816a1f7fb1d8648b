import CanBus.Proofs.Outcomes
import Mathlib.Algebra.Ring.Nat

namespace CanBus

def Simulator.later (nanos : Nat) (s : Simulator) : Simulator := { s with clock := s.clock + nanos }

theorem Simulator.later_later (first second : Nat) (s : Simulator) :
    (s.later first).later second = s.later (first + second) := by
  simp only [later, Nat.add_assoc]

theorem Layer.reporting_none {σ : Type} (layer : Layer σ) : layer.reporting none = layer := by
  have write : (layer.reporting none).write = layer.write := by
    funext handle frame state
    simp only [Layer.reporting]
    split <;> rename_i made <;> rw [made]
    rfl
  cases layer
  simp only [Layer.reporting] at write ⊢
  rw [write]

namespace Effect

theorem nothing_andThen (e : Effect) : ({} : Effect).andThen e = e := by
  simp [andThen]

theorem passing_andThen (first second : Nat) (events : List Event) (e : Effect) :
    ({ time := first } : Effect).andThen (e.andThen { time := second, events := events }) =
      e.andThen { time := first + second, events := events } := by
  simp [andThen, Nat.add_left_comm]

theorem on_passing_telling (metered : Bool) (nanos : Nat) (events : List Event)
    (host : Host Simulator) :
    ({ time := nanos, events := events } : Effect).on metered host =
      { host with net := host.net.later nanos, log := host.log ++ events } := by
  rw [on_uncounted metered host rfl rfl rfl rfl]
  simp [net, Simulator.entered, Simulator.later]

theorem net_later (e : Effect) (nanos : Nat) (s : Simulator) :
    e.net (s.later nanos) = (e.net s).later nanos := by
  simp only [net, Simulator.entered, Simulator.later, Nat.add_right_comm]

end Effect

/-- What single sends were answered up to the one that failed, if any did, and what they left. -/
structure SingleSends (τ : Type) where
  /-- The bytes of each message that went out. -/
  sizes : List Nat
  stop : Option ChannelError
  left : τ

namespace SingleSends

variable {τ ρ : Type}

def map (f : τ → ρ) (singles : SingleSends τ) : SingleSends ρ :=
  ⟨singles.sizes, singles.stop, f singles.left⟩

def after (written : Nat) (singles : SingleSends τ) : SingleSends τ :=
  { singles with sizes := written :: singles.sizes }

def andThen (first : SingleSends τ) (next : τ → SingleSends τ) : SingleSends τ :=
  match first.stop with
  | some _ => first
  | none =>
    let second := next first.left
    { second with sizes := first.sizes ++ second.sizes }

theorem after_andThen (written : Nat) (first : SingleSends τ) (next : τ → SingleSends τ) :
    (first.after written).andThen next = (first.andThen next).after written := by
  obtain ⟨sizes, stop, left⟩ := first
  cases stop <;> rfl

/-- How many sends were made, the one that failed included. -/
def attempts (singles : SingleSends τ) : Nat :=
  singles.sizes.length + if singles.stop.isSome then 1 else 0

theorem attempts_after (written : Nat) (singles : SingleSends τ) :
    (singles.after written).attempts = singles.attempts + 1 :=
  Nat.add_right_comm _ _ _

theorem attempts_map (f : τ → ρ) (singles : SingleSends τ) :
    (singles.map f).attempts = singles.attempts := rfl

def answer (total : Nat) (singles : SingleSends τ) : Except ChannelError Nat :=
  match singles.stop with
  | some error => .error error
  | none => .ok (total + singles.sizes.sum)

theorem answer_map (total : Nat) (f : τ → ρ) (singles : SingleSends τ) :
    (singles.map f).answer total = singles.answer total := rfl

theorem answer_after (total written : Nat) (singles : SingleSends τ) :
    (singles.after written).answer total = singles.answer (total + written) := by
  obtain ⟨sizes, stop, left⟩ := singles
  cases stop with
  | some error => rfl
  | none => simp only [answer, after, List.sum_cons, Nat.add_assoc]

end SingleSends

namespace Channel

/-- Sends one message after the other and stops at the first failure. -/
def sendEach {σ : Type} (layer : Layer σ) (forceExtended : Bool) (c : Channel) :
    List Message → Host σ → SingleSends (Host σ)
  | [], host => ⟨[], none, host⟩
  | message :: rest, host =>
    match c.send layer message forceExtended host with
    | (.error error, host) => ⟨[], some error, host⟩
    | (.ok written, host) => (sendEach layer forceExtended c rest host).after written

def batchEvents (interface : String) : Except ChannelError Nat → List Event
  | .ok total => [.batchSent interface total]
  | .error _ => []

theorem sendEach_append {σ : Type} (layer : Layer σ) (forceExtended : Bool) (c : Channel)
    (xs ys : List Message) (host : Host σ) :
    c.sendEach layer forceExtended (xs ++ ys) host =
      (c.sendEach layer forceExtended xs host).andThen (c.sendEach layer forceExtended ys) := by
  induction xs generalizing host with
  | nil => rfl
  | cons message rest ih =>
    rw [List.cons_append]
    rcases sent : c.send layer message forceExtended host with ⟨error | written, after⟩
    · simp only [sendEach, sent, SingleSends.andThen]
    · simp only [sendEach, sent, ih, SingleSends.after_andThen]

def sendEachOutcome (c : Channel) (s : Simulator) (reported : Option Nat) (forceExtended : Bool) :
    List Message → SingleSends Effect
  | [] => ⟨[], none, {}⟩
  | message :: rest =>
    match c.sendOutcome s reported forceExtended message with
    | (.error error, e) => ⟨[], some error, e⟩
    | (.ok written, e) =>
      ((sendEachOutcome c s reported forceExtended rest).map e.andThen).after written

open Simulator (layer)

section

variable {c : Channel} {s : Simulator} {reported : Option Nat} {forceExtended : Bool}

theorem sendEach_outcome (messages : List Message) (host : Host Simulator)
    (same : host.net.gate .write (some c.handle) = s.gate .write (some c.handle)) :
    c.sendEach (layer.reporting reported) forceExtended messages host =
      (c.sendEachOutcome s reported forceExtended messages).map (·.on c.metered host) := by
  -- `s` stays the state before the first send, while the host goes on
  induction messages generalizing host with
  | nil => simp [sendEach, sendEachOutcome, SingleSends.map]
  | cons message rest ih =>
    simp only [sendEach, sendEachOutcome, send_outcome, sendOutcome_congr _ _ same]
    rcases sent : c.sendOutcome s reported forceExtended message with ⟨error | written, e⟩
    · rfl
    · have again : c.sendOutcome host.net reported forceExtended message = (.ok written, e) :=
        (sendOutcome_congr _ _ same message).trans sent
      have passed := gate_sent reported forceExtended 0 again
      rw [Effect.nothing_andThen] at passed
      simp only [ih (e.on c.metered host) (passed.trans same), SingleSends.map, SingleSends.after,
        Effect.on_andThen]

theorem sendRestOutcome_each (delay : Duration) (taken total : Nat) (messages : List Message) :
    let singles := c.sendEachOutcome s reported forceExtended messages
    c.sendRestOutcome s reported forceExtended delay (taken + 1) total messages =
      (singles.answer total, taken + 1 + singles.attempts,
        singles.left.andThen {
          time := delay.nanos * singles.attempts
          events := batchEvents c.interface (singles.answer total) }) := by
  induction messages generalizing taken total with
  | nil => rfl
  | cons message rest ih =>
    have pauses : (taken + 1 == 0) = false := rfl
    simp only [sendRestOutcome, sendEachOutcome, pauses, Bool.false_eq_true, if_false, ih]
    rcases c.sendOutcome s reported forceExtended message with ⟨error | written, e⟩
    · have ended := Effect.passing_andThen delay.nanos 0 [] e
      have nothing : e.andThen {} = e := by simp [Effect.andThen]
      rw [Nat.add_zero, nothing] at ended
      simp only [ended, SingleSends.answer, SingleSends.attempts, batchEvents]
      simp
    · have count (n : Nat) : taken + 1 + 1 + n = taken + 1 + (n + 1) := by omega
      have time (n : Nat) : delay.nanos + delay.nanos * n = delay.nanos * (n + 1) := by
        rw [Nat.mul_succ, Nat.add_comm]
      simp only [SingleSends.answer_after, SingleSends.attempts_after, SingleSends.answer_map,
        SingleSends.attempts_map, count, Effect.andThen_assoc]
      rw [← time, ← Effect.andThen_assoc e, Effect.passing_andThen]
      rfl

theorem sendBatchOutcome_each (isOpen : c.isOpen = true) (messages : List Message)
    (delay : Option Duration) :
    let singles := c.sendEachOutcome s reported forceExtended messages
    c.sendBatchOutcome s reported forceExtended messages delay =
      (singles.answer 0, singles.attempts,
        singles.left.andThen {
          time := (delay.getD c.batchDelay).nanos * (singles.attempts - 1)
          events := batchEvents c.interface (singles.answer 0) }) := by
  unfold sendBatchOutcome
  rw [if_pos isOpen]
  cases messages with
  | nil => rfl
  | cons message rest =>
    -- the first message comes without a pause
    have first : ({ time := if (0 : Nat) == 0 then 0 else (delay.getD c.batchDelay).nanos } : Effect)
        = {} := rfl
    simp only [sendRestOutcome, sendEachOutcome, first, Effect.nothing_andThen,
      sendRestOutcome_each]
    rcases c.sendOutcome s reported forceExtended message with ⟨error | written, e⟩
    · simp [SingleSends.answer, SingleSends.attempts, batchEvents, Effect.andThen]
    · simp only [SingleSends.answer_after, SingleSends.attempts_after, SingleSends.answer_map,
        SingleSends.attempts_map, Nat.zero_add, Nat.add_sub_cancel, Nat.add_comm 1]
      rw [← Effect.andThen_assoc]
      rfl

theorem sendOutcome_ok {message : Message} {written : Nat} {e : Effect}
    (sent : c.sendOutcome s reported forceExtended message = (.ok written, e)) :
    message.payload.length ≤ maxPayload ∧ written = reported.getD frameBytes ∧
      e.calls = [.write] ∧ e.written = [message.sentFrame forceExtended] := by
  unfold sendOutcome at sent
  split at sent
  · split at sent
    · cases sent
    · rename_i fits
      simp only [] at sent
      split at sent
      · cases sent
      · obtain ⟨same, rfl⟩ := Prod.mk.inj sent
        exact ⟨Nat.not_lt.mp fits, (Except.ok.inj same).symm, rfl, rfl⟩
  · cases sent

theorem sendOutcome_error {message : Message} {error : ChannelError} {e : Effect}
    (isOpen : c.isOpen = true)
    (failed : c.sendOutcome s reported forceExtended message = (.error error, e)) :
    e.written = [] ∧
      e.calls = if message.payload.length ≤ maxPayload then [.write] else [] := by
  unfold sendOutcome at failed
  rw [if_pos isOpen] at failed
  split at failed
  · rename_i long
    obtain ⟨-, rfl⟩ := Prod.mk.inj failed
    exact ⟨rfl, (if_neg (Nat.not_le.mpr long)).symm⟩
  · rename_i fits
    simp only [] at failed
    split at failed
    · obtain ⟨-, rfl⟩ := Prod.mk.inj failed
      exact ⟨rfl, (if_pos (Nat.not_lt.mp fits)).symm⟩
    · cases failed

/-- The messages that went out, and the calls for them and for the one that failed. -/
structure Dispatches (messages : List Message) (forceExtended : Bool) (bytes : Nat)
    (singles : SingleSends Effect) : Prop where
  sizes : singles.sizes = List.replicate singles.sizes.length bytes
  written : singles.left.written =
    (messages.take singles.sizes.length).map (·.sentFrame forceExtended)
  calls : singles.left.calls = List.replicate
    ((messages.take (singles.sizes.length + 1)).countP (·.payload.length ≤ maxPayload)) .write
  ended : singles.stop = none ↔ singles.sizes.length = messages.length
  among : singles.sizes.length ≤ messages.length

theorem sendEachOutcome_dispatches (isOpen : c.isOpen = true) (messages : List Message) :
    Dispatches messages forceExtended (reported.getD frameBytes)
      (c.sendEachOutcome s reported forceExtended messages) := by
  induction messages with
  | nil => exact ⟨rfl, rfl, rfl, iff_of_true rfl rfl, Nat.le_refl 0⟩
  | cons message rest ih =>
    unfold sendEachOutcome
    rcases sent : c.sendOutcome s reported forceExtended message with ⟨error | written, e⟩
    · obtain ⟨written, calls⟩ := sendOutcome_error isOpen sent
      refine ⟨rfl, written, ?_, iff_of_false nofun nofun, Nat.zero_le _⟩
      simp only [calls, List.length_nil, Nat.zero_add, List.take_succ_cons, List.take_zero]
      by_cases fits : message.payload.length ≤ maxPayload <;> simp [fits]
    · obtain ⟨fits, rfl, calls, written⟩ := sendOutcome_ok sent
      constructor
      · simp only [SingleSends.after, SingleSends.map, List.length_cons, List.replicate_succ]
        rw [← ih.sizes]
      · simp [SingleSends.after, SingleSends.map, Effect.andThen, written, ih.written]
      · simp [SingleSends.after, SingleSends.map, Effect.andThen, calls, ih.calls, fits,
          List.replicate_succ]
      · simp [SingleSends.after, SingleSends.map, ih.ended]
      · exact Nat.succ_le_succ ih.among

end

variable {c : Channel} {host : Host Simulator} {forceExtended : Bool}

theorem sendEach_read (messages : List Message) {s : Simulator}
    (same : host.net.gate .write (some c.handle) = s.gate .write (some c.handle)) :
    c.sendEach layer forceExtended messages host =
      (c.sendEachOutcome s none forceExtended messages).map (·.on c.metered host) := by
  have each : c.sendEach (layer.reporting none) forceExtended messages host = _ :=
    sendEach_outcome messages host same
  rwa [Layer.reporting_none] at each

/-- What the batch makes of its sends. -/
def batchOf (c : Channel) (delay : Option Duration) (singles : SingleSends (Host Simulator)) :
    Except ChannelError Nat × Host Simulator :=
  (singles.answer 0,
    { net := singles.left.net.later ((delay.getD c.batchDelay).nanos * (singles.attempts - 1))
      counters := singles.left.counters
      log := singles.left.log ++ batchEvents c.interface (singles.answer 0) })

theorem sendBatch_each (isOpen : c.isOpen = true) (messages : List Message)
    (delay : Option Duration) (forceExtended : Bool) (host : Host Simulator) :
    c.sendBatch layer messages delay forceExtended host =
      c.batchOf delay (c.sendEach layer forceExtended messages host) := by
  have counted := sendCounted_outcome none forceExtended messages delay c host
  rw [Layer.reporting_none, sendBatchOutcome_each isOpen] at counted
  simp only [sendBatch, counted, sendEach_read messages rfl, batchOf, Effect.on_andThen,
    Effect.on_passing_telling, SingleSends.answer_map, SingleSends.attempts_map]
  rfl

theorem sendEach_stopped {σ : Type} {layer : Layer σ} {c : Channel} {messages : List Message}
    {host : Host σ} {error : ChannelError}
    (stopped : (c.sendEach layer forceExtended messages host).stop = some error) :
    let singles := c.sendEach layer forceExtended messages host
    let before := c.sendEach layer forceExtended (messages.take singles.sizes.length) host
    before.stop = none ∧ ∃ failing, messages[singles.sizes.length]? = some failing ∧
      c.send layer failing forceExtended before.left = (.error error, singles.left) := by
  induction messages generalizing host with
  | nil => cases stopped
  | cons message rest ih =>
    simp only [sendEach] at stopped ⊢
    rcases sent : c.send layer message forceExtended host with ⟨cause | written, after⟩
    · rw [sent] at stopped
      obtain rfl := Option.some.inj stopped
      exact ⟨rfl, message, rfl, sent⟩
    · rw [sent] at stopped
      have later := ih stopped
      simp only [SingleSends.after, List.length_cons, List.take_succ_cons, sendEach, sent]
      exact later

/-- The host that stands where another does, so many nanoseconds later. What they told of it may
differ. -/
structure Trails (nanos : Nat) (ahead behind : Host Simulator) : Prop where
  net : behind.net = ahead.net.later nanos
  counters : behind.counters = ahead.counters

theorem sendEach_trails (c : Channel) (forceExtended : Bool) (messages : List Message) {nanos : Nat}
    {behind : Host Simulator} (trails : Trails nanos host behind) :
    let first := c.sendEach layer forceExtended messages host
    let second := c.sendEach layer forceExtended messages behind
    second.sizes = first.sizes ∧ second.stop = first.stop ∧
      Trails nanos first.left second.left := by
  have same : behind.net.gate .write (some c.handle) = host.net.gate .write (some c.handle) := by
    rw [trails.net]
    rfl
  have ahead : c.sendEach layer forceExtended messages host = _ := sendEach_read messages rfl
  simp only [ahead, sendEach_read messages same]
  refine ⟨rfl, rfl, ?_, ?_⟩
  · simp only [SingleSends.map, Effect.on, trails.net, Effect.net_later]
  · simp only [SingleSends.map, Effect.on, trails.counters]

theorem attempts_eq_zero_iff {σ : Type} (layer : Layer σ) (forceExtended : Bool) (c : Channel)
    (messages : List Message) (host : Host σ) :
    (c.sendEach layer forceExtended messages host).attempts = 0 ↔ messages = [] := by
  cases messages with
  | nil => exact iff_of_true rfl rfl
  | cons message rest =>
    refine iff_of_false ?_ nofun
    simp only [sendEach]
    split <;> simp [SingleSends.attempts, SingleSends.after]

theorem pauses_add (delay m n : Nat) :
    delay * (m + n - 1) =
      delay * (m - 1) + delay * (n - 1) + if m = 0 ∨ n = 0 then 0 else delay := by
  rcases m with _ | m
  · simp
  rcases n with _ | n
  · simp
  have count : m + 1 + (n + 1) - 1 = m + n + 1 := by omega
  simp only [count, Nat.add_sub_cancel, Nat.succ_ne_zero, or_self, if_false, Nat.mul_add,
    Nat.mul_one]

/-- All messages of the first list went out, and the others followed at once or after the end of a
batch. -/
theorem batchOf_joined (delay : Option Duration) {first second apart : SingleSends (Host Simulator)}
    (ended : first.stop = none) (sizes : apart.sizes = second.sizes)
    (stop : apart.stop = second.stop)
    (trails : Trails ((delay.getD c.batchDelay).nanos * (first.attempts - 1)) second.left
      apart.left) :
    let joint := c.batchOf delay { second with sizes := first.sizes ++ second.sizes }
    let last := c.batchOf delay apart
    joint.1 = last.1.map (first.sizes.sum + ·) ∧
      joint.2.net = last.2.net.later (if first.attempts = 0 ∨ second.attempts = 0 then 0
        else (delay.getD c.batchDelay).nanos) ∧
      joint.2.counters = last.2.counters := by
  intro joint last
  have attempts : ({ second with sizes := first.sizes ++ second.sizes } : SingleSends _).attempts =
      first.attempts + second.attempts := by
    simp [SingleSends.attempts, ended, Nat.add_assoc]
  have again : apart.attempts = second.attempts := by
    simp only [SingleSends.attempts, sizes, stop]
  refine ⟨?_, ?_, trails.counters.symm⟩
  · simp only [joint, last, batchOf, SingleSends.answer, sizes, stop]
    cases second.stop with
    | some error => rfl
    | none => simp only [List.sum_append, Nat.zero_add, Except.map]
  · simp only [joint, last, batchOf, attempts, again, trails.net, Simulator.later_later, pauses_add]

theorem sendBatch_append (isOpen : c.isOpen = true) (delay : Option Duration)
    (forceExtended : Bool) (xs ys : List Message) (host : Host Simulator) :
    let first := c.sendBatch layer xs delay forceExtended host
    let second := c.sendBatch layer ys delay forceExtended first.2
    let joint := c.sendBatch layer (xs ++ ys) delay forceExtended host
    (∀ error, first.1 = .error error → joint = first) ∧
      ∀ total, first.1 = .ok total →
        joint.1 = second.1.map (total + ·) ∧
          joint.2.net = second.2.net.later
            (if xs = [] ∨ ys = [] then 0 else (delay.getD c.batchDelay).nanos) ∧
          joint.2.counters = second.2.counters := by
  intro first second joint
  have firstly : first = _ := sendBatch_each isOpen xs delay forceExtended host
  have jointly : joint = _ := sendBatch_each isOpen (xs ++ ys) delay forceExtended host
  have secondly : second = _ := sendBatch_each isOpen ys delay forceExtended first.2
  rw [sendEach_append, SingleSends.andThen] at jointly
  cases ended : (c.sendEach layer forceExtended xs host).stop with
  | some error =>
    rw [ended] at jointly
    refine ⟨fun _ _ => jointly.trans firstly.symm, ?_⟩
    rw [firstly, batchOf, SingleSends.answer, ended]
    exact nofun
  | none =>
    rw [ended] at jointly
    let pauses := (delay.getD c.batchDelay).nanos *
      ((c.sendEach layer forceExtended xs host).attempts - 1)
    have trails : Trails pauses (c.sendEach layer forceExtended xs host).left first.2 := by
      rw [firstly]
      exact ⟨rfl, rfl⟩
    obtain ⟨sizes, stop, behind⟩ := sendEach_trails c forceExtended ys trails
    have joined := batchOf_joined delay ended sizes stop behind
    simp only [attempts_eq_zero_iff] at joined
    rw [firstly, batchOf, SingleSends.answer, ended, jointly, secondly]
    refine ⟨nofun, ?_⟩
    rintro total ⟨⟩
    rw [Nat.zero_add]
    exact joined

/-- A batch is its messages sent one by one up to the first that fails, and later by its pauses.
Whether they come in one batch or in two makes no other difference. -/
theorem sendBatch_agrees (c : Channel) (host : Host Simulator) (isOpen : c.isOpen = true)
    (delay : Option Duration) (forceExtended : Bool) :
    (∀ messages : List Message,
      let singles := c.sendEach layer forceExtended messages host
      let batch := c.sendBatch layer messages delay forceExtended host
      let out := singles.sizes.length
      batch.2.net =
          singles.left.net.later ((delay.getD c.batchDelay).nanos * (singles.attempts - 1)) ∧
        batch.2.counters = singles.left.counters ∧
        batch.2.log = singles.left.log ++ batchEvents c.interface batch.1 ∧
        (singles.stop = none → batch.1 = .ok (16 * messages.length)) ∧
        (∀ error, singles.stop = some error → batch.1 = .error error ∧
          ∃ failing, messages[out]? = some failing ∧
            let before := c.sendEach layer forceExtended (messages.take out) host
            before.stop = none ∧
              c.send layer failing forceExtended before.left = (.error error, singles.left)) ∧
        batch.2.net.written =
          host.net.written ++ (messages.take out).map (·.sentFrame forceExtended) ∧
        batch.2.net.calls = host.net.calls ++ List.replicate
          ((messages.take (out + 1)).countP (·.payload.length ≤ maxPayload)) .write) ∧
    ∀ xs ys : List Message,
      let first := c.sendBatch layer xs delay forceExtended host
      let second := c.sendBatch layer ys delay forceExtended first.2
      let joint := c.sendBatch layer (xs ++ ys) delay forceExtended host
      (∀ error, first.1 = .error error → joint = first) ∧
        ∀ total, first.1 = .ok total →
          joint.1 = second.1.map (total + ·) ∧
            joint.2.net = second.2.net.later
              (if xs = [] ∨ ys = [] then 0 else (delay.getD c.batchDelay).nanos) ∧
            joint.2.counters = second.2.counters := by
  refine ⟨?_, fun xs ys => sendBatch_append isOpen delay forceExtended xs ys host⟩
  intro messages singles batch out
  have batched : batch = c.batchOf delay singles :=
    sendBatch_each isOpen messages delay forceExtended host
  have read : singles = _ := sendEach_read messages rfl
  have dispatches : Dispatches messages forceExtended ((none : Option Nat).getD frameBytes)
      (c.sendEachOutcome host.net none forceExtended messages) :=
    sendEachOutcome_dispatches isOpen messages
  have sizes : singles.sizes = List.replicate out frameBytes := by
    simp only [out, read]
    exact dispatches.sizes
  rw [batched]
  refine ⟨rfl, rfl, rfl, ?_, ?_, ?_, ?_⟩
  · intro whole
    have all : out = messages.length := by
      simp only [out, read] at whole ⊢
      exact dispatches.ended.mp whole
    simp only [batchOf, SingleSends.answer, whole, sizes, List.sum_replicate_nat, all,
      Nat.zero_add, frameBytes, Nat.mul_comm messages.length]
  · intro error stopped
    obtain ⟨before, failing, here, failed⟩ := sendEach_stopped stopped
    refine ⟨?_, failing, here, before, failed⟩
    simp only [batchOf, SingleSends.answer, stopped]
  · have written := dispatches.written
    simp only [batchOf, out, read]
    exact congrArg (host.net.written ++ ·) written
  · have calls := dispatches.calls
    simp only [batchOf, out, read]
    exact congrArg (host.net.calls ++ ·) calls

theorem long_message_ends_batch :
    let short : Message := .ofPayload Identifier.zero [7]
    let long : Message := .ofPayload Identifier.zero (List.replicate 9 0)
    let c : Channel := { fresh "mock0" 1 0 Identifier.zero with handle := 3, metered := true }
    let host : Host Simulator := ⟨{ Simulator.start with openHandles := [3] }, Counters.zero, []⟩
    let batch := c.sendBatch layer [short, long, short] none false host
    let part := c.sendBatch layer [short, long] none false host
    c.isOpen = true ∧ batch.1 = .error (.payloadTooLong 9 3) ∧
      batch.2.net.written = [short.sentFrame false] ∧ batch.2.net.calls = [.write] ∧
      batch.2.counters = ⟨1, 16, 0, 0⟩ ∧ batch = part := by
  intro short long c host batch part
  have isOpen : c.isOpen = true := by decide
  obtain ⟨each, parts⟩ := sendBatch_agrees c host isOpen none false
  obtain ⟨-, -, -, -, -, written, calls⟩ := each [short, long, short]
  obtain ⟨failed, -⟩ := parts [short, long] [short]
  have refused : part.1 = .error (.payloadTooLong 9 3) := rfl
  have same : batch = part := failed _ refused
  exact ⟨isOpen, same ▸ refused, written, calls, by decide, same⟩

end Channel

end CanBus
