import CanBus.Proofs.Conservation
import CanBus.Proofs.Metering
import CanBus.Proofs.Outgoing
import Mathlib.Algebra.BigOperators.Fin

namespace CanBus

/-- Whether the operation failed in a transfer. A batch counts as one operation. -/
def Reply.isIo : Reply → Bool
  | failed error => error.isIo
  | batch _ (.error error) _ => error.isIo
  | _ => false

def Counters.tally (sent taken errors : Nat) (c : Counters) : Counters where
  sentFrames := c.sentFrames + UInt64.ofNat sent
  sentBytes := c.sentBytes + UInt64.ofNat (16 * sent)
  receivedFrames := c.receivedFrames + UInt64.ofNat taken
  errors := c.errors + UInt64.ofNat errors

theorem Counters.tally_tally (sent taken errors sent' taken' errors' : Nat) (c : Counters) :
    (c.tally sent taken errors).tally sent' taken' errors' =
      c.tally (sent + sent') (taken + taken') (errors + errors') := by
  simp only [tally, Nat.mul_add, UInt64.ofNat_add, UInt64.add_assoc]

theorem Counters.tally_nothing (c : Counters) : c.tally 0 0 0 = c := by
  simp [tally]

namespace Effect

variable {e f : Effect} {queued more : Nat} {failed : Bool}

/-- The effect takes no more than is queued, and tells the bytes and the failures as they are. -/
structure Fair (e : Effect) (queued : Nat) (failed : Bool) : Prop where
  taken : e.taken ≤ queued
  bytes : e.bytes = 16 * e.written.length
  failures : e.failures = if failed then 1 else 0

theorem Fair.nothing (queued : Nat) : Fair {} queued false := ⟨Nat.zero_le _, rfl, rfl⟩

theorem Fair.mono (fair : e.Fair queued failed) (fewer : queued ≤ more) : e.Fair more failed :=
  ⟨Nat.le_trans fair.taken fewer, fair.bytes, fair.failures⟩

theorem Fair.andThen (first : e.Fair queued false) (second : f.Fair more failed) :
    (e.andThen f).Fair (queued + more) failed where
  taken := Nat.add_le_add first.taken second.taken
  bytes := by
    simp only [Effect.andThen, first.bytes, second.bytes, List.length_append, Nat.mul_add]
  failures := by
    simp only [Effect.andThen, first.failures, second.failures, Bool.false_eq_true, if_false,
      Nat.zero_add]

end Effect

namespace Channel

open Effect (Fair)

def failedIo {α : Type} : Except ChannelError α → Bool
  | .ok _ => false
  | .error error => error.isIo

section

variable (c : Channel) (s : Simulator)

theorem closeOutcome_fair :
    (c.closeOutcome s).effect.Fair s.inbound.length (failedIo (c.closeOutcome s).answer) := by
  unfold closeOutcome
  cases c.isOpen with
  | false => exact .nothing _
  | true =>
    cases s.gate .close none with
    | some fault => exact ⟨Nat.zero_le _, rfl, rfl⟩
    | none => cases s.isOpen c.handle <;> exact ⟨Nat.zero_le _, rfl, rfl⟩

theorem waitOutcome_fair (timeout : Option Duration) :
    (c.waitOutcome s timeout).effect.Fair s.inbound.length
      (failedIo (c.waitOutcome s timeout).answer) := by
  unfold waitOutcome
  cases c.isOpen with
  | false => exact .nothing _
  | true => cases s.gate .poll (some c.handle) <;> exact ⟨Nat.zero_le _, rfl, rfl⟩

theorem filterOutcome_fair (mask id : UInt32) :
    (c.filterOutcome s mask id).effect.Fair s.inbound.length
      (failedIo (c.filterOutcome s mask id).answer) := by
  unfold filterOutcome
  cases c.isOpen with
  | false => exact .nothing _
  | true => cases s.gate .setFilter (some c.handle) <;> exact ⟨Nat.zero_le _, rfl, rfl⟩

theorem receiveOutcome_fair :
    (c.receiveOutcome s).2.Fair s.inbound.length (failedIo (c.receiveOutcome s).1) := by
  unfold receiveOutcome
  cases c.isOpen with
  | false => exact .nothing _
  | true =>
    cases s.gate .read (some c.handle) with
    | some fault => exact ⟨Nat.zero_le _, rfl, rfl⟩
    | none =>
      cases s.inbound with
      | nil => exact ⟨Nat.zero_le _, rfl, rfl⟩
      | cons frame rest => exact ⟨Nat.succ_le_succ (Nat.zero_le _), rfl, rfl⟩

theorem drainOutcome_fair (expected : Nat) :
    (c.drainOutcome s expected).2.Fair s.inbound.length
      (failedIo (c.drainOutcome s expected).1) := by
  unfold drainOutcome
  split
  · exact .nothing _
  · cases s.gate .read (some c.handle) with
    | some fault =>
      simp only []
      cases fault.wouldBlock <;> exact ⟨Nat.zero_le _, rfl, rfl⟩
    | none =>
      have few : (s.inbound.take expected).length ≤ s.inbound.length := List.length_take_le' _ _
      have taking : (c.taking (s.inbound.take expected)).Fair s.inbound.length false :=
        ⟨few, rfl, rfl⟩
      have ending : Fair (if s.inbound.length < expected then
          c.stopping expected s.inbound.length else {}) 0 false := by
        split <;> exact ⟨Nat.zero_le _, rfl, rfl⟩
      exact taking.andThen ending

theorem receiveBatchOutcome_fair :
    (c.receiveBatchOutcome s).effect.Fair s.inbound.length
      (failedIo (c.receiveBatchOutcome s).answer) := by
  have drained := drainOutcome_fair c s c.expected
  have told (event : Event) : Fair { events := [event] } 0 false := ⟨Nat.zero_le _, rfl, rfl⟩
  unfold receiveBatchOutcome
  cases c.isOpen with
  | false => exact .nothing _
  | true =>
    simp only [if_true]
    rcases made : c.drainOutcome s c.expected with ⟨error | frames, e⟩ <;> rw [made] at drained
    · exact drained
    · exact drained.andThen (told _)

theorem sendOutcome_fair (forceExtended : Bool) (message : Message) :
    (c.sendOutcome s none forceExtended message).2.Fair 0
      (failedIo (c.sendOutcome s none forceExtended message).1) := by
  unfold sendOutcome
  cases c.isOpen with
  | false => exact .nothing _
  | true =>
    by_cases long : maxPayload < message.payload.length
    · simp only [long, if_true]
      exact .nothing _
    · simp only [long, if_true, if_false]
      cases s.gate .write (some c.handle) <;> exact ⟨Nat.zero_le _, rfl, rfl⟩

theorem sendRestOutcome_fair (forceExtended : Bool) (delay : Duration) (taken total : Nat)
    (messages : List Message) :
    (c.sendRestOutcome s none forceExtended delay taken total messages).2.2.Fair 0
      (failedIo (c.sendRestOutcome s none forceExtended delay taken total messages).1) := by
  induction messages generalizing taken total with
  | nil => exact ⟨Nat.zero_le _, rfl, rfl⟩
  | cons message rest ih =>
    have pause (time : Nat) : Fair { time := time } 0 false := ⟨Nat.zero_le _, rfl, rfl⟩
    have one := sendOutcome_fair c s forceExtended message
    unfold sendRestOutcome
    rcases sent : c.sendOutcome s none forceExtended message with ⟨error | written, e⟩ <;>
      rw [sent] at one
    · exact (pause _).andThen one
    · exact ((pause _).andThen one).andThen (ih _ _)

theorem isIo_replyOf {α : Type} {ok : α → Reply} (plain : ∀ value, (ok value).isIo = false)
    (result : Except ChannelError α) : (Bench.replyOf ok result).isIo = failedIo result := by
  cases result with
  | ok value => exact plain value
  | error error => rfl

theorem failedIo_map {α β : Type} (f : α → β) (result : Except ChannelError α) :
    failedIo (result.map f) = failedIo result := by
  cases result <;> rfl

theorem fair_replied {α : Type} {e : Effect} {queued : Nat} {ok : α → Reply}
    {result : Except ChannelError α} (fair : e.Fair queued (failedIo result))
    (plain : ∀ value, (ok value).isIo = false) :
    e.Fair queued (Bench.replyOf ok result).isIo := by
  rwa [isIo_replyOf plain]

theorem outcome_fair (step : ChannelStep) (time : Timestamp) :
    (c.outcome none s step).effect.Fair s.inbound.length
      ((c.outcome none s step).answer time).isIo := by
  have few : 0 ≤ s.inbound.length := Nat.zero_le _
  cases step with
  | close => exact fair_replied (closeOutcome_fair c s) fun _ => rfl
  | wait timeout => exact fair_replied (waitOutcome_fair c s timeout) fun _ => rfl
  | receive =>
    have fair := receiveOutcome_fair c s
    rw [← failedIo_map (Message.arrival time)] at fair
    exact fair_replied fair fun _ => rfl
  | receiveBatch =>
    have fair := receiveBatchOutcome_fair c s
    rw [← failedIo_map (List.map (Message.arrival time))] at fair
    exact fair_replied fair fun _ => rfl
  | send message forceExtended =>
    exact fair_replied ((sendOutcome_fair c s forceExtended message).mono few) fun _ => rfl
  | sendBatch messages delay forceExtended =>
    have fair : (c.sendBatchOutcome s none forceExtended messages delay).2.2.Fair 0
        (failedIo (c.sendBatchOutcome s none forceExtended messages delay).1) := by
      unfold sendBatchOutcome
      cases c.isOpen with
      | false => exact .nothing _
      | true => exact sendRestOutcome_fair c s forceExtended _ 0 0 messages
    simp only [outcome]
    rcases sent : c.sendBatchOutcome s none forceExtended messages delay with
      ⟨error | written, taken, e⟩ <;> rw [sent] at fair <;> exact fair.mono few
  | setFilter mask id => exact fair_replied (filterOutcome_fair c s mask id) fun _ => rfl
  | setSender | filterMask | socket | info => exact .nothing _

end

end Channel

/-- A step that channels take, or that the script prepares. Every channel is tied to the counters as
it is made. -/
def Step.Accounted : Step → Prop
  | create _ _ _ _ _ metered | ofConfig _ _ metered => metered = true
  | drop _ | channel _ _ | script _ | idle => True
  | direct _ | reportWrites _ | exposition => False

namespace Bench

variable {b : Bench}

structure Metered (b : Bench) : Prop where
  counters : b.metered = true
  honest : b.reported = none
  channels : ∀ slot c, b.channel? slot = some c → c.metered = true

/-- What a step adds to the counters is what it sends, takes and fails. -/
structure Tallies (b : Bench) (pushed : Nat) (failed : Bool) (after : Bench) (sent taken : Nat) :
    Prop where
  written : after.host.net.written.length = b.host.net.written.length + sent
  inbound : after.host.net.inbound.length + taken = b.host.net.inbound.length + pushed
  counters : after.host.counters = b.host.counters.tally sent taken (if failed then 1 else 0)

theorem channelStep_tallies (metered : b.Metered) {slot : Nat} {c : Channel}
    (found : b.channel? slot = some c) (step : ChannelStep) :
    ∃ sent taken, b.Tallies 0 (b.step (.channel slot step)).1.isIo
      (b.step (.channel slot step)).2 sent taken := by
  have outcome := step_outcome found step
  rw [metered.honest, metered.channels slot c found] at outcome
  have fair := c.outcome_fair b.host.net step b.host.net.now
  rw [← outcome.reply] at fair
  refine ⟨(c.outcome none b.host.net step).effect.written.length,
    (c.outcome none b.host.net step).effect.taken, ?_, ?_, ?_⟩
  · rw [outcome.host]
    exact List.length_append
  · rw [outcome.host]
    simp only [Effect.on, Effect.net, List.length_drop]
    have few := fair.taken
    omega
  · rw [outcome.host]
    simp only [Effect.on, if_true, Effect.count, Counters.tally, fair.bytes, fair.failures]

theorem counters_dropSlot (slot : Nat) (b : Bench) :
    (b.dropSlot slot).host.counters = b.host.counters := by
  unfold dropSlot
  split
  · rename_i c _
    have same := congrArg Host.counters (c.drop_recount b.layer b.host.counters b.host)
    exact same
  · rfl

theorem Metered.dropSlot (metered : b.Metered) (slot : Nat) : (b.dropSlot slot).Metered := by
  have channels (other : Nat) (c : Channel) (found : (b.dropSlot slot).channel? other = some c) :
      c.metered = true := by
    rw [channel?_dropSlot] at found
    split at found
    · cases found
    · exact metered.channels other c found
  unfold Bench.dropSlot at channels ⊢
  split at channels
  · exact ⟨metered.counters, metered.honest, channels⟩
  · exact metered

theorem Metered.put (metered : b.Metered) (slot : Nat) {c : Channel} (tied : c.metered = true) :
    (b.put slot c).Metered := by
  refine ⟨metered.counters, metered.honest, ?_⟩
  intro other d found
  rw [channel?_put] at found
  split at found
  · obtain rfl := Option.some.inj found
    exact tied
  · exact metered.channels other d found

theorem Metered.seat (metered : b.Metered) (slot : Nat)
    {made : Except ChannelError Channel × Host Simulator} (fresh : Channel.Fresh made.1)
    (still : made.2.counters = b.host.counters) :
    (b.seat slot true made).2.Metered ∧ (b.seat slot true made).1.isIo = false ∧
      (b.seat slot true made).2.host.counters = b.host.counters := by
  obtain ⟨error | c, host⟩ := made
  · exact ⟨⟨metered.counters, metered.honest, metered.channels⟩, fresh, still⟩
  · have hosted : Metered { b with host := host, metered := true } :=
      ⟨rfl, metered.honest, metered.channels⟩
    simp only [Bench.seat, metered.counters, Bool.and_self, if_true]
    refine ⟨(hosted.dropSlot slot).put slot rfl, rfl, ?_⟩
    exact (counters_dropSlot slot _).trans still

theorem step_apart (metered : b.Metered) {step : Step} (accounted : step.Accounted)
    (other : ∀ slot inner, step ≠ .channel slot inner) :
    (b.step step).2.Metered ∧ (b.step step).1.isIo = false ∧
      (b.step step).2.host.counters = b.host.counters := by
  cases step with
  | create slot interface protocol mask sender tied =>
    obtain rfl : tied = true := accounted
    have same := congrArg (·.2.counters)
      (Channel.create_recount b.layer b.host.counters b.host interface protocol mask sender)
    exact metered.seat slot (Channel.create_fresh _ _ _ _ _ _) same
  | ofConfig slot config tied =>
    obtain rfl : tied = true := accounted
    have same := congrArg (·.2.counters)
      (Channel.ofConfig_recount b.layer b.host.counters b.host config)
    exact metered.seat slot (Channel.ofConfig_fresh _ _ _) same
  | drop slot => exact ⟨metered.dropSlot slot, rfl, counters_dropSlot slot b⟩
  | channel slot inner => exact absurd rfl (other slot inner)
  | script script =>
    refine ⟨⟨metered.counters, metered.honest, metered.channels⟩, ?_, rfl⟩
    cases script <;> rfl
  | idle => exact ⟨metered, rfl, rfl⟩
  | direct | reportWrites | exposition => exact absurd accounted id

theorem Metered.channelStep (metered : b.Metered) {slot : Nat} {c : Channel}
    (found : b.channel? slot = some c) (step : ChannelStep) :
    (b.step (.channel slot step)).2.Metered := by
  have outcome := step_outcome found step
  refine ⟨outcome.metered.trans metered.counters, outcome.reported.trans metered.honest, ?_⟩
  intro other d held
  rw [outcome.channel?] at held
  split at held
  · obtain rfl := Option.some.inj held
    rw [Channel.metered_outcome]
    exact metered.channels slot c found
  · exact metered.channels other d held

theorem step_tallies (metered : b.Metered) {step : Step} (accounted : step.Accounted) :
    (b.step step).2.Metered ∧
      ∃ sent taken,
        b.Tallies step.pushed.length (b.step step).1.isIo (b.step step).2 sent taken := by
  by_cases own : ∃ slot inner, step = .channel slot inner
  · obtain ⟨slot, inner, rfl⟩ := own
    cases found : b.channel? slot with
    | some c =>
      exact ⟨metered.channelStep found inner, channelStep_tallies metered found inner⟩
    | none =>
      rw [step_absent found]
      exact ⟨metered, 0, 0, rfl, rfl, (Counters.tally_nothing _).symm⟩
  · -- a step that neither reads nor writes only adds what it pushes
    have other : ∀ slot inner, step ≠ .channel slot inner :=
      fun slot inner same => own ⟨slot, inner, same⟩
    have indirect : ∀ call, step ≠ .direct call := by
      rintro call rfl
      exact accounted
    have unread : .read ∉ step.calls := by
      intro reads
      rcases reading_cases reads with ⟨slot, same | same⟩ | ⟨handle, same⟩
      · exact other _ _ same
      · exact other _ _ same
      · exact indirect _ same
    have unwritten : .write ∉ step.calls := by
      intro writes
      rcases writing_cases (fun handle frame => indirect _) writes with
        ⟨slot, message, forceExtended, same⟩ | ⟨slot, messages, delay, forceExtended, same⟩
      · exact other _ _ same
      · exact other _ _ same
    obtain ⟨still, calm, counters⟩ := step_apart metered accounted other
    refine ⟨still, 0, 0, ?_, ?_, ?_⟩
    · rw [(step_quiet unwritten).written]
      rfl
    · rw [step_pushes unread, List.length_append]
      rfl
    · rw [calm, counters]
      exact (Counters.tally_nothing _).symm

end Bench

/-- Machines whose channels share their counters and their log. -/
structure Fleet (n : Nat) where
  machines : Fin n → Bench
  counters : Counters
  log : List Event

namespace Fleet

variable {n : Nat}

def bench (i : Fin n) (f : Fleet n) : Bench :=
  { f.machines i with host := ⟨(f.machines i).host.net, f.counters, f.log⟩ }

def step (i : Fin n) (step : Step) (f : Fleet n) : Reply × Fleet n :=
  match (f.bench i).step step with
  | (reply, b) => (reply, ⟨Function.update f.machines i b, b.host.counters, b.host.log⟩)

def run (steps : List (Fin n × Step)) (f : Fleet n) : Fleet n :=
  steps.foldl (fun f entry => (f.step entry.1 entry.2).2) f

def replies : List (Fin n × Step) → Fleet n → List Reply
  | [], _ => []
  | (i, step) :: rest, f => (f.step i step).1 :: replies rest (f.step i step).2

def start (interfaces : Fin n → List (String × Int32)) (metered : Bool) : Fleet n where
  machines i := Bench.start (interfaces i) metered
  counters := Counters.zero
  log := []

def net (i : Fin n) (f : Fleet n) : Simulator := (f.machines i).host.net

def written (f : Fleet n) : Nat := ∑ i, (f.net i).written.length

def queued (f : Fleet n) : Nat := ∑ i, (f.net i).inbound.length

theorem sum_step (g : Simulator → Nat) (i : Fin n) (step : Step) (f : Fleet n) :
    (∑ j, g ((f.step i step).2.net j)) + g (f.net i) =
      (∑ j, g (f.net j)) + g ((f.bench i).step step).2.host.net := by
  let after := ((f.bench i).step step).2
  have changed := Finset.sum_update_of_mem (Finset.mem_univ i) (fun j => g (f.net j))
    (g after.host.net)
  have split := Finset.sum_eq_add_sum_sdiff_singleton_of_mem (Finset.mem_univ i)
    (fun j => g (f.net j))
  have pointwise : (fun j => g ((f.step i step).2.net j)) =
      Function.update (fun j => g (f.net j)) i (g after.host.net) := by
    funext j
    show g (Function.update f.machines i after j).host.net = _
    rw [Function.update_apply, Function.update_apply]
    split <;> rfl
  have total : (∑ j, g ((f.step i step).2.net j)) = g after.host.net + _ :=
    (congrArg Finset.univ.sum pointwise).trans changed
  show _ = _ + g after.host.net
  omega

/-- The counters tell what was written, taken and failed, of the frames that were pushed. -/
structure Accounts (f : Fleet n) (pushed failed : Nat) : Prop where
  machines : ∀ i, (f.machines i).Metered
  counters : ∃ taken, f.counters = Counters.zero.tally f.written taken failed ∧
    f.queued + taken = pushed

theorem Accounts.step {f : Fleet n} {pushed failed : Nat} (accounts : f.Accounts pushed failed)
    (i : Fin n) {step : Step} (accounted : step.Accounted) :
    (f.step i step).2.Accounts (pushed + step.pushed.length)
      (failed + if (f.step i step).1.isIo then 1 else 0) := by
  have here : (f.bench i).Metered :=
    have machine := accounts.machines i
    ⟨machine.counters, machine.honest, machine.channels⟩
  obtain ⟨metered, sent, taken, tallies⟩ := Bench.step_tallies here accounted
  obtain ⟨before, counters, balance⟩ := accounts.counters
  have written : (f.step i step).2.written = f.written + sent := by
    have sum : (f.step i step).2.written + (f.net i).written.length = f.written + _ :=
      sum_step (·.written.length) i step f
    have more : _ = (f.net i).written.length + sent := tallies.written
    omega
  have queued : (f.step i step).2.queued + taken = f.queued + step.pushed.length := by
    have sum : (f.step i step).2.queued + (f.net i).inbound.length = f.queued + _ :=
      sum_step (·.inbound.length) i step f
    have fewer : _ + taken = (f.net i).inbound.length + _ := tallies.inbound
    omega
  have moved : (f.step i step).2.counters = f.counters.tally sent taken _ := tallies.counters
  refine ⟨?_, before + taken, ?_, ?_⟩
  · intro j
    show (Function.update f.machines i ((f.bench i).step step).2 j).Metered
    rw [Function.update_apply]
    split
    · exact metered
    · exact accounts.machines j
  · rw [moved, counters, Counters.tally_tally, written]
    rfl
  · omega

theorem Accounts.run {f : Fleet n} {pushed failed : Nat} (accounts : f.Accounts pushed failed)
    (steps : List (Fin n × Step)) (accounted : ∀ entry ∈ steps, entry.2.Accounted) :
    (f.run steps).Accounts (pushed + (steps.flatMap (·.2.pushed)).length)
      (failed + (replies steps f).countP Reply.isIo) := by
  induction steps generalizing f pushed failed with
  | nil => exact accounts
  | cons entry rest ih =>
    have first := accounts.step entry.1 (accounted entry List.mem_cons_self)
    have later := ih first fun entry member => accounted entry (List.mem_cons_of_mem _ member)
    rw [Nat.add_assoc, Nat.add_assoc] at later
    rw [List.flatMap_cons, List.length_append, replies, List.countP_cons,
      Nat.add_comm _ (ite _ _ _)]
    exact later

theorem start_accounts (interfaces : Fin n → List (String × Int32)) :
    (start interfaces true).Accounts 0 0 := by
  have net (i : Fin n) :
      ((start interfaces true).net i).inbound = [] ∧
        ((start interfaces true).net i).written = [] := by
    obtain ⟨known, made⟩ := Bench.start_net (interfaces i) true
    show (Bench.start (interfaces i) true).host.net.inbound = [] ∧
      (Bench.start (interfaces i) true).host.net.written = []
    rw [made]
    exact ⟨rfl, rfl⟩
  have written : (start interfaces true).written = 0 := by
    apply Finset.sum_eq_zero
    intro i _
    rw [(net i).2]
    rfl
  have queued : (start interfaces true).queued = 0 := by
    apply Finset.sum_eq_zero
    intro i _
    rw [(net i).1]
    rfl
  refine ⟨?_, 0, ?_, queued⟩
  · intro i
    exact ⟨rfl, rfl, nofun⟩
  · rw [written]
    rfl

theorem bench_step_self (i : Fin n) (step : Step) (f : Fleet n) :
    (f.step i step).2.bench i = ((f.bench i).step step).2 := by
  have machine : (f.step i step).2.machines i = ((f.bench i).step step).2 :=
    Function.update_self i _ f.machines
  show ({ (f.step i step).2.machines i with
    host := ⟨((f.step i step).2.machines i).host.net, _, _⟩ } : Bench) = _
  rw [machine]
  rfl

theorem bench_step_ne {i j : Fin n} (other : j ≠ i) (step : Step) (f : Fleet n) :
    (f.step i step).2.bench j =
      { f.machines j with
        host := ⟨f.net j, (f.step i step).2.counters, (f.step i step).2.log⟩ } := by
  have machine : (f.step i step).2.machines j = f.machines j :=
    Function.update_of_ne other _ f.machines
  show ({ (f.step i step).2.machines j with
    host := ⟨((f.step i step).2.machines j).host.net, _, _⟩ } : Bench) = _
  rw [machine]
  rfl

structure Uncounted (f f' : Fleet n) : Prop where
  machines : ∀ i, (f.bench i).Uncounted (f'.bench i)
  log : f'.log = f.log

theorem Uncounted.step {f f' : Fleet n} (uncounted : Uncounted f f') (i : Fin n) {step : Step}
    (accounted : step.Accounted) :
    (f'.step i step).1 = (f.step i step).1.unmetered ∧
      Uncounted (f.step i step).2 (f'.step i step).2 := by
  have silent : step ≠ .exposition := by
    rintro rfl
    exact accounted
  obtain ⟨reply, after⟩ := (uncounted.machines i).both silent
  refine ⟨reply, ?_, after.log⟩
  intro j
  by_cases same : j = i
  · subst same
    rw [bench_step_self, bench_step_self]
    exact after
  · have before := uncounted.machines j
    rw [bench_step_ne same, bench_step_ne same]
    exact ⟨before.net, after.log, before.metered, before.reported, before.channels⟩

theorem Uncounted.run {f f' : Fleet n} (uncounted : Uncounted f f')
    (steps : List (Fin n × Step)) (accounted : ∀ entry ∈ steps, entry.2.Accounted) :
    replies steps f' = (replies steps f).map Reply.unmetered ∧
      Uncounted (f.run steps) (f'.run steps) := by
  induction steps generalizing f f' with
  | nil => exact ⟨rfl, uncounted⟩
  | cons entry rest ih =>
    obtain ⟨reply, after⟩ := uncounted.step entry.1 (accounted entry List.mem_cons_self)
    obtain ⟨later, ends⟩ :=
      ih after fun entry member => accounted entry (List.mem_cons_of_mem _ member)
    refine ⟨?_, ends⟩
    rw [replies, replies, reply, later, List.map_cons]

theorem start_uncounted (interfaces : Fin n → List (String × Int32)) :
    Uncounted (start interfaces true) (start interfaces false) := by
  refine ⟨?_, rfl⟩
  intro i
  exact ⟨rfl, rfl, rfl, rfl, fun _ => rfl⟩

/-- At any point of a run the counters tell the frames written, the frames taken off the queues and
the operations that failed in a transfer; and the run goes the same way without counters. -/
theorem counters_account (interfaces : Fin n → List (String × Int32))
    (steps : List (Fin n × Step)) (accounted : ∀ entry ∈ steps, entry.2.Accounted) :
    let on := (start interfaces true).run steps
    let off := (start interfaces false).run steps
    (∃ taken, on.queued + taken = (steps.flatMap (·.2.pushed)).length ∧
      on.counters =
        ⟨UInt64.ofNat on.written, UInt64.ofNat (16 * on.written), UInt64.ofNat taken,
          UInt64.ofNat ((replies steps (start interfaces true)).countP Reply.isIo)⟩) ∧
      replies steps (start interfaces false) =
        (replies steps (start interfaces true)).map Reply.unmetered ∧
      (∀ i, off.net i = on.net i) ∧ off.log = on.log := by
  intro on off
  obtain ⟨-, taken, counters, balance⟩ := (start_accounts interfaces).run steps accounted
  obtain ⟨answers, uncounted⟩ := (start_uncounted interfaces).run steps accounted
  rw [Nat.zero_add] at counters balance
  refine ⟨⟨taken, balance, ?_⟩, answers, fun i => (uncounted.machines i).net, uncounted.log⟩
  rw [counters]
  simp only [Counters.tally, Counters.zero, UInt64.zero_add]
  rfl

theorem two_machines_accounted :
    let message : Message := .ofPayload Identifier.zero [7]
    let long : Message := .ofPayload Identifier.zero (List.replicate 9 0)
    let steps : List (Fin 2 × Step) :=
      [(0, .create 0 "mock0" 1 0 Identifier.zero true),
        (1, .create 0 "mock0" 1 0 Identifier.zero true),
        (1, .script (.push ⟨0x123, 1, 0, 0, 0, #v[7, 0, 0, 0, 0, 0, 0, 0]⟩)),
        (0, .channel 0 (.sendBatch [message, message] none false)),
        (0, .channel 0 (.send long false)),
        (1, .channel 0 .receive), (1, .channel 0 .receive)]
    let on := (start (fun _ => []) true).run steps
    let off := (start (fun _ => []) false).run steps
    (∀ entry ∈ steps, entry.2.Accounted) ∧ on.counters = ⟨2, 32, 1, 1⟩ ∧
      off.counters = Counters.zero ∧ off.log = on.log := by
  intro message long steps on off
  have accounted : ∀ entry ∈ steps, entry.2.Accounted := by
    simp [steps, Step.Accounted]
  obtain ⟨-, -, -, log⟩ := counters_account (fun _ => []) steps accounted
  exact ⟨accounted, by decide, by decide, log⟩

end Fleet

end CanBus
