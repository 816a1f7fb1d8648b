import CanBus.Proofs.Outcomes
import CanBus.Proofs.Upkeep

namespace CanBus

def Host.recount {σ : Type} (counters : Counters) (host : Host σ) : Host σ :=
  { host with counters := counters }

def ChannelError.isIo : ChannelError → Bool
  | io .. => true
  | _ => false

def Channel.Fresh : Except ChannelError Channel → Prop
  | .ok c => c.metered = false
  | .error error => error.isIo = false

namespace Channel

section

variable {σ : Type} (layer : Layer σ) (c : Channel) (counters : Counters) (host : Host σ)

theorem setup_recount :
    c.setup layer (host.recount counters) =
        ((c.setup layer host).1, (c.setup layer host).2.1,
          (c.setup layer host).2.2.recount counters) ∧
      (c.setup layer host).2.1.metered = c.metered ∧
      ∀ error, (c.setup layer host).1 = .error error → error.isIo = false := by
  unfold setup
  simp only [Host.call, Host.recount]
  rcases layer.openSocket c.protocol host.net with ⟨fault | handle, opened⟩
  · exact ⟨rfl, rfl, by rintro _ ⟨⟩; rfl⟩
  simp only []
  rcases layer.interfaceIndex handle c.interface opened with ⟨fault | index, resolved⟩
  · exact ⟨rfl, rfl, by rintro _ ⟨⟩; rfl⟩
  simp only []
  rcases layer.setNonblocking handle resolved with ⟨fault | _, unblocked⟩
  · exact ⟨rfl, rfl, by rintro _ ⟨⟩; rfl⟩
  simp only [installFilter, Host.call]
  rcases layer.setFilter handle _ unblocked with ⟨fault | _, filtered⟩
  · exact ⟨rfl, rfl, by rintro _ ⟨⟩; rfl⟩
  simp only [Host.note]
  rcases layer.bind handle index filtered with ⟨fault | _, bound⟩
  · exact ⟨rfl, rfl, by rintro _ ⟨⟩; rfl⟩
  · exact ⟨rfl, rfl, by rintro _ ⟨⟩⟩

theorem close_recount :
    c.close layer (host.recount counters) =
      ((c.close layer host).1, (c.close layer host).2.1,
        (c.close layer host).2.2.recount counters) := by
  unfold close
  cases c.isOpen with
  | false => rfl
  | true =>
    simp only [if_true, Host.call, Host.recount]
    rcases layer.close c.handle host.net with ⟨fault | _, closed⟩ <;> rfl

theorem drop_recount :
    c.drop layer (host.recount counters) = (c.drop layer host).recount counters := by
  unfold drop
  rw [close_recount]
  cases c.isOpen with
  | false => rfl
  | true =>
    rcases c.close layer host with ⟨error | _, closed, after⟩ <;> rfl

variable (interface : String) (protocol : Int32) (mask : UInt32) (sender : Identifier)

theorem create_recount :
    create layer interface protocol mask sender (host.recount counters) =
      ((create layer interface protocol mask sender host).1,
        (create layer interface protocol mask sender host).2.recount counters) := by
  unfold create
  rw [(setup_recount layer (fresh interface protocol mask sender) counters host).1]
  rcases (fresh interface protocol mask sender).setup layer host with ⟨error | _, c, after⟩
  · simp only [drop_recount]
  · rfl

theorem ofConfig_recount (config : Config) :
    ofConfig layer config (host.recount counters) =
      ((ofConfig layer config host).1, (ofConfig layer config host).2.recount counters) := by
  unfold ofConfig
  cases config.sender with
  | error error => rfl
  | ok sender =>
    simp only [create_recount]
    rcases create layer config.interface config.protocol config.filterMask sender host with
      ⟨error | c, after⟩ <;> rfl

theorem create_fresh : Fresh (create layer interface protocol mask sender host).1 := by
  obtain ⟨-, plain, apart⟩ :=
    setup_recount layer (Channel.fresh interface protocol mask sender) host.counters host
  unfold create
  rcases completed : (Channel.fresh interface protocol mask sender).setup layer host with
    ⟨error | _, c, after⟩
  · rw [completed] at apart
    exact apart error rfl
  · rw [completed] at plain
    exact plain

theorem ofConfig_fresh (config : Config) : Fresh (ofConfig layer config host).1 := by
  unfold ofConfig
  cases valid : config.sender with
  | error error =>
    simp only [Config.sender] at valid
    split at valid
    · cases valid
    · obtain rfl := Except.error.inj valid
      rfl
  | ok sender =>
    have built := create_fresh layer host config.interface config.protocol config.filterMask sender
    simp only []
    rcases completed : create layer config.interface config.protocol config.filterMask sender host
      with ⟨error | c, after⟩ <;> rw [completed] at built <;> exact built

end

def unmetered (c : Channel) : Channel := { c with metered := false }

theorem drop_unmetered {σ : Type} (layer : Layer σ) (c : Channel) (host : Host σ) :
    c.unmetered.drop layer host = c.drop layer host := by
  have isOpen : c.unmetered.isOpen = c.isOpen := rfl
  have handle : c.unmetered.handle = c.handle := rfl
  unfold drop close
  rw [isOpen, handle]
  cases c.isOpen with
  | false => rfl
  | true =>
    simp only [if_true]
    rcases host.call (layer.close c.handle) with ⟨fault | _, after⟩ <;> rfl

end Channel

def Reply.unmetered : Reply → Reply
  | info c => info c.unmetered
  | reply => reply

namespace Channel

theorem outcome_unmetered (reported : Option Nat) (c : Channel) (s : Simulator)
    (step : ChannelStep) :
    c.unmetered.outcome reported s step =
      ⟨fun time => ((c.outcome reported s step).answer time).unmetered,
        (c.outcome reported s step).channel.unmetered, (c.outcome reported s step).effect⟩ := by
  have isOpen : c.unmetered.isOpen = c.isOpen := rfl
  have handle : c.unmetered.handle = c.handle := rfl
  cases step with
  | close =>
    simp only [outcome, Outcome.map, closeOutcome, isOpen, handle]
    cases c.isOpen with
    | false => rfl
    | true =>
      cases s.gate .close none with
      | some fault => rfl
      | none => cases s.isOpen c.handle <;> rfl
  | wait timeout =>
    simp only [outcome, Outcome.map, waitOutcome, isOpen, handle]
    cases c.isOpen with
    | false => rfl
    | true => cases s.gate .poll (some c.handle) <;> rfl
  | receive =>
    have same : c.unmetered.receiveOutcome s = c.receiveOutcome s := rfl
    simp only [outcome, same]
    cases (c.receiveOutcome s).1 <;> rfl
  | receiveBatch =>
    have expected : c.unmetered.expected = c.expected := rfl
    have same : c.unmetered.drainOutcome s c.expected = c.drainOutcome s c.expected := rfl
    simp only [outcome, Outcome.map, receiveBatchOutcome, isOpen, handle, expected, same]
    cases c.isOpen with
    | false => rfl
    | true => rcases c.drainOutcome s c.expected with ⟨error | frames, e⟩ <;> rfl
  | send message forceExtended =>
    have same : c.unmetered.sendOutcome s reported forceExtended message =
        c.sendOutcome s reported forceExtended message := rfl
    simp only [outcome, same]
    cases (c.sendOutcome s reported forceExtended message).1 <;> rfl
  | sendBatch messages delay forceExtended =>
    have same : c.unmetered.sendBatchOutcome s reported forceExtended messages delay =
        c.sendBatchOutcome s reported forceExtended messages delay := by
      unfold sendBatchOutcome
      rw [sendRestOutcome_same (c := c.unmetered) (d := c) rfl rfl]
      rfl
    simp only [outcome, same]
    rfl
  | setFilter mask id =>
    simp only [outcome, Outcome.map, filterOutcome, isOpen, handle]
    cases c.isOpen with
    | false => rfl
    | true => cases s.gate .setFilter (some c.handle) <;> rfl
  | setSender | filterMask | socket | info => rfl

end Channel

namespace Bench

variable {b b' : Bench}

structure Uncounted (b b' : Bench) : Prop where
  net : b'.host.net = b.host.net
  log : b'.host.log = b.host.log
  metered : b'.metered = false
  reported : b'.reported = b.reported
  channels : ∀ slot, b'.channel? slot = (b.channel? slot).map Channel.unmetered

theorem Uncounted.layer (uncounted : Uncounted b b') : b'.layer = b.layer := by
  unfold Bench.layer
  rw [uncounted.reported]

theorem Uncounted.host (uncounted : Uncounted b b') :
    b'.host = b.host.recount b'.host.counters := by
  unfold Host.recount
  rw [← uncounted.net, ← uncounted.log]

theorem Uncounted.setNet (uncounted : Uncounted b b') (net : Simulator) :
    Uncounted (b.setNet net) (b'.setNet net) :=
  ⟨rfl, uncounted.log, uncounted.metered, uncounted.reported, uncounted.channels⟩

theorem Uncounted.put (uncounted : Uncounted b b') (slot : Nat) (c : Channel) :
    Uncounted (b.put slot c) (b'.put slot c.unmetered) := by
  refine ⟨uncounted.net, uncounted.log, uncounted.metered, uncounted.reported, ?_⟩
  intro other
  rw [channel?_put, channel?_put, uncounted.channels]
  split <;> rfl

theorem Uncounted.dropSlot (uncounted : Uncounted b b') (slot : Nat) :
    Uncounted (b.dropSlot slot) (b'.dropSlot slot) := by
  have channels (other : Nat) : (b'.dropSlot slot).channel? other =
      ((b.dropSlot slot).channel? other).map Channel.unmetered := by
    rw [channel?_dropSlot, channel?_dropSlot, uncounted.channels]
    split <;> rfl
  have here := uncounted.channels slot
  unfold Bench.dropSlot at channels ⊢
  cases found : b.channel? slot with
  | none =>
    rw [found] at here
    rw [here]
    exact uncounted
  | some c =>
    rw [found] at here channels
    rw [here] at channels ⊢
    have host : c.unmetered.drop b'.layer b'.host =
        (c.drop b.layer b.host).recount b'.host.counters := by
      rw [Channel.drop_unmetered, uncounted.layer, uncounted.host, Channel.drop_recount]
      rfl
    have net := congrArg Host.net host
    have log := congrArg Host.log host
    exact ⟨net, log, uncounted.metered, uncounted.reported, channels⟩

theorem Uncounted.seat (uncounted : Uncounted b b') (slot : Nat) (metered : Bool)
    {made made' : Except ChannelError Channel × Host Simulator} {counters : Counters}
    (same : made' = (made.1, made.2.recount counters))
    (fresh : Channel.Fresh made.1) :
    (b'.seat slot metered made').1 = (b.seat slot metered made).1.unmetered ∧
      Uncounted (b.seat slot metered made).2 (b'.seat slot metered made').2 := by
  subst same
  obtain ⟨result, host⟩ := made
  cases result with
  | error error =>
    exact ⟨rfl, rfl, rfl, uncounted.metered, uncounted.reported, uncounted.channels⟩
  | ok c =>
    have plain : c.unmetered = c := by
      unfold Channel.unmetered
      have untied : c.metered = false := fresh
      rw [← untied]
    have hosted : Uncounted { b with host := host }
        { b' with host := host.recount counters, metered := false } :=
      ⟨rfl, rfl, rfl, uncounted.reported, uncounted.channels⟩
    have seated := (hosted.dropSlot slot).put slot (if metered && b.metered then c.metering else c)
    have bare : (if metered && b.metered then c.metering else c).unmetered = c := by
      split
      · exact plain
      · exact plain
    have handle : (if metered && b.metered then c.metering else c).handle = c.handle := by
      split <;> rfl
    rw [bare] at seated
    simp only [Bench.seat, uncounted.metered, Bool.and_false, Bool.false_eq_true, if_false, handle]
    exact ⟨rfl, seated⟩

theorem directReply_unmetered {α : Type} {ok : α → Reply}
    (plain : ∀ value, (ok value).unmetered = ok value) (result : Except Fault α × Simulator) :
    (directReply ok result).1 = (directReply ok result).1.unmetered := by
  obtain ⟨fault | value, s⟩ := result
  · rfl
  · exact (plain value).symm

/-- But for the text of the counters, every step goes the same way with and without them. -/
theorem Uncounted.both (uncounted : Uncounted b b') {step : Step} (silent : step ≠ .exposition) :
    (b'.step step).1 = (b.step step).1.unmetered ∧
      Uncounted (b.step step).2 (b'.step step).2 := by
  cases step with
  | create slot interface protocol mask sender metered =>
    have same : Channel.create b'.layer interface protocol mask sender b'.host =
        ((Channel.create b.layer interface protocol mask sender b.host).1,
          (Channel.create b.layer interface protocol mask sender b.host).2.recount
            b'.host.counters) := by
      rw [← Channel.create_recount, ← uncounted.host, uncounted.layer]
    exact uncounted.seat slot metered same (Channel.create_fresh _ _ _ _ _ _)
  | ofConfig slot config metered =>
    have same : Channel.ofConfig b'.layer config b'.host =
        ((Channel.ofConfig b.layer config b.host).1,
          (Channel.ofConfig b.layer config b.host).2.recount b'.host.counters) := by
      rw [← Channel.ofConfig_recount, ← uncounted.host, uncounted.layer]
    exact uncounted.seat slot metered same (Channel.ofConfig_fresh _ _ _)
  | drop slot =>
    have held : (b'.channel? slot).isSome = (b.channel? slot).isSome := by
      rw [uncounted.channels, Option.isSome_map]
    exact ⟨congrArg Reply.flag held, uncounted.dropSlot slot⟩
  | channel slot inner =>
    have here := uncounted.channels slot
    cases found : b.channel? slot with
    | none =>
      rw [found] at here
      rw [step_absent found, step_absent here]
      exact ⟨rfl, uncounted⟩
    | some c =>
      rw [found] at here
      have counted := step_outcome found inner
      have plain := step_outcome here inner
      rw [uncounted.reported, uncounted.net, Channel.outcome_unmetered] at plain
      refine ⟨?_, ?_, ?_, ?_, ?_, ?_⟩
      · rw [plain.reply, counted.reply, uncounted.net]
      · rw [plain.host, counted.host]
        simp only [Effect.on, uncounted.net]
      · rw [plain.host, counted.host]
        simp only [Effect.on, uncounted.log]
      · rw [plain.metered, uncounted.metered]
      · rw [plain.reported, counted.reported, uncounted.reported]
      · intro other
        rw [plain.channel?, counted.channel?, uncounted.channels]
        split <;> rfl
  | script script =>
    have after := uncounted.setNet (scriptStep script b.host.net).2
    unfold Bench.step
    rw [uncounted.net]
    refine ⟨?_, after⟩
    cases script <;> rfl
  | direct call =>
    have after := uncounted.setNet (directCall call b.layer b.host.net).2
    unfold Bench.step
    rw [uncounted.net, uncounted.layer]
    refine ⟨?_, after⟩
    cases call <;> exact directReply_unmetered (fun _ => rfl) _
  | reportWrites count =>
    exact ⟨rfl, uncounted.net, uncounted.log, uncounted.metered, rfl, uncounted.channels⟩
  | exposition => exact absurd rfl silent
  | idle => exact ⟨rfl, uncounted⟩

end Bench

end CanBus
