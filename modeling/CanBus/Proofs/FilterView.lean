import CanBus.Proofs.Acceptance
import CanBus.Proofs.Inertness

namespace CanBus

inductive Step.Constructs (slot : Nat) (sender : Identifier) : Step → Prop
  | create (interface : String) (protocol : Int32) (mask : UInt32) (metered : Bool) :
    Constructs slot sender (.create slot interface protocol mask sender metered)
  | ofConfig {config : Config} (named : config.sender = .ok sender) (metered : Bool) :
    Constructs slot sender (.ofConfig slot config metered)

/-- The slot keeps its channel, and no one but that channel installs a filter. -/
def Step.Spares (slot : Nat) (step : Step) : Prop :=
  step.isOn slot = true ∨ .setFilter ∉ step.calls ∧ ¬ step.Replaces slot

/-- The filters that a step installs for the slot's channel, by its reply. -/
def Step.installed (c : Channel) : Step → Reply → List Filter
  | channel _ (.setFilter mask id), .done => [⟨if id = 0 then c.sender.raw else id, mask⟩]
  | _, _ => []

theorem ChannelStep.quiet_or_filter (step : ChannelStep) :
    .setFilter ∉ step.calls ∨ ∃ mask id, step = .setFilter mask id := by
  cases step with
  | setFilter mask id => exact .inr ⟨mask, id, rfl⟩
  | close | wait | receive | receiveBatch | send | sendBatch | setSender | filterMask | socket
  | info => exact .inl (by simp [calls])

theorem Step.installed_quiet {step : Step} (quiet : .setFilter ∉ step.calls) (c : Channel)
    (reply : Reply) : step.installed c reply = [] := by
  cases step with
  | channel slot inner =>
    cases inner with
    | setFilter mask id => exact absurd (List.mem_singleton.mpr rfl) quiet
    | close | wait | receive | receiveBatch | send | sendBatch | setSender | filterMask | socket
    | info => rfl
  | create | ofConfig | drop | script | direct | reportWrites | exposition | idle => rfl

namespace Channel

def filter (c : Channel) : Filter := ⟨c.filterId, c.filterMask⟩

variable {c made : Channel} {host after : Host Simulator}

section

variable {σ : Type} {layer : Layer σ} {host after : Host σ}

theorem setup_filter (done : c.setup layer host = (.ok (), made, after)) :
    made.filter = ⟨c.sender.raw, c.filterMask⟩ ∧ made.sender = c.sender := by
  obtain ⟨handle, index, first, second, third, fourth, opened, resolved, unblocked, filtered,
    bound⟩ := setup_ok done
  rw [setup_complete opened resolved unblocked filtered bound] at done
  have same := (Prod.mk.inj (Prod.mk.inj done).2).1
  rw [← same]
  exact ⟨rfl, rfl⟩

end

open Simulator (layer) in
theorem create_mirrors {interface : String} {protocol : Int32} {mask : UInt32} {sender : Identifier}
    (done : create layer interface protocol mask sender host = (.ok made, after)) :
    after.net.filters.getLast? = some made.filter ∧ made.sender = sender := by
  have built := create_ok done
  obtain ⟨filter, same⟩ := setup_filter built
  rw [setup_filters built, filter, List.getLast?_append]
  exact ⟨rfl, same⟩

open Simulator (layer) in
theorem ofConfig_mirrors {config : Config} {sender : Identifier}
    (named : config.sender = .ok sender) (done : ofConfig layer config host = (.ok made, after)) :
    after.net.filters.getLast? = some made.filter ∧ made.sender = sender := by
  simp only [ofConfig, named] at done
  rcases built : create layer config.interface config.protocol config.filterMask sender host with
    ⟨error | c, later⟩ <;> rw [built] at done <;> cases done
  obtain ⟨last, same⟩ := create_mirrors built
  exact ⟨last, same⟩

variable (reported : Option Nat) (c : Channel) (s : Simulator)

theorem outcome_settings (step : ChannelStep) :
    (c.outcome reported s step).channel.sender = step.senderAfter c.sender ∧
      (.setFilter ∉ step.calls → (c.outcome reported s step).channel.filter = c.filter) := by
  cases step with
  | close =>
    simp only [outcome, Outcome.map, closeOutcome]
    repeat' split
    all_goals exact ⟨rfl, fun _ => rfl⟩
  | wait timeout =>
    simp only [outcome, Outcome.map, waitOutcome]
    repeat' split
    all_goals exact ⟨rfl, fun _ => rfl⟩
  | receiveBatch =>
    simp only [outcome, Outcome.map, receiveBatchOutcome]
    repeat' split
    all_goals exact ⟨rfl, fun _ => rfl⟩
  | setFilter mask id =>
    refine ⟨?_, fun other => absurd (List.mem_singleton.mpr rfl) other⟩
    simp only [outcome, Outcome.map, filterOutcome]
    repeat' split
    all_goals rfl
  | receive | send | sendBatch | setSender | filterMask | socket | info =>
    exact ⟨rfl, fun _ => rfl⟩

theorem filter_outcome_installed (mask id : UInt32) (time : Timestamp) (slot : Nat) :
    let o := c.outcome reported s (.setFilter mask id)
    let added := Step.installed c (.channel slot (.setFilter mask id)) (o.answer time)
    o.effect.filters = added ∧ o.channel.filter = added.getLast?.getD c.filter := by
  simp only [outcome, Outcome.map, filterOutcome]
  cases c.isOpen with
  | false => exact ⟨rfl, rfl⟩
  | true =>
    cases s.gate .setFilter (some c.handle) with
    | some fault => exact ⟨rfl, rfl⟩
    | none => exact ⟨rfl, rfl⟩

end Channel

namespace Bench

variable {b : Bench} {slot : Nat} {c : Channel} {step : Step} {sender : Identifier}

def HasFilters (filters : List Filter) (s : Simulator) : Prop := s.filters = filters

theorem hasFilters_keeps {filters : List Filter} (kind : SocketCall) (other : kind ≠ .setFilter) :
    Simulator.layer.Keeps (HasFilters filters) kind := by
  apply Simulator.layer_keeps
  · exact fun _ holds => holds
  · intro before after does holds
    exact (does.leaves.filters other).trans holds

theorem step_filters (quiet : .setFilter ∉ step.calls) :
    (b.step step).2.host.net.filters = b.host.net.filters := by
  have each (kind : SocketCall) (member : kind ∈ step.calls) :
      Simulator.layer.Keeps (HasFilters b.host.net.filters) kind :=
    hasFilters_keeps kind fun same => quiet (same ▸ member)
  refine step_keeps step each (fun _ _ holds => holds) ?_ rfl
  intro script _
  cases script <;> rfl

/-- What a spared step adds to the layer's filters is what it leaves in the channel. -/
theorem step_installs (found : b.channel? slot = some c) (spares : step.Spares slot) :
    ∃ d, (b.step step).2.channel? slot = some d ∧
      d.sender = step.senderAfter slot c.sender ∧
      (b.step step).2.host.net.filters =
        b.host.net.filters ++ step.installed c (b.step step).1 ∧
      d.filter = (step.installed c (b.step step).1).getLast?.getD c.filter := by
  -- a step of the channel itself, or one that neither reaches it nor asks for a filter
  by_cases own : step.isOn slot = true
  · obtain ⟨inner, rfl⟩ := Step.eq_of_isOn own
    have outcome := step_outcome found inner
    obtain ⟨sender, settled⟩ := c.outcome_settings b.reported b.host.net inner
    refine ⟨_, outcome.here, sender.trans (if_pos rfl).symm, ?_⟩
    rcases inner.quiet_or_filter with quiet | ⟨mask, id, rfl⟩
    · have quiet : .setFilter ∉ (Step.channel slot inner).calls := quiet
      rw [Step.installed_quiet quiet, step_filters quiet]
      exact ⟨(List.append_nil _).symm, settled quiet⟩
    · obtain ⟨added, view⟩ :=
        c.filter_outcome_installed b.reported b.host.net mask id b.host.net.now slot
      rw [outcome.reply, outcome.host]
      exact ⟨congrArg _ added, view⟩
  · have foreign : step.isOn slot = false := Bool.eq_false_iff.mpr own
    obtain ⟨quiet, keeps⟩ := spares.resolve_left own
    refine ⟨c, (channel?_step_foreign foreign keeps b).trans found, ?_, ?_, ?_⟩
    · rw [Step.senderAfter_foreign foreign]
    · rw [Step.installed_quiet quiet, List.append_nil, step_filters quiet]
    · rw [Step.installed_quiet quiet]
      rfl

/-- The slot's channel has this sender, and its filter is the last one that the layer has. -/
def Mirrors (slot : Nat) (sender : Identifier) (b : Bench) : Prop :=
  ∃ c, b.channel? slot = some c ∧ c.sender = sender ∧ b.host.net.filters.getLast? = some c.filter

theorem Mirrors.next (mirrors : b.Mirrors slot sender) (spares : step.Spares slot) :
    (b.step step).2.Mirrors slot (step.senderAfter slot sender) := by
  obtain ⟨c, found, rfl, last⟩ := mirrors
  obtain ⟨d, here, same, filters, view⟩ := step_installs found spares
  refine ⟨d, here, same, ?_⟩
  rw [filters, view, List.getLast?_append, last]
  cases (step.installed c (b.step step).1).getLast? <;> rfl

theorem Mirrors.run (mirrors : b.Mirrors slot sender) {steps : List Step}
    (spared : ∀ step ∈ steps, step.Spares slot) :
    (b.run steps).Mirrors slot (lastSender slot sender steps) := by
  induction steps generalizing b sender with
  | nil => exact mirrors
  | cons step rest ih =>
    have first := mirrors.next (spared step List.mem_cons_self)
    exact ih first fun step member => spared step (List.mem_cons_of_mem _ member)

theorem seat_mirrors {handle : Int32} (metered : Bool)
    {made : Except ChannelError Channel × Host Simulator}
    (seated : (b.seat slot metered made).1 = .handle handle)
    (installed : ∀ c, made.1 = .ok c →
      made.2.net.filters.getLast? = some c.filter ∧ c.sender = sender) :
    (b.seat slot metered made).2.Mirrors slot sender := by
  obtain ⟨error | c, host⟩ := made
  · cases seated
  obtain ⟨last, rfl⟩ := installed c rfl
  have kept : (Bench.dropSlot slot { b with host := host }).host.net.filters = host.net.filters :=
    dropSlot_keeps slot (hasFilters_keeps .close (by decide)) rfl
  have last := (congrArg List.getLast? kept).trans last
  -- metering leaves the sender and the filter alone
  refine ⟨_, (channel?_put slot slot _ _).trans (if_pos rfl), ?_, ?_⟩
  · split <;> rfl
  · split <;> exact last

theorem constructs_mirrors {handle : Int32} (constructs : step.Constructs slot sender)
    (made : (b.step step).1 = .handle handle) : (b.step step).2.Mirrors slot sender := by
  cases constructs with
  | create interface protocol mask metered =>
    exact seat_mirrors metered made fun c built => Channel.create_mirrors (Prod.ext built rfl)
  | ofConfig named metered =>
    exact seat_mirrors metered made fun c built =>
      Channel.ofConfig_mirrors named (Prod.ext built rfl)

/-- After any run in which nobody but the slot's channel installs a filter, the filter that the
channel tells is the last one in the layer, and the next step adds to both alike: the filter that
was asked for, under the sender of that moment if none is named, or nothing. -/
theorem filter_mirrored {handle : Int32} {construction : Step} (b : Bench)
    (constructs : construction.Constructs slot sender)
    (made : (b.step construction).1 = .handle handle) (steps : List Step)
    (spared : ∀ step ∈ steps, step.Spares slot) :
    let reached := (b.step construction).2.run steps
    ∃ c, reached.channel? slot = some c ∧ c.sender = lastSender slot sender steps ∧
      reached.host.net.filters.getLast? = some ⟨c.filterId, c.filterMask⟩ ∧
      (∀ step : Step, step.Spares slot →
        let next := reached.step step
        let added := step.installed c next.1
        next.2.host.net.filters = reached.host.net.filters ++ added ∧
          ∃ d, next.2.channel? slot = some d ∧
            (⟨d.filterId, d.filterMask⟩ : Filter) =
              added.getLast?.getD ⟨c.filterId, c.filterMask⟩) ∧
      (reached.step (.drop slot)).2.host.net.filters = reached.host.net.filters := by
  intro reached
  obtain ⟨c, found, same, last⟩ := (constructs_mirrors constructs made).run spared
  refine ⟨c, found, same, last, ?_, step_filters (by simp [Step.calls])⟩
  intro step spares next added
  obtain ⟨d, here, -, filters, view⟩ := step_installs found spares
  exact ⟨filters, d, here, view⟩

theorem filter_mirrored_once :
    let construction : Step := .create 0 "mock0" 1 0xFF Identifier.zero false
    let steps : List Step :=
      [.script (.failNext .setFilter 5), .channel 0 (.setFilter 7 3),
        .channel 0 (.setSender ⟨0x42, false, by decide⟩), .channel 0 (.setFilter 9 0),
        .channel 0 .close]
    let reached := ((start [] false).step construction).2.run steps
    construction.Constructs 0 Identifier.zero ∧
      ((start [] false).step construction).1 = .handle 3 ∧
      (∀ step ∈ steps, step.Spares 0) ∧
      ∃ c, reached.channel? 0 = some c ∧ c.isOpen = false ∧
        reached.host.net.filters = [⟨0, 0xFF⟩, ⟨0x42, 9⟩] ∧
        reached.host.net.filters.getLast? = some ⟨c.filterId, c.filterMask⟩ := by
  intro construction steps reached
  have constructs : construction.Constructs 0 Identifier.zero := .create "mock0" 1 0xFF false
  have made : ((start [] false).step construction).1 = .handle 3 := rfl
  have spared : ∀ step ∈ steps, step.Spares 0 := by
    simp [steps, Step.Spares, Step.isOn, Step.calls, Step.Replaces]
  obtain ⟨c, found, -, last, -⟩ := filter_mirrored (start [] false) constructs made steps spared
  obtain rfl := Option.some.inj found
  exact ⟨constructs, made, spared, _, rfl, rfl, rfl, last⟩

end Bench

end CanBus
