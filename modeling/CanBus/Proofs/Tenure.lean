import CanBus.Proofs.Acceptance
import CanBus.Proofs.Inertness

namespace CanBus

/-- A step that opens a channel in the slot which waits so long where no time is given. -/
inductive Step.Opens (slot : Nat) : Duration → Step → Prop
  | create (interface : String) (protocol : Int32) (mask : UInt32) (sender : Identifier)
      (metered : Bool) :
    Opens slot (Duration.ofParts 3 0) (.create slot interface protocol mask sender metered)
  | ofConfig (config : Config) (metered : Bool) :
    Opens slot config.waitTimeout (.ofConfig slot config metered)

namespace Channel

variable {σ : Type} {layer : Layer σ} {c made : Channel} {host after : Host σ}

theorem setup_channel (done : c.setup layer host = (.ok (), made, after)) :
    made = { c with handle := made.handle, filterId := c.sender.raw } := by
  obtain ⟨handle, index, first, second, third, fourth, opened, resolved, unblocked, filtered,
    bound⟩ := setup_ok done
  rw [setup_complete opened resolved unblocked filtered bound] at done
  rw [← (Prod.mk.inj (Prod.mk.inj done).2).1]

structure Unused (limit : Duration) (c : Channel) : Prop where
  pending : c.pending = 0
  waitTimeout : c.waitTimeout = limit

theorem create_unused {interface : String} {protocol : Int32} {mask : UInt32} {sender : Identifier}
    (done : create layer interface protocol mask sender host = (.ok made, after)) :
    made.Unused (Duration.ofParts 3 0) := by
  rw [setup_channel (create_ok done)]
  exact ⟨rfl, rfl⟩

theorem ofConfig_unused {config : Config}
    (done : ofConfig layer config host = (.ok made, after)) : made.Unused config.waitTimeout := by
  obtain ⟨sender, c, named, built⟩ := ofConfig_ok done
  simp only [ofConfig, named, built] at done
  obtain rfl := Except.ok.inj (Prod.mk.inj done).1
  exact ⟨(create_unused built).pending, rfl⟩

end Channel

def Step.channelAfter (slot : Nat) (b : Bench) (c : Channel) : Step → Channel
  | channel other inner =>
    if other = slot then (c.outcome b.reported b.host.net inner).channel else c
  | _ => c

namespace Bench

variable {b : Bench} {slot : Nat} {c : Channel} {step : Step} {limit : Duration}

theorem seat_unused {handle : Int32} {metered : Bool}
    {made : Except ChannelError Channel × Host Simulator}
    (seated : (b.seat slot metered made).1 = .handle handle)
    (unused : ∀ c, made.1 = .ok c → c.Unused limit) :
    ∃ c, (b.seat slot metered made).2.channel? slot = some c ∧ c.Unused limit := by
  obtain ⟨error | c, host⟩ := made
  · cases seated
  obtain ⟨pending, waitTimeout⟩ := unused c rfl
  refine ⟨_, (channel?_put slot slot _ _).trans (if_pos rfl), ?_⟩
  -- whether it is counted makes no difference
  split <;> exact ⟨pending, waitTimeout⟩

theorem opens_unused {handle : Int32} (opens : step.Opens slot limit)
    (made : (b.step step).1 = .handle handle) :
    ∃ c, (b.step step).2.channel? slot = some c ∧ c.Unused limit := by
  cases opens with
  | create interface protocol mask sender metered =>
    exact seat_unused made fun c built => Channel.create_unused (Prod.ext built rfl)
  | ofConfig config metered =>
    exact seat_unused made fun c built => Channel.ofConfig_unused (Prod.ext built rfl)

theorem step_channel (found : b.channel? slot = some c) (keeps : ¬ step.Replaces slot) :
    (b.step step).2.channel? slot = some (step.channelAfter slot b c) := by
  cases foreign : step.isOn slot with
  | true =>
    obtain ⟨inner, rfl⟩ := Step.eq_of_isOn foreign
    rw [Step.channelAfter, if_pos rfl]
    exact (step_outcome found inner).here
  | false =>
    have same : step.channelAfter slot b c = c := by
      cases step with
      | channel other inner => exact if_neg (beq_eq_false_iff_ne.mp foreign)
      | create | ofConfig | drop | script | direct | reportWrites | exposition | idle => rfl
    rw [same, channel?_step_foreign foreign keeps, found]

/-- What every operation of a channel leaves true of it stays true of the slot's channel. -/
theorem run_channel {fact : Channel → Prop}
    (stable : ∀ reported s inner c, fact c → fact (Channel.outcome reported c s inner).channel)
    {steps : List Step} (spared : ∀ step ∈ steps, ¬ step.Replaces slot)
    (found : b.channel? slot = some c) (holds : fact c) :
    ∃ d, (b.run steps).channel? slot = some d ∧ fact d := by
  induction steps generalizing b c with
  | nil => exact ⟨c, found, holds⟩
  | cons step rest ih =>
    have next := step_channel found (spared step List.mem_cons_self)
    have still : fact (step.channelAfter slot b c) := by
      cases step with
      | channel other inner =>
        by_cases own : other = slot
        · rw [Step.channelAfter, if_pos own]
          exact stable _ _ _ _ holds
        · rw [Step.channelAfter, if_neg own]
          exact holds
      | create | ofConfig | drop | script | direct | reportWrites | exposition | idle => exact holds
    exact ih (fun step member => spared step (List.mem_cons_of_mem _ member)) next still

end Bench

end CanBus
