import CanBus.Proofs.Tenure

namespace CanBus

namespace Duration

theorem nanos_ofMillis_toMillis (d : Duration) :
    (ofMillis d.toMillis).nanos = min (d.nanos / 1000000) (2 ^ 64 - 1) * 1000000 := by
  have size : UInt64.size = 2 ^ 64 := rfl
  have small : min (d.nanos / 1000000) (2 ^ 64 - 1) < 2 ^ 64 := by omega
  simp only [ofMillis, toMillis, size, UInt64.toNat_ofNat', Nat.mod_eq_of_lt small]

end Duration

/-- A setting of a time: `put` keeps the whole milliseconds of it, up to a cap, where `set` keeps
such a number, and `get` reads them. -/
structure Config.KeepsMillis (put : Duration → Config → Config) (get : Config → Duration)
    (set : UInt64 → Config → Config) : Prop where
  rounded : ∀ d c, (get (put d c)).nanos = min (d.nanos / 1000000) (2 ^ 64 - 1) * 1000000
  within : ∀ d c, (get (put d c)).nanos ≤ d.nanos
  near : ∀ d c, d.nanos / 1000000 ≤ 2 ^ 64 - 1 → d.nanos < (get (put d c)).nanos + 1000000
  monotone : ∀ d e c, d.nanos ≤ e.nanos → (get (put d c)).nanos ≤ (get (put e c)).nanos
  again : ∀ d c, put (get (put d c)) (put d c) = put d c
  elsewhere : ∀ d c, ∃ millis, put d c = set millis c

namespace Config

theorem keepsMillis {put : Duration → Config → Config} {get : Config → Duration}
    {set : UInt64 → Config → Config} (puts : ∀ d c, put d c = set d.toMillis c)
    (gets : ∀ millis c, get (set millis c) = Duration.ofMillis millis)
    (replaces : ∀ new old c, set new (set old c) = set new c) : KeepsMillis put get set := by
  have rounded (d : Duration) (c : Config) :
      (get (put d c)).nanos = min (d.nanos / 1000000) (2 ^ 64 - 1) * 1000000 := by
    rw [puts, gets, d.nanos_ofMillis_toMillis]
  refine ⟨rounded, ?_, ?_, ?_, ?_, fun d c => ⟨d.toMillis, puts d c⟩⟩
  · intro d c
    rw [rounded]
    omega
  · intro d c fits
    rw [rounded]
    omega
  · intro d e c less
    have quotients : d.nanos / 1000000 ≤ e.nanos / 1000000 := Nat.div_le_div_right less
    rw [rounded, rounded]
    omega
  · intro d c
    rw [puts d c, gets, puts, Duration.toMillis_ofMillis, replaces]

end Config

namespace Channel

variable (c : Channel) (s : Simulator) (reported : Option Nat)

/-- Whether a wait for this time gets an answer to its poll. -/
def Polls (limit : Duration) : Prop :=
  c.isOpen = true ∧ ∃ count, (Simulator.layer.poll c.handle limit s).1 = .ok count

theorem polls_iff (limit : Duration) :
    c.Polls s limit ↔ c.isOpen = true ∧ s.gate .poll (some c.handle) = none := by
  unfold Polls
  rw [Simulator.layer_poll]
  cases s.gate .poll (some c.handle) <;> simp

theorem wait_timing (timeout : Option Duration) (time : Timestamp) :
    let o := c.outcome reported s (.wait timeout)
    let limit := timeout.getD c.waitTimeout
    (c.Polls s limit → (∃ value, o.answer time = .flag value) ∧ o.effect.timeout = some limit) ∧
      (¬ c.Polls s limit → (∃ error, o.answer time = .failed error) ∧ o.effect.timeout = none) := by
  intro o limit
  rw [polls_iff]
  simp only [o, limit, outcome, Outcome.map, waitOutcome]
  cases c.isOpen with
  | false => simp [Bench.replyOf]
  | true => cases s.gate .poll (some c.handle) <;> simp [Bench.replyOf]

end Channel

namespace Bench

variable {slot : Nat}

/-- Settings keep times in whole milliseconds. A channel's waits ask for just the time that its
configuration has, or for the time given with the wait. -/
theorem waits_as_configured {construction : Step} {limit : Duration} {handle : Int32} (b : Bench)
    (opens : construction.Opens slot limit) (made : (b.step construction).1 = .handle handle)
    (steps : List Step) (spared : ∀ step ∈ steps, ¬ step.Replaces slot) :
    Config.KeepsMillis Config.withWaitTimeout Config.waitTimeout
        (fun millis c => { c with waitTimeoutMillis := millis }) ∧
      Config.KeepsMillis Config.withBatchDelay Config.batchDelay
        (fun millis c => { c with batchDelayMillis := millis }) ∧
      let reached := (b.step construction).2.run steps
      ∃ c, reached.channel? slot = some c ∧ ∀ timeout : Option Duration,
        let next := reached.step (.channel slot (.wait timeout))
        let asked := timeout.getD limit
        (c.Polls reached.host.net asked →
          (∃ value, next.1 = .flag value) ∧ next.2.host.net.lastTimeout = some asked) ∧
        (¬ c.Polls reached.host.net asked →
          (∃ error, next.1 = .failed error) ∧
            next.2.host.net.lastTimeout = reached.host.net.lastTimeout) := by
  refine ⟨Config.keepsMillis (fun _ _ => rfl) (fun _ _ => rfl) fun _ _ _ => rfl,
    Config.keepsMillis (fun _ _ => rfl) (fun _ _ => rfl) fun _ _ _ => rfl, ?_⟩
  intro reached
  obtain ⟨fresh, seated, unused⟩ := opens_unused opens made
  have stable (reported : Option Nat) (s : Simulator) (inner : ChannelStep) (c : Channel)
      (holds : c.waitTimeout = limit) : (c.outcome reported s inner).channel.waitTimeout = limit :=
    (Channel.waitTimeout_outcome reported c s inner).trans holds
  obtain ⟨c, found, kept⟩ := run_channel stable spared seated unused.waitTimeout
  refine ⟨c, found, fun timeout => ?_⟩
  intro next asked
  have undergone := step_outcome found (.wait timeout)
  have recorded : next.2.host.net.lastTimeout =
      (c.outcome reached.reported reached.host.net (.wait timeout)).effect.timeout.or
        reached.host.net.lastTimeout := congrArg (·.net.lastTimeout) undergone.host
  obtain ⟨polled, refused⟩ :=
    c.wait_timing reached.host.net reached.reported timeout reached.host.net.now
  rw [kept] at polled refused
  rw [undergone.reply, recorded]
  refine ⟨fun polls => ?_, fun fails => ?_⟩
  · obtain ⟨flagged, told⟩ := polled polls
    rw [told]
    exact ⟨flagged, rfl⟩
  · obtain ⟨failed, untold⟩ := refused fails
    rw [untold]
    exact ⟨failed, rfl⟩

theorem milliseconds_waited :
    let config := (Config.ofInterface "mock0").withWaitTimeout (Duration.ofParts 1 500999999)
    let b := start [] false
    let steps : List Step := [.channel 0 .receive]
    let reached := (b.step (.ofConfig 0 config false)).2.run steps
    (b.step (.ofConfig 0 config false)).1 = .handle 3 ∧ (∀ step ∈ steps, ¬ step.Replaces 0) ∧
      (reached.step (.channel 0 (.wait none))).2.host.net.lastTimeout =
        some (Duration.ofParts 1 500000000) ∧
      (reached.step (.channel 0 (.wait (some (Duration.ofParts 0 7))))).2.host.net.lastTimeout =
        some (Duration.ofParts 0 7) := by
  intro config b steps
  have made : (b.step (.ofConfig 0 config false)).1 = .handle 3 := rfl
  have spared : ∀ step ∈ steps, ¬ step.Replaces 0 := by simp [steps, Step.Replaces]
  obtain ⟨-, -, c, found, waits⟩ :=
    waits_as_configured b (.ofConfig config false) made steps spared
  -- what the run comes to is only looked at where it has to be
  generalize same : (b.step (.ofConfig 0 config false)).2.run steps = reached at found waits ⊢
  have ready : ((reached.channel? 0).all fun c =>
      c.isOpen && (reached.host.net.gate .poll (some c.handle)).isNone) = true := by
    rw [← same]
    decide +kernel
  rw [found, Option.all_some, Bool.and_eq_true, Option.isNone_iff_eq_none] at ready
  have polls (limit : Duration) : c.Polls reached.host.net limit := (c.polls_iff _ limit).mpr ready
  have configured : config.waitTimeout = Duration.ofParts 1 500000000 := by decide +kernel
  have unset := ((waits none).1 (polls _)).2
  have given := ((waits (some (Duration.ofParts 0 7))).1 (polls _)).2
  rw [Option.getD_none, configured] at unset
  exact ⟨made, spared, unset, given⟩

end Bench

end CanBus
