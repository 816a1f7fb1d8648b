import CanBus.Proofs.Closing
import CanBus.Proofs.Outcomes

namespace CanBus

def Step.isOn (slot : Nat) : Step → Bool
  | channel other _ => other == slot
  | _ => false

/-- A step that takes the channel out of the slot, or puts another one there. -/
def Step.Replaces (slot : Nat) : Step → Prop
  | create other .. | ofConfig other .. | drop other => other = slot
  | _ => False

def ChannelStep.senderAfter (sender : Identifier) : ChannelStep → Identifier
  | setSender new => new
  | _ => sender

def Step.senderAfter (slot : Nat) (sender : Identifier) : Step → Identifier
  | channel other step => if other = slot then step.senderAfter sender else sender
  | _ => sender

theorem Step.eq_of_isOn {slot : Nat} {step : Step} (own : step.isOn slot = true) :
    ∃ inner, step = channel slot inner := by
  cases step with
  | channel other inner =>
    obtain rfl : other = slot := beq_iff_eq.mp own
    exact ⟨inner, rfl⟩
  | create | ofConfig | drop | script | direct | reportWrites | exposition | idle => cases own

theorem Step.senderAfter_foreign {slot : Nat} {step : Step} {sender : Identifier}
    (foreign : step.isOn slot = false) : step.senderAfter slot sender = sender := by
  cases step with
  | channel other inner => exact if_neg (beq_eq_false_iff_ne.mp foreign)
  | create | ofConfig | drop | script | direct | reportWrites | exposition | idle => rfl

namespace Channel

def shut (sender : Identifier) (c : Channel) : Channel := { c with handle := -1, sender := sender }

variable {c : Channel} {s : Simulator}

def refusal (c : Channel) : ChannelStep → Reply
  | .close => .failed (.alreadyClosed (-1))
  | .wait _ | .receive | .receiveBatch | .send _ _ | .setFilter _ _ => .failed (.notOpen (-1))
  | .sendBatch _ _ _ => .batch 0 (.error (.notOpen (-1))) 0
  | .setSender sender => .identifier sender
  | .filterMask => .word c.filterMask
  | .socket => .handle (-1)
  | .info => .info c

theorem outcome_shut (sender : Identifier) (c : Channel) (reported : Option Nat) (s : Simulator)
    (step : ChannelStep) :
    (c.shut sender).outcome reported s step =
      ⟨fun _ => (c.shut sender).refusal step, c.shut (step.senderAfter sender), {}⟩ := by
  -- the handle is looked at before all else, in every operation
  cases step <;> rfl

theorem shut_of_closed (closed : (c.closeOutcome s).answer = .ok ()) :
    (c.closeOutcome s).channel = c.shut c.sender := by
  revert closed
  unfold closeOutcome
  cases c.isOpen with
  | false => exact nofun
  | true =>
    simp only [if_true]
    cases s.gate .close none with
    | some fault => exact nofun
    | none =>
      cases s.isOpen c.handle with
      | true => exact fun _ => rfl
      | false => exact nofun

end Channel

namespace Bench

variable {b b' : Bench} {slot : Nat} {c : Channel} {step : Step}

/-- Nothing differs between the benches but the channel in the slot. -/
structure Beside (slot : Nat) (b b' : Bench) : Prop where
  host : b.host = b'.host
  metered : b.metered = b'.metered
  reported : b.reported = b'.reported
  channels : ∀ other, other ≠ slot → b.channel? other = b'.channel? other

theorem Beside.refl (slot : Nat) (b : Bench) : Beside slot b b :=
  ⟨rfl, rfl, rfl, fun _ _ => rfl⟩

theorem Beside.trans {b'' : Bench} (first : Beside slot b b') (second : Beside slot b' b'') :
    Beside slot b b'' where
  host := first.host.trans second.host
  metered := first.metered.trans second.metered
  reported := first.reported.trans second.reported
  channels := fun other elsewhere =>
    (first.channels other elsewhere).trans (second.channels other elsewhere)

theorem Beside.layer (beside : Beside slot b b') : b.layer = b'.layer := by
  unfold Bench.layer
  rw [beside.reported]

theorem Beside.dropSlot (beside : Beside slot b b') {other : Nat} (elsewhere : other ≠ slot) :
    Beside slot (b.dropSlot other) (b'.dropSlot other) := by
  have same := beside.channels other elsewhere
  have channels (third : Nat) (apart : third ≠ slot) :
      (b.dropSlot other).channel? third = (b'.dropSlot other).channel? third := by
    rw [channel?_dropSlot, channel?_dropSlot, beside.channels third apart]
  unfold Bench.dropSlot at channels ⊢
  rw [same] at channels ⊢
  cases found : b'.channel? other with
  | none => exact beside
  | some c =>
    rw [found] at channels
    refine ⟨?_, beside.metered, beside.reported, channels⟩
    simp only [beside.layer, beside.host]

theorem Beside.put (beside : Beside slot b b') (other : Nat) (c : Channel) :
    Beside slot (b.put other c) (b'.put other c) := by
  refine ⟨beside.host, beside.metered, beside.reported, ?_⟩
  intro third apart
  rw [channel?_put, channel?_put, beside.channels third apart]

theorem Beside.seat (beside : Beside slot b b') {other : Nat} (elsewhere : other ≠ slot)
    (metered : Bool) (made : Except ChannelError Channel × Host Simulator) :
    (b.seat other metered made).1 = (b'.seat other metered made).1 ∧
      Beside slot (b.seat other metered made).2 (b'.seat other metered made).2 := by
  obtain ⟨error | c, host⟩ := made
  · exact ⟨rfl, rfl, beside.metered, beside.reported, beside.channels⟩
  · have hosted : Beside slot { b with host := host, metered := b'.metered }
        { b' with host := host } := ⟨rfl, rfl, beside.reported, beside.channels⟩
    have seated := (hosted.dropSlot elsewhere).put other
    unfold Bench.seat
    rw [beside.metered]
    exact ⟨rfl, seated _⟩

theorem Beside.setNet (beside : Beside slot b b') (net : Simulator) :
    Beside slot (b.setNet net) (b'.setNet net) := by
  refine ⟨?_, beside.metered, beside.reported, beside.channels⟩
  simp only [Bench.setNet, beside.host]

theorem Beside.both (beside : Beside slot b b') (foreign : step.isOn slot = false)
    (keeps : ¬ step.Replaces slot) :
    (b.step step).1 = (b'.step step).1 ∧ Beside slot (b.step step).2 (b'.step step).2 := by
  cases step with
  | create other interface protocol mask sender metered =>
    simp only [Bench.step, beside.layer, beside.host]
    exact beside.seat keeps metered _
  | ofConfig other config metered =>
    simp only [Bench.step, beside.layer, beside.host]
    exact beside.seat keeps metered _
  | drop other =>
    have same : (b.channel? other).isSome = (b'.channel? other).isSome := by
      rw [beside.channels other keeps]
    exact ⟨congrArg Reply.flag same, beside.dropSlot keeps⟩
  | channel other inner =>
    have elsewhere : other ≠ slot := beq_eq_false_iff_ne.mp foreign
    have same := beside.channels other elsewhere
    cases found : b'.channel? other with
    | none =>
      rw [step_absent found, step_absent (same.trans found)]
      exact ⟨rfl, beside⟩
    | some c =>
      have here := step_outcome (same.trans found) inner
      have there := step_outcome found inner
      rw [beside.reported, beside.host] at here
      refine ⟨?_, ?_, ?_, ?_, ?_⟩
      · rw [here.reply, there.reply, beside.host]
      · rw [here.host, there.host, beside.host]
      · rw [here.metered, there.metered, beside.metered]
      · rw [here.reported, there.reported, beside.reported]
      · intro third apart
        rw [here.channel?, there.channel?, beside.channels third apart]
  | script script =>
    have script := beside.setNet (scriptStep script b'.host.net).2
    unfold Bench.step
    rw [beside.host]
    exact ⟨rfl, script⟩
  | direct call =>
    have called := beside.setNet (directCall call b'.layer b'.host.net).2
    unfold Bench.step
    rw [beside.host, beside.layer]
    exact ⟨rfl, called⟩
  | reportWrites count => exact ⟨rfl, beside.host, beside.metered, rfl, beside.channels⟩
  | exposition =>
    unfold Bench.step
    rw [beside.host, beside.metered]
    exact ⟨rfl, beside⟩
  | idle => exact ⟨rfl, beside⟩

theorem channel?_step_foreign (foreign : step.isOn slot = false) (keeps : ¬ step.Replaces slot)
    (b : Bench) : (b.step step).2.channel? slot = b.channel? slot := by
  have seated {other : Nat} (elsewhere : other ≠ slot) (metered : Bool)
      (made : Except ChannelError Channel × Host Simulator) :
      (b.seat other metered made).2.channel? slot = b.channel? slot := by
    obtain ⟨error | c, host⟩ := made
    · rfl
    · simp only [seat, channel?_put, channel?_dropSlot, if_neg elsewhere.symm]
      rfl
  cases step with
  | create other interface protocol mask sender metered => exact seated keeps metered _
  | ofConfig other config metered => exact seated keeps metered _
  | drop other =>
    have elsewhere : slot ≠ other := fun same => keeps same.symm
    exact (channel?_dropSlot other slot b).trans (if_neg elsewhere)
  | channel other inner =>
    have elsewhere : slot ≠ other := (beq_eq_false_iff_ne.mp foreign).symm
    cases found : b.channel? other with
    | none => rw [step_absent found]
    | some c => exact (step_outcome found inner).elsewhere elsewhere
  | script | direct | reportWrites | exposition | idle => rfl

/-- The last sender that the run gives to the slot's channel. -/
def lastSender (slot : Nat) (sender : Identifier) (steps : List Step) : Identifier :=
  steps.foldl (fun sender step => step.senderAfter slot sender) sender

theorem close_done {after : Bench} (found : b.channel? slot = some c)
    (ended : b.step (.channel slot .close) = (.done, after)) :
    after.channel? slot = some (c.shut c.sender) := by
  have outcome := step_outcome found .close
  rw [ended] at outcome
  have closed : (c.closeOutcome b.host.net).answer = .ok () := by
    have reply := outcome.reply
    cases answer : (c.closeOutcome b.host.net).answer with
    | ok value => rfl
    | error error =>
      simp only [Channel.outcome, Outcome.map, answer] at reply
      cases reply
  rw [outcome.here]
  exact congrArg some (Channel.shut_of_closed closed)

theorem shut_step {sender : Identifier} (found : b.channel? slot = some (c.shut sender))
    (step : ChannelStep) :
    (b.step (.channel slot step)).1 = (c.shut sender).refusal step ∧
      (b.step (.channel slot step)).2.channel? slot = some (c.shut (step.senderAfter sender)) ∧
      Beside slot (b.step (.channel slot step)).2 b := by
  have outcome := step_outcome found step
  rw [Channel.outcome_shut] at outcome
  refine ⟨outcome.reply, outcome.here, ?_, outcome.metered, outcome.reported, ?_⟩
  · rw [outcome.host, Effect.on_nothing]
  · intro other apart
    exact outcome.elsewhere apart

theorem shut_run {sender : Identifier} (steps : List Step)
    (spared : ∀ step ∈ steps, ¬ step.Replaces slot)
    (found : b.channel? slot = some (c.shut sender)) (beside : Beside slot b b') :
    (b.run steps).channel? slot = some (c.shut (lastSender slot sender steps)) ∧
      Beside slot (b.run steps) (b'.run (steps.filter (!·.isOn slot))) := by
  -- the second bench goes without the operations of the channel
  induction steps generalizing b b' sender with
  | nil => exact ⟨found, beside⟩
  | cons step rest ih =>
    have keeps : ¬ step.Replaces slot := spared step List.mem_cons_self
    have later : ∀ step ∈ rest, ¬ step.Replaces slot :=
      fun step member => spared step (List.mem_cons_of_mem _ member)
    cases foreign : step.isOn slot with
    | false =>
      have kept := (channel?_step_foreign foreign keeps b).trans found
      have last : lastSender slot sender (step :: rest) = lastSender slot sender rest := by
        unfold lastSender
        rw [List.foldl_cons, Step.senderAfter_foreign foreign]
      have taken : (step :: rest).filter (!·.isOn slot) =
          step :: rest.filter (!·.isOn slot) := by
        simp only [List.filter_cons, foreign, Bool.not_false, if_true]
      rw [last, taken]
      exact ih later kept (beside.both foreign keeps).2
    | true =>
      obtain ⟨inner, rfl⟩ := Step.eq_of_isOn foreign
      obtain ⟨-, kept, unmoved⟩ := shut_step found inner
      have last : lastSender slot sender (.channel slot inner :: rest) =
          lastSender slot (inner.senderAfter sender) rest := by
        simp only [lastSender, List.foldl_cons, Step.senderAfter, if_true]
      have left : (Step.channel slot inner :: rest).filter (!·.isOn slot) =
          rest.filter (!·.isOn slot) := by
        simp only [List.filter_cons, foreign, Bool.not_true, Bool.false_eq_true, if_false]
      rw [last, left]
      exact ih later kept (unmoved.trans beside)

/-- Whatever is done after a close, the channel stays shut and refuses; all else goes as if it were
never asked. -/
theorem closed_channel_inert {closed : Bench} (found : b.channel? slot = some c)
    (ended : b.step (.channel slot .close) = (.done, closed)) (steps : List Step)
    (spared : ∀ step ∈ steps, ¬ step.Replaces slot) :
    let later := closed.run steps
    let gone := c.shut (lastSender slot c.sender steps)
    later.channel? slot = some gone ∧
      Beside slot later (closed.run (steps.filter (!·.isOn slot))) ∧
      (∀ step, (later.step (.channel slot step)).1 = gone.refusal step ∧
        (later.step (.channel slot step)).2.host = later.host) ∧
      (later.step (.drop slot)).2.host = later.host := by
  intro later gone
  have start := close_done found ended
  obtain ⟨stays, unmoved⟩ := shut_run steps spared start (Beside.refl slot closed)
  refine ⟨stays, unmoved, ?_, ?_⟩
  · intro step
    obtain ⟨refused, -, beside⟩ := shut_step stays step
    exact ⟨refused, beside.host⟩
  · have shut : (c.shut (lastSender slot c.sender steps)).isOpen = false := rfl
    show (later.dropSlot slot).host = later.host
    unfold dropSlot
    rw [stays]
    exact Channel.drop_idle shut

theorem closed_channel_leaves_frame :
    let steps : List Step := [.channel 0 .receive, .channel 0 (.sendBatch [] none false),
      .script (.failNext .write 5), .channel 0 (.setFilter 0 0)]
    let long : Message := .ofPayload Identifier.zero (List.replicate 9 0)
    let b := (start [] true).run
      [.create 0 "mock0" 1 0 Identifier.zero true,
        .script (.push ⟨0x123, 1, 0, 0, 0, #v[7, 0, 0, 0, 0, 0, 0, 0]⟩)]
    let closed := (b.step (.channel 0 .close)).2
    let later := closed.run steps
    b.step (.channel 0 .close) = (.done, closed) ∧ (∀ step ∈ steps, ¬ step.Replaces 0) ∧
      later.host.net.inbound.length = 1 ∧
      (later.step (.channel 0 (.send long false))).1 = .failed (.notOpen (-1)) := by
  intro steps long b closed later
  have found : b.channel? 0 =
      some { Channel.fresh "mock0" 1 0 Identifier.zero with handle := 3, metered := true } := rfl
  have ended : b.step (.channel 0 .close) = (.done, closed) := rfl
  have spared : ∀ step ∈ steps, ¬ step.Replaces 0 := by simp [steps, Step.Replaces]
  obtain ⟨-, unmoved, refused, -⟩ := closed_channel_inert found ended steps spared
  have queue := congrArg (·.net.inbound.length) unmoved.host
  exact ⟨ended, spared, queue, (refused (.send long false)).1⟩

end Bench

end CanBus
