import CanBus.Bench.Command
import CanBus.Proofs.Outgoing

namespace CanBus

namespace Simulator

variable {before middle after : Simulator}

theorem Quiet.trans (first : before.Quiet middle) (second : middle.Quiet after) :
    before.Quiet after :=
  ⟨second.written.trans first.written, Nat.le_trans second.calls first.calls⟩

theorem Quiet.of_eq (same : after = before) : before.Quiet after := same ▸ Quiet.refl before

end Simulator

open Simulator (Sends Quiet)

theorem Channel.drop_quiet (c : Channel) (count : Option Nat) (host : Host Simulator) :
    host.net.Quiet (c.drop (Simulator.layer.reporting count) host).net := by
  have closes : Simulator.layer.Keeps host.net.Quiet .close :=
    Simulator.quiet_keeps host.net (by decide)
  exact Channel.drop_keeps (closes.reporting count) (Quiet.refl _)

theorem Simulator.beginPoll_quiet (handle : Int32) (timeout : Duration) (s : Simulator) :
    s.Quiet (beginPoll handle timeout s).2 := by
  have logged : s.Quiet (s.entered [.poll]) := by
    refine ⟨rfl, ?_⟩
    rw [count_entered]
    exact Nat.le_refl _
  unfold beginPoll
  rw [call_eq]
  split
  · exact logged
  · exact ⟨logged.written, logged.calls⟩

theorem Task.net_endBy (time : Nat) (t : Task) (b : Bench) :
    (t.endBy time b).2.host.net = b.host.net := by
  unfold Task.endBy
  split
  · split <;> rfl
  · rfl

namespace BusyBench

variable {s : BusyBench}

def net (s : BusyBench) : Simulator := s.bench.host.net

theorem net_endAll (time : Nat) (tasks : List Task) (b : Bench) :
    (endAll time tasks b).2.host.net = b.host.net := by
  induction tasks with
  | nil => rfl
  | cons t older ih => exact (Task.net_endBy time t _).trans ih

theorem net_elapse (s : BusyBench) : s.elapse.net = s.net := by
  refine List.foldlRecOn _ _ (motive := fun (t : BusyBench) => t.net = s.net) rfl ?_
  intro t same time _
  exact (net_endAll time t.tasks t.bench).trans same

theorem passTo_quiet (time : Nat) (s : BusyBench) : s.net.Quiet (s.passTo time).net := by
  unfold passTo
  rw [net_elapse]
  exact ⟨rfl, Nat.le_refl _⟩

theorem release_quiet (slot : Nat) (s : BusyBench) : s.net.Quiet (s.release slot).net := by
  unfold release
  split
  · exact passTo_quiet _ s
  · exact Quiet.refl _

theorem leave_quiet (s : BusyBench) : s.net.Quiet s.leave.net := by
  unfold leave
  split
  · exact Quiet.refl _
  · split
    · exact Quiet.refl _
    · split
      · exact Quiet.refl _
      · exact Channel.drop_quiet _ _ _

theorem beginWait_quiet (slot : Nat) (timeout : Option Duration) (c : Channel) (s : BusyBench) :
    s.net.Quiet (s.beginWait slot timeout c).net := by
  unfold beginWait
  split
  · have polled : s.net.Quiet (s.bench.host.call (Simulator.beginPoll c.handle
        (timeout.getD c.waitTimeout))).2.net := Simulator.beginPoll_quiet _ _ _
    simp only []
    split <;> rename_i made <;> rw [made] at polled
    · exact polled.trans (.of_eq (Host.net_count _ _))
    · rw [net_elapse]
      exact polled
  · exact Quiet.refl _

theorem endWait_quiet (s : BusyBench) : s.net.Quiet s.endWait.2.net := by
  unfold endWait
  cases s.tasks.head?.bind Task.deadline? with
  | none =>
    simp only []
    split <;> exact leave_quiet s
  | some deadline =>
    simp only []
    split <;> exact (passTo_quiet deadline s).trans (leave_quiet _)

theorem plainStep_sends {step : Step} (apart : step.IsApart) (s : BusyBench) :
    Sends step.offers s.net (s.plainStep step).2.net :=
  Bench.step_sends apart s.bench

/-- Feeds for a batch, by what it is offered in all: what happens before a message, then the message
itself. -/
inductive Feeds (forceExtended : Bool) : List Offer → List Feed → Prop
  | nil : Feeds forceExtended [] []
  | cons {offered rest : List Offer} {before : BusyBench → BusyBench} {message : Message}
      {feeds : List Feed} (sends : ∀ s, Sends offered s.net (before s).net)
      (more : Feeds forceExtended rest feeds) :
      Feeds forceExtended (offered ++ (message, forceExtended) :: rest) ((before, message) :: feeds)

theorem feeds_plain (forceExtended : Bool) (messages : List Message) :
    Feeds forceExtended (messages.map (·, forceExtended))
      (messages.map fun message => (id, message)) := by
  induction messages with
  | nil => exact .nil
  | cons message rest ih =>
    have none (s : BusyBench) : Sends [] s.net (id s).net := Sends.refl _
    exact .cons none ih

theorem feedOne_sends (opened : Channel) (delay : Duration) (forceExtended isFirst : Bool)
    (message : Message) (s : BusyBench) :
    Sends [(message, forceExtended)] s.net
      (s.feedOne opened delay forceExtended isFirst message).2.net := by
  unfold feedOne
  cases isFirst with
  | true => exact Channel.send_sends forceExtended
  | false => exact (passTo_quiet _ s).then (Channel.send_sends forceExtended)

theorem feedRest_sends (opened : Channel) (delay : Duration) {forceExtended : Bool}
    (taken total : Nat) {offered : List Offer} {feeds : List Feed}
    (fed : Feeds forceExtended offered feeds) (s : BusyBench) :
    Sends offered s.net (feedRest opened delay forceExtended taken total feeds s).2.2.net := by
  induction fed generalizing taken total s with
  | nil => exact Sends.refl _
  | @cons offered rest before message feeds sends more ih =>
    have first := (sends s).trans
      (feedOne_sends opened delay forceExtended (taken == 0) message (before s))
    unfold feedRest
    split <;> rename_i made <;> rw [made] at first
    · apply first.mono
      exact (List.Sublist.refl _).append (List.singleton_sublist.mpr List.mem_cons_self)
    · simpa only [List.append_assoc, List.singleton_append] using first.trans (ih _ _ _)

theorem feed_sends (slot : Nat) (delay : Option Duration) {forceExtended : Bool}
    {offered : List Offer} {items : List Feed} (fed : Feeds forceExtended offered items)
    (s : BusyBench) : Sends offered s.net (s.feed slot items delay forceExtended).2.net := by
  have nothing : Sends offered s.net s.net := (Sends.refl _).mono (List.nil_sublist _)
  unfold feed
  split
  · exact nothing
  · rename_i c _
    split
    · have sent := feedRest_sends c (delay.getD c.batchDelay) 0 0 fed (s.enter slot .sending)
      exact sent.quietly (leave_quiet _)
    · exact nothing

theorem waitOut_quiet (slot : Nat) (timeout : Option Duration) (s : BusyBench) :
    s.net.Quiet (s.waitOut slot timeout).2.net := by
  unfold waitOut
  split
  · exact Quiet.refl _
  · exact (beginWait_quiet slot timeout _ s).trans (endWait_quiet _)

theorem actOnChannel_sends (slot : Nat) (step : ChannelStep) (s : BusyBench) :
    Sends (Step.channel slot step).offers s.net (s.actOnChannel slot step).2.net := by
  have released : s.net.Quiet (if step.needsReceiver then s.release slot else s).net := by
    split
    · exact release_quiet slot s
    · exact Quiet.refl _
  have apart : (Step.channel slot step).IsApart := fun _ _ same => nomatch same
  unfold actOnChannel
  simp only []
  split
  · exact (released.trans (waitOut_quiet slot _ _)).sends
  · exact released.then (feed_sends slot _ (feeds_plain _ _) _)
  · exact released.then (plainStep_sends apart _)

theorem remake_sends (slot : Nat) (c : Channel) {step : Step} (apart : step.IsApart)
    (s : BusyBench) : Sends step.offers s.net (s.remake slot c step).2.net := by
  have made := Bench.step_sends apart (s.bench.vacate slot)
  unfold remake
  split <;> rename_i stepped <;> rw [stepped] at made <;> exact made

theorem act_sends {step : Step} (apart : step.IsApart) (s : BusyBench) :
    Sends step.offers s.net (s.act step).2.net := by
  unfold act
  split
  · exact plainStep_sends apart s
  · cases step with
    | channel slot inner => exact actOnChannel_sends slot inner s
    | drop slot =>
      simp only []
      split
      · exact Sends.refl _
      · exact plainStep_sends apart s
    | create | ofConfig =>
      simp only []
      split
      · exact remake_sends _ _ apart s
      · exact plainStep_sends apart s
    | script | direct | reportWrites | exposition | idle => exact plainStep_sends apart s

end BusyBench

mutual

/-- The messages that a command asks channels to send, in the order in which it does. -/
def Command.offers : Command → List Offer
  | .step single => single.offers
  | .feed _ items _ forceExtended => Command.fed forceExtended items
  | .during _ _ commands => Command.offered commands

def Command.fed (forceExtended : Bool) : List (List Command × Message) → List Offer
  | [] => []
  | (before, message) :: rest =>
    Command.offered before ++ (message, forceExtended) :: Command.fed forceExtended rest

def Command.offered : List Command → List Offer
  | [] => []
  | first :: rest => first.offers ++ Command.offered rest

end

mutual

def Command.steps : Command → List Step
  | .step single => [single]
  | .feed _ items _ _ => Command.stepsBeside items
  | .during _ _ commands => Command.stepsOf commands

def Command.stepsBeside : List (List Command × Message) → List Step
  | [] => []
  | (before, _) :: rest => Command.stepsOf before ++ Command.stepsBeside rest

def Command.stepsOf : List Command → List Step
  | [] => []
  | first :: rest => first.steps ++ Command.stepsOf rest

end

namespace BusyBench

mutual

theorem command_sends (first : Command) (apart : ∀ step ∈ first.steps, step.IsApart)
    (s : BusyBench) : Sends first.offers s.net (command first s).2.net := by
  match first with
  | .step step =>
    have acted := act_sends (apart step (by simp [Command.steps])) s
    rw [command, net_elapse]
    exact acted
  | .feed slot items delay forceExtended =>
    rw [Command.steps] at apart
    rw [command]
    exact feed_sends slot delay (feeds_feed forceExtended items apart) s
  | .during slot timeout list =>
    rw [Command.steps] at apart
    have released := release_quiet slot s
    rw [command, Command.offers]
    simp only []
    split
    · exact released.sends.mono (List.nil_sublist _)
    · rename_i c _
      have begun := released.trans (beginWait_quiet slot timeout c _)
      exact begun.then ((meanwhile_sends list apart _).quietly (endWait_quiet _))

theorem feeds_feed (forceExtended : Bool) (items : List (List Command × Message))
    (apart : ∀ step ∈ Command.stepsBeside items, step.IsApart) :
    Feeds forceExtended (Command.fed forceExtended items) (feeds items) := by
  match items with
  | [] => exact .nil
  | (before, message) :: rest =>
    rw [Command.stepsBeside, List.forall_mem_append] at apart
    rw [feeds, Command.fed]
    exact .cons (commands_send before apart.1) (feeds_feed forceExtended rest apart.2)

theorem commands_send (list : List Command) (apart : ∀ step ∈ Command.stepsOf list, step.IsApart)
    (s : BusyBench) : Sends (Command.offered list) s.net (commands list s).net := by
  match list with
  | [] => exact Sends.refl _
  | first :: rest =>
    rw [Command.stepsOf, List.forall_mem_append] at apart
    rw [commands, Command.offered]
    exact (command_sends first apart.1 s).trans (commands_send rest apart.2 _)

theorem meanwhile_sends (list : List Command)
    (apart : ∀ step ∈ Command.stepsOf list, step.IsApart) (s : BusyBench) :
    Sends (Command.offered list) s.net (meanwhile list s).2.net := by
  match list with
  | [] => exact Sends.refl _
  | first :: rest =>
    rw [Command.stepsOf, List.forall_mem_append] at apart
    rw [meanwhile, Command.offered]
    exact (command_sends first apart.1 s).trans (meanwhile_sends rest apart.2 _)

end

end BusyBench

namespace Bench

def performAll (commands : List Command) (b : Bench) : Bench :=
  commands.foldl (fun b command => (b.perform command).2) b

theorem performAll_sends (commands : List Command)
    (apart : ∀ step ∈ Command.stepsOf commands, step.IsApart) (b : Bench) :
    Sends (Command.offered commands) b.host.net (b.performAll commands).host.net := by
  induction commands generalizing b with
  | nil => exact Sends.refl _
  | cons first rest ih =>
    rw [Command.stepsOf, List.forall_mem_append] at apart
    have one : Sends first.offers b.host.net (b.perform first).2.host.net :=
      BusyBench.command_sends first apart.1 (BusyBench.idle b)
    exact one.trans (ih apart.2 _)

theorem start_unwritten (interfaces : List (String × Int32)) (metered : Bool) :
    (start interfaces metered).host.net.written = [] ∧
      (start interfaces metered).host.net.calls = [] := by
  obtain ⟨known, net⟩ := start_net interfaces metered
  rw [net]
  exact ⟨rfl, rfl⟩

/-- Every record written in a run carries a message that a channel was asked to send. Every write
that was tried was for a message that fits a record; another one is refused, with nothing done. -/
theorem written_frames_carry (interfaces : List (String × Int32)) (metered : Bool)
    (commands : List Command) (apart : ∀ step ∈ Command.stepsOf commands, step.IsApart) :
    (∃ tried sent : List Offer,
      tried.Sublist (Command.offered commands) ∧
        (∀ offer ∈ tried, offer.1.payload.length ≤ maxPayload) ∧ sent.Sublist tried ∧
        List.Forall₂ (fun offer frame => offer.1.Carried offer.2 frame) sent
          ((start interfaces metered).performAll commands).host.net.written ∧
        ((start interfaces metered).performAll commands).host.net.calls.count .write ≤
          tried.length) ∧
      ∀ {σ : Type} (layer : Layer σ) (c : Channel) (message : Message) (forceExtended : Bool)
        (host : Host σ), c.isOpen = true → maxPayload < message.payload.length →
          ∃ text, c.send layer message forceExtended host =
            (.error (.invalidFrame text c.handle), host) := by
  constructor
  · obtain ⟨none, silent⟩ := start_unwritten interfaces metered
    obtain ⟨tried, sent, frames, offers, short, among, carried, written, calls⟩ :=
      performAll_sends commands apart (start interfaces metered)
    rw [none, List.nil_append] at written
    rw [silent, List.count_nil, Nat.zero_add] at calls
    rw [← written] at carried
    exact ⟨tried, sent, offers, short, among, carried, calls⟩
  · intro σ layer c message forceExtended host isOpen long
    exact ⟨_, Channel.send_too_long forceExtended isOpen long host⟩

theorem fed_frames_carry :
    let request := Message.request ⟨0x12345, true, by decide⟩ 2
    let data := Message.ofPayload ⟨0x123, false, by decide⟩ [1, 2, 3]
    let long := Message.ofPayload ⟨0x123, false, by decide⟩ (List.replicate 9 0)
    let commands : List Command :=
      [.step (.create 0 "mock0" 1 0 Identifier.zero false),
        .feed 0 [([.step (.channel 0 (.send request false))], data)] none true,
        .step (.channel 0 (.send long false))]
    let written := ((start [] false).performAll commands).host.net.written
    let c := { Channel.fresh "mock0" 1 0 Identifier.zero with handle := 3 }
    written.map (·.dlc) = [2, 3] ∧
      ∃ sent : List Offer, sent.Sublist [(request, false), (data, true), (long, false)] ∧
        List.Forall₂ (fun offer frame => offer.1.Carried offer.2 frame) sent written ∧
        ∃ text, c.send Simulator.layer long false ⟨Simulator.start, Counters.zero, []⟩ =
          (.error (.invalidFrame text 3), ⟨Simulator.start, Counters.zero, []⟩) := by
  intro request data long commands written c
  have apart : ∀ step ∈ Command.stepsOf commands, step.IsApart := by
    have steps : Command.stepsOf commands =
        [.create 0 "mock0" 1 0 Identifier.zero false, .channel 0 (.send request false),
          .channel 0 (.send long false)] := rfl
    simp [steps, Step.IsApart]
  obtain ⟨⟨tried, sent, offers, _, among, carried, _⟩, refuses⟩ :=
    written_frames_carry [] false commands apart
  have refused := refuses Simulator.layer c long false ⟨Simulator.start, Counters.zero, []⟩
    (by decide) (by decide)
  exact ⟨by decide +kernel, sent, among.trans offers, carried, refused⟩

end Bench

end CanBus
