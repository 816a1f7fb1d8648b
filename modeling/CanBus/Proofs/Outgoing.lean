import CanBus.Proofs.Codec
import CanBus.Proofs.Sending
import CanBus.Proofs.Slots

namespace CanBus

/-- The record of a message and of nothing else, in the format that was asked for. -/
structure Message.Carried (message : Message) (forceExtended : Bool) (frame : Frame) : Prop where
  short : message.payload.length ≤ maxPayload
  dlc : frame.dlc.toNat = message.payload.length
  data : frame.data.toList =
    message.payload ++ List.replicate (maxPayload - message.payload.length) 0
  pad : frame.pad = 0
  reserved : frame.reserved = 0
  len8 : frame.len8 = 0
  noError : frame.word &&& errorFlag = 0
  remote : frame.word &&& remoteFlag ≠ 0 ↔ message.remote = true
  extended : frame.word &&& extendedFlag ≠ 0 ↔ forceExtended = true ∨ message.id.extended = true
  number : frame.word &&& extendedMax = message.id.raw
  narrow : frame.word &&& extendedFlag = 0 →
    ∀ bit, 11 ≤ bit → bit ≤ 28 → frame.word.toNat.testBit bit = false

theorem flagged_errorFlag {raw : UInt32} (extended remote : Bool) (fits : raw ≤ extendedMax) :
    flagged raw extended remote &&& errorFlag = 0 := by
  have outside : raw &&& errorFlag = 0 := and_outside fits (by decide)
  rw [flagged_and, outside, UInt32.zero_or]
  cases extended <;> cases remote <;> decide

theorem if_flag_ne_zero {flag : UInt32} (present : flag ≠ 0) (set : Bool) :
    (if set then flag else 0) ≠ 0 ↔ set = true := by
  cases set <;> simp [present]

theorem narrow_flagged {raw : UInt32} (remote : Bool) (small : raw ≤ standardMax) :
    ∀ bit, 11 ≤ bit → bit ≤ 28 → (flagged raw false remote).toNat.testBit bit = false := by
  apply (and_extendedOnly_iff _).mp
  have inside : raw &&& extendedOnly = 0 := by
    rw [← and_standardMax small, UInt32.and_assoc]
    have apart : standardMax &&& extendedOnly = 0 := by decide
    rw [apart, UInt32.and_zero]
  rw [flagged_and, inside, UInt32.zero_or]
  cases remote <;> decide

namespace Message

variable {message : Message} (forceExtended : Bool)

theorem toFrame_data (short : message.payload.length ≤ maxPayload) :
    message.toFrame.data.toList =
      message.payload ++ List.replicate (maxPayload - message.payload.length) 0 := by
  have eight : maxPayload = 8 := rfl
  have size : message.toFrame.data.toList.length = 8 := Vector.length_toList
  apply List.ext_getElem
  · rw [size, List.length_append, List.length_replicate]
    omega
  · intro position within inside
    have written : message.toFrame.data.toList[position] = message.payload.getD position 0 := by
      simp only [toFrame, Vector.getElem_toList, Vector.getElem_ofFn]
    rw [written, List.getD_eq_getElem?_getD]
    by_cases used : position < message.payload.length
    · rw [List.getElem?_eq_getElem used, List.getElem_append_left used, Option.getD_some]
    · have past : message.payload.length ≤ position := Nat.not_lt.mp used
      rw [List.getElem?_eq_none past, List.getElem_append_right past, List.getElem_replicate,
        Option.getD_none]

theorem sentFrame_eq (message : Message) :
    message.sentFrame forceExtended =
      { message.toFrame with
        word := flagged message.id.raw (message.id.extended || forceExtended) message.remote } := by
  rw [← sentFrame_word]
  unfold sentFrame
  simp only []
  split <;> rfl

theorem sentFrame_carried (short : message.payload.length ≤ maxPayload) :
    message.Carried forceExtended (message.sentFrame forceExtended) := by
  have bound := message.id.raw_le_extendedMax
  have dlc : message.toFrame.dlc.toNat = message.payload.length := by
    rw [toFrame_dlc]
    omega
  rw [sentFrame_eq]
  constructor
  · exact short
  · exact dlc
  · exact toFrame_data short
  · rfl
  · rfl
  · rfl
  · exact flagged_errorFlag _ _ bound
  · rw [flagged_remoteFlag _ _ bound]
    exact if_flag_ne_zero (by decide) _
  · rw [flagged_extendedFlag _ _ bound, if_flag_ne_zero (by decide), Bool.or_eq_true, or_comm]
  · rw [flagged_and_max _ _ (by decide), and_extendedMax bound]
  · intro clear
    have standard : (message.id.extended || forceExtended) = false := by
      rw [flagged_extendedFlag _ _ bound] at clear
      cases format : message.id.extended || forceExtended with
      | false => rfl
      | true =>
        rw [format] at clear
        exact absurd clear (by decide)
    rw [standard]
    exact narrow_flagged _ (Identifier.raw_le_standardMax (Bool.or_eq_false_iff.mp standard).1)

end Message

/-- A message that a channel is asked to send, and whether the extended format is forced. -/
abbrev Offer := Message × Bool

namespace Simulator

variable {before middle after s : Simulator} {first second offered : List Offer}

/-- Nothing is written from one state to the other, nor tried. The log may be cleared. -/
structure Quiet (before after : Simulator) : Prop where
  written : after.written = before.written
  calls : after.calls.count .write ≤ before.calls.count .write

theorem Quiet.refl (s : Simulator) : s.Quiet s := ⟨rfl, Nat.le_refl _⟩

/-- Of the offers some are tried, none too long, and of those some are written, each as a record
that carries its message. -/
def Sends (offered : List Offer) (before after : Simulator) : Prop :=
  ∃ (tried sent : List Offer) (frames : List Frame),
    tried.Sublist offered ∧ (∀ offer ∈ tried, offer.1.payload.length ≤ maxPayload) ∧
      sent.Sublist tried ∧
      List.Forall₂ (fun offer frame => offer.1.Carried offer.2 frame) sent frames ∧
      after.written = before.written ++ frames ∧
      after.calls.count .write ≤ before.calls.count .write + tried.length

theorem Quiet.sends (quiet : before.Quiet after) : Sends [] before after :=
  ⟨[], [], [], .slnil, by simp, .slnil, .nil, by simp [quiet.written], quiet.calls⟩

theorem Sends.refl (s : Simulator) : Sends [] s s := (Quiet.refl s).sends

theorem Sends.trans (sends : Sends first before middle) (more : Sends second middle after) :
    Sends (first ++ second) before after := by
  obtain ⟨tried, sent, frames, offers, short, among, carried, written, calls⟩ := sends
  obtain ⟨tried', sent', frames', offers', short', among', carried', written', calls'⟩ := more
  refine ⟨tried ++ tried', sent ++ sent', frames ++ frames', offers.append offers', ?_,
    among.append among', List.rel_append carried carried', ?_, ?_⟩
  · intro offer member
    rcases List.mem_append.mp member with early | late
    · exact short offer early
    · exact short' offer late
  · rw [written', written, List.append_assoc]
  · rw [List.length_append]
    omega

theorem Sends.mono (sends : Sends first before after) (fewer : first.Sublist second) :
    Sends second before after := by
  obtain ⟨tried, sent, frames, offers, rest⟩ := sends
  exact ⟨tried, sent, frames, offers.trans fewer, rest⟩

theorem Sends.quietly (sends : Sends offered before middle) (quiet : middle.Quiet after) :
    Sends offered before after := by
  have both := sends.trans quiet.sends
  rwa [List.append_nil] at both

theorem Quiet.then (quiet : before.Quiet middle) (sends : Sends offered middle after) :
    Sends offered before after :=
  quiet.sends.trans sends

theorem count_entered (kind : SocketCall) (s : Simulator) :
    (s.entered [kind]).calls.count .write =
      s.calls.count .write + if kind = .write then 1 else 0 := by
  by_cases write : kind = .write <;> simp [entered, write]

theorem quiet_keeps (before : Simulator) {kind : SocketCall} (other : kind ≠ .write) :
    Simulator.layer.Keeps (before.Quiet) kind := by
  apply Simulator.layer_keeps
  · intro s quiet
    refine ⟨quiet.written, ?_⟩
    rw [count_entered, if_neg other]
    exact quiet.calls
  · intro s after does quiet
    have leaves := does.leaves
    refine ⟨(leaves.written other).trans quiet.written, ?_⟩
    rw [leaves.calls]
    exact quiet.calls

theorem quiet_pause (time : Duration) (quiet : before.Quiet s) : before.Quiet (s.pause time) :=
  ⟨quiet.written, quiet.calls⟩

theorem write_net (handle : Int32) (frame : Frame) (s : Simulator) :
    (write handle frame s).2 = s.entered [.write] ∨ (write handle frame s).2 = s.wrote frame := by
  unfold write
  rw [call_eq]
  split
  · exact .inl rfl
  · exact .inr rfl

theorem write_sends {message : Message} (handle : Int32) (forceExtended : Bool)
    (short : message.payload.length ≤ maxPayload) (s : Simulator) :
    Sends [(message, forceExtended)] s (write handle (message.sentFrame forceExtended) s).2 := by
  have one := count_entered .write s
  rw [if_pos rfl] at one
  have fits : ∀ offer ∈ [(message, forceExtended)], offer.1.payload.length ≤ maxPayload := by
    simpa using short
  rcases write_net handle (message.sentFrame forceExtended) s with failed | wrote
  · rw [failed]
    exact ⟨[(message, forceExtended)], [], [], .refl _, fits, List.nil_sublist _, .nil,
      (List.append_nil _).symm, Nat.le_of_eq one⟩
  · rw [wrote]
    have carried := Message.sentFrame_carried forceExtended short
    exact ⟨[(message, forceExtended)], _, _, .refl _, fits, .refl _, .cons carried .nil, rfl,
      Nat.le_of_eq one⟩

end Simulator

namespace Channel

open Simulator (Sends Quiet)

theorem send_too_long {σ : Type} {layer : Layer σ} {c : Channel} {message : Message}
    (forceExtended : Bool) (isOpen : c.isOpen = true)
    (long : maxPayload < message.payload.length) (host : Host σ) :
    c.send layer message forceExtended host =
      (.error (.payloadTooLong message.payload.length c.handle), host) := by
  simp only [send, isOpen, long, if_true]

variable {c : Channel} {host : Host Simulator} {message : Message} {count : Option Nat}

theorem net_write_reporting (count : Option Nat) (handle : Int32) (frame : Frame) (s : Simulator) :
    ((Simulator.layer.reporting count).write handle frame s).2 =
      (Simulator.write handle frame s).2 := by
  have same : Simulator.layer.write handle frame s = Simulator.write handle frame s := rfl
  simp only [Layer.reporting, same]
  split <;> rename_i made <;> rw [made]

theorem send_sends (forceExtended : Bool) :
    Sends [(message, forceExtended)] host.net
      (c.send (Simulator.layer.reporting count) message forceExtended host).2.net := by
  have nothing : Sends [(message, forceExtended)] host.net host.net :=
    (Sends.refl _).mono (List.nil_sublist _)
  unfold send
  split
  · split
    · exact nothing
    · rename_i fits
      have wrote : Sends [(message, forceExtended)] host.net
          (host.call ((Simulator.layer.reporting count).write c.handle
            (message.sentFrame forceExtended))).2.net := by
        have written := Simulator.write_sends c.handle forceExtended (Nat.not_lt.mp fits) host.net
        rwa [← net_write_reporting count] at written
      simp only []
      split <;> rename_i made <;> rw [made] at wrote
      · rwa [Host.net_count]
      · rwa [Host.net_count, Host.net_note]
  · exact nothing

theorem sendNext_sends (delay : Duration) (forceExtended isFirst : Bool) :
    Sends [(message, forceExtended)] host.net
      (c.sendNext (Simulator.layer.reporting count) delay forceExtended isFirst message
        host).2.net := by
  unfold sendNext
  cases isFirst with
  | true => exact send_sends forceExtended
  | false => exact (Simulator.quiet_pause delay (Quiet.refl _)).then (send_sends forceExtended)

theorem sendRest_sends (delay : Duration) (forceExtended : Bool) (taken total : Nat)
    (messages : List Message) (host : Host Simulator) :
    Sends (messages.map (·, forceExtended)) host.net
      (c.sendRest (Simulator.layer.reporting count) delay forceExtended taken total messages
        host).2.2.net := by
  induction messages generalizing taken total host with
  | nil => exact Sends.refl _
  | cons message rest ih =>
    have first : Sends [(message, forceExtended)] host.net
        (c.sendNext (Simulator.layer.reporting count) delay forceExtended (taken == 0) message
          host).2.net := sendNext_sends delay forceExtended (taken == 0)
    unfold sendRest
    split <;> rename_i made <;> rw [made] at first
    · exact first.mono (List.singleton_sublist.mpr List.mem_cons_self)
    · exact first.trans (ih _ _ _)

theorem sendCounted_sends (messages : List Message) (delay : Option Duration)
    (forceExtended : Bool) :
    Sends (messages.map (·, forceExtended)) host.net
      (c.sendCounted (Simulator.layer.reporting count) messages delay forceExtended
        host).2.2.net := by
  unfold sendCounted
  split
  · exact sendRest_sends _ _ _ _ _ _
  · exact (Sends.refl _).mono (List.nil_sublist _)

end Channel

def Step.offers : Step → List Offer
  | .channel _ (.send message forceExtended) => [(message, forceExtended)]
  | .channel _ (.sendBatch messages _ forceExtended) => messages.map (·, forceExtended)
  | _ => []

/-- Only a channel may write. -/
def Step.IsApart (step : Step) : Prop := ∀ handle frame, step ≠ .direct (.write handle frame)

namespace Bench

open Simulator (Sends Quiet)

variable {b : Bench} {step : Step}

theorem script_quiet (script : ScriptStep) (s : Simulator) : s.Quiet (scriptStep script s).2 := by
  cases script with
  | clearCalls => exact ⟨rfl, Nat.zero_le _⟩
  | push | addInterface | failNext | setReady | setPollDelay | calls | countCalls | written
  | filters | isOpen => exact ⟨rfl, Nat.le_refl _⟩

theorem step_quiet (silent : .write ∉ step.calls) :
    b.host.net.Quiet (b.step step).2.host.net := by
  apply step_keeps step
  · intro kind member
    exact Simulator.quiet_keeps _ fun same => silent (same ▸ member)
  · exact fun time s quiet => Simulator.quiet_pause time quiet
  · exact fun script _ => script_quiet script _
  · exact Quiet.refl _

theorem writing_cases (apart : step.IsApart) (writes : .write ∈ step.calls) :
    (∃ slot message forceExtended, step = .channel slot (.send message forceExtended)) ∨
      ∃ slot messages delay forceExtended,
        step = .channel slot (.sendBatch messages delay forceExtended) := by
  have built : .write ∉ Channel.setupCalls ++ [.close] := by decide
  cases step with
  | channel slot step =>
    cases step with
    | send message forceExtended => exact .inl ⟨slot, message, forceExtended, rfl⟩
    | sendBatch messages delay forceExtended =>
      exact .inr ⟨slot, messages, delay, forceExtended, rfl⟩
    | _ => simp [Step.calls, ChannelStep.calls] at writes
  | direct call =>
    cases call with
    | write handle frame => exact absurd rfl (apart handle frame)
    | _ => simp [Step.calls, DirectCall.kind] at writes
  | create => exact absurd writes built
  | ofConfig slot config metered =>
    cases valid : config.sender.toBool with
    | true =>
      rw [Step.calls, valid] at writes
      exact absurd writes built
    | false => simp [Step.calls, valid] at writes
  | drop | script | reportWrites | exposition | idle => simp [Step.calls] at writes

theorem step_sends (apart : step.IsApart) (b : Bench) :
    Sends step.offers b.host.net (b.step step).2.host.net := by
  have nothing (offered : List Offer) : Sends offered b.host.net b.host.net :=
    (Sends.refl _).mono (List.nil_sublist _)
  by_cases writes : .write ∈ step.calls
  · rcases writing_cases apart writes with
      ⟨slot, message, forceExtended, rfl⟩ | ⟨slot, messages, delay, forceExtended, rfl⟩
    · cases found : b.channel? slot with
      | none =>
        rw [step_absent found]
        exact nothing _
      | some c =>
        rw [step_found found]
        exact Channel.send_sends forceExtended
    · cases found : b.channel? slot with
      | none =>
        rw [step_absent found]
        exact nothing _
      | some c =>
        rw [step_found found]
        exact Channel.sendCounted_sends messages delay forceExtended
  · exact (step_quiet writes).sends.mono (List.nil_sublist _)

end Bench

end CanBus
