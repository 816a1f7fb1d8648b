import CanBus.Proofs.Construction
import CanBus.Proofs.Encoding
import CanBus.Proofs.Sending

namespace CanBus

theorem Filter.accepts_own_iff (id : Identifier) (mask : UInt32) :
    Filter.Accepts ⟨id.raw, mask⟩ (flagged id.raw id.extended false) ↔
      id.extended = false ∨ mask &&& extendedFlag = 0 := by
  have bound := id.raw_le_extendedMax
  unfold Filter.Accepts
  cases id.extended with
  | false => simp [flagged]
  | true =>
    have swap (word : UInt32) :
        (word &&& mask) &&& extendedFlag = (word &&& extendedFlag) &&& mask := by
      rw [UInt32.and_assoc, UInt32.and_comm mask, ← UInt32.and_assoc]
    have outside : id.raw &&& extendedFlag = 0 := and_outside bound (by decide)
    simp only [Bool.true_eq_false, false_or]
    constructor
    · intro accepted
      have flags := congrArg (fun word => word &&& extendedFlag) accepted
      simp only [swap, flagged_extendedFlag true false bound, outside, if_true,
        UInt32.zero_and] at flags
      rw [UInt32.and_comm]
      exact flags
    · intro unseen
      rw [flagged_and, if_pos rfl, UInt32.and_comm extendedFlag, unseen]
      simp

namespace Simulator

variable {α : Type} {s after : Simulator} {kind : SocketCall} {handle : Int32}

theorem call_ok {at? : Option Int32} {work : Call Simulator α} {value : α}
    (made : call kind at? work s = (.ok value, after)) :
    work (s.entered [kind]) = (.ok value, after) := by
  rw [call_eq] at made
  split at made
  · cases made
  · exact made

theorem setFilter_ok {filter : Filter} (made : setFilter handle filter s = (.ok (), after)) :
    after.filters = s.filters ++ [filter] := by
  have done := call_ok made
  rw [← (Prod.mk.inj done).2]
  rfl

theorem write_ok {frame : Frame} {count : Nat} (made : write handle frame s = (.ok count, after)) :
    after.written = s.written ++ [frame] := by
  have done := call_ok made
  rw [← (Prod.mk.inj done).2]
  rfl

theorem Follows.filters {call : Call Simulator α} {outcome : Except Fault α}
    (follows : Follows kind s (call s).2) (came : call s = (outcome, after))
    (other : kind ≠ .setFilter) : after.filters = s.filters := by
  rw [came] at follows
  rcases follows with rfl | does
  · rfl
  · exact does.leaves.filters other

end Simulator

namespace Channel

section

variable {σ : Type} {layer : Layer σ} {c made : Channel} {host after : Host σ}

theorem setup_ok (done : c.setup layer host = (.ok (), made, after)) :
    ∃ handle index first second third fourth,
      layer.openSocket c.protocol host.net = (.ok handle, first) ∧
      layer.interfaceIndex handle c.interface first = (.ok index, second) ∧
      layer.setNonblocking handle second = (.ok (), third) ∧
      layer.setFilter handle ⟨c.sender.raw, c.filterMask⟩ third = (.ok (), fourth) ∧
      layer.bind handle index fourth = (.ok (), after.net) := by
  rcases opened : layer.openSocket c.protocol host.net with ⟨_ | handle, first⟩
  · rw [setup_unopened opened] at done
    cases done
  rcases resolved : layer.interfaceIndex handle c.interface first with ⟨_ | index, second⟩
  · rw [setup_unresolved opened resolved] at done
    cases done
  rcases unblocked : layer.setNonblocking handle second with ⟨_ | _, third⟩
  · rw [setup_blocking opened resolved unblocked] at done
    cases done
  rcases filtered : layer.setFilter handle ⟨c.sender.raw, c.filterMask⟩ third with ⟨_ | _, fourth⟩
  · rw [setup_unfiltered opened resolved unblocked filtered] at done
    cases done
  rcases bound : layer.bind handle index fourth with ⟨_ | _, fifth⟩
  · rw [setup_unbound opened resolved unblocked filtered bound] at done
    cases done
  rw [setup_complete opened resolved unblocked filtered bound] at done
  cases done
  exact ⟨handle, index, first, second, third, fourth, rfl, resolved, unblocked, filtered, bound⟩

theorem create_ok {interface : String} {protocol : Int32} {mask : UInt32} {sender : Identifier}
    (done : create layer interface protocol mask sender host = (.ok made, after)) :
    (fresh interface protocol mask sender).setup layer host = (.ok (), made, after) := by
  unfold create at done
  split at done
  · rename_i built
    cases done
    exact built
  · cases done

theorem ofConfig_ok {config : Config} (done : ofConfig layer config host = (.ok made, after)) :
    ∃ sender c, config.sender = .ok sender ∧
      create layer config.interface config.protocol config.filterMask sender host =
        (.ok c, after) := by
  unfold ofConfig at done
  split at done
  · cases done
  · rename_i sender named
    split at done
    · cases done
    · rename_i c _ built
      cases done
      exact ⟨sender, c, named, built⟩

end

open Simulator (layer)

variable {c made : Channel} {host after : Host Simulator} {mask : UInt32} {sender : Identifier}

theorem setup_filters (done : c.setup layer host = (.ok (), made, after)) :
    after.net.filters = host.net.filters ++ [⟨c.sender.raw, c.filterMask⟩] := by
  obtain ⟨handle, index, first, second, third, fourth, opened, resolved, unblocked, filtered,
    bound⟩ := setup_ok done
  have opens := (Simulator.openSocket_follows host.net).filters opened (by decide)
  have resolves :=
    (Simulator.interfaceIndex_follows handle c.interface first).filters resolved (by decide)
  have unblocks := (Simulator.setNonblocking_follows handle second).filters unblocked (by decide)
  have installs : fourth.filters = third.filters ++ [⟨c.sender.raw, c.filterMask⟩] :=
    Simulator.setFilter_ok filtered
  have binds := (Simulator.bind_follows handle index fourth).filters bound (by decide)
  rw [binds, installs, unblocks, resolves, opens]

theorem setFilter_filters (done : c.setFilter layer mask 0 host = (.ok (), made, after)) :
    after.net.filters = host.net.filters ++ [⟨c.sender.raw, mask⟩] := by
  unfold setFilter at done
  split at done
  · rcases installed : Simulator.setFilter c.handle ⟨c.sender.raw, mask⟩ host.net with ⟨_ | _, net⟩
    · simp [installFilter, Host.call, layer, installed] at done
    · have net := Simulator.setFilter_ok installed
      simp only [installFilter, Host.call, layer, if_true, installed] at done
      rw [← (Prod.mk.inj (Prod.mk.inj done).2).2]
      exact net
  · cases done

theorem send_written {message : Message} {forceExtended : Bool} {count : Nat}
    (done : c.send layer message forceExtended host = (.ok count, after)) :
    after.net.written = host.net.written ++ [message.sentFrame forceExtended] := by
  unfold send at done
  split at done
  · split at done
    · cases done
    · rcases wrote : Simulator.write c.handle (message.sentFrame forceExtended) host.net with
        ⟨_ | written, net⟩
      · simp [Host.call, layer, wrote] at done
      · have frames := Simulator.write_ok wrote
        simp only [Host.call, layer, wrote] at done
        rw [← (Prod.mk.inj done).2, Host.net_count, Host.net_note]
        exact frames
  · cases done

/-- The layer's state before and after a filter was installed that stands for the sender: a channel
was created for it, or one that has this sender had its filter set without an identifier. -/
inductive InstallsDefault (mask : UInt32) (sender : Identifier) : Simulator → Simulator → Prop
  | create {interface : String} {protocol : Int32} {made : Channel} {host after : Host Simulator}
      (done : create layer interface protocol mask sender host = (.ok made, after)) :
      InstallsDefault mask sender host.net after.net
  | ofConfig {config : Config} {made : Channel} {host after : Host Simulator}
      (masked : config.filterMask = mask) (named : config.sender = .ok sender)
      (done : ofConfig layer config host = (.ok made, after)) :
      InstallsDefault mask sender host.net after.net
  | setFilter {c made : Channel} {host after : Host Simulator} (own : c.sender = sender)
      (done : c.setFilter layer mask 0 host = (.ok (), made, after)) :
      InstallsDefault mask sender host.net after.net

theorem InstallsDefault.filters {before after : Simulator}
    (installed : InstallsDefault mask sender before after) :
    after.filters = before.filters ++ [⟨sender.raw, mask⟩] := by
  cases installed with
  | create done => exact setup_filters (create_ok done)
  | ofConfig masked named done =>
    obtain ⟨other, c, same, built⟩ := ofConfig_ok done
    obtain rfl : sender = other := Except.ok.inj (named.symm.trans same)
    rw [← masked]
    exact setup_filters (create_ok built)
  | setFilter own done =>
    rw [← own]
    exact setFilter_filters done

/-- What a sender writes passes its own filter exactly if the identifier is a standard one or the
mask leaves the extended flag out. -/
theorem own_frames_accepted_iff {before after : Simulator}
    (installed : InstallsDefault mask sender before after) (c : Channel) (message : Message)
    (own : message.id = sender) (data : message.remote = false) {near far : Host Simulator}
    {count : Nat} (sent : c.send layer message false near = (.ok count, far)) :
    ∃ filter frame, after.filters = before.filters ++ [filter] ∧
      far.net.written = near.net.written ++ [frame] ∧
      (filter.Accepts frame.word ↔ sender.extended = false ∨ mask &&& extendedFlag = 0) := by
  refine ⟨_, _, installed.filters, send_written sent, ?_⟩
  rw [Message.sentFrame_word, own, data, Bool.or_false]
  exact Filter.accepts_own_iff sender mask

theorem extended_sender_accepted :
    let sender : Identifier := ⟨0x18DAF110, true, by decide⟩
    let made : Channel :=
      { fresh "mock0" 1 0x1FFFFFFF sender with handle := 3, filterId := 0x18DAF110 }
    let created := create layer "mock0" 1 0x1FFFFFFF sender ⟨.start, .zero, []⟩
    let sent := made.send layer (Message.ofPayload sender [1]) false created.2
    created.1 = .ok made ∧ sent.1 = .ok frameBytes ∧
      ∃ filter frame, created.2.net.filters = [filter] ∧ sent.2.net.written = [frame] ∧
        filter.Accepts frame.word := by
  intro sender made created sent
  have built : create layer "mock0" 1 0x1FFFFFFF sender ⟨.start, .zero, []⟩ =
      (.ok made, created.2) := rfl
  have wrote : made.send layer (Message.ofPayload sender [1]) false created.2 =
      (.ok frameBytes, sent.2) := rfl
  obtain ⟨filter, frame, filters, written, accepts⟩ :=
    own_frames_accepted_iff (.create built) made _ rfl rfl wrote
  exact ⟨rfl, rfl, filter, frame, filters, written, accepts.mpr (.inr (by decide))⟩

/-- The same sender under a mask of all bits: what it sends does not pass its own filter. -/
theorem extended_sender_shut_out :
    let sender : Identifier := ⟨0x18DAF110, true, by decide⟩
    let made : Channel :=
      { fresh "mock0" 1 0xFFFFFFFF sender with handle := 3, filterId := 0x18DAF110 }
    let created := create layer "mock0" 1 0xFFFFFFFF sender ⟨.start, .zero, []⟩
    let sent := made.send layer (Message.ofPayload sender [1]) false created.2
    created.1 = .ok made ∧ sent.1 = .ok frameBytes ∧
      ∃ filter frame, created.2.net.filters = [filter] ∧ sent.2.net.written = [frame] ∧
        ¬ filter.Accepts frame.word := by
  intro sender made created sent
  exact ⟨rfl, rfl, _, _, rfl, rfl, by decide⟩

end Channel

end CanBus
