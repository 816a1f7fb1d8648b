import CanBus.Proofs.Acceptance
import CanBus.Proofs.Conservation
import CanBus.Proofs.Digest
import Mathlib.Data.List.Dedup

namespace CanBus

/-- A step by which nobody but channels calls the layer, and which leaves writes reported as they
are. -/
def Step.Undisturbed : Step → Prop
  | direct _ | reportWrites _ => False
  | create .. | ofConfig .. | drop _ | channel .. | script _ | exposition | idle => True

namespace Simulator

/-- The handle that was given out between the states, if one was. -/
def issued (before after : Simulator) : List Int32 :=
  if after.nextHandle = before.nextHandle then [] else [before.nextHandle]

/-- The handles that were open, or given out since, and are open no more. -/
def ended (before after : Simulator) : List Int32 :=
  ((before.openHandles ++ before.issued after).filter fun handle => !after.isOpen handle).dedup

theorem setFilter_failed {handle : Int32} {filter : Filter} {fault : Fault} {s after : Simulator}
    (failed : setFilter handle filter s = (.error fault, after)) : after.filters = s.filters := by
  rw [setFilter, call_eq] at failed
  split at failed <;> cases failed
  rfl

theorem issued_same {before after : Simulator} (next : after.nextHandle = before.nextHandle) :
    before.issued after = [] := if_pos next

theorem issued_congr {before after later : Simulator}
    (next : later.nextHandle = after.nextHandle) : before.issued later = before.issued after := by
  unfold issued
  rw [next]

theorem openSocket_issues (s : Simulator) :
    let after := (openSocket s).2
    after.openHandles = s.openHandles ++ s.issued after ∧ after.written = s.written ∧
      after.inbound = s.inbound := by
  cases set : s.failures .openSocket with
  | some code =>
    have none : s.issued (s.entered [.openSocket]) = [] := issued_same rfl
    have issued : s.openHandles ++ s.issued (s.entered [.openSocket]) = s.openHandles := by
      rw [none, List.append_nil]
    rw [openSocket_failed set]
    exact ⟨issued.symm, rfl, rfl⟩
  | none =>
    have next : s.nextHandle + 1 ≠ s.nextHandle := by simp
    have issued : s.openHandles ++ s.issued s.opened = s.openHandles ++ [s.nextHandle] :=
      congrArg _ (if_neg next)
    rw [openSocket_made set]
    exact ⟨issued.symm, rfl, rfl⟩

end Simulator

/-- What became of the open handles: a socket may have been made, and one of them all closed. -/
def Closes (before after : Simulator) (closed : List Int32) : Prop :=
  let handles := before.openHandles ++ before.issued after
  closed = [] ∧ after.openHandles = handles ∨
    ∃ handle ∈ handles, closed = [handle] ∧ after.openHandles = handles.filter (· != handle)

theorem Closes.ended {before after : Simulator} {closed : List Int32}
    (closes : Closes before after closed) : before.ended after = closed := by
  unfold Simulator.ended
  rcases closes with ⟨rfl, same⟩ | ⟨handle, member, rfl, fewer⟩
  · have none : (before.openHandles ++ before.issued after).filter
        (fun handle => !after.isOpen handle) = [] := by
      apply List.filter_eq_nil_iff.mpr
      intro handle member
      simp only [Simulator.isOpen_iff.mpr (same ▸ member), Bool.not_true, Bool.false_eq_true,
        not_false_eq_true]
    rw [none, List.dedup_nil]
  · have only : (before.openHandles ++ before.issued after).filter
        (fun other => !after.isOpen other) =
          (before.openHandles ++ before.issued after).filter (· == handle) := by
      apply List.filter_congr
      intro other given
      have kept : after.isOpen other = true ↔ other ≠ handle := by
        rw [Simulator.isOpen_iff, fewer, List.mem_filter, bne_iff_ne]
        exact and_iff_right given
      rw [Bool.eq_iff_iff, Bool.not_eq_true', ← Bool.not_eq_true, kept, not_not, beq_iff_eq]
    rw [only, List.filter_beq, List.replicate_dedup]
    exact Nat.ne_of_gt (List.count_pos_iff.mpr member)

/-- The digest tells what happened to the layer between the states, while these frames were
pushed. -/
structure Digest.Recounts (d : Digest) (pushed : List Frame) (before after : Simulator) : Prop where
  sent : ∃ frames, after.written = before.written ++ frames ∧
    d.sent = frames.map fun frame => (frame.word, frameBytes)
  received : ∃ frames, frames ++ after.inbound = before.inbound ++ pushed ∧
    d.received = frames.map Frame.told
  installed : after.filters = before.filters ++ d.installed
  closes : Closes before after d.closed

namespace Digest

variable {d e : Digest} {pushed : List Frame} {before between after : Simulator}

theorem Recounts.andThen (first : d.Recounts pushed before between)
    (second : e.Recounts [] between after) (opening : d.closed = [])
    (next : after.nextHandle = between.nextHandle) :
    (d.andThen e).Recounts pushed before after where
  sent := by
    obtain ⟨frames, written, sent⟩ := first.sent
    obtain ⟨more, rest, later⟩ := second.sent
    refine ⟨frames ++ more, ?_, ?_⟩
    · rw [rest, written, List.append_assoc]
    · rw [Digest.andThen, sent, later, List.map_append]
  received := by
    obtain ⟨frames, queue, received⟩ := first.received
    obtain ⟨more, rest, later⟩ := second.received
    rw [List.append_nil] at rest
    refine ⟨frames ++ more, ?_, ?_⟩
    · rw [List.append_assoc, rest, queue]
    · rw [Digest.andThen, received, later, List.map_append]
  installed := by
    rw [second.installed, first.installed, List.append_assoc]
    rfl
  closes := by
    obtain ⟨-, handles⟩ | ⟨handle, -, closed, -⟩ := first.closes
    · -- what was made in between counts as made by the whole
      have rest := second.closes
      unfold Closes at rest ⊢
      rw [Simulator.issued_same next, List.append_nil, handles] at rest
      rw [Simulator.issued_congr next, Digest.andThen, opening]
      exact rest
    · exact absurd (closed.symm.trans opening) (List.cons_ne_nil _ _)

theorem Recounts.nothing (written : after.written = before.written)
    (inbound : after.inbound = before.inbound ++ pushed) (filters : after.filters = before.filters)
    (handles : after.openHandles = before.openHandles)
    (next : after.nextHandle = before.nextHandle) : Recounts {} pushed before after where
  sent := ⟨[], by rw [written, List.append_nil], rfl⟩
  received := ⟨[], by rw [inbound, List.nil_append], rfl⟩
  installed := by rw [filters, List.append_nil]
  closes := .inl ⟨rfl, by rw [handles, Simulator.issued_same next, List.append_nil]⟩

end Digest

theorem Effect.Tells.recounts {e : Effect} {s : Simulator} {closed : List Int32}
    {stale : List (Int32 × Nat × Nat)} (tells : e.Tells s.inbound closed stale)
    (held : closed = [] ∨ ∃ handle ∈ s.openHandles, closed = [handle]) :
    (Digest.of e.events).Recounts [] s (e.net s) := by
  have issued : s.issued (e.net s) = [] := Simulator.issued_same rfl
  rw [tells.events]
  refine ⟨⟨e.written, rfl, rfl⟩, ⟨s.inbound.take e.taken, ?_, rfl⟩, rfl, ?_⟩
  · rw [List.append_nil]
    exact List.take_append_drop _ _
  · unfold Closes
    rw [issued, List.append_nil]
    rcases held with rfl | ⟨handle, member, rfl⟩
    · left
      refine ⟨rfl, ?_⟩
      simp only [Effect.net, tells.closes]
      rfl
    · right
      refine ⟨handle, member, rfl, ?_⟩
      simp only [Effect.net, tells.closes]
      rfl

/-- What is new in the log is the digest, and it tells what happened to the layer. -/
structure Host.Told (before after : Host Simulator) (pushed : List Frame) (d : Digest) : Prop where
  log : Digest.of after.log = (Digest.of before.log).andThen d
  recounts : d.Recounts pushed before.net after.net

section

variable {before between after : Host Simulator} {pushed : List Frame} {d e : Digest}

theorem Host.Told.andThen (first : before.Told between pushed d) (second : between.Told after [] e)
    (opening : d.closed = []) (next : after.net.nextHandle = between.net.nextHandle) :
    before.Told after pushed (d.andThen e) where
  log := by rw [second.log, first.log, Digest.andThen_assoc]
  recounts := first.recounts.andThen second.recounts opening next

theorem Host.Told.refl (host : Host Simulator) : host.Told host [] {} where
  log := (Digest.andThen_nothing _).symm
  recounts := .nothing rfl (List.append_nil _).symm rfl rfl rfl

theorem Host.Told.note {event : Event} (told : before.Told after pushed d)
    (silent : Digest.of [event] = {}) : before.Told (after.note event) pushed d where
  log := by
    rw [Host.note, Digest.of_append, silent, Digest.andThen_nothing, told.log]
  recounts := told.recounts

theorem Host.told_events {events : List Event} (log : after.log = before.log ++ events)
    (recounts : (Digest.of events).Recounts pushed before.net after.net) :
    before.Told after pushed (.of events) :=
  ⟨by rw [log, Digest.of_append], recounts⟩

end

theorem Effect.Tells.told {e : Effect} {host : Host Simulator} {closed : List Int32}
    {stale : List (Int32 × Nat × Nat)} (tells : e.Tells host.net.inbound closed stale)
    (held : closed = [] ∨ ∃ handle ∈ host.net.openHandles, closed = [handle]) (metered : Bool) :
    ∃ d : Digest, host.Told (e.on metered host) [] d ∧ d.stale = stale := by
  have same : (Digest.of e.events).stale = stale := by rw [tells.events]
  exact ⟨_, Host.told_events rfl (tells.recounts held), same⟩

namespace Channel

open Simulator (layer)

variable (c : Channel) (host : Host Simulator)

structure Same (before after : Simulator) : Prop where
  nextHandle : after.nextHandle = before.nextHandle
  openHandles : after.openHandles = before.openHandles
  inbound : after.inbound = before.inbound
  written : after.written = before.written

theorem same_keeps (s : Simulator) {kind : SocketCall} (later : kind ∈ laterCalls) :
    layer.Keeps (Same s) kind := by
  have apart (other : SocketCall) (missing : other ∉ laterCalls) : kind ≠ other := by
    rintro rfl
    exact missing later
  apply Simulator.layer_keeps
  · exact fun _ same => ⟨same.nextHandle, same.openHandles, same.inbound, same.written⟩
  · intro before after does same
    have leaves := does.leaves
    have unopened := apart .openSocket (by decide)
    exact ⟨(leaves.nextHandle unopened).trans same.nextHandle,
      (leaves.openHandles unopened (apart .close (by decide))).trans same.openHandles,
      (leaves.inbound (apart .read (by decide))).trans same.inbound,
      (leaves.written (apart .write (by decide))).trans same.written⟩

theorem setup_installs :
    let after := (c.setup layer host).2.2
    ∃ events added, after.log = host.log ++ events ∧
      Digest.of events = { installed := added } ∧
      after.net.filters = host.net.filters ++ added := by
  have early (s : Simulator) (same : s.filters = host.net.filters) :
      ∃ events added, host.log = host.log ++ events ∧
        Digest.of events = { installed := added } ∧ s.filters = host.net.filters ++ added :=
    ⟨[], [], (List.append_nil _).symm, rfl, same.trans (List.append_nil _).symm⟩
  rcases opened : layer.openSocket c.protocol host.net with ⟨fault | handle, first⟩ <;>
    have opens := (Simulator.openSocket_follows host.net).filters opened (by decide)
  · rw [setup_unopened opened]
    exact early _ opens
  rcases resolved : layer.interfaceIndex handle c.interface first with ⟨fault | index, second⟩ <;>
    have resolves :=
      (Simulator.interfaceIndex_follows handle c.interface first).filters resolved (by decide)
  · rw [setup_unresolved opened resolved]
    exact early _ (resolves.trans opens)
  rcases unblocked : layer.setNonblocking handle second with ⟨fault | _, third⟩ <;>
    have unblocks := (Simulator.setNonblocking_follows handle second).filters unblocked (by decide)
  · rw [setup_blocking opened resolved unblocked]
    exact early _ (unblocks.trans (resolves.trans opens))
  have unfiltered := unblocks.trans (resolves.trans opens)
  rcases filtered : layer.setFilter handle ⟨c.sender.raw, c.filterMask⟩ third with
    ⟨fault | _, fourth⟩
  · rw [setup_unfiltered opened resolved unblocked filtered]
    exact early _ ((Simulator.setFilter_failed filtered).trans unfiltered)
  have installs := Simulator.setFilter_ok filtered
  rw [unfiltered] at installs
  rcases bound : layer.bind handle index fourth with ⟨fault | _, fifth⟩ <;>
    have binds := (Simulator.bind_follows handle index fourth).filters bound (by decide)
  · rw [setup_unbound opened resolved unblocked filtered bound]
    exact ⟨_, _, rfl, rfl, binds.trans installs⟩
  · rw [setup_complete opened resolved unblocked filtered bound]
    exact ⟨_, _, rfl, rfl, binds.trans installs⟩

theorem drop_told :
    ∃ d : Digest, host.Told (c.drop layer host) [] d ∧ d.stale = [] ∧
      (c.drop layer host).net.nextHandle = host.net.nextHandle := by
  have closes : ∃ d : Digest, host.Told (c.close layer host).2.2 [] d ∧ d.stale = [] := by
    rw [close_outcome]
    rcases c.closeOutcome_tells host.net with tells | ⟨held, tells⟩
    · exact tells.told (.inl rfl) c.metered
    · exact tells.told (.inr ⟨c.handle, held, rfl⟩) c.metered
  have next : (c.close layer host).2.2.net.nextHandle = host.net.nextHandle := by
    rw [close_outcome]
    rfl
  obtain ⟨d, told, stale⟩ := closes
  unfold drop
  cases c.isOpen with
  | false => exact ⟨{}, .refl host, rfl, rfl⟩
  | true =>
    simp only [if_true]
    rcases ended : c.close layer host with ⟨error | _, closed, after⟩ <;>
      rw [ended] at told next
    · exact ⟨d, told.note rfl, stale, next⟩
    · exact ⟨d, told, stale, next⟩

theorem setup_told :
    ∃ d : Digest, host.Told (c.setup layer host).2.2 [] d ∧ d.closed = [] ∧ d.stale = [] := by
  obtain ⟨events, added, log, digest, filters⟩ := c.setup_installs host
  have rest : Same (Simulator.openSocket host.net).2 (c.setup layer host).2.2.net :=
    setup_keeps ⟨rfl, rfl, rfl, rfl⟩ fun kind later => same_keeps _ later
  obtain ⟨issued, written, inbound⟩ := Simulator.openSocket_issues host.net
  refine ⟨Digest.of events, Host.told_events log ?_, by rw [digest], by rw [digest]⟩
  rw [digest]
  refine ⟨⟨[], ?_, rfl⟩, ⟨[], ?_, rfl⟩, filters, .inl ⟨rfl, ?_⟩⟩
  · rw [rest.written, written, List.append_nil]
  · rw [rest.inbound, inbound, List.append_nil, List.nil_append]
  · rw [rest.openHandles, issued, Simulator.issued_congr rest.nextHandle]

theorem create_told (interface : String) (protocol : Int32) (mask : UInt32) (sender : Identifier) :
    let made := create layer interface protocol mask sender host
    ∃ d : Digest, host.Told made.2 [] d ∧ d.stale = [] ∧
      ∀ c, made.1 = .ok c → d.closed = [] := by
  intro made
  obtain ⟨d, told, opening, stale⟩ := (fresh interface protocol mask sender).setup_told host
  rcases built : (fresh interface protocol mask sender).setup layer host with ⟨error | _, c, after⟩
  · obtain ⟨e, dropped, quiet, next⟩ := c.drop_told after
    have undone : made = (.error error, c.drop layer after) := by
      simp only [made, create, built]
    rw [built] at told
    rw [undone]
    refine ⟨d.andThen e, told.andThen dropped opening next, ?_, ?_⟩
    · rw [Digest.andThen, stale, quiet]
      rfl
    · rintro c ⟨⟩
  · have done : made = (.ok c, after) := by
      simp only [made, create, built]
    rw [built] at told
    rw [done]
    exact ⟨d, told, stale, fun _ _ => opening⟩

theorem ofConfig_told (config : Config) :
    let made := ofConfig layer config host
    ∃ d : Digest, host.Told made.2 [] d ∧ d.stale = [] ∧
      ∀ c, made.1 = .ok c → d.closed = [] := by
  simp only [ofConfig]
  cases config.sender with
  | error error =>
    refine ⟨{}, .refl host, rfl, ?_⟩
    rintro c ⟨⟩
  | ok sender =>
    obtain ⟨d, told, stale, opening⟩ :=
      create_told host config.interface config.protocol config.filterMask sender
    simp only []
    rcases built : create layer config.interface config.protocol config.filterMask sender host with
      ⟨error | c, after⟩ <;> rw [built] at told opening
    · refine ⟨d, told, stale, ?_⟩
      rintro c ⟨⟩
    · exact ⟨d, told, stale, fun _ _ => opening c rfl⟩

end Channel

namespace Bench

variable {b : Bench} {slot : Nat} {step : Step}

theorem dropSlot_told (slot : Nat) (b : Bench) :
    ∃ d : Digest, b.host.Told (b.dropSlot slot).host [] d ∧ d.stale = [] ∧
      (b.dropSlot slot).host.net.nextHandle = b.host.net.nextHandle := by
  unfold dropSlot
  cases b.channel? slot with
  | none => exact ⟨{}, .refl _, rfl, rfl⟩
  | some c => exact c.drop_told b.host

theorem seat_told (metered : Bool) {made : Except ChannelError Channel × Host Simulator}
    {d : Digest} (told : b.host.Told made.2 [] d) (stale : d.stale = [])
    (opening : ∀ c, made.1 = .ok c → d.closed = []) :
    ∃ e : Digest, b.host.Told (b.seat slot metered made).2.host [] e ∧ e.stale = [] := by
  obtain ⟨error | c, host⟩ := made
  · exact ⟨d, told, stale⟩
  · obtain ⟨e, dropped, quiet, next⟩ := dropSlot_told slot { b with host := host }
    refine ⟨d.andThen e, told.andThen dropped (opening c rfl) next, ?_⟩
    rw [Digest.andThen, stale, quiet]
    rfl

theorem reported_dropSlot (slot : Nat) (b : Bench) : (b.dropSlot slot).reported = b.reported := by
  unfold dropSlot
  split <;> rfl

theorem reported_seat (slot : Nat) (metered : Bool)
    (made : Except ChannelError Channel × Host Simulator) (b : Bench) :
    (b.seat slot metered made).2.reported = b.reported := by
  obtain ⟨error | c, host⟩ := made
  · rfl
  · exact reported_dropSlot slot { b with host := host }

theorem step_reported (honest : ∀ count, step ≠ .reportWrites count) (b : Bench) :
    (b.step step).2.reported = b.reported := by
  cases step with
  | create slot interface protocol mask sender metered => exact reported_seat _ _ _ _
  | ofConfig slot config metered => exact reported_seat _ _ _ _
  | drop slot => exact reported_dropSlot slot b
  | channel slot inner =>
    cases found : b.channel? slot with
    | none => rw [step_absent found]
    | some c => exact (step_outcome found inner).reported
  | reportWrites count => exact absurd rfl (honest count)
  | script | direct | exposition | idle => rfl

def shortfall (step : Step) (b : Bench) : List (Int32 × Nat × Nat) :=
  match step with
  | .channel slot inner =>
    match b.channel? slot with
    | some c => inner.shortfall c (b.step step).1
    | none => []
  | _ => []

theorem channelStep_told (honest : b.reported = none) (slot : Nat) (inner : ChannelStep) :
    ∃ d : Digest, b.host.Told (b.step (.channel slot inner)).2.host [] d ∧
      d.stale = b.shortfall (.channel slot inner) := by
  cases found : b.channel? slot with
  | none =>
    rw [step_absent found]
    simp only [shortfall, found]
    exact ⟨{}, .refl _, rfl⟩
  | some c =>
    have outcome := step_outcome found inner
    rw [honest] at outcome
    obtain ⟨closed, held, tells⟩ := c.outcome_tells b.host.net inner b.host.net.now
    rw [← outcome.reply] at tells
    simp only [shortfall, found, outcome.host]
    exact tells.told held c.metered

theorem script_told (script : ScriptStep) :
    ∃ d : Digest, b.host.Told (b.step (.script script)).2.host (Step.script script).pushed d ∧
      d.stale = [] := by
  refine ⟨{}, ⟨(Digest.andThen_nothing _).symm, ?_⟩, rfl⟩
  cases script <;> exact .nothing rfl (by simp [Step.pushed]; rfl) rfl rfl rfl

theorem step_told (honest : b.reported = none) (undisturbed : step.Undisturbed) :
    ∃ d : Digest, b.host.Told (b.step step).2.host step.pushed d ∧ d.stale = b.shortfall step := by
  cases step with
  | create slot interface protocol mask sender metered =>
    obtain ⟨d, told, stale, opening⟩ :=
      Channel.create_told b.host interface protocol mask sender
    exact seat_told metered told stale opening
  | ofConfig slot config metered =>
    obtain ⟨d, told, stale, opening⟩ := Channel.ofConfig_told b.host config
    exact seat_told metered told stale opening
  | drop slot =>
    obtain ⟨d, told, stale, -⟩ := dropSlot_told slot b
    exact ⟨d, told, stale⟩
  | channel slot inner => exact channelStep_told honest slot inner
  | script script => exact script_told script
  | exposition | idle => exact ⟨{}, .refl _, rfl⟩
  | direct | reportWrites => exact absurd undisturbed id

def endings : List Step → Bench → List Int32
  | [], _ => []
  | step :: rest, b =>
    b.host.net.ended (b.step step).2.host.net ++ endings rest (b.step step).2

def shortfalls : List Step → Bench → List (Int32 × Nat × Nat)
  | [], _ => []
  | step :: rest, b => b.shortfall step ++ shortfalls rest (b.step step).2

structure Faithful (b : Bench) (pushed : List Frame) (ended : List Int32)
    (stale : List (Int32 × Nat × Nat)) : Prop where
  honest : b.reported = none
  sent : b.host.log.filterMap Event.sent? = b.host.net.written.map fun frame => (frame.word, 16)
  received : ∃ taken, taken ++ b.host.net.inbound = pushed ∧
    b.host.log.filterMap Event.received? = taken.map Frame.told
  installed : b.host.log.filterMap Event.installed? = b.host.net.filters
  closed : b.host.log.filterMap Event.closed? = ended
  stale : b.host.log.filterMap Event.stale? = stale

theorem Faithful.next {pushed : List Frame} {ended : List Int32} {stale : List (Int32 × Nat × Nat)}
    (faithful : b.Faithful pushed ended stale) (undisturbed : step.Undisturbed) :
    (b.step step).2.Faithful (pushed ++ step.pushed)
      (ended ++ b.host.net.ended (b.step step).2.host.net) (stale ++ b.shortfall step) := by
  obtain ⟨d, ⟨log, recounts⟩, short⟩ := step_told faithful.honest undisturbed
  obtain ⟨frames, written, sent⟩ := recounts.sent
  obtain ⟨front, queue, received⟩ := recounts.received
  obtain ⟨taken, whole, earlier⟩ := faithful.received
  constructor
  · refine (step_reported ?_ b).trans faithful.honest
    rintro count rfl
    exact undisturbed
  · rw [written, List.map_append, ← faithful.sent]
    exact (congrArg Digest.sent log).trans (congrArg _ sent)
  · refine ⟨taken ++ front, ?_, ?_⟩
    · rw [List.append_assoc, queue, ← List.append_assoc, whole]
    · rw [List.map_append, ← earlier, ← received]
      exact congrArg Digest.received log
  · rw [recounts.installed, ← faithful.installed]
    exact congrArg Digest.installed log
  · rw [recounts.closes.ended, ← faithful.closed]
    exact congrArg Digest.closed log
  · rw [← short, ← faithful.stale]
    exact congrArg Digest.stale log

theorem Faithful.run {pushed : List Frame} {ended : List Int32} {stale : List (Int32 × Nat × Nat)}
    {steps : List Step} (faithful : b.Faithful pushed ended stale)
    (undisturbed : ∀ step ∈ steps, step.Undisturbed) :
    (b.run steps).Faithful (pushed ++ steps.flatMap Step.pushed) (ended ++ endings steps b)
      (stale ++ shortfalls steps b) := by
  induction steps generalizing b pushed ended stale with
  | nil =>
    simp only [List.flatMap_nil, endings, shortfalls, List.append_nil]
    exact faithful
  | cons step rest ih =>
    have first := faithful.next (undisturbed step List.mem_cons_self)
    have later := ih first fun step member => undisturbed step (List.mem_cons_of_mem _ member)
    simp only [List.append_assoc] at later
    exact later

theorem start_faithful (interfaces : List (String × Int32)) (metered : Bool) :
    (start interfaces metered).Faithful [] [] [] := by
  obtain ⟨known, net⟩ := start_net interfaces metered
  refine ⟨rfl, ?_, ⟨[], ?_, rfl⟩, ?_, rfl, rfl⟩ <;> rw [net] <;> rfl

/-- The log of a run in which nobody but channels called the layer. By kind and in order, its events
are the frames written, the frames taken off the queue, the filters installed, the sockets that were
closed, and the batches that found fewer frames than they went by. The text of an event tells its
kind. -/
theorem log_faithful (interfaces : List (String × Int32)) (metered : Bool) (steps : List Step)
    (undisturbed : ∀ step ∈ steps, step.Undisturbed) :
    let b := start interfaces metered
    let net := (b.run steps).host.net
    let log := (b.run steps).host.log
    log.filterMap Event.sent? = net.written.map (fun frame => (frame.word, 16)) ∧
      (∃ taken, taken ++ net.inbound = steps.flatMap Step.pushed ∧
        log.filterMap Event.received? = taken.map fun frame =>
          ((Message.ofFrame frame).id.text, (Message.ofFrame frame).payload.length)) ∧
      log.filterMap Event.installed? = net.filters ∧
      log.filterMap Event.closed? = endings steps b ∧
      log.filterMap Event.stale? = shortfalls steps b ∧
      ∀ event ∈ log,
        (event.sent?.isSome ↔ event.text = "frame sent") ∧
          (event.received?.isSome ↔ event.text = "frame received") ∧
          (event.installed?.isSome ↔ event.text = "CAN filter installed") ∧
          (event.closed?.isSome ↔ event.text = "CAN channel closed") ∧
          (event.stale?.isSome ↔ event.text = "pending count was stale") ∧
          (event.stale?.isSome → event.level = .warn) := by
  intro b net log
  have faithful := (start_faithful interfaces metered).run undisturbed
  exact ⟨faithful.sent, faithful.received, faithful.installed, faithful.closed, faithful.stale,
    fun event _ => event.kind_by_text⟩

theorem mixed_run_logged :
    let frame : Frame := ⟨0x123, 2, 0, 0, 0, #v[7, 9, 0, 0, 0, 0, 0, 0]⟩
    let steps : List Step :=
      [.create 0 "mock0" 1 0 Identifier.zero false, .script (.failNext .bind 98),
        .create 1 "mock0" 1 0 Identifier.zero false, .script (.push frame),
        .script (.setReady (some 3)), .channel 0 (.wait none), .channel 0 .receiveBatch,
        .channel 0 (.send (.ofPayload Identifier.zero [1]) false),
        .channel 0 (.setFilter 0xFF 5), .drop 0]
    let log := ((start [] false).run steps).host.log
    (∀ step ∈ steps, step.Undisturbed) ∧
      log.filterMap Event.sent? = [(0, 16)] ∧
      log.filterMap Event.received? = [frame.told] ∧
      log.filterMap Event.installed? = [⟨0, 0⟩, ⟨0, 0⟩, ⟨5, 0xFF⟩] ∧
      log.filterMap Event.closed? = [4, 3] ∧ log.filterMap Event.stale? = [(3, 3, 1)] := by
  intro frame steps log
  have undisturbed : ∀ step ∈ steps, step.Undisturbed := by
    simp [steps, Step.Undisturbed]
  obtain ⟨sent, ⟨taken, queue, received⟩, installed, closed, stale, -⟩ :=
    log_faithful [] false steps undisturbed
  have empty : ((start [] false).run steps).host.net.inbound = [] := by decide +kernel
  rw [empty, List.append_nil] at queue
  rw [queue] at received
  simp only [log]
  exact ⟨undisturbed, sent.trans (by decide +kernel), received, installed.trans (by decide +kernel),
    closed.trans (by decide +kernel), stale.trans (by decide +kernel)⟩

end Bench

end CanBus
