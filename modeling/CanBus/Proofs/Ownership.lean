import CanBus.Proofs.Construction
import CanBus.Proofs.Ledger
import CanBus.Proofs.Slots

namespace CanBus

open Function (update update_self update_of_ne update_eq_self update_idem)

/-- The handle stayed open when its channel went away, for the close was set to fail. -/
def Abandons (before after : Host Simulator) (handle : Int32) : Prop :=
  ∃ code interface, before.net.failures .close = some code ∧
    .closeOnDropFailed interface (.closeFailed handle (.errno code)) ∈
      after.log.drop before.log.length

theorem Abandons.earlier {first before after : Host Simulator} {handle : Int32}
    (abandons : Abandons before after handle)
    (same : before.net.failures .close = first.net.failures .close)
    (longer : first.log.length ≤ before.log.length) : Abandons first after handle := by
  obtain ⟨code, interface, set, told⟩ := abandons
  exact ⟨code, interface, same ▸ set, List.drop_subset_drop_left after.log longer told⟩

theorem abandons_of_log {before after : Host Simulator} {handle code : Int32} {events : List Event}
    (interface : String) (set : before.net.failures .close = some code)
    (log : after.log = before.log ++ events)
    (told : .closeOnDropFailed interface (.closeFailed handle (.errno code)) ∈ events) :
    Abandons before after handle := by
  refine ⟨code, interface, set, ?_⟩
  rwa [log, List.drop_left]

namespace Channel

open Simulator (layer)

variable {c : Channel} {host : Host Simulator}

inductive Acquires (host : Host Simulator) : Except ChannelError Channel × Host Simulator → Prop
  | got (c : Channel) (after : Host Simulator) (handle : c.handle = host.net.nextHandle)
      (openHandles : after.net.openHandles = host.net.openHandles ++ [host.net.nextHandle])
      (same : after.net.failures .close = host.net.failures .close)
      (longer : host.log.length ≤ after.log.length) : Acquires host (.ok c, after)
  | undone (error : ChannelError) (after : Host Simulator)
      (openHandles : after.net.openHandles = host.net.openHandles) :
      Acquires host (.error error, after)
  | lost (error : ChannelError) (after : Host Simulator)
      (openHandles : after.net.openHandles = host.net.openHandles ++ [host.net.nextHandle])
      (abandons : Abandons host after host.net.nextHandle) : Acquires host (.error error, after)

section

variable {interface : String} {protocol : Int32} {mask : UInt32} {sender : Identifier}
variable {outcome : Except ChannelError Channel × Host Simulator}

theorem Built.acquires {index : Int32}
    (built : Built interface protocol mask sender index host outcome) : Acquires host outcome := by
  obtain ⟨result, after⟩ := outcome
  obtain rfl : result = _ := built.channel
  refine .got _ after rfl built.openHandles (by rw [built.failures]) ?_
  rw [built.events, List.length_append]
  omega

theorem Undone.acquires {kind : SocketCall} {fault : Fault}
    (undone : Undone interface mask sender kind fault host outcome) : Acquires host outcome := by
  obtain ⟨result, after⟩ := outcome
  obtain rfl : result = _ := undone.error
  have handles := undone.openHandles
  have log := undone.events
  by_cases unopened : kind = .openSocket
  · rw [if_pos unopened, List.append_nil] at handles
    exact .undone _ after handles
  · rw [if_neg unopened] at handles log
    cases set : host.net.failures .close with
    | none =>
      rw [leftOpen, set] at handles
      exact .undone _ after (handles.trans (List.append_nil _))
    | some code =>
      rw [leftOpen, set] at handles
      rw [closingEvent, set] at log
      refine .lost _ after handles (abandons_of_log interface set log ?_)
      exact List.mem_append_right _ List.mem_cons_self

theorem create_acquires {count : Nat} (interface : String) (protocol : Int32) (mask : UInt32)
    (sender : Identifier) (numbered : host.net.Numbered count) :
    Acquires host (create layer interface protocol mask sender host) := by
  rcases setup_first_fault interface host.net with passed | ⟨kind, member, fault, passed, failed⟩
  · obtain ⟨index, known⟩ := setupFault_known (passed .interfaceIndex (by decide))
    have unset (kind : SocketCall) (member : kind ∈ setupCalls) : host.net.failures kind = none :=
      setupFault_none (passed kind member)
    exact (create_built unset known).acquires
  · exact (create_undone member passed failed numbered.proper numbered.unused).acquires

end

theorem ofConfig_acquires {count : Nat} (config : Config) (numbered : host.net.Numbered count) :
    Acquires host (ofConfig layer config host) := by
  unfold ofConfig
  cases config.sender with
  | error error => exact .undone error host rfl
  | ok sender =>
    have acquires := create_acquires config.interface config.protocol config.filterMask sender
      numbered
    simp only []
    generalize create layer config.interface config.protocol config.filterMask sender host =
      outcome at acquires ⊢
    cases acquires with
    | got c after handle openHandles same longer =>
      exact .got _ after handle openHandles same longer
    | undone error after openHandles => exact .undone error after openHandles
    | lost error after openHandles abandons => exact .lost error after openHandles abandons

end Channel

namespace Bench

variable {b : Bench} {left : Int32 → Prop} {slot : Nat}

def held (b : Bench) (slot : Nat) : Option Int32 := (b.channel? slot).map Channel.handle

theorem held_put (slot : Nat) (c : Channel) (b : Bench) :
    (b.put slot c).held = update b.held slot (some c.handle) := by
  funext other
  rw [held, channel?_put]
  by_cases same : other = slot
  · rw [same, update_self, if_pos rfl]
    rfl
  · rw [update_of_ne same, if_neg same, held]

theorem held_dropSlot (slot : Nat) (b : Bench) :
    (b.dropSlot slot).held = update b.held slot none := by
  funext other
  rw [held, channel?_dropSlot]
  by_cases same : other = slot
  · rw [same, update_self, if_pos rfl]
    rfl
  · rw [update_of_ne same, if_neg same, held]

theorem held_replaced (slot : Nat) (c : Channel) (host : Host Simulator) (b : Bench) :
    ({ b.put slot c with host := host } : Bench).held = update b.held slot (some c.handle) :=
  held_put slot c b

theorem held_found {c : Channel} (found : b.channel? slot = some c) :
    b.held slot = some c.handle := by
  rw [held, found]
  rfl

def Ordered (left : Int32 → Prop) (b : Bench) : Prop :=
  Ledger b.held b.host.net.openHandles left

inductive Releases (slot : Nat) (b : Bench) : Bench → Prop
  | closed (handle : Int32) (after : Bench) (holds : b.held slot = some handle)
      (member : handle ∈ b.host.net.openHandles)
      (openHandles : after.host.net.openHandles =
        b.host.net.openHandles.filter (· != handle)) : Releases slot b after
  | left (after : Bench) (openHandles : after.host.net.openHandles = b.host.net.openHandles)
      (abandons : ∀ handle ∈ b.host.net.openHandles, b.held slot = some handle →
        Abandons b.host after.host handle) : Releases slot b after

theorem dropSlot_releases (ordered : b.Ordered left) (slot : Nat) :
    Releases slot b (b.dropSlot slot) := by
  cases found : b.channel? slot with
  | none =>
    have same : b.dropSlot slot = b := by simp only [dropSlot, found]
    refine .left _ (by rw [same]) ?_
    intro handle member holds
    rw [held, found] at holds
    nomatch holds
  | some c =>
    have holds := held_found found
    have host : (b.dropSlot slot).host = c.drop Simulator.layer b.host := by
      simp only [dropSlot, found, layer, Channel.drop_reporting]
    -- the ledger rules out that the close meets a handle that is not open
    rcases ordered.proper slot c.handle holds with idle | member
    · have isClosed : c.isOpen = false := by simp [Channel.isOpen, idle]
      rw [Channel.drop_idle isClosed] at host
      refine .left _ (by rw [host]) ?_
      intro handle member others
      have same : c.handle = handle := Option.some.inj (holds.symm.trans others)
      exact absurd (same.symm.trans idle) (ordered.ne_none member)
    · have isOpen : c.isOpen = true := by simp [Channel.isOpen, ordered.real c.handle member]
      cases set : b.host.net.failures .close with
      | none =>
        rw [Channel.drop_succeeds isOpen set (Simulator.isOpen_iff.mpr member)] at host
        exact .closed c.handle _ holds member (by rw [host]; rfl)
      | some code =>
        rw [Channel.drop_fails isOpen set] at host
        refine .left _ (by rw [host]; rfl) ?_
        intro handle member others
        obtain rfl : c.handle = handle := Option.some.inj (holds.symm.trans others)
        exact abandons_of_log c.interface set (by rw [host]) (List.mem_singleton.mpr rfl)

theorem dropSlot_ordered (ordered : b.Ordered left) (slot : Nat) :
    (b.dropSlot slot).Ordered fun handle =>
      left handle ∨ Abandons b.host (b.dropSlot slot).host handle := by
  unfold Ordered
  rw [held_dropSlot]
  cases dropSlot_releases ordered slot with
  | closed handle after holds member openHandles =>
    rw [openHandles]
    exact (ordered.released holds member).mono fun _ _ was => .inl was
  | left after openHandles abandons =>
    rw [openHandles]
    refine (ordered.abandoned slot).mono fun handle member was => ?_
    exact was.imp_right (abandons handle member)

theorem open_dropSlot {handle : Int32} (ordered : b.Ordered left) (slot : Nat)
    (member : handle ∈ b.host.net.openHandles) (other : b.held slot ≠ some handle) :
    handle ∈ (b.dropSlot slot).host.net.openHandles := by
  cases dropSlot_releases ordered slot with
  | closed dropped after holds _ openHandles =>
    have different : handle ≠ dropped := fun same => other (same ▸ holds)
    rw [openHandles]
    exact List.mem_filter.mpr ⟨member, by simpa using different⟩
  | left after openHandles _ =>
    rw [openHandles]
    exact member

theorem seat_ordered {count : Nat} {made : Except ChannelError Channel × Host Simulator}
    (acquires : Channel.Acquires b.host made) (numbered : b.host.net.Numbered count)
    (ordered : b.Ordered left) (slot : Nat) (metered : Bool) :
    (b.seat slot metered made).2.Ordered fun handle =>
      left handle ∨ Abandons b.host (b.seat slot metered made).2.host handle := by
  have opened := ordered.opened numbered.unused numbered.proper
  cases acquires with
  | undone error after openHandles =>
    have same : ({ b with host := after } : Bench).Ordered left := by
      unfold Ordered
      rw [openHandles]
      exact ordered
    exact same.mono fun _ _ was => .inl was
  | lost error after openHandles abandons =>
    have same : ({ b with host := after } : Bench).Ordered fun handle =>
        left handle ∨ handle = b.host.net.nextHandle := by
      unfold Ordered
      rw [openHandles]
      exact opened
    refine same.mono fun handle _ was => was.imp_right ?_
    rintro rfl
    exact abandons
  | got c after handle openHandles same longer =>
    -- until its channel takes the slot, the new socket counts as left behind
    have made : ({ b with host := after } : Bench).Ordered fun handle =>
        left handle ∨ handle = b.host.net.nextHandle := by
      unfold Ordered
      rw [openHandles]
      exact opened
    have free := ordered.unheld numbered.unused numbered.proper
    have member : b.host.net.nextHandle ∈ after.net.openHandles := by
      rw [openHandles]
      exact List.mem_append_right _ List.mem_cons_self
    have stillOpen := open_dropSlot made slot member (free slot)
    have vacant : (({ b with host := after } : Bench).dropSlot slot).held slot = none := by
      rw [held_dropSlot, update_self]
    have stillFree (other : Nat) : (({ b with host := after } : Bench).dropSlot slot).held other ≠
        some b.host.net.nextHandle := by
      rw [held_dropSlot]
      by_cases here : other = slot
      · rw [here, update_self]
        exact (Option.some_ne_none _).symm
      · rw [update_of_ne here]
        exact free other
    have dropped := (dropSlot_ordered made slot).mono fun handle _ was =>
      show (left handle ∨ Abandons b.host _ handle) ∨ handle = b.host.net.nextHandle by
        rcases was with (old | new) | abandons
        · exact .inl (.inl old)
        · exact .inr new
        · exact .inl (.inr (abandons.earlier same longer))
    have seated := dropped.seated vacant stillOpen stillFree
    have name : (if metered && b.metered then c.metering else c).handle = c.handle := by
      split <;> rfl
    unfold Ordered
    simp only [seat]
    rw [held_put, name, handle]
    exact seated

theorem close_ordered {c : Channel} (found : b.channel? slot = some c)
    (ordered : b.Ordered left) : (b.channelStep slot c .close).2.Ordered left := by
  have holds := held_found found
  have kept : update b.held slot (some c.handle) = b.held := by
    rw [← holds, update_eq_self]
  cases isOpen : c.isOpen with
  | false =>
    simp only [channelStep, layer, Channel.close_reporting, Channel.close_idle isOpen]
    unfold Ordered
    rw [held_replaced, kept]
    exact ordered
  | true =>
    have member : c.handle ∈ b.host.net.openHandles := by
      rcases ordered.proper slot c.handle holds with idle | member
      · simp [Channel.isOpen, idle] at isOpen
      · exact member
    cases set : b.host.net.failures .close with
    | none =>
      have succeeds := Channel.close_succeeds isOpen set (Simulator.isOpen_iff.mpr member)
      simp only [channelStep, layer, Channel.close_reporting, succeeds]
      have twice : update (update b.held slot none) slot (some (-1)) =
          update b.held slot (some (-1)) := update_idem _ _ _
      unfold Ordered
      rw [held_replaced, ← twice]
      exact (ordered.released holds member).idled (update_self _ _ _)
    | some code =>
      simp only [channelStep, layer, Channel.close_reporting, Channel.close_fails isOpen set]
      unfold Ordered
      rw [held_replaced, kept]
      exact ordered

def HasOpen (handles : List Int32) (s : Simulator) : Prop := s.openHandles = handles

theorem hasOpen_keeps {handles : List Int32} (kind : SocketCall) (other : kind ≠ .openSocket)
    (closes : kind ≠ .close) : Simulator.layer.Keeps (HasOpen handles) kind := by
  apply Simulator.layer_keeps
  · exact fun _ holds => holds
  · intro before after does holds
    exact (does.leaves.openHandles other closes).trans holds

theorem channelStep_held {c : Channel} {step : ChannelStep} (found : b.channel? slot = some c)
    (keeps : step ≠ .close) : (b.channelStep slot c step).2.held = b.held := by
  have kept (same : Channel) (host : Host Simulator) (handle : same.handle = c.handle) :
      ({ b.put slot same with host := host } : Bench).held = b.held := by
    rw [held_replaced, handle, ← held_found found, update_eq_self]
  cases step with
  | close => exact absurd rfl keeps
  | wait timeout => exact kept _ _ (Channel.handle_wait timeout)
  | receiveBatch => exact kept _ _ Channel.handle_receiveBatch
  | setFilter mask id => exact kept _ _ (Channel.handle_setFilter mask id)
  | setSender sender => exact kept _ b.host rfl
  | receive | send | sendBatch | filterMask | socket | info => rfl

section

variable {step : Step} (indirect : ∀ call, step ≠ .direct call) (quiet : .close ∉ step.calls)
include indirect quiet

theorem quiet_unopening : .openSocket ∉ step.calls := by
  intro opens
  cases step with
  | create => exact quiet (by simp [Step.calls])
  | ofConfig slot config metered =>
    cases valid : config.sender.toBool with
    | true => exact quiet (by simp [Step.calls, valid])
    | false => simp [Step.calls, valid] at opens
  | channel slot step => cases step <;> simp [Step.calls, ChannelStep.calls] at opens
  | direct call => exact indirect call rfl
  | drop | script | reportWrites | exposition | idle => simp [Step.calls] at opens

theorem quiet_held : (b.step step).2.held = b.held := by
  cases step with
  | create => exact absurd (by simp [Step.calls]) quiet
  | ofConfig slot config metered =>
    cases sender : config.sender with
    | ok id => exact absurd (by simp [Step.calls, sender, Except.toBool]) quiet
    | error error =>
      simp only [Bench.step, Channel.ofConfig, sender]
      rfl
  | drop => exact absurd (by simp [Step.calls]) quiet
  | channel slot step =>
    cases found : b.channel? slot with
    | none => rw [step_absent found]
    | some c =>
      rw [step_found found]
      apply channelStep_held found
      rintro rfl
      exact quiet (by simp [Step.calls, ChannelStep.calls])
  | direct call => exact absurd rfl (indirect call)
  | script | reportWrites | exposition | idle => rfl

theorem quiet_ordered (ordered : b.Ordered left) : (b.step step).2.Ordered left := by
  have each (kind : SocketCall) (member : kind ∈ step.calls) :
      Simulator.layer.Keeps (HasOpen b.host.net.openHandles) kind :=
    hasOpen_keeps kind (fun same => quiet_unopening indirect quiet (same ▸ member))
      fun same => quiet (same ▸ member)
  have handles : HasOpen b.host.net.openHandles (b.step step).2.host.net :=
    step_keeps step each (fun _ _ holds => holds) (fun script _ => by cases script <;> rfl) rfl
  unfold Ordered
  rw [quiet_held indirect quiet, show _ = _ from handles]
  exact ordered

end

theorem step_ordered {count : Nat} {step : Step} (indirect : ∀ call, step ≠ .direct call)
    (numbered : b.host.net.Numbered count) (ordered : b.Ordered left) :
    (b.step step).2.Ordered fun handle =>
      left handle ∨ Abandons b.host (b.step step).2.host handle := by
  by_cases closes : .close ∈ step.calls
  · cases step with
    | create slot interface protocol mask sender metered =>
      exact seat_ordered (Channel.create_acquires interface protocol mask sender numbered)
        numbered ordered slot metered
    | ofConfig slot config metered =>
      exact seat_ordered (Channel.ofConfig_acquires config numbered) numbered ordered slot metered
    | drop slot => exact dropSlot_ordered ordered slot
    | channel slot step =>
      cases found : b.channel? slot with
      | none =>
        rw [step_absent found]
        exact ordered.mono fun _ _ was => .inl was
      | some c =>
        cases step with
        | close =>
          rw [step_found found]
          exact (close_ordered found ordered).mono fun _ _ was => .inl was
        | _ => simp [Step.calls, ChannelStep.calls] at closes
    | direct call => exact absurd rfl (indirect call)
    | script | reportWrites | exposition | idle => simp [Step.calls] at closes
  · exact (quiet_ordered indirect closes ordered).mono fun _ _ was => .inl was

/-- In one of the steps the handle was left open by the end of its channel. -/
def Abandoned (handle : Int32) : List Step → Bench → Prop
  | [], _ => False
  | step :: rest, b =>
    Abandons b.host (b.step step).2.host handle ∨ Abandoned handle rest (b.step step).2

theorem run_ordered {count : Nat} {steps : List Step} (indirect : ∀ call, .direct call ∉ steps)
    (numbered : b.host.net.Numbered count) (room : count + opens steps b < 2 ^ 31 - 4)
    (ordered : b.Ordered left) :
    (b.run steps).Ordered fun handle => left handle ∨ Abandoned handle steps b := by
  induction steps generalizing b count left with
  | nil => exact ordered.mono fun _ _ was => .inl was
  | cons step rest ih =>
    have first (call : DirectCall) : step ≠ .direct call :=
      fun same => indirect call (same ▸ List.mem_cons_self)
    have others (call : DirectCall) : .direct call ∉ rest :=
      fun member => indirect call (List.mem_cons_of_mem _ member)
    simp only [opens] at room
    rw [← Nat.add_assoc] at room
    have bound : count < 2 ^ 31 - 4 := by omega
    have after := ih others (step_numbered step numbered bound) room
      (step_ordered first numbered ordered)
    refine Ledger.mono after fun handle _ was => ?_
    rcases was with (old | now) | later
    · exact .inl old
    · exact .inr (.inl now)
    · exact .inr (.inr later)

theorem start_ordered (interfaces : List (String × Int32)) (metered : Bool) :
    (start interfaces metered).Ordered fun _ => False := by
  have none (handle : Int32) : handle ∉ (start interfaces metered).host.net.openHandles := by
    intro member
    have bounds := (start_numbered interfaces metered).bounds handle member
    omega
  constructor
  · exact fun handle member => absurd member (none handle)
  · intro slot handle holds
    nomatch holds
  · intro slot other handle holds
    nomatch holds
  · exact fun handle member => absurd member (none handle)

def Unset (kind : SocketCall) (s : Simulator) : Prop := s.failures kind = none

theorem unset_keeps (kind other : SocketCall) : Simulator.layer.Keeps (Unset kind) other := by
  apply Simulator.layer_keeps
  · intro s holds
    simp only [Unset, Simulator.entered_failures, show s.failures kind = none from holds, ite_self]
  · intro before after does holds
    exact (congrFun does.leaves.failures kind).trans holds

theorem step_unset {kind : SocketCall} {step : Step}
    (never : ∀ code, step ≠ .script (.failNext kind code))
    (unset : b.host.net.failures kind = none) :
    (b.step step).2.host.net.failures kind = none := by
  have kept : Unset kind (b.step step).2.host.net := by
    refine step_keeps step (fun other _ => unset_keeps kind other) (fun _ _ holds => holds) ?_ unset
    rintro script rfl
    cases script with
    | failNext other code =>
      have different : kind ≠ other := by
        rintro rfl
        exact never code rfl
      exact (if_neg different).trans unset
    | _ => exact unset
  exact kept

theorem not_abandoned {steps : List Step} (handle : Int32)
    (never : ∀ code, .script (.failNext .close code) ∉ steps)
    (unset : b.host.net.failures .close = none) : ¬ Abandoned handle steps b := by
  induction steps generalizing b with
  | nil => exact id
  | cons step rest ih =>
    have first (code : Int32) : step ≠ .script (.failNext .close code) :=
      fun same => never code (same ▸ List.mem_cons_self)
    have others (code : Int32) : .script (.failNext .close code) ∉ rest :=
      fun member => never code (List.mem_cons_of_mem _ member)
    rintro (⟨code, _, set, _⟩ | later)
    · rw [unset] at set
      nomatch set
    · exact ih others (step_unset first unset) later

theorem start_unset (interfaces : List (String × Int32)) (metered : Bool) (kind : SocketCall) :
    (start interfaces metered).host.net.failures kind = none := by
  obtain ⟨known, net⟩ := start_net interfaces metered
  rw [net]
  rfl

theorem run_append (first second : List Step) (b : Bench) :
    b.run (first ++ second) = (b.run first).run second := List.foldl_append

theorem channel?_drops (order : List Nat) (slot : Nat) (b : Bench) :
    (b.run (order.map .drop)).channel? slot = if slot ∈ order then none else b.channel? slot := by
  induction order generalizing b with
  | nil => rfl
  | cons first rest ih =>
    have step : b.run ((first :: rest).map .drop) = (b.dropSlot first).run (rest.map .drop) := rfl
    rw [step, ih, channel?_dropSlot]
    by_cases later : slot ∈ rest
    · simp [later]
    · by_cases now : slot = first <;> simp [later, now]

theorem opens_drops (order : List Nat) (b : Bench) : opens (order.map .drop) b = 0 := by
  induction order generalizing b with
  | nil => rfl
  | cons first rest ih =>
    have quiet : .openSocket ∉ (Step.drop first).calls := by simp [Step.calls]
    simp only [List.map_cons, opens, quiet, false_and, if_false, ih]

section

variable {interfaces : List (String × Int32)} {metered : Bool} {steps : List Step}
variable (few : opens steps (start interfaces metered) < 2 ^ 31 - 4)
include few

theorem stays_retired {earlier later : List Step} (split : steps = earlier ++ later)
    {handle : Int32}
    (retired : ((start interfaces metered).run earlier).host.net.Retired handle) :
    handle ∉ ((start interfaces metered).run steps).host.net.openHandles := by
  subst split
  rw [opens_append] at few
  have numbered := reached_numbered interfaces metered earlier (by omega)
  rw [run_append]
  exact (run_retired later numbered few retired).2

theorem stays_closed {first between later : List Step} (split : steps = first ++ between ++ later)
    {handle : Int32}
    (wasOpen : handle ∈ ((start interfaces metered).run first).host.net.openHandles)
    (gone : handle ∉ ((start interfaces metered).run (first ++ between)).host.net.openHandles) :
    handle ∉ ((start interfaces metered).run steps).host.net.openHandles := by
  have room := few
  rw [split, opens_append, opens_append] at room
  have early := reached_numbered interfaces metered first (by omega)
  have middle := reached_numbered interfaces metered (first ++ between)
    (by rw [opens_append]; omega)
  have below := (early.bounds handle wasOpen).2
  have retired : ((start interfaces metered).run (first ++ between)).host.net.Retired handle := by
    refine middle.retired ?_ gone
    rw [opens_append]
    omega
  exact stays_retired few split retired

variable (indirect : ∀ call, .direct call ∉ steps)
include indirect

theorem reached_ordered :
    ((start interfaces metered).run steps).Ordered fun handle =>
      Abandoned handle steps (start interfaces metered) := by
  have ordered := run_ordered indirect (start_numbered interfaces metered) (by omega)
    (start_ordered interfaces metered)
  exact Ledger.mono ordered fun handle _ was => was.resolve_left id

theorem reached_held (never : ∀ code, .script (.failNext .close code) ∉ steps) (handle : Int32)
    (member : handle ∈ ((start interfaces metered).run steps).host.net.openHandles) :
    ∃ slot, ((start interfaces metered).run steps).held slot = some handle := by
  have ordered := reached_ordered few indirect
  have unset := start_unset interfaces metered .close
  exact (ordered.accounted handle member).resolve_right (not_abandoned handle never unset)

theorem reached_emptied (never : ∀ code, .script (.failNext .close code) ∉ steps)
    {order : List Nat}
    (all : ∀ slot, (((start interfaces metered).run steps).channel? slot).isSome = true →
      slot ∈ order) :
    (((start interfaces metered).run steps).run (order.map .drop)).host.net.openHandles = [] := by
  apply List.eq_nil_iff_forall_not_mem.mpr
  intro handle member
  rw [← run_append] at member
  have stillIndirect (call : DirectCall) : .direct call ∉ steps ++ order.map .drop := by
    simp [indirect call]
  have stillNever (code : Int32) :
      .script (.failNext .close code) ∉ steps ++ order.map .drop := by
    simp [never code]
  have stillFew : opens (steps ++ order.map .drop) (start interfaces metered) < 2 ^ 31 - 4 := by
    rw [opens_append, opens_drops]
    exact few
  obtain ⟨slot, holds⟩ := reached_held stillFew stillIndirect stillNever handle member
  rw [run_append, held, channel?_drops] at holds
  by_cases dropped : slot ∈ order
  · rw [if_pos dropped] at holds
    nomatch holds
  · rw [if_neg dropped] at holds
    obtain ⟨c, found, _⟩ := Option.map_eq_some_iff.mp holds
    exact dropped (all slot (by rw [found]; rfl))

end

/-- Whatever is done on a bench short of direct calls, a channel has no socket or an open one, no
two channels share one, an open socket without a channel was left behind by a close that was made to
fail, and a closed socket stays closed. Where no close is made to fail, the open sockets are those
of the channels, and none is left when these are dropped. -/
theorem sockets_owned (interfaces : List (String × Int32)) (metered : Bool) (steps : List Step)
    (indirect : ∀ call, .direct call ∉ steps)
    (few : opens steps (start interfaces metered) < 2 ^ 31 - 4) :
    let b := (start interfaces metered).run steps
    (∀ slot c, b.channel? slot = some c →
      c.handle = -1 ∨ 3 ≤ c.handle.toInt ∧ c.handle ∈ b.host.net.openHandles) ∧
    (∀ slot other c d, b.channel? slot = some c → b.channel? other = some d →
      c.isOpen = true → c.handle = d.handle → slot = other) ∧
    (∀ handle ∈ b.host.net.openHandles,
      (∃ slot c, b.channel? slot = some c ∧ c.handle = handle) ∨
        Abandoned handle steps (start interfaces metered)) ∧
    (∀ first between later, steps = first ++ between ++ later → ∀ handle,
      handle ∈ ((start interfaces metered).run first).host.net.openHandles →
      handle ∉ ((start interfaces metered).run (first ++ between)).host.net.openHandles →
      handle ∉ b.host.net.openHandles) ∧
    (∀ earlier later, steps = earlier ++ later → ∀ handle,
      ((start interfaces metered).run earlier).host.net.Retired handle →
      handle ∉ b.host.net.openHandles) ∧
    ((∀ code, .script (.failNext .close code) ∉ steps) →
      (∀ handle, handle ∈ b.host.net.openHandles ↔
        ∃ slot c, b.channel? slot = some c ∧ c.isOpen = true ∧ c.handle = handle) ∧
      ∀ order : List Nat, (∀ slot, (b.channel? slot).isSome = true → slot ∈ order) →
        (b.run (order.map .drop)).host.net.openHandles = []) := by
  intro b
  have ordered : b.Ordered _ := reached_ordered few indirect
  have numbered : b.host.net.Numbered _ := reached_numbered interfaces metered steps few
  have holder {handle : Int32} (holds : ∃ slot, b.held slot = some handle) :
      ∃ slot c, b.channel? slot = some c ∧ c.handle = handle := by
    obtain ⟨slot, holds⟩ := holds
    obtain ⟨c, found, same⟩ := Option.map_eq_some_iff.mp holds
    exact ⟨slot, c, found, same⟩
  have proper (slot : Nat) (c : Channel) (found : b.channel? slot = some c) :
      c.handle = -1 ∨ c.handle ∈ b.host.net.openHandles :=
    ordered.proper slot c.handle (held_found found)
  have member {slot : Nat} {c : Channel} (found : b.channel? slot = some c)
      (isOpen : c.isOpen = true) : c.handle ∈ b.host.net.openHandles := by
    rcases proper slot c found with idle | member
    · simp [Channel.isOpen, idle] at isOpen
    · exact member
  refine ⟨?_, ?_, ?_, ?_, ?_, ?_⟩
  · intro slot c found
    exact (proper slot c found).imp_right fun member => ⟨(numbered.bounds _ member).1, member⟩
  · intro slot other c d found others isOpen same
    have holds := held_found others
    rw [← same] at holds
    exact ordered.apart slot other c.handle (held_found found) holds (member found isOpen)
  · intro handle isOpen
    exact (ordered.accounted handle isOpen).imp_left holder
  · intro first between later split handle wasOpen gone
    exact stays_closed few split wasOpen gone
  · intro earlier later split handle retired
    exact stays_retired few split retired
  · intro never
    refine ⟨?_, fun order all => reached_emptied few indirect never all⟩
    intro handle
    constructor
    · intro isOpen
      obtain ⟨slot, c, found, rfl⟩ := holder (reached_held few indirect never handle isOpen)
      exact ⟨slot, c, found, by simp [Channel.isOpen, ordered.real c.handle isOpen], rfl⟩
    · rintro ⟨slot, c, found, isOpen, rfl⟩
      exact member found isOpen

theorem failed_drop_leaves_socket :
    let steps : List Step :=
      [.create 0 "mock0" 1 0 Identifier.zero false, .script (.failNext .close 5), .drop 0,
        .create 1 "mock0" 1 0 Identifier.zero false, .channel 1 .close]
    let b := (start [] false).run steps
    (∀ call, .direct call ∉ steps) ∧ opens steps (start [] false) < 2 ^ 31 - 4 ∧
      b.host.net.openHandles = [3] ∧
      ((∃ slot c, b.channel? slot = some c ∧ c.handle = 3) ∨
        Abandoned 3 steps (start [] false)) := by
  intro steps b
  have indirect : ∀ call, .direct call ∉ steps := by
    intro call
    simp [steps]
  have few : opens steps (start [] false) < 2 ^ 31 - 4 := by decide
  have handles : b.host.net.openHandles = [3] := by decide
  obtain ⟨_, _, accounted, _⟩ := sockets_owned [] false steps indirect few
  exact ⟨indirect, few, handles, accounted 3 (by rw [handles]; decide)⟩

end Bench

end CanBus
