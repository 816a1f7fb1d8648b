import CanBus.Proofs.Closing
import CanBus.Proofs.Handles

namespace CanBus

namespace Channel

section

variable {σ : Type} {layer : Layer σ} {c : Channel} {host : Host σ} {handle index : Int32}
variable {fault : Fault} {first second third fourth fifth : σ}

theorem setup_unopened (failed : layer.openSocket c.protocol host.net = (.error fault, first)) :
    c.setup layer host = (.error (.setupFailed .create fault), c, { host with net := first }) := by
  simp only [setup, Host.call, failed]

variable (opened : layer.openSocket c.protocol host.net = (.ok handle, first))
include opened

theorem setup_unresolved
    (failed : layer.interfaceIndex handle c.interface first = (.error fault, second)) :
    c.setup layer host =
      (.error (.setupFailed (.resolve c.interface) fault), { c with handle := handle },
        { host with net := second }) := by
  simp only [setup, Host.call, opened, failed]

variable (resolved : layer.interfaceIndex handle c.interface first = (.ok index, second))
include resolved

theorem setup_blocking (failed : layer.setNonblocking handle second = (.error fault, third)) :
    c.setup layer host =
      (.error (.setupFailed (.unblock handle) fault), { c with handle := handle },
        { host with net := third }) := by
  simp only [setup, Host.call, opened, resolved, failed]

variable (unblocked : layer.setNonblocking handle second = (.ok (), third))
include unblocked

theorem setup_unfiltered
    (failed : layer.setFilter handle ⟨c.sender.raw, c.filterMask⟩ third = (.error fault, fourth)) :
    c.setup layer host =
      (.error (.setupFailed (.filter c.filterMask handle) fault), { c with handle := handle },
        { host with net := fourth }) := by
  simp only [setup, installFilter, Host.call, opened, resolved, unblocked, if_true, failed]

variable (filtered : layer.setFilter handle ⟨c.sender.raw, c.filterMask⟩ third = (.ok (), fourth))
include filtered

theorem setup_unbound (failed : layer.bind handle index fourth = (.error fault, fifth)) :
    c.setup layer host =
      (.error (.setupFailed (.bind c.interface) fault),
        { c with handle := handle, filterId := c.sender.raw },
        { host with
          net := fifth
          log := host.log ++ [.filterInstalled handle c.sender.raw c.filterMask] }) := by
  simp only [setup, installFilter, Host.call, opened, resolved, unblocked, if_true, filtered,
    Host.note, failed]

theorem setup_complete (bound : layer.bind handle index fourth = (.ok (), fifth)) :
    c.setup layer host =
      (.ok (), { c with handle := handle, filterId := c.sender.raw },
        { host with
          net := fifth
          log := host.log ++
            [.filterInstalled handle c.sender.raw c.filterMask,
              .bound c.interface c.protocol handle index] }) := by
  simp only [setup, installFilter, Host.call, opened, resolved, unblocked, if_true, filtered,
    Host.note, bound, List.append_assoc, List.cons_append, List.nil_append]

end

end Channel

namespace Simulator

variable {α : Type} {s : Simulator}

def halfBuilt (kinds : List SocketCall) (filters : List Filter) (s : Simulator) : Simulator :=
  { s.entered kinds with
    nextHandle := s.nextHandle + 1
    openHandles := s.openHandles ++ [s.nextHandle]
    filters := filters }

theorem entered_halfBuilt (kinds more : List SocketCall) (filters : List Filter) (s : Simulator) :
    (s.halfBuilt kinds filters).entered more = s.halfBuilt (kinds ++ more) filters := by
  have same := entered_entered kinds more s
  simp only [entered, Simulator.mk.injEq] at same
  simp only [halfBuilt, entered, same]

theorem isOpen_halfBuilt (kinds : List SocketCall) (filters : List Filter) (s : Simulator) :
    (s.halfBuilt kinds filters).isOpen s.nextHandle = true := by
  rw [isOpen_iff]
  exact List.mem_append_right _ (List.mem_singleton.mpr rfl)

variable {kinds : List SocketCall} {filters : List Filter} {kind : SocketCall}
variable {work : Call Simulator α}

theorem call_halfBuilt (new : kind ∉ kinds) (unset : s.failures kind = none) :
    call kind (some s.nextHandle) work (s.halfBuilt kinds filters) =
      work (s.halfBuilt (kinds ++ [kind]) filters) := by
  rw [call_open _ (isOpen_halfBuilt kinds filters s), entered_halfBuilt]
  exact (if_neg new).trans unset

theorem call_halfBuilt_injected {code : Int32} (new : kind ∉ kinds)
    (set : s.failures kind = some code) :
    call kind (some s.nextHandle) work (s.halfBuilt kinds filters) =
      (.error (.errno code), s.halfBuilt (kinds ++ [kind]) filters) := by
  rw [call_injected, entered_halfBuilt]
  exact (if_neg new).trans set

end Simulator

namespace Channel

def callsBefore (kind : SocketCall) : List SocketCall := setupCalls.takeWhile (· != kind)

/-- Why a call of the kind would fail when a setup gets to it. -/
def setupFault (interface : String) (s : Simulator) (kind : SocketCall) : Option Fault :=
  match s.failures kind with
  | some code => some (.errno code)
  | none =>
    if kind = .interfaceIndex ∧ s.interfaces.lookup interface = none then some (.noDevice interface)
    else none

def setupStep (interface : String) (mask : UInt32) (handle : Int32) :
    SocketCall → ChannelError.SetupStep
  | .openSocket => .create
  | .interfaceIndex => .resolve interface
  | .setNonblocking => .unblock handle
  | .setFilter => .filter mask handle
  | .bind | .poll | .read | .write | .close => .bind interface

theorem setupFault_none {interface : String} {s : Simulator} {kind : SocketCall}
    (passed : setupFault interface s kind = none) : s.failures kind = none := by
  unfold setupFault at passed
  cases set : s.failures kind with
  | none => rfl
  | some code => simp [set] at passed

theorem setupFault_some {interface : String} {s : Simulator} {kind : SocketCall} {fault : Fault}
    (other : kind ≠ .interfaceIndex) (failed : setupFault interface s kind = some fault) :
    ∃ code, s.failures kind = some code ∧ fault = .errno code := by
  unfold setupFault at failed
  cases set : s.failures kind with
  | none => simp [set, other] at failed
  | some code =>
    rw [set] at failed
    exact ⟨code, rfl, (Option.some.inj failed).symm⟩

theorem setupFault_known {interface : String} {s : Simulator}
    (passed : setupFault interface s .interfaceIndex = none) :
    ∃ index, s.interfaces.lookup interface = some index := by
  have unset := setupFault_none passed
  cases found : s.interfaces.lookup interface with
  | some index => exact ⟨index, rfl⟩
  | none => simp [setupFault, unset, found] at passed

open Simulator (layer)

def closingEvent (interface : String) (s : Simulator) : Event :=
  match s.failures .close with
  | none => .closed interface s.nextHandle
  | some code => .closeOnDropFailed interface (.closeFailed s.nextHandle (.errno code))

/-- The new socket, if its close was set to fail. -/
def leftOpen (s : Simulator) : List Int32 :=
  if (s.failures .close).isSome then [s.nextHandle] else []

section

variable {interface : String} {protocol : Int32} {mask : UInt32} {sender : Identifier}
variable {host : Host Simulator}

theorem filter_new {handle : Int32} {handles : List Int32} (unused : handle ∉ handles) :
    (handles ++ [handle]).filter (· != handle) = handles := by
  have kept : handles.filter (· != handle) = handles := by
    apply List.filter_eq_self.mpr
    intro other member
    have different : other ≠ handle := fun same => unused (same ▸ member)
    simpa using different
  rw [List.filter_append, kept]
  simp

theorem create_cleans_up {error : ChannelError} {c : Channel} {kinds : List SocketCall}
    {filters : List Filter} {log : List Event}
    (stopped : (fresh interface protocol mask sender).setup layer host =
      (.error error, c, { host with net := host.net.halfBuilt kinds filters, log := log }))
    (handle : c.handle = host.net.nextHandle) (name : c.interface = interface)
    (new : .close ∉ kinds) (proper : ¬ host.net.nextHandle < 0)
    (unused : host.net.nextHandle ∉ host.net.openHandles) :
    create layer interface protocol mask sender host =
      (.error error,
        { host with
          net := { host.net.entered (kinds ++ [.close]) with
            nextHandle := host.net.nextHandle + 1
            openHandles := host.net.openHandles ++ leftOpen host.net
            filters := filters }
          log := log ++ [closingEvent interface host.net] }) := by
  have isOpen : c.isOpen = true := by
    simp [Channel.isOpen, handle, proper]
  have held : (host.net.halfBuilt kinds filters).isOpen c.handle = true := by
    rw [handle]
    exact Simulator.isOpen_halfBuilt _ _ _
  have same : (host.net.halfBuilt kinds filters).failures .close = host.net.failures .close :=
    if_neg new
  simp only [create, stopped]
  cases set : host.net.failures .close with
  | none =>
    rw [drop_succeeds isOpen (same.trans set) held]
    simp only [Simulator.closed, Simulator.entered_halfBuilt]
    simp only [Simulator.halfBuilt, handle, name, filter_new unused, leftOpen, closingEvent, set,
      Option.isSome_none, Bool.false_eq_true, if_false, List.append_nil]
  | some code =>
    rw [drop_fails isOpen (same.trans set)]
    simp only [Simulator.entered_halfBuilt]
    simp only [Simulator.halfBuilt, handle, name, leftOpen, closingEvent, set, Option.isSome_some,
      if_true]

structure Built (interface : String) (protocol : Int32) (mask : UInt32) (sender : Identifier)
    (index : Int32) (host : Host Simulator)
    (outcome : Except ChannelError Channel × Host Simulator) : Prop where
  channel : outcome.1 = .ok { fresh interface protocol mask sender with
    handle := host.net.nextHandle
    filterMask := mask
    filterId := sender.raw }
  calls : outcome.2.net.calls = host.net.calls ++ setupCalls
  openHandles : outcome.2.net.openHandles = host.net.openHandles ++ [host.net.nextHandle]
  bound : outcome.2.net.bound = some index
  filters : outcome.2.net.filters = host.net.filters ++ [⟨sender.raw, mask⟩]
  events : outcome.2.log = host.log ++
    [.filterInstalled host.net.nextHandle sender.raw mask,
      .bound interface protocol host.net.nextHandle index]
  failures : outcome.2.net.failures = host.net.failures
  counters : outcome.2.counters = host.counters
  untouched : { outcome.2.net with
    nextHandle := host.net.nextHandle
    openHandles := host.net.openHandles
    calls := host.net.calls
    bound := host.net.bound
    filters := host.net.filters } = host.net

/-- A construction that stopped at the call of the kind. Only a socket that was made is closed. -/
structure Undone (interface : String) (mask : UInt32) (sender : Identifier) (kind : SocketCall)
    (fault : Fault) (host : Host Simulator)
    (outcome : Except ChannelError Channel × Host Simulator) : Prop where
  error : outcome.1 =
    .error (.setupFailed (setupStep interface mask host.net.nextHandle kind) fault)
  calls : outcome.2.net.calls = host.net.calls ++
    (callsBefore kind ++ [kind] ++ if kind = .openSocket then [] else [.close])
  openHandles : outcome.2.net.openHandles = host.net.openHandles ++
    if kind = .openSocket then [] else leftOpen host.net
  bound : outcome.2.net.bound = host.net.bound
  filters : outcome.2.net.filters = host.net.filters ++
    if kind = .bind then [⟨sender.raw, mask⟩] else []
  events : outcome.2.log = host.log ++
    ((if kind = .bind then [.filterInstalled host.net.nextHandle sender.raw mask] else []) ++
      if kind = .openSocket then [] else [closingEvent interface host.net])
  failures : outcome.2.net.failures = fun other =>
    if other ∈ kind :: (if kind = .openSocket then [] else [.close]) then none
    else host.net.failures other
  counters : outcome.2.counters = host.counters
  untouched : { outcome.2.net with
    nextHandle := host.net.nextHandle
    openHandles := host.net.openHandles
    calls := host.net.calls
    filters := host.net.filters
    failures := host.net.failures } = host.net

theorem failures_passed {done : List SocketCall} (s : Simulator)
    (passed : ∀ earlier ∈ done, s.failures earlier = none) (more : List SocketCall) :
    (s.entered (done ++ more)).failures = (s.entered more).failures := by
  funext other
  simp only [Simulator.entered_failures, List.mem_append]
  by_cases early : other ∈ done
  · simp [early, passed other early]
  · simp [early]

theorem undone_of_eq {kind : SocketCall} {fault : Fault} (later : kind ≠ .openSocket)
    (passed : ∀ earlier ∈ callsBefore kind, setupFault interface host.net earlier = none)
    (made : create layer interface protocol mask sender host =
      (.error (.setupFailed (setupStep interface mask host.net.nextHandle kind) fault),
        { host with
          net := { host.net.entered (callsBefore kind ++ [kind] ++ [.close]) with
            nextHandle := host.net.nextHandle + 1
            openHandles := host.net.openHandles ++ leftOpen host.net
            filters := host.net.filters ++ if kind = .bind then [⟨sender.raw, mask⟩] else [] }
          log := host.log ++
            (if kind = .bind then [.filterInstalled host.net.nextHandle sender.raw mask] else []) ++
            [closingEvent interface host.net] })) :
    Undone interface mask sender kind fault host
      (create layer interface protocol mask sender host) := by
  rw [made]
  have unset : ∀ earlier ∈ callsBefore kind, host.net.failures earlier = none :=
    fun earlier member => setupFault_none (passed earlier member)
  constructor
  · rfl
  · simp only [later, if_false]
    rfl
  · simp only [later, if_false]
  · rfl
  · rfl
  · simp only [later, if_false, List.append_assoc]
  · simp only [later, if_false]
    have spent := failures_passed host.net unset [kind, .close]
    rw [List.append_assoc]
    exact spent
  · rfl
  · rfl

theorem open_succeeds (unset : host.net.failures .openSocket = none) :
    layer.openSocket protocol host.net =
      (.ok host.net.nextHandle, host.net.halfBuilt [.openSocket] host.net.filters) :=
  Simulator.openSocket_made unset

theorem open_fails {code : Int32} (set : host.net.failures .openSocket = some code) :
    layer.openSocket protocol host.net = (.error (.errno code), host.net.entered [.openSocket]) :=
  Simulator.openSocket_failed set

theorem resolve_succeeds {index : Int32} (unset : host.net.failures .interfaceIndex = none)
    (known : host.net.interfaces.lookup interface = some index) :
    layer.interfaceIndex host.net.nextHandle interface
        (host.net.halfBuilt [.openSocket] host.net.filters) =
      (.ok index, host.net.halfBuilt [.openSocket, .interfaceIndex] host.net.filters) := by
  have found (kinds : List SocketCall) :
      (host.net.halfBuilt kinds host.net.filters).interfaces.lookup interface = some index := known
  simp only [layer, Simulator.interfaceIndex]
  rw [Simulator.call_halfBuilt (by decide) unset]
  simp only [found]
  rfl

theorem resolve_fails {fault : Fault}
    (failed : setupFault interface host.net .interfaceIndex = some fault) :
    layer.interfaceIndex host.net.nextHandle interface
        (host.net.halfBuilt [.openSocket] host.net.filters) =
      (.error fault, host.net.halfBuilt [.openSocket, .interfaceIndex] host.net.filters) := by
  simp only [layer, Simulator.interfaceIndex]
  unfold setupFault at failed
  cases set : host.net.failures .interfaceIndex with
  | some code =>
    simp only [set, Option.some.injEq] at failed
    rw [Simulator.call_halfBuilt_injected (by decide) set, failed]
    rfl
  | none =>
    simp only [set, true_and, Option.ite_none_right_eq_some, Option.some.injEq] at failed
    obtain ⟨unknown, rfl⟩ := failed
    have missing (kinds : List SocketCall) :
        (host.net.halfBuilt kinds host.net.filters).interfaces.lookup interface = none := unknown
    rw [Simulator.call_halfBuilt (by decide) set]
    simp only [missing]
    rfl

theorem unblock_succeeds (unset : host.net.failures .setNonblocking = none) :
    layer.setNonblocking host.net.nextHandle
        (host.net.halfBuilt [.openSocket, .interfaceIndex] host.net.filters) =
      (.ok (), host.net.halfBuilt [.openSocket, .interfaceIndex, .setNonblocking]
        host.net.filters) := by
  simp only [layer, Simulator.setNonblocking]
  rw [Simulator.call_halfBuilt (by decide) unset]
  rfl

theorem unblock_fails {code : Int32} (set : host.net.failures .setNonblocking = some code) :
    layer.setNonblocking host.net.nextHandle
        (host.net.halfBuilt [.openSocket, .interfaceIndex] host.net.filters) =
      (.error (.errno code), host.net.halfBuilt [.openSocket, .interfaceIndex, .setNonblocking]
        host.net.filters) := by
  simp only [layer, Simulator.setNonblocking]
  rw [Simulator.call_halfBuilt_injected (by decide) set]
  rfl

theorem filter_succeeds (filter : Filter) (unset : host.net.failures .setFilter = none) :
    layer.setFilter host.net.nextHandle filter
        (host.net.halfBuilt [.openSocket, .interfaceIndex, .setNonblocking] host.net.filters) =
      (.ok (), host.net.halfBuilt [.openSocket, .interfaceIndex, .setNonblocking, .setFilter]
        (host.net.filters ++ [filter])) := by
  simp only [layer, Simulator.setFilter]
  rw [Simulator.call_halfBuilt (by decide) unset]
  rfl

theorem filter_fails {code : Int32} (filter : Filter)
    (set : host.net.failures .setFilter = some code) :
    layer.setFilter host.net.nextHandle filter
        (host.net.halfBuilt [.openSocket, .interfaceIndex, .setNonblocking] host.net.filters) =
      (.error (.errno code), host.net.halfBuilt
        [.openSocket, .interfaceIndex, .setNonblocking, .setFilter] host.net.filters) := by
  simp only [layer, Simulator.setFilter]
  rw [Simulator.call_halfBuilt_injected (by decide) set]
  rfl

theorem bind_succeeds (index : Int32) (filters : List Filter)
    (unset : host.net.failures .bind = none) :
    layer.bind host.net.nextHandle index
        (host.net.halfBuilt [.openSocket, .interfaceIndex, .setNonblocking, .setFilter] filters) =
      (.ok (), { host.net.halfBuilt setupCalls filters with bound := some index }) := by
  simp only [layer, Simulator.bind]
  rw [Simulator.call_halfBuilt (by decide) unset]
  rfl

theorem bind_fails {code : Int32} (index : Int32) (filters : List Filter)
    (set : host.net.failures .bind = some code) :
    layer.bind host.net.nextHandle index
        (host.net.halfBuilt [.openSocket, .interfaceIndex, .setNonblocking, .setFilter] filters) =
      (.error (.errno code), host.net.halfBuilt setupCalls filters) := by
  simp only [layer, Simulator.bind]
  rw [Simulator.call_halfBuilt_injected (by decide) set]
  rfl

theorem create_undone {kind : SocketCall} {fault : Fault} (member : kind ∈ setupCalls)
    (passed : ∀ earlier ∈ callsBefore kind, setupFault interface host.net earlier = none)
    (failed : setupFault interface host.net kind = some fault)
    (proper : ¬ host.net.nextHandle < 0) (unused : host.net.nextHandle ∉ host.net.openHandles) :
    Undone interface mask sender kind fault host
      (create layer interface protocol mask sender host) := by
  have unset (earlier : SocketCall) (before : earlier ∈ callsBefore kind) :
      host.net.failures earlier = none := setupFault_none (passed earlier before)
  -- one case for each call that a setup can stop at; those before it went through
  cases kind with
  | openSocket =>
    obtain ⟨code, set, rfl⟩ := setupFault_some (by decide) failed
    have stopped := setup_unopened (c := fresh interface protocol mask sender) (open_fails set)
    have idle (host : Host Simulator) :
        (fresh interface protocol mask sender).drop layer host = host := drop_idle rfl
    simp only [create, stopped, idle]
    constructor <;> simp [callsBefore, setupCalls, laterCalls, Simulator.entered, setupStep]
  | interfaceIndex =>
    have stopped := setup_unresolved (c := fresh interface protocol mask sender)
      (open_succeeds (unset .openSocket (by decide))) (resolve_fails failed)
    apply undone_of_eq (by decide) passed
    rw [create_cleans_up stopped rfl rfl (by decide) proper unused]
    simp [setupStep, callsBefore, setupCalls, laterCalls, fresh]
  | setNonblocking =>
    obtain ⟨index, known⟩ := setupFault_known (passed .interfaceIndex (by decide))
    obtain ⟨code, set, rfl⟩ := setupFault_some (by decide) failed
    have stopped := setup_blocking (c := fresh interface protocol mask sender)
      (open_succeeds (unset .openSocket (by decide)))
      (resolve_succeeds (unset .interfaceIndex (by decide)) known) (unblock_fails set)
    apply undone_of_eq (by decide) passed
    rw [create_cleans_up stopped rfl rfl (by decide) proper unused]
    simp [setupStep, callsBefore, setupCalls, laterCalls]
  | setFilter =>
    obtain ⟨index, known⟩ := setupFault_known (passed .interfaceIndex (by decide))
    obtain ⟨code, set, rfl⟩ := setupFault_some (by decide) failed
    have stopped := setup_unfiltered (c := fresh interface protocol mask sender)
      (open_succeeds (unset .openSocket (by decide)))
      (resolve_succeeds (unset .interfaceIndex (by decide)) known)
      (unblock_succeeds (unset .setNonblocking (by decide))) (filter_fails _ set)
    apply undone_of_eq (by decide) passed
    rw [create_cleans_up stopped rfl rfl (by decide) proper unused]
    simp [setupStep, callsBefore, setupCalls, laterCalls, fresh]
  | bind =>
    obtain ⟨index, known⟩ := setupFault_known (passed .interfaceIndex (by decide))
    obtain ⟨code, set, rfl⟩ := setupFault_some (by decide) failed
    have stopped := setup_unbound (c := fresh interface protocol mask sender)
      (open_succeeds (unset .openSocket (by decide)))
      (resolve_succeeds (unset .interfaceIndex (by decide)) known)
      (unblock_succeeds (unset .setNonblocking (by decide)))
      (filter_succeeds _ (unset .setFilter (by decide))) (bind_fails index _ set)
    apply undone_of_eq (by decide) passed
    rw [create_cleans_up stopped rfl rfl (by decide) proper unused]
    simp [setupStep, callsBefore, setupCalls, laterCalls, fresh]
  | poll | read | write | close => exact absurd member (by decide)

theorem create_built {index : Int32}
    (passed : ∀ kind ∈ setupCalls, host.net.failures kind = none)
    (known : host.net.interfaces.lookup interface = some index) :
    Built interface protocol mask sender index host
      (create layer interface protocol mask sender host) := by
  have made := setup_complete (c := fresh interface protocol mask sender)
    (open_succeeds (passed .openSocket (by decide)))
    (resolve_succeeds (passed .interfaceIndex (by decide)) known)
    (unblock_succeeds (passed .setNonblocking (by decide)))
    (filter_succeeds _ (passed .setFilter (by decide)))
    (bind_succeeds index _ (passed .bind (by decide)))
  have kept : (host.net.entered setupCalls).failures = host.net.failures := by
    have spent := failures_passed host.net passed []
    rwa [List.append_nil, Simulator.entered_nil] at spent
  simp only [create, made]
  constructor
  · rfl
  · rfl
  · rfl
  · rfl
  · rfl
  · rfl
  · exact kept
  · rfl
  · change { host.net with failures := (host.net.entered setupCalls).failures } = host.net
    rw [kept]

theorem setup_first_fault (interface : String) (s : Simulator) :
    (∀ kind ∈ setupCalls, setupFault interface s kind = none) ∨
      ∃ kind ∈ setupCalls, ∃ fault,
        (∀ earlier ∈ callsBefore kind, setupFault interface s earlier = none) ∧
          setupFault interface s kind = some fault := by
  cases failing : setupCalls.find? (fun kind => (setupFault interface s kind).isSome) with
  | none =>
    left
    intro kind member
    have passed := List.find?_eq_none.mp failing kind member
    simpa using passed
  | some kind =>
    right
    obtain ⟨failed, done, rest, split, passed⟩ := List.find?_eq_some_iff_append.mp failing
    obtain ⟨fault, fails⟩ := Option.isSome_iff_exists.mp failed
    have others : ∀ earlier ∈ done, (earlier != kind) = true := by
      intro earlier member
      have different : earlier ≠ kind := by
        rintro rfl
        have succeeds := passed earlier member
        simp [failed] at succeeds
      simpa using different
    have before : callsBefore kind = done := by
      rw [callsBefore, split, List.takeWhile_append_of_pos others]
      simp
    refine ⟨kind, List.mem_of_find?_eq_some failing, fault, ?_, fails⟩
    intro earlier member
    rw [before] at member
    simpa using passed earlier member

end

/-- Wherever a construction starts, it goes through all five calls or takes back what it did. -/
theorem create_all_or_nothing (interfaces : List (String × Int32)) (metered : Bool)
    (steps : List Step) (few : Bench.opens steps (Bench.start interfaces metered) < 2 ^ 31 - 4)
    (interface : String) (protocol : Int32) (mask : UInt32) (sender : Identifier) :
    let host := ((Bench.start interfaces metered).run steps).host
    let outcome := create layer interface protocol mask sender host
    3 ≤ host.net.nextHandle.toInt ∧ host.net.isOpen host.net.nextHandle = false ∧
      ((∀ kind ∈ setupCalls, setupFault interface host.net kind = none) ∧
          (∃ index, host.net.interfaces.lookup interface = some index ∧
            Built interface protocol mask sender index host outcome) ∨
        ∃ kind ∈ setupCalls, ∃ fault,
          (∀ earlier ∈ callsBefore kind, setupFault interface host.net earlier = none) ∧
            setupFault interface host.net kind = some fault ∧
            Undone interface mask sender kind fault host outcome) := by
  intro host outcome
  have numbered : host.net.Numbered (Bench.opens steps (Bench.start interfaces metered)) :=
    Bench.reached_numbered interfaces metered steps few
  refine ⟨?_, ?_, ?_⟩
  · rw [numbered.next]
    omega
  · rw [← Bool.not_eq_true, Simulator.isOpen_iff]
    exact numbered.unused
  · rcases setup_first_fault interface host.net with passed | ⟨kind, member, fault, passed, failed⟩
    · left
      obtain ⟨index, known⟩ := setupFault_known (passed .interfaceIndex (by decide))
      have unset (kind : SocketCall) (member : kind ∈ setupCalls) :
          host.net.failures kind = none := setupFault_none (passed kind member)
      exact ⟨passed, index, known, create_built unset known⟩
    · right
      exact ⟨kind, member, fault, passed, failed,
        create_undone member passed failed numbered.proper numbered.unused⟩

theorem bind_and_close_fail :
    let steps := [Step.script (.failNext .bind 98), .script (.failNext .close 5)]
    let host := ((Bench.start [] false).run steps).host
    Bench.opens steps (Bench.start [] false) < 2 ^ 31 - 4 ∧
      ∃ kind ∈ setupCalls, ∃ fault,
        (∀ earlier ∈ callsBefore kind, setupFault "mock0" host.net earlier = none) ∧
          setupFault "mock0" host.net kind = some fault ∧
          Undone "mock0" 0 Identifier.zero kind fault host
            (create layer "mock0" 1 0 Identifier.zero host) := by
  intro steps host
  have few : Bench.opens steps (Bench.start [] false) < 2 ^ 31 - 4 := by decide
  obtain ⟨_, _, built | undone⟩ :=
    create_all_or_nothing [] false steps few "mock0" 1 0 Identifier.zero
  · exact absurd (built.1 .bind (by decide)) (by decide)
  · exact ⟨few, undone⟩

end Channel

end CanBus
