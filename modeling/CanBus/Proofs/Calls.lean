import CanBus.Socket.Simulator

namespace CanBus.Simulator

variable {α : Type} {s : Simulator}

/-- The state after calls of these kinds, apart from what they did. No failure that was set for one
of the kinds is left. -/
def entered (kinds : List SocketCall) (s : Simulator) : Simulator :=
  { s with
    calls := s.calls ++ kinds
    failures := fun kind => if kind ∈ kinds then none else s.failures kind }

@[simp] theorem entered_failures (kinds : List SocketCall) (kind : SocketCall) :
    (s.entered kinds).failures kind = if kind ∈ kinds then none else s.failures kind := rfl

@[simp] theorem entered_inbound (kinds : List SocketCall) :
    (s.entered kinds).inbound = s.inbound := rfl

@[simp] theorem isOpen_entered (kinds : List SocketCall) (handle : Int32) :
    (s.entered kinds).isOpen handle = s.isOpen handle := rfl

theorem entered_nil (s : Simulator) : s.entered [] = s := by
  simp [entered]

theorem entered_entered (first second : List SocketCall) (s : Simulator) :
    (s.entered first).entered second = s.entered (first ++ second) := by
  have left : (fun kind => if kind ∈ second then none
      else if kind ∈ first then none else s.failures kind) =
      fun kind => if kind ∈ first ++ second then none else s.failures kind := by
    funext kind
    by_cases early : kind ∈ first <;> by_cases late : kind ∈ second <;> simp [early, late]
  simp only [entered, List.append_assoc, left]

theorem isOpen_iff {handle : Int32} : s.isOpen handle = true ↔ handle ∈ s.openHandles :=
  List.contains_iff_mem

/-- Why a call of the kind would be turned away before its work. -/
def gate (kind : SocketCall) (handle : Option Int32) (s : Simulator) : Option Fault :=
  match s.failures kind, handle with
  | some code, _ => some (.errno code)
  | none, none => none
  | none, some handle => if s.isOpen handle then none else some (.badHandle handle)

theorem call_eq (kind : SocketCall) (handle : Option Int32) (work : Call Simulator α)
    (s : Simulator) :
    call kind handle work s =
      match s.gate kind handle with
      | some fault => (.error fault, s.entered [kind])
      | none => work (s.entered [kind]) := by
  have spent : (fun other => if other = kind then none else s.failures other) =
      fun other => if other ∈ [kind] then none else s.failures other := by
    funext other
    simp only [List.mem_singleton]
  simp only [call, gate]
  cases set : s.failures kind with
  | some code => simp only [entered, spent]
  | none =>
    have unset : s.failures = fun other => if other ∈ [kind] then none else s.failures other := by
      funext other
      by_cases same : other = kind
      · simp [same, set]
      · simp [same]
    have logged : { s with calls := s.calls ++ [kind] } = s.entered [kind] := by
      simp only [entered, ← unset]
    cases handle with
    | none => simp only [logged]
    | some handle =>
      simp only [logged, isOpen_entered]
      cases s.isOpen handle <;> rfl

theorem gate_none (kind : SocketCall) (s : Simulator) :
    s.gate kind none = (s.failures kind).map Fault.errno := by
  unfold gate
  cases s.failures kind <;> rfl

theorem gate_open {kind : SocketCall} {handle : Int32} (isOpen : s.isOpen handle = true) :
    s.gate kind (some handle) = (s.failures kind).map Fault.errno := by
  unfold gate
  cases s.failures kind <;> simp [isOpen]

section

variable {kind : SocketCall} {work : Call Simulator α}

theorem call_injected {handle : Option Int32} {code : Int32} (set : s.failures kind = some code) :
    call kind handle work s = (.error (.errno code), s.entered [kind]) := by
  rw [call_eq]
  unfold gate
  rw [set]

theorem call_free (unset : s.failures kind = none) :
    call kind none work s = work (s.entered [kind]) := by
  rw [call_eq, gate_none, unset]
  rfl

theorem call_open {handle : Int32} (unset : s.failures kind = none)
    (isOpen : s.isOpen handle = true) :
    call kind (some handle) work s = work (s.entered [kind]) := by
  rw [call_eq, gate_open isOpen, unset]
  rfl

theorem call_refused {handle : Int32} (unset : s.failures kind = none)
    (isOpen : s.isOpen handle = false) :
    call kind (some handle) work s = (.error (.badHandle handle), s.entered [kind]) := by
  rw [call_eq]
  unfold gate
  rw [unset]
  simp only [isOpen, Bool.false_eq_true, if_false]

end

def Does (kind : SocketCall) (before after : Simulator) : Prop :=
  match kind with
  | .openSocket =>
    after = { before with
      nextHandle := before.nextHandle + 1
      openHandles := before.openHandles ++ [before.nextHandle] }
  | .interfaceIndex | .setNonblocking => after = before
  | .setFilter => ∃ filter, after = { before with filters := before.filters ++ [filter] }
  | .bind => ∃ index, after = { before with bound := some index }
  | .poll => ∃ timeout delay, after = { before with lastTimeout := some timeout }.pause delay
  | .read =>
    after = before ∨
      ∃ frame rest, before.inbound = frame :: rest ∧ after = { before with inbound := rest }
  | .write => ∃ frame, after = { before with written := before.written ++ [frame] }
  | .close =>
    after = before ∨
      ∃ handle, after = { before with openHandles := before.openHandles.filter (· != handle) }

structure Leaves (kind : SocketCall) (before after : Simulator) : Prop where
  nextHandle : kind ≠ .openSocket → after.nextHandle = before.nextHandle
  noneOpened : kind ≠ .openSocket → after.openHandles ⊆ before.openHandles
  openHandles : kind ≠ .openSocket → kind ≠ .close → after.openHandles = before.openHandles
  inbound : kind ≠ .read → after.inbound = before.inbound
  written : kind ≠ .write → after.written = before.written
  filters : kind ≠ .setFilter → after.filters = before.filters
  bound : kind ≠ .bind → after.bound = before.bound
  lastTimeout : kind ≠ .poll → after.lastTimeout = before.lastTimeout
  interfaces : after.interfaces = before.interfaces
  calls : after.calls = before.calls
  failures : after.failures = before.failures

theorem Does.leaves {kind : SocketCall} {before after : Simulator} (does : Does kind before after) :
    Leaves kind before after := by
  cases kind with
  | openSocket | interfaceIndex | setNonblocking =>
    obtain rfl : after = _ := does
    constructor <;> simp
  | setFilter | bind | write =>
    obtain ⟨_, rfl⟩ := does
    constructor <;> simp
  | poll =>
    obtain ⟨_, _, rfl⟩ := does
    constructor <;> simp [pause]
  | read =>
    rcases does with rfl | ⟨_, _, _, rfl⟩ <;> constructor <;> simp
  | close =>
    rcases does with rfl | ⟨handle, rfl⟩
    · constructor <;> simp
    · have fewer : before.openHandles.filter (· != handle) ⊆ before.openHandles :=
        List.filter_sublist.subset
      constructor <;> simp [fewer]

/-- What a call can make of the state: it is logged, and what is more is done by its work. -/
def Follows (kind : SocketCall) (before after : Simulator) : Prop :=
  after = before.entered [kind] ∨ Does kind (before.entered [kind]) after

inductive Works (kind : SocketCall) (s : Simulator) : Except Fault α × Simulator → Prop
  | refused {fault : Fault} (uncoded : fault.code? = none) : Works kind s (.error fault, s)
  | done {value : α} {after : Simulator} (does : Does kind s after) : Works kind s (.ok value, after)

/-- A call of the kind whose work takes no notice of the failures that are set. -/
inductive IsCall (kind : SocketCall) : Call Simulator α → Prop
  | of (handle : Option Int32) (work : Call Simulator α) (works : ∀ s, Works kind s (work s))
    (blind : ∀ s failing code, work (s.failNext failing code) =
      (work s).map id (·.failNext failing code)) : IsCall kind (call kind handle work)

theorem openSocket_isCall : IsCall .openSocket openSocket := by
  apply IsCall.of
  · exact fun _ => .done rfl
  · exact fun _ _ _ => rfl

theorem interfaceIndex_isCall (handle : Int32) (name : String) :
    IsCall .interfaceIndex (interfaceIndex handle name) := by
  apply IsCall.of
  · intro s
    split
    · exact .done rfl
    · exact .refused rfl
  · intro s failing code
    have known : (s.failNext failing code).interfaces = s.interfaces := rfl
    rw [known]
    cases s.interfaces.lookup name <;> rfl

theorem setNonblocking_isCall (handle : Int32) : IsCall .setNonblocking (setNonblocking handle) := by
  apply IsCall.of
  · exact fun _ => .done rfl
  · exact fun _ _ _ => rfl

theorem setFilter_isCall (handle : Int32) (filter : Filter) :
    IsCall .setFilter (setFilter handle filter) := by
  apply IsCall.of
  · exact fun _ => .done ⟨filter, rfl⟩
  · exact fun _ _ _ => rfl

theorem bind_isCall (handle index : Int32) : IsCall .bind (bind handle index) := by
  apply IsCall.of
  · exact fun _ => .done ⟨index, rfl⟩
  · exact fun _ _ _ => rfl

theorem poll_eq_call (handle : Int32) (timeout : Duration) :
    poll handle timeout = call .poll (some handle) fun s =>
      (.ok s.ready, { s with lastTimeout := some timeout }.pause (s.pollDelay.shorter timeout)) := by
  funext s
  simp only [poll, beginPoll, call_eq]
  cases s.gate .poll (some handle) <;> rfl

theorem poll_isCall (handle : Int32) (timeout : Duration) : IsCall .poll (poll handle timeout) := by
  rw [poll_eq_call]
  apply IsCall.of
  · exact fun _ => .done ⟨timeout, _, rfl⟩
  · exact fun _ _ _ => rfl

theorem read_isCall (handle : Int32) : IsCall .read (read handle) := by
  apply IsCall.of
  · intro s
    split
    · exact .refused rfl
    · rename_i queued
      exact .done (.inr ⟨_, _, queued, rfl⟩)
  · intro s failing code
    have queue : (s.failNext failing code).inbound = s.inbound := rfl
    rw [queue]
    cases s.inbound <;> rfl

theorem write_isCall (handle : Int32) (frame : Frame) : IsCall .write (write handle frame) := by
  apply IsCall.of
  · exact fun _ => .done ⟨frame, rfl⟩
  · exact fun _ _ _ => rfl

theorem close_isCall (handle : Int32) : IsCall .close (close handle) := by
  apply IsCall.of
  · intro s
    split
    · exact .done (.inr ⟨handle, rfl⟩)
    · exact .refused rfl
  · intro s failing code
    have held : (s.failNext failing code).isOpen handle = s.isOpen handle := rfl
    rw [held]
    cases s.isOpen handle <;> rfl

theorem IsCall.follows {kind : SocketCall} {made : Call Simulator α} (isCall : IsCall kind made)
    (s : Simulator) : Follows kind s (made s).2 := by
  cases isCall with
  | of handle work works blind =>
    rw [call_eq]
    cases s.gate kind handle with
    | some fault => exact .inl rfl
    | none =>
      have worked := works (s.entered [kind])
      simp only []
      generalize work (s.entered [kind]) = result at worked
      cases worked with
      | refused uncoded => exact .inl rfl
      | done does => exact .inr does

theorem openSocket_follows (s : Simulator) : Follows .openSocket s (openSocket s).2 :=
  openSocket_isCall.follows s

theorem interfaceIndex_follows (handle : Int32) (name : String) (s : Simulator) :
    Follows .interfaceIndex s (interfaceIndex handle name s).2 :=
  (interfaceIndex_isCall handle name).follows s

theorem setNonblocking_follows (handle : Int32) (s : Simulator) :
    Follows .setNonblocking s (setNonblocking handle s).2 :=
  (setNonblocking_isCall handle).follows s

theorem setFilter_follows (handle : Int32) (filter : Filter) (s : Simulator) :
    Follows .setFilter s (setFilter handle filter s).2 :=
  (setFilter_isCall handle filter).follows s

theorem bind_follows (handle index : Int32) (s : Simulator) :
    Follows .bind s (bind handle index s).2 :=
  (bind_isCall handle index).follows s

theorem poll_follows (handle : Int32) (timeout : Duration) (s : Simulator) :
    Follows .poll s (poll handle timeout s).2 :=
  (poll_isCall handle timeout).follows s

theorem read_follows (handle : Int32) (s : Simulator) : Follows .read s (read handle s).2 :=
  (read_isCall handle).follows s

theorem write_follows (handle : Int32) (frame : Frame) (s : Simulator) :
    Follows .write s (write handle frame s).2 :=
  (write_isCall handle frame).follows s

theorem close_follows (handle : Int32) (s : Simulator) : Follows .close s (close handle s).2 :=
  (close_isCall handle).follows s

end CanBus.Simulator
