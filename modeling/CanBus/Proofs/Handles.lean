import CanBus.Proofs.Upkeep
import Mathlib

namespace CanBus

namespace Simulator

structure Numbered (count : Nat) (s : Simulator) : Prop where
  next : s.nextHandle.toInt = 3 + count
  bounds : ∀ handle ∈ s.openHandles, 3 ≤ handle.toInt ∧ handle.toInt < 3 + count

theorem Numbered.unused {count : Nat} {s : Simulator} (numbered : s.Numbered count) :
    s.nextHandle ∉ s.openHandles := by
  intro member
  have bound := (numbered.bounds _ member).2
  rw [numbered.next] at bound
  omega

theorem Numbered.proper {count : Nat} {s : Simulator} (numbered : s.Numbered count) :
    ¬ s.nextHandle < 0 := by
  rw [Int32.lt_iff_toInt_lt, numbered.next, Int32.toInt_zero]
  omega

theorem toInt_succ {handle : Int32} (room : handle.toInt < 2 ^ 31 - 1) :
    (handle + 1).toInt = handle.toInt + 1 := by
  have least := handle.le_toInt
  have one : (1 : Int32).toInt = 1 := by decide
  rw [Int32.toInt_add, one]
  -- below the largest number the sum does not wrap around
  apply Int.bmod_eq_of_le <;> omega

def Unopened (next : Int32) (handles : List Int32) (s : Simulator) : Prop :=
  s.nextHandle = next ∧ s.openHandles ⊆ handles

theorem Unopened.numbered {count : Nat} {before after : Simulator}
    (same : after.Unopened before.nextHandle before.openHandles)
    (numbered : before.Numbered count) : after.Numbered count where
  next := by rw [same.1, numbered.next]
  bounds := fun handle member => numbered.bounds handle (same.2 member)

theorem Unopened.numbered_succ {count : Nat} {before after : Simulator}
    (opened : after.Unopened (before.nextHandle + 1) (before.nextHandle :: before.openHandles))
    (numbered : before.Numbered count) (room : count < 2 ^ 31 - 4) :
    after.Numbered (count + 1) where
  next := by
    have next := numbered.next
    rw [opened.1, toInt_succ (by omega), next]
    omega
  bounds := by
    intro handle member
    rcases List.mem_cons.mp (opened.2 member) with rfl | old
    · have next := numbered.next
      omega
    · have bounds := numbered.bounds handle old
      omega

def Retired (handle : Int32) (s : Simulator) : Prop :=
  handle.toInt < s.nextHandle.toInt ∧ handle ∉ s.openHandles

theorem Numbered.retired {count : Nat} {s : Simulator} {handle : Int32}
    (numbered : s.Numbered count) (below : handle.toInt < 3 + count)
    (isClosed : handle ∉ s.openHandles) : s.Retired handle :=
  ⟨by rw [numbered.next]; exact below, isClosed⟩

theorem Unopened.retired {before after : Simulator} {handle : Int32}
    (same : after.Unopened before.nextHandle before.openHandles) (retired : before.Retired handle) :
    after.Retired handle :=
  ⟨by rw [same.1]; exact retired.1, fun member => retired.2 (same.2 member)⟩

theorem Unopened.retired_succ {count : Nat} {before after : Simulator} {handle : Int32}
    (opened : after.Unopened (before.nextHandle + 1) (before.nextHandle :: before.openHandles))
    (numbered : before.Numbered count) (room : count < 2 ^ 31 - 4)
    (retired : before.Retired handle) : after.Retired handle := by
  have next := (opened.numbered_succ numbered room).next
  have below := retired.1
  rw [numbered.next] at below
  refine ⟨by omega, ?_⟩
  intro member
  rcases List.mem_cons.mp (opened.2 member) with rfl | old
  · exact absurd retired.1 (Int.lt_irrefl _)
  · exact retired.2 old

theorem unopened_keeps {next : Int32} {handles : List Int32} (kind : SocketCall)
    (other : kind ≠ .openSocket) : layer.Keeps (Unopened next handles) kind := by
  apply layer_keeps
  · exact fun _ holds => holds
  · intro before after does holds
    have leaves := does.leaves
    exact ⟨(leaves.nextHandle other).trans holds.1,
      fun _ member => holds.2 (leaves.noneOpened other member)⟩

theorem openSocket_failed {s : Simulator} {code : Int32}
    (set : s.failures .openSocket = some code) :
    openSocket s = (.error (.errno code), s.entered [.openSocket]) :=
  call_injected set

def opened (s : Simulator) : Simulator :=
  { s.entered [.openSocket] with
    nextHandle := s.nextHandle + 1
    openHandles := s.openHandles ++ [s.nextHandle] }

theorem openSocket_made {s : Simulator} (unset : s.failures .openSocket = none) :
    openSocket s = (.ok s.nextHandle, s.opened) := by
  unfold openSocket
  rw [call_free unset]
  rfl

end Simulator

namespace Bench

theorem script_unopened (script : ScriptStep) (s : Simulator) :
    (scriptStep script s).2.Unopened s.nextHandle s.openHandles := by
  cases script <;> exact ⟨rfl, List.Subset.refl _⟩

/-- How many new sockets the steps get. -/
def opens : List Step → Bench → Nat
  | [], _ => 0
  | step :: rest, b =>
    (if .openSocket ∈ step.calls ∧ b.host.net.failures .openSocket = none then 1 else 0)
      + opens rest (b.step step).2

/-- A step opens no handle but the next one, and that one only if it gets a new socket. -/
theorem step_unopened (step : Step) (b : Bench) :
    if .openSocket ∈ step.calls ∧ b.host.net.failures .openSocket = none then
      (b.step step).2.host.net.Unopened (b.host.net.nextHandle + 1)
        (b.host.net.nextHandle :: b.host.net.openHandles)
    else (b.step step).2.host.net.Unopened b.host.net.nextHandle b.host.net.openHandles := by
  have before : b.host.net.Unopened b.host.net.nextHandle b.host.net.openHandles :=
    ⟨rfl, List.Subset.refl _⟩
  by_cases asks : .openSocket ∈ step.calls
  · cases set : b.host.net.failures .openSocket with
    | some code =>
      simp only [reduceCtorEq, and_false, if_false]
      apply opening_keeps asks _ fun kind _ => Simulator.unopened_keeps kind
      rw [Simulator.openSocket_failed set]
      exact before
    | none =>
      simp only [asks, and_self, if_true]
      apply opening_keeps asks _ fun kind _ => Simulator.unopened_keeps kind
      rw [Simulator.openSocket_made set]
      refine ⟨rfl, ?_⟩
      intro handle member
      rcases List.mem_append.mp member with old | new
      · exact List.mem_cons_of_mem _ old
      · exact List.mem_cons.mpr (.inl (List.mem_singleton.mp new))
  · simp only [asks, false_and, if_false]
    refine unopening_keeps asks ?_ (fun _ _ holds => holds)
      (fun script _ => script_unopened script _) before
    intro kind member
    exact Simulator.unopened_keeps kind fun same => asks (same ▸ member)

theorem step_numbered {count : Nat} {b : Bench} (step : Step) (numbered : b.host.net.Numbered count)
    (room : count < 2 ^ 31 - 4) :
    (b.step step).2.host.net.Numbered
      (count +
        if .openSocket ∈ step.calls ∧ b.host.net.failures .openSocket = none then 1 else 0) := by
  have after := step_unopened step b
  split at after <;> rename_i gets
  · rw [if_pos gets]
    exact after.numbered_succ numbered room
  · rw [if_neg gets]
    exact after.numbered numbered

theorem run_numbered {count : Nat} {b : Bench} (steps : List Step)
    (numbered : b.host.net.Numbered count) (room : count + opens steps b < 2 ^ 31 - 4) :
    (b.run steps).host.net.Numbered (count + opens steps b) := by
  induction steps generalizing b count with
  | nil => exact numbered
  | cons step rest ih =>
    simp only [opens] at room ⊢
    rw [← Nat.add_assoc] at room ⊢
    have bound : count < 2 ^ 31 - 4 := by omega
    exact ih (step_numbered step numbered bound) room

theorem start_numbered (interfaces : List (String × Int32)) (metered : Bool) :
    (start interfaces metered).host.net.Numbered 0 := by
  obtain ⟨known, net⟩ := start_net interfaces metered
  have next : Simulator.start.nextHandle.toInt = 3 := by decide
  rw [net]
  exact ⟨next, fun _ member => nomatch member⟩

theorem opens_append (first second : List Step) (b : Bench) :
    opens (first ++ second) b = opens first b + opens second (b.run first) := by
  induction first generalizing b with
  | nil => exact (Nat.zero_add _).symm
  | cons step rest ih =>
    simp only [List.cons_append, opens, ih, Nat.add_assoc]
    rfl

theorem reached_numbered (interfaces : List (String × Int32)) (metered : Bool) (steps : List Step)
    (few : opens steps (start interfaces metered) < 2 ^ 31 - 4) :
    ((start interfaces metered).run steps).host.net.Numbered
      (opens steps (start interfaces metered)) := by
  have numbered := run_numbered steps (start_numbered interfaces metered) (by omega)
  rwa [Nat.zero_add] at numbered

theorem step_retired {count : Nat} {b : Bench} {handle : Int32} (step : Step)
    (numbered : b.host.net.Numbered count) (room : count < 2 ^ 31 - 4)
    (retired : b.host.net.Retired handle) : (b.step step).2.host.net.Retired handle := by
  have after := step_unopened step b
  split at after
  · exact after.retired_succ numbered room retired
  · exact after.retired retired

theorem run_retired {count : Nat} {b : Bench} {handle : Int32} (steps : List Step)
    (numbered : b.host.net.Numbered count) (room : count + opens steps b < 2 ^ 31 - 4)
    (retired : b.host.net.Retired handle) : (b.run steps).host.net.Retired handle := by
  induction steps generalizing b count with
  | nil => exact retired
  | cons step rest ih =>
    simp only [opens] at room
    rw [← Nat.add_assoc] at room
    have bound : count < 2 ^ 31 - 4 := by omega
    exact ih (step_numbered step numbered bound) room (step_retired step numbered bound retired)

end Bench

end CanBus
