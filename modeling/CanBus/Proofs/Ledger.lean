import Mathlib.Logic.Function.Basic

namespace CanBus

/-- The handle held in each slot, the open handles, and the handles that were left open when their
holder went away. Minus one stands for no socket. -/
structure Ledger (held : Nat → Option Int32) (handles : List Int32) (left : Int32 → Prop) :
    Prop where
  real : ∀ handle ∈ handles, ¬ handle < 0
  proper : ∀ slot handle, held slot = some handle → handle = -1 ∨ handle ∈ handles
  apart : ∀ slot other handle, held slot = some handle → held other = some handle →
    handle ∈ handles → slot = other
  accounted : ∀ handle ∈ handles, (∃ slot, held slot = some handle) ∨ left handle

namespace Ledger

open Function (update update_self update_of_ne)

variable {held : Nat → Option Int32} {handles : List Int32} {left : Int32 → Prop}
variable {slot : Nat} {handle : Int32}

theorem mono {more : Int32 → Prop} (ledger : Ledger held handles left)
    (wider : ∀ handle ∈ handles, left handle → more handle) : Ledger held handles more where
  real := ledger.real
  proper := ledger.proper
  apart := ledger.apart
  accounted := fun handle member => (ledger.accounted handle member).imp_right (wider handle member)

theorem ne_none (ledger : Ledger held handles left) (member : handle ∈ handles) : handle ≠ -1 := by
  rintro rfl
  exact ledger.real (-1) member (by decide)

theorem unheld {next : Int32} (ledger : Ledger held handles left) (unused : next ∉ handles)
    (real : ¬ next < 0) (slot : Nat) : held slot ≠ some next := by
  intro holds
  rcases ledger.proper slot next holds with rfl | member
  · exact real (by decide)
  · exact unused member

theorem opened {next : Int32} (ledger : Ledger held handles left) (unused : next ∉ handles)
    (real : ¬ next < 0) :
    Ledger held (handles ++ [next]) fun handle => left handle ∨ handle = next where
  real := by
    intro handle member
    rcases List.mem_append.mp member with old | new
    · exact ledger.real handle old
    · rwa [List.mem_singleton.mp new]
  proper := fun slot handle holds =>
    (ledger.proper slot handle holds).imp_right (List.mem_append_left [next])
  apart := by
    intro slot other handle holds others member
    rcases List.mem_append.mp member with old | new
    · exact ledger.apart slot other handle holds others old
    · rw [List.mem_singleton.mp new] at holds
      exact absurd holds (ledger.unheld unused real slot)
  accounted := by
    intro handle member
    rcases List.mem_append.mp member with old | new
    · exact (ledger.accounted handle old).imp_right .inl
    · exact .inr (.inr (List.mem_singleton.mp new))

theorem seated {next : Int32}
    (ledger : Ledger held handles fun handle => left handle ∨ handle = next)
    (vacant : held slot = none) (member : next ∈ handles)
    (free : ∀ slot, held slot ≠ some next) :
    Ledger (update held slot (some next)) handles left where
  real := ledger.real
  proper := by
    intro other handle holds
    by_cases same : other = slot
    · rw [same, update_self] at holds
      exact .inr (Option.some.inj holds ▸ member)
    · rw [update_of_ne same] at holds
      exact ledger.proper other handle holds
  apart := by
    intro first second handle holds others member
    by_cases here : first = slot <;> by_cases there : second = slot
    · rw [here, there]
    · rw [here, update_self] at holds
      rw [update_of_ne there] at others
      exact absurd (others.trans holds.symm) (free second)
    · rw [there, update_self] at others
      rw [update_of_ne here] at holds
      exact absurd (holds.trans others.symm) (free first)
    · rw [update_of_ne here] at holds
      rw [update_of_ne there] at others
      exact ledger.apart first second handle holds others member
  accounted := by
    intro handle member
    by_cases new : handle = next
    · exact .inl ⟨slot, by rw [update_self, new]⟩
    · rcases ledger.accounted handle member with ⟨other, holds⟩ | old | same
      · have elsewhere : other ≠ slot := by
          rintro rfl
          rw [vacant] at holds
          nomatch holds
        exact .inl ⟨other, by rw [update_of_ne elsewhere, holds]⟩
      · exact .inr old
      · exact absurd same new

theorem abandoned (ledger : Ledger held handles left) (slot : Nat) :
    Ledger (update held slot none) handles fun handle =>
      left handle ∨ held slot = some handle where
  real := ledger.real
  proper := by
    intro other handle holds
    by_cases same : other = slot
    · rw [same, update_self] at holds
      nomatch holds
    · rw [update_of_ne same] at holds
      exact ledger.proper other handle holds
  apart := by
    intro first second handle holds others member
    by_cases here : first = slot
    · rw [here, update_self] at holds
      nomatch holds
    · by_cases there : second = slot
      · rw [there, update_self] at others
        nomatch others
      · rw [update_of_ne here] at holds
        rw [update_of_ne there] at others
        exact ledger.apart first second handle holds others member
  accounted := by
    intro handle member
    rcases ledger.accounted handle member with ⟨other, holds⟩ | old
    · by_cases same : other = slot
      · exact .inr (.inr (same ▸ holds))
      · exact .inl ⟨other, by rw [update_of_ne same, holds]⟩
    · exact .inr (.inl old)

theorem closed (ledger : Ledger held handles fun other => left other ∨ other = handle)
    (free : ∀ slot, held slot ≠ some handle) :
    Ledger held (handles.filter (· != handle)) left where
  real := fun other member => ledger.real other (List.mem_filter.mp member).1
  proper := by
    intro slot other holds
    have different : other ≠ handle := fun same => free slot (same ▸ holds)
    refine (ledger.proper slot other holds).imp_right fun member => ?_
    exact List.mem_filter.mpr ⟨member, by simpa using different⟩
  apart := fun slot other handle holds others member =>
    ledger.apart slot other handle holds others (List.mem_filter.mp member).1
  accounted := by
    intro other member
    obtain ⟨old, different⟩ := List.mem_filter.mp member
    rcases ledger.accounted other old with holds | was | same
    · exact .inl holds
    · exact .inr was
    · simp [same] at different

theorem released (ledger : Ledger held handles left) (holds : held slot = some handle)
    (member : handle ∈ handles) :
    Ledger (update held slot none) (handles.filter (· != handle)) left := by
  have gone : Ledger (update held slot none) handles fun other => left other ∨ other = handle := by
    refine (ledger.abandoned slot).mono fun other _ was => was.imp_right fun had => ?_
    exact Option.some.inj (had.symm.trans holds)
  apply gone.closed
  intro other others
  by_cases same : other = slot
  · rw [same, update_self] at others
    nomatch others
  · rw [update_of_ne same] at others
    exact same (ledger.apart other slot handle others holds member)

theorem idled (ledger : Ledger held handles left) (vacant : held slot = none) :
    Ledger (update held slot (some (-1))) handles left where
  real := ledger.real
  proper := by
    intro other handle holds
    by_cases same : other = slot
    · rw [same, update_self] at holds
      exact .inl (Option.some.inj holds).symm
    · rw [update_of_ne same] at holds
      exact ledger.proper other handle holds
  apart := by
    intro first second handle holds others member
    have elsewhere {other : Nat} (holds : update held slot (some (-1)) other = some handle) :
        held other = some handle := by
      by_cases same : other = slot
      · rw [same, update_self] at holds
        exact absurd (Option.some.inj holds).symm (ledger.ne_none member)
      · rwa [update_of_ne same] at holds
    exact ledger.apart first second handle (elsewhere holds) (elsewhere others) member
  accounted := by
    intro handle member
    refine (ledger.accounted handle member).imp_left ?_
    rintro ⟨other, holds⟩
    refine ⟨other, ?_⟩
    rwa [update_of_ne]
    rintro rfl
    rw [vacant] at holds
    nomatch holds

end Ledger

end CanBus
