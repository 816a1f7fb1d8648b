import CanBus.Bench.Step

namespace CanBus

namespace Channel

variable {σ : Type} {layer : Layer σ} {c : Channel} {host : Host σ}

theorem handle_wait (timeout : Option Duration) :
    (c.wait layer timeout host).2.1.handle = c.handle := by
  unfold wait settle
  split
  · simp only []
    split <;> rfl
  · rfl

theorem handle_receiveBatch : (c.receiveBatch layer host).2.1.handle = c.handle := by
  unfold receiveBatch
  split
  · simp only []
    split <;> rfl
  · rfl

theorem handle_setFilter (mask id : UInt32) :
    (c.setFilter layer mask id host).2.1.handle = c.handle := by
  unfold setFilter installFilter
  split
  · simp only []
    split <;> rfl
  · rfl

end Channel

namespace Bench

variable {b : Bench}

theorem channel?_vacate_self (slot : Nat) (b : Bench) : (b.vacate slot).channel? slot = none := by
  apply List.lookup_eq_none_iff.mpr
  intro entry member
  have kept : (entry.1 != slot) = true := (List.mem_filter.mp member).2
  exact bne_iff_ne.mpr (bne_iff_ne.mp kept).symm

theorem channel?_vacate_ne {slot other : Nat} (different : other ≠ slot) (b : Bench) :
    (b.vacate slot).channel? other = b.channel? other := by
  unfold channel? vacate
  induction b.slots with
  | nil => rfl
  | cons entry rest ih =>
    obtain ⟨key, c⟩ := entry
    by_cases vacated : key = slot
    · subst vacated
      have missed : (other == key) = false := beq_eq_false_iff_ne.mpr different
      simp only [List.filter_cons, bne_self_eq_false, Bool.false_eq_true, if_false, ih,
        List.lookup_cons, missed]
    · simp only [List.filter_cons, bne_iff_ne, ne_eq, vacated, not_false_eq_true, if_true,
        List.lookup_cons, ih]

theorem channel?_vacate (slot other : Nat) (b : Bench) :
    (b.vacate slot).channel? other = if other = slot then none else b.channel? other := by
  by_cases same : other = slot
  · rw [if_pos same, same, channel?_vacate_self]
  · rw [if_neg same, channel?_vacate_ne same]

theorem channel?_put (slot other : Nat) (c : Channel) (b : Bench) :
    (b.put slot c).channel? other = if other = slot then some c else b.channel? other := by
  by_cases same : other = slot
  · rw [if_pos same, same]
    exact List.lookup_cons_self
  · have missed : (other == slot) = false := beq_eq_false_iff_ne.mpr same
    have rest := channel?_vacate_ne same b
    rw [if_neg same, ← rest]
    simp only [channel?, put, List.lookup_cons, missed]

theorem channel?_dropSlot (slot other : Nat) (b : Bench) :
    (b.dropSlot slot).channel? other = if other = slot then none else b.channel? other := by
  unfold dropSlot
  cases found : b.channel? slot with
  | none =>
    by_cases same : other = slot
    · simp [same, found]
    · simp [same]
  | some c => exact channel?_vacate slot other b

theorem step_absent {slot : Nat} (absent : b.channel? slot = none) (step : ChannelStep) :
    b.step (.channel slot step) = (.noChannel, b) := by
  simp only [Bench.step, absent]

theorem step_found {slot : Nat} {c : Channel} (found : b.channel? slot = some c)
    (step : ChannelStep) : b.step (.channel slot step) = b.channelStep slot c step := by
  simp only [Bench.step, found]

end Bench

end CanBus
