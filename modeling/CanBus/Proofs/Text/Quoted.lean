import CanBus.Text.Quoted
import Mathlib.Data.List.Chain

namespace CanBus.Text

variable {ranges : Array (Nat × Nat)}

def Before (r s : Nat × Nat) : Prop := r.1 ≤ r.2 ∧ r.2 < s.1

instance : DecidableRel Before := fun r s => inferInstanceAs (Decidable (r.1 ≤ r.2 ∧ r.2 < s.1))

instance : IsTrans (Nat × Nat) Before where
  trans r s t first second := by
    obtain ⟨start, behind⟩ := first
    obtain ⟨span, further⟩ := second
    exact ⟨start, by omega⟩

theorem eq_or_before (ordered : ranges.toList.IsChain Before) {i j : Nat} {r s : Nat × Nat}
    (le : i ≤ j) (here : ranges[i]? = some r) (there : ranges[j]? = some s) :
    r = s ∨ Before r s := by
  rcases Nat.lt_or_eq_of_le le with less | rfl
  · right
    rw [List.isChain_iff_pairwise, List.pairwise_iff_getElem] at ordered
    obtain ⟨inside, rfl⟩ := Array.getElem?_eq_some_iff.mp here
    obtain ⟨within, rfl⟩ := Array.getElem?_eq_some_iff.mp there
    exact ordered i j inside within less
  · exact .inl (Option.some.inj (here.symm.trans there))

theorem inRanges_iff (ordered : ranges.toList.IsChain Before) {code steps low high : Nat}
    (few : high - low < steps) (inside : high ≤ ranges.size) :
    inRanges ranges code steps low high = true ↔
      ∃ i r, low ≤ i ∧ i < high ∧ ranges[i]? = some r ∧ r.1 ≤ code ∧ code ≤ r.2 := by
  induction steps generalizing low high with
  | zero => omega
  | succ steps ih =>
    rw [inRanges]
    by_cases nonempty : low < high
    · have middle : (low + high) / 2 < ranges.size := by omega
      obtain ⟨⟨first, last⟩, found⟩ : ∃ r, ranges[(low + high) / 2]? = some r :=
        ⟨_, Array.getElem?_eq_getElem middle⟩
      simp only [if_pos nonempty, found]
      by_cases before : code < first
      · rw [if_pos before, ih (by omega) (by omega)]
        constructor
        · rintro ⟨i, r, least, most, rest⟩
          exact ⟨i, r, least, by omega, rest⟩
        · rintro ⟨i, r, least, most, here, start, stop⟩
          have below : i < (low + high) / 2 := by
            by_contra above
            rcases eq_or_before ordered (Nat.le_of_not_lt above) found here with
              rfl | ⟨span, behind⟩ <;> simp only at * <;> omega
          exact ⟨i, r, least, below, here, start, stop⟩
      rw [if_neg before]
      by_cases after : last < code
      · rw [if_pos after, ih (by omega) inside]
        constructor
        · rintro ⟨i, r, least, rest⟩
          exact ⟨i, r, by omega, rest⟩
        · rintro ⟨i, r, least, most, here, start, stop⟩
          have above : (low + high) / 2 < i := by
            by_contra below
            rcases eq_or_before ordered (Nat.le_of_not_lt below) here found with
              rfl | ⟨span, behind⟩ <;> simp only at * <;> omega
          exact ⟨i, r, above, most, here, start, stop⟩
      · rw [if_neg after]
        exact iff_of_true rfl ⟨_, _, by omega, by omega, found, Nat.le_of_not_lt before,
          Nat.le_of_not_lt after⟩
    · rw [if_neg nonempty]
      refine iff_of_false Bool.false_ne_true ?_
      rintro ⟨i, r, least, most, _⟩
      omega

theorem member_iff (ordered : ranges.toList.IsChain Before) (c : Char) :
    member ranges c = true ↔ ∃ r ∈ ranges, r.1 ≤ c.toNat ∧ c.toNat ≤ r.2 := by
  rw [member, inRanges_iff ordered (by omega) (Nat.le_refl _)]
  constructor
  · rintro ⟨i, r, -, -, here, within⟩
    exact ⟨r, Array.mem_of_getElem? here, within⟩
  · rintro ⟨r, listed, within⟩
    obtain ⟨i, here⟩ := Array.getElem?_of_mem listed
    obtain ⟨inside, _⟩ := Array.getElem?_eq_some_iff.mp here
    exact ⟨i, r, Nat.zero_le _, inside, here, within⟩

/-- The search through either table misses none of its ranges. -/
theorem hidden_iff (c : Char) :
    hidden c = true ↔
      ∃ r, (r ∈ unprintableRanges ∨ r ∈ extendingRanges) ∧ r.1 ≤ c.toNat ∧ c.toNat ≤ r.2 := by
  have unprintable : unprintableRanges.toList.IsChain Before := by decide +kernel
  have extending : extendingRanges.toList.IsChain Before := by decide +kernel
  rw [hidden, Bool.or_eq_true, member_iff unprintable, member_iff extending, ← exists_or]
  simp only [or_and_right]

-- Letters that only fill a place are hidden, the halfwidth voicing marks are not.
example : hidden '\u3164' = true ∧ hidden '\uff9e' = false := by decide +kernel

end CanBus.Text
