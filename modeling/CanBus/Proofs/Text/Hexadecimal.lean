import CanBus.Proofs.Text.Positional
import Mathlib

namespace CanBus.Text

theorem length_digits_le {base : Nat} {digit : Nat → Char} (wide : 2 ≤ base) {n width : Nat}
    (positive : 0 < width) (fits : n < base ^ width) : (digits base digit n).length ≤ width := by
  revert width
  refine digits_induction wide
    (motive := fun n text => ∀ {width}, 0 < width → n < base ^ width → text.length ≤ width) ?_ ?_ n
  · intro d small width positive _
    exact positive
  · intro n d text small front shorter width positive fits
    obtain ⟨rest, rfl⟩ := Nat.exists_eq_succ_of_ne_zero (Nat.ne_of_gt positive)
    rw [Nat.pow_succ] at fits
    have less : n < base ^ rest := Nat.lt_of_mul_lt_mul_right (Nat.lt_of_le_of_lt
      (Nat.le_add_right _ d) fits)
    -- the front is not zero, so it takes a digit of its own
    have left : 0 < rest := by
      apply Nat.pos_of_ne_zero
      rintro rfl
      rw [Nat.pow_zero] at less
      omega
    have bound := shorter left less
    rw [List.length_append, List.length_singleton]
    omega

def upperDigits : List Char :=
  ['0', '1', '2', '3', '4', '5', '6', '7', '8', '9', 'A', 'B', 'C', 'D', 'E', 'F']

theorem mem_upperDigits {d : Nat} (small : d < 16) : upperDigit d ∈ upperDigits := by
  have cases : ∀ d : Fin 16, upperDigit d.val ∈ upperDigits := by decide
  exact cases ⟨d, small⟩

theorem idxOf_upperDigit {d : Nat} (small : d < 16) : upperDigits.idxOf (upperDigit d) = d := by
  have cases : ∀ d : Fin 16, upperDigits.idxOf (upperDigit d.val) = d.val := by decide
  exact cases ⟨d, small⟩

/-- So many upper-case digits of base sixteen, which are those of the number. -/
structure UpperHex (width n : Nat) (text : List Char) : Prop where
  length : text.length = width
  upper : ∀ c ∈ text, c ∈ upperDigits
  value : text.foldl (fun n c => n * 16 + upperDigits.idxOf c) 0 = n

theorem upperHex_hexPadded {width n : Nat} (positive : 0 < width) (fits : n < 16 ^ width) :
    UpperHex width n (hexPadded upperDigit width n) := by
  have short : (digits 16 upperDigit n).length ≤ width := length_digits_le (by decide) positive fits
  have value : (digits 16 upperDigit n).foldl (fun n c => n * 16 + upperDigits.idxOf c) 0 = n := by
    apply foldl_digits (by decide)
    intro front d small
    rw [idxOf_upperDigit small]
  refine ⟨?length, ?upper, ?value⟩
  case length =>
    simp only [hexPadded, List.length_append, List.length_replicate]
    omega
  case upper =>
    intro c member
    rcases List.mem_append.mp member with filling | own
    · rw [List.eq_of_mem_replicate filling]
      exact mem_upperDigits (d := 0) (by decide)
    · exact forall_digits (by decide) (fun d small => mem_upperDigits small) n c own
  case value =>
    have zeros (count : Nat) : (List.replicate count '0').foldl
        (fun n c => n * 16 + upperDigits.idxOf c) 0 = 0 := by
      induction count with
      | zero => rfl
      | succ count ih => exact ih
    rw [hexPadded, List.foldl_append, zeros, value]

end CanBus.Text
