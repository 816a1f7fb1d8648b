import CanBus.Proofs.Text.Positional

namespace CanBus.Text

theorem decimal_induction {motive : Nat → List Char → Prop}
    (one : ∀ d, d < 10 → motive d [lowerDigit d])
    (more : ∀ n d text, d < 10 → 0 < n → motive n text → motive (n * 10 + d) (text ++ [lowerDigit d]))
    (n : Nat) : motive n (decimal n) :=
  digits_induction (by decide) one more n

theorem foldl_decimal {step : Nat → Char → Nat}
    (digit : ∀ n d, d < 10 → step n (lowerDigit d) = n * 10 + d) (n : Nat) :
    (decimal n).foldl step 0 = n :=
  foldl_digits (by decide) digit n

theorem forall_decimal {p : Char → Prop} (digit : ∀ d, d < 10 → p (lowerDigit d)) (n : Nat) :
    ∀ c ∈ decimal n, p c :=
  forall_digits (by decide) digit n

theorem decimal_head {p : Char → Prop} (digit : ∀ d, d < 10 → p (lowerDigit d)) (n : Nat)
    (rest : List Char) : ∃ c more, decimal n ++ rest = c :: more ∧ p c := by
  have all := forall_decimal digit n
  have nonempty : decimal n ≠ [] := digits_ne_nil _ _ _
  cases shape : decimal n with
  | nil => contradiction
  | cons c more => exact ⟨c, more ++ rest, rfl, all c (shape ▸ List.mem_cons_self)⟩

theorem ofNat_eq_repr (n : Nat) : ofNat n = n.repr := by
  have digit : ∀ d < 10, lowerDigit d = d.digitChar := by decide
  refine congrArg String.ofList
    (decimal_induction (motive := fun n text => text = Nat.toDigits 10 n) ?_ ?_ n)
  · intro d small
    rw [Nat.toDigits_of_lt_base small, digit d small]
  · intro n d text small positive same
    have front : (n * 10 + d) / 10 = n := by omega
    have last : (n * 10 + d) % 10 = d := by omega
    rw [Nat.toDigits_of_base_le (by decide) (by omega), front, last, same, digit d small]

theorem decimal_zero : decimal 0 = ['0'] := by
  rw [decimal, digits_small _ (by decide)]
  decide

theorem decimal_positive {n : Nat} (positive : 0 < n) :
    ∃ c rest, decimal n = c :: rest ∧ c ≠ '0' := by
  have leading : ∀ d : Fin 10, 0 < d.val → lowerDigit d.val ≠ '0' := by decide
  refine decimal_induction
    (motive := fun n text => 0 < n → ∃ c rest, text = c :: rest ∧ c ≠ '0') ?_ ?_ n positive
  · intro d small positive
    exact ⟨_, _, rfl, leading ⟨d, small⟩ positive⟩
  · intro n d text _ positive first _
    obtain ⟨c, rest, shape, other⟩ := first positive
    exact ⟨c, rest ++ [lowerDigit d], by rw [shape, List.cons_append], other⟩

end CanBus.Text
