import CanBus.Text.Digits

namespace CanBus.Text

variable {base : Nat} {digit : Nat → Char}

theorem digits_induction (wide : 2 ≤ base) {motive : Nat → List Char → Prop}
    (one : ∀ d, d < base → motive d [digit d])
    (more : ∀ n d text, d < base → 0 < n → motive n text →
      motive (n * base + d) (text ++ [digit d])) (n : Nat) : motive n (digits base digit n) := by
  induction n using Nat.strongRecOn with
  | ind n ih =>
    by_cases small : n < base
    · rw [digits_small _ small]
      exact one n small
    · have large : base ≤ n := Nat.not_lt.mp small
      have last : n % base < base := Nat.mod_lt n (by omega)
      have front : 0 < n / base := Nat.div_pos large (by omega)
      have fewer : n / base < n := Nat.div_lt_self (by omega) wide
      have longer := more (n / base) (n % base) _ last front (ih (n / base) fewer)
      rw [Nat.div_add_mod' n base] at longer
      rw [digits_large _ large wide]
      exact longer

/-- What a reader that takes the digits of a number one by one is left with. -/
theorem foldl_digits (wide : 2 ≤ base) {step : Nat → Char → Nat}
    (reads : ∀ n d, d < base → step n (digit d) = n * base + d) (n : Nat) :
    (digits base digit n).foldl step 0 = n := by
  refine digits_induction wide (motive := fun n text => text.foldl step 0 = n) ?_ ?_ n
  · intro d small
    rw [List.foldl_cons, List.foldl_nil, reads 0 d small]
    omega
  · intro n d text small _ value
    rw [List.foldl_append, value, List.foldl_cons, List.foldl_nil, reads n d small]

theorem forall_digits (wide : 2 ≤ base) {p : Char → Prop} (each : ∀ d, d < base → p (digit d))
    (n : Nat) : ∀ c ∈ digits base digit n, p c := by
  refine digits_induction wide (motive := fun _ text => ∀ c ∈ text, p c) ?_ ?_ n
  · intro d small c member
    rw [List.mem_singleton.mp member]
    exact each d small
  · intro n d text small _ front c member
    rcases List.mem_append.mp member with early | last
    · exact front c early
    · rw [List.mem_singleton.mp last]
      exact each d small

end CanBus.Text
