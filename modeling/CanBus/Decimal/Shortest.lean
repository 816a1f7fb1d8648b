import CanBus.Text.Digits

namespace CanBus.Decimal

def precision : Nat := 53

def spacing (n : Nat) : Nat :=
  Nat.pow 2 (Nat.log2 n + 1 - precision)

/-- The stored number nearest to `n`; halfway, the one whose last bit is zero. -/
def nearest (n : Nat) : Nat :=
  let step := spacing n
  let quotient := n / step
  let rest := n % step
  if 2 * rest < step then quotient * step
  else if step < 2 * rest then (quotient + 1) * step
  else if quotient % 2 = 0 then quotient * step
  else (quotient + 1) * step

def readsAs (m v : Nat) : Bool := nearest m == v

/-- Of the multiples of `unit`, the one nearest to `v` among those that read back as `v`. -/
def onGrid? (v unit : Nat) : Option Nat :=
  let below := v / unit * unit
  let above := below + unit
  match readsAs below v, readsAs above v with
  | true, true => some (if v - below ≤ above - v then below else above)
  | true, false => some below
  | false, true => some above
  | false, false => none

def shortestFrom (v : Nat) : (places : Nat) → Nat
  | 0 => v
  | places + 1 =>
    match onGrid? v (Nat.pow 10 (places + 1)) with
    | some m => m
    | none => shortestFrom v places

/-- The stored number for `n`, with the fewest digits and zeros in place of the others. -/
def shortest (n : Nat) : Nat :=
  let v := nearest n
  if v = 0 then 0 else shortestFrom v (Text.decimal v).length

theorem spacing_pos (n : Nat) : 0 < spacing n := Nat.two_pow_pos _

theorem nearest_of_dvd {n : Nat} (stored : spacing n ∣ n) : nearest n = n := by
  have none : n % spacing n = 0 := Nat.mod_eq_zero_of_dvd stored
  have positive := spacing_pos n
  rw [nearest, none, if_pos (by omega), Nat.div_mul_cancel stored]

theorem nearest_bounds (n : Nat) :
    spacing n ∣ nearest n ∧ nearest n ≤ Nat.pow 2 (n.log2 + 1) := by
  have above : (n / spacing n + 1) * spacing n ≤ Nat.pow 2 (n.log2 + 1) := by
    have whole : spacing n ∣ Nat.pow 2 (n.log2 + 1) := Nat.pow_dvd_pow 2 (Nat.sub_le _ _)
    have few : n / spacing n < Nat.pow 2 (n.log2 + 1) / spacing n :=
      Nat.div_lt_div_of_lt_of_dvd whole Nat.lt_log2_self
    calc (n / spacing n + 1) * spacing n
        ≤ Nat.pow 2 (n.log2 + 1) / spacing n * spacing n := Nat.mul_le_mul_right _ few
      _ = Nat.pow 2 (n.log2 + 1) := Nat.div_mul_cancel whole
  have below : n / spacing n * spacing n ≤ Nat.pow 2 (n.log2 + 1) :=
    Nat.le_trans (Nat.mul_le_mul_right _ (Nat.le_succ _)) above
  simp only [nearest]
  repeat' split
  · exact ⟨Nat.dvd_mul_left _ _, below⟩
  · exact ⟨Nat.dvd_mul_left _ _, above⟩
  · exact ⟨Nat.dvd_mul_left _ _, below⟩
  · exact ⟨Nat.dvd_mul_left _ _, above⟩

theorem nearest_nearest (n : Nat) : nearest (nearest n) = nearest n := by
  obtain ⟨multiple, most⟩ := nearest_bounds n
  apply nearest_of_dvd
  rcases Nat.lt_or_eq_of_le most with within | power
  · by_cases zero : nearest n = 0
    · rw [zero]
      exact Nat.dvd_zero _
    -- with no more bits than before, the numbers around it are no further apart
    have bits : (nearest n).log2 < n.log2 + 1 := (Nat.log2_lt zero).mpr within
    exact Nat.dvd_trans (Nat.pow_dvd_pow 2 (by omega)) multiple
  · have bits : (Nat.pow 2 (n.log2 + 1)).log2 = n.log2 + 1 := Nat.log2_two_pow
    rw [power, spacing, bits]
    exact Nat.pow_dvd_pow 2 (by simp only [precision]; omega)

theorem nearest_onGrid {v unit m : Nat} (found : onGrid? v unit = some m) : nearest m = v := by
  have reads {n : Nat} (same : readsAs n v = true) : nearest n = v := beq_iff_eq.mp same
  unfold onGrid? at found
  cases low : readsAs (v / unit * unit) v <;> cases high : readsAs (v / unit * unit + unit) v <;>
    simp only [low, high] at found
  case false.false => cases found
  case false.true => exact Option.some.inj found ▸ reads high
  case true.false => exact Option.some.inj found ▸ reads low
  case true.true =>
    obtain rfl := Option.some.inj found
    split
    · exact reads low
    · exact reads high

theorem shortestFrom_succ (v places : Nat) :
    shortestFrom v (places + 1) =
      match onGrid? v (Nat.pow 10 (places + 1)) with
      | some m => m
      | none => shortestFrom v places := by rfl

theorem nearest_shortestFrom {v : Nat} (stored : nearest v = v) (places : Nat) :
    nearest (shortestFrom v places) = v := by
  induction places with
  | zero => exact stored
  | succ places ih =>
    rw [shortestFrom_succ]
    cases found : onGrid? v (Nat.pow 10 (places + 1)) with
    | none => exact ih
    | some m => exact nearest_onGrid found

/-- The digits that are shown tell which number is stored. -/
theorem nearest_shortest (n : Nat) : nearest (shortest n) = nearest n := by
  rw [shortest]
  split
  · rename_i zero
    rw [zero]
    rfl
  · exact nearest_shortestFrom (nearest_nearest n) _

example : shortest (UInt64.size - 1) = 18446744073709552000 := by decide +kernel

end CanBus.Decimal
