namespace CanBus.Text

def upperDigit (value : Nat) : Char :=
  if value < 10 then Char.ofNat (48 + value) else Char.ofNat (55 + value)

def lowerDigit (value : Nat) : Char :=
  if value < 10 then Char.ofNat (48 + value) else Char.ofNat (87 + value)

/-- The digits of `n` in a base of two or more. None is a leading zero unless `n` is zero. -/
def digits (base : Nat) (digit : Nat → Char) (n : Nat) : List Char :=
  if n < base ∨ base < 2 then [digit n] else digits base digit (n / base) ++ [digit (n % base)]
termination_by n
decreasing_by exact Nat.div_lt_self (by omega) (by omega)

def decimal (n : Nat) : List Char := digits 10 lowerDigit n

def ofNat (n : Nat) : String := String.ofList (decimal n)

def signedDecimal : Int → List Char
  | .ofNat n => decimal n
  | .negSucc n => '-' :: decimal (n + 1)

def ofInt (n : Int) : String := String.ofList (signedDecimal n)

def hexPadded (digit : Nat → Char) (width n : Nat) : List Char :=
  let found := digits 16 digit n
  List.replicate (width - found.length) '0' ++ found

def hexLiteral (n : Nat) : String :=
  "0x" ++ String.ofList (digits 16 lowerDigit n)

def hexValue? (c : Char) : Option Nat :=
  if '0' ≤ c ∧ c ≤ '9' then some (c.toNat - 48)
  else if 'a' ≤ c ∧ c ≤ 'f' then some (c.toNat - 87)
  else if 'A' ≤ c ∧ c ≤ 'F' then some (c.toNat - 55)
  else none

theorem digits_small {base : Nat} (digit : Nat → Char) {n : Nat} (small : n < base) :
    digits base digit n = [digit n] := by
  rw [digits]
  exact if_pos (Or.inl small)

theorem digits_large {base : Nat} (digit : Nat → Char) {n : Nat} (large : base ≤ n)
    (wide : 2 ≤ base) :
    digits base digit n = digits base digit (n / base) ++ [digit (n % base)] := by
  rw [digits]
  exact if_neg (by omega)

theorem digits_ne_nil (base : Nat) (digit : Nat → Char) (n : Nat) :
    digits base digit n ≠ [] := by
  rw [digits]
  split
  · exact List.cons_ne_nil _ _
  · exact List.append_ne_nil_of_right_ne_nil _ (List.cons_ne_nil _ _)

theorem hexValue?_lowerDigit {value : Nat} (small : value < 16) :
    hexValue? (lowerDigit value) = some value := by
  have cases : ∀ v : Fin 16, hexValue? (lowerDigit v.val) = some v.val := by decide
  exact cases ⟨value, small⟩

end CanBus.Text
