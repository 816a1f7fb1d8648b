import CanBus.Text.Digits

namespace CanBus

structure Duration where
  nanos : Nat
  bound : nanos < UInt64.size * 1000000000
deriving DecidableEq

namespace Duration

def zero : Duration := ⟨0, by decide⟩

instance : Inhabited Duration := ⟨zero⟩

def ofParts (seconds : UInt64) (fraction : Fin 1000000000) : Duration :=
  ⟨seconds.toNat * 1000000000 + fraction.val, by have := seconds.toNat_lt_size; omega⟩

def ofMillis (millis : UInt64) : Duration :=
  ⟨millis.toNat * 1000000, by have := millis.toNat_lt_size; omega⟩

def seconds (d : Duration) : Nat := d.nanos / 1000000000

def fraction (d : Duration) : Nat := d.nanos % 1000000000

/-- Whole milliseconds, rounded down and capped at the largest 64-bit number. -/
def toMillis (d : Duration) : UInt64 :=
  UInt64.ofNat (min (d.nanos / 1000000) (UInt64.size - 1))

def shorter (a b : Duration) : Duration :=
  if a.nanos ≤ b.nanos then a else b

/-- `whole` and the decimal places of `part` without trailing zeros; the point goes with the last
of them. -/
private def decimalText (whole part places : Nat) : String :=
  let digits := Text.decimal part
  let padded := List.replicate (places - digits.length) '0' ++ digits
  let kept := (padded.reverse.dropWhile (· == '0')).reverse
  if kept.isEmpty then Text.ofNat whole else Text.ofNat whole ++ "." ++ String.ofList kept

def text (d : Duration) : String :=
  if 0 < d.seconds then decimalText d.seconds d.fraction 9 ++ "s"
  else if 1000000 ≤ d.nanos then decimalText (d.nanos / 1000000) (d.nanos % 1000000) 6 ++ "ms"
  else if 1000 ≤ d.nanos then decimalText (d.nanos / 1000) (d.nanos % 1000) 3 ++ "µs"
  else Text.ofNat d.nanos ++ "ns"

theorem toMillis_ofMillis (millis : UInt64) : (ofMillis millis).toMillis = millis := by
  have bound := millis.toNat_lt_size
  have quotient : millis.toNat * 1000000 / 1000000 = millis.toNat := by omega
  have least : min millis.toNat (UInt64.size - 1) = millis.toNat := by omega
  simp only [toMillis, ofMillis, quotient, least, UInt64.ofNat_toNat]

end Duration

end CanBus
