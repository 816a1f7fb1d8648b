import CanBus.Text.Digits

namespace CanBus

def standardMax : UInt32 := 0x7FF

def extendedMax : UInt32 := 0x1FFFFFFF

structure Identifier where
  raw : UInt32
  extended : Bool
  fits : raw ≤ if extended then extendedMax else standardMax
deriving DecidableEq

namespace Identifier

def standard? (raw : UInt32) : Option Identifier :=
  if h : raw ≤ standardMax then some ⟨raw, false, by simpa using h⟩ else none

def extended? (raw : UInt32) : Option Identifier :=
  if h : raw ≤ extendedMax then some ⟨raw, true, by simpa using h⟩ else none

def ofNumber? (raw : UInt32) : Option Identifier :=
  if raw ≤ standardMax then standard? raw else extended? raw

def zero : Identifier := ⟨0, false, by decide⟩

instance : Inhabited Identifier := ⟨zero⟩

/-- Numbers come first; of two identifiers with one number the standard one is smaller. -/
def compare (a b : Identifier) : Ordering :=
  (Ord.compare a.raw.toNat b.raw.toNat).then (Ord.compare a.extended.toNat b.extended.toNat)

instance : Ord Identifier := ⟨compare⟩

def sorted (ids : List Identifier) : List Identifier :=
  ids.mergeSort fun a b => (compare a b).isLE

def text (id : Identifier) : String :=
  "0x" ++ String.ofList (Text.hexPadded Text.upperDigit (if id.extended then 8 else 3) id.raw.toNat)

theorem raw_le_extendedMax (id : Identifier) : id.raw ≤ extendedMax := by
  obtain ⟨raw, extended, fits⟩ := id
  cases extended with
  | true => simpa using fits
  | false =>
    have small : raw ≤ standardMax := by simpa using fits
    exact UInt32.le_trans small (by decide)

theorem raw_le_standardMax {id : Identifier} (format : id.extended = false) :
    id.raw ≤ standardMax := by
  have fits := id.fits
  simpa [format] using fits

@[ext] theorem ext {a b : Identifier} (raw : a.raw = b.raw) (extended : a.extended = b.extended) :
    a = b := by
  cases a
  cases b
  simp_all

end Identifier

end CanBus
