import CanBus.Text.Digits

namespace CanBus.Yaml

def digits? (base : Nat) (cs : List Char) : Option Nat :=
  if cs.isEmpty then none
  else cs.foldlM (fun n c =>
    match Text.hexValue? c with
    | some value => if value < base then some (n * base + value) else none
    | none => none) 0

def isSign (c : Char) : Bool := c == '+' || c == '-'

def marked? : List Char → Option Nat
  | '0' :: 'x' :: rest => digits? 16 rest
  | '0' :: 'o' :: rest => digits? 8 rest
  | '0' :: 'b' :: rest => digits? 2 rest
  | _ => none

def plainDigits? : List Char → Option Nat
  | ['0'] => some 0
  | '0' :: _ => none
  | cs => digits? 10 cs

def magnitude? (cs : List Char) : Option Nat :=
  (marked? cs).or (plainDigits? cs)

def unsigned? : List Char → Option Int
  | '+' :: rest => (magnitude? rest).map Int.ofNat
  | cs => (magnitude? cs).map Int.ofNat

def signed? : List Char → Option Int
  | '-' :: rest => (magnitude? rest).map fun n => -Int.ofNat n
  | cs => unsigned? cs

end CanBus.Yaml
