import CanBus.Text.Digits
import CanBus.Text.Unprintable
import CanBus.Text.Extending

namespace CanBus.Text

/-- Looks for `code` between `low` and `high` in ascending ranges, halving the part left to
search; `steps` bounds the halvings. -/
def inRanges (ranges : Array (Nat × Nat)) (code : Nat) : (steps low high : Nat) → Bool
  | 0, _, _ => false
  | steps + 1, low, high =>
    if low < high then
      let middle := (low + high) / 2
      match ranges[middle]? with
      | none => false
      | some (first, last) =>
        if code < first then inRanges ranges code steps low middle
        else if last < code then inRanges ranges code steps (middle + 1) high
        else true
    else false

def member (ranges : Array (Nat × Nat)) (c : Char) : Bool :=
  inRanges ranges c.toNat (ranges.size + 1) 0 ranges.size

/-- Whether a character is shown by its code point: it leaves no mark, or joins its neighbour. -/
def hidden (c : Char) : Bool :=
  member unprintableRanges c || member extendingRanges c

def quotedChar (c : Char) : List Char :=
  if c = '\x00' then ['\\', '0']
  else if c = '\t' then ['\\', 't']
  else if c = '\r' then ['\\', 'r']
  else if c = '\n' then ['\\', 'n']
  else if c = '"' then ['\\', '"']
  else if c = '\\' then ['\\', '\\']
  else if hidden c then ['\\', 'u', '\x7b'] ++ digits 16 lowerDigit c.toNat ++ ['\x7d']
  else [c]

def quoted (s : String) : String :=
  String.ofList (['"'] ++ s.toList.flatMap quotedChar ++ ['"'])

end CanBus.Text
