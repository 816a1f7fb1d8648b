import CanBus.Text.Digits

namespace CanBus.Json

def escaped (c : Char) : List Char :=
  if c = '"' then ['\\', '"']
  else if c = '\\' then ['\\', '\\']
  else if c = '\x08' then ['\\', 'b']
  else if c = '\t' then ['\\', 't']
  else if c = '\n' then ['\\', 'n']
  else if c = '\x0c' then ['\\', 'f']
  else if c = '\r' then ['\\', 'r']
  else if c < ' ' then ['\\', 'u'] ++ Text.hexPadded Text.lowerDigit 4 c.toNat
  else [c]

def quote (s : List Char) : List Char :=
  '"' :: s.flatMap escaped ++ ['"']

/-- One element of a string's body: a character, or a 16-bit unit given by its number. -/
inductive Piece
  | char (c : Char)
  | unit (code : Nat)
deriving DecidableEq

def shortEscape? (c : Char) : Option Char :=
  if c = '"' then some '"'
  else if c = '\\' then some '\\'
  else if c = '/' then some '/'
  else if c = 'b' then some '\x08'
  else if c = 'f' then some '\x0c'
  else if c = 'n' then some '\n'
  else if c = 'r' then some '\r'
  else if c = 't' then some '\t'
  else none

def unit? (a b c d : Char) : Option Nat :=
  match Text.hexValue? a, Text.hexValue? b, Text.hexValue? c, Text.hexValue? d with
  | some a, some b, some c, some d => some (((a * 16 + b) * 16 + c) * 16 + d)
  | _, _, _, _ => none

/-- The body of a string and what follows its closing quote. Controls must be escaped. -/
def body? : List Char → Option (List Piece × List Char)
  | [] => none
  | '\\' :: 'u' :: a :: b :: c :: d :: rest =>
    match unit? a b c d, body? rest with
    | some code, some (pieces, after) => some (.unit code :: pieces, after)
    | _, _ => none
  | '\\' :: c :: rest =>
    match shortEscape? c, body? rest with
    | some c, some (pieces, after) => some (.char c :: pieces, after)
    | _, _ => none
  | c :: rest =>
    if c = '"' then some ([], rest)
    else if c = '\\' ∨ c < ' ' then none
    else match body? rest with
      | some (pieces, after) => some (.char c :: pieces, after)
      | none => none

def isHigh (code : Nat) : Bool := 0xD800 ≤ code && code < 0xDC00

def isLow (code : Nat) : Bool := 0xDC00 ≤ code && code < 0xE000

def pairChar (high low : Nat) : Char :=
  Char.ofNat (0x10000 + (high - 0xD800) * 0x400 + (low - 0xDC00))

/-- The text of a body. A high unit and a low one right after it make one character; either of
them alone makes none. -/
def text? : List Piece → Option (List Char)
  | [] => some []
  | .char c :: rest => (text? rest).map (c :: ·)
  | .unit high :: .unit low :: rest =>
    if isHigh high then
      if isLow low then (text? rest).map (pairChar high low :: ·) else none
    else if isLow high then none
    else (text? (.unit low :: rest)).map (Char.ofNat high :: ·)
  | .unit code :: rest =>
    if isHigh code || isLow code then none else (text? rest).map (Char.ofNat code :: ·)

theorem body?_shorter {cs after : List Char} {pieces : List Piece}
    (h : body? cs = some (pieces, after)) : after.length < cs.length := by
  fun_induction body? cs generalizing pieces after
  all_goals
    simp only [List.length_cons, List.length_nil]
    grind

end CanBus.Json
