namespace CanBus.Yaml

structure Mark where
  index : Nat
  line : Nat
  column : Nat
deriving DecidableEq

namespace Mark

def start : Mark := ⟨0, 0, 0⟩

def next (mark : Mark) (c : Char) : Mark :=
  ⟨mark.index + c.utf8Size, mark.line, mark.column + 1⟩

def past (mark : Mark) (cs : List Char) : Mark := cs.foldl next mark

def skip (mark : Mark) (count : Nat) : Mark :=
  ⟨mark.index + count, mark.line, mark.column + count⟩

def newline (mark : Mark) (bytes : Nat) : Mark :=
  ⟨mark.index + bytes, mark.line + 1, 0⟩

end Mark

structure Cursor where
  rest : List Char
  mark : Mark
deriving DecidableEq

def isBlank (c : Char) : Bool := c == ' ' || c == '\t'

def isBreak (c : Char) : Bool :=
  c == '\r' || c == '\n' || c == '\u0085' || c == '\u2028' || c == '\u2029'

/-- The break that a scalar keeps: the two separators stay, all others become a line feed. -/
def keptBreak (c : Char) : Char :=
  if c = '\u2028' ∨ c = '\u2029' then c else '\n'

def blankNext : List Char → Bool
  | [] => true
  | c :: _ => isBlank c || isBreak c

def startsWith (mark : String) (cs : List Char) : Bool :=
  mark.toList.isPrefixOf cs

def documentMark (mark : Mark) (cs : List Char) : Bool :=
  mark.column == 0 && (startsWith "---" cs || startsWith "..." cs) && blankNext (cs.drop 3)

def allowed (c : Char) : Bool :=
  c == '\t' || c == '\n' || c == '\r' || (' ' ≤ c && c ≤ '~') || c == '\u0085'
    || ('\u00a0' ≤ c && c != '\ufffe' && c != '\uffff')

def blockBytes : Nat := 16384

/-- The part of a text that can be read, and whether that is all of it. A block holds as many
characters as fit; one with a character that no text may hold cannot be read. `room` is left in the
block whose characters so far are `block`, the last one first. -/
def readableFrom (room : Nat) (block : List Char) : List Char → List Char × Bool
  | [] => (block.reverse, true)
  | c :: rest =>
    if room < c.utf8Size then
      if allowed c then
        match readableFrom (blockBytes - c.utf8Size) [c] rest with
        | (more, whole) => (block.reverse ++ more, whole)
      else (block.reverse, false)
    else if allowed c then readableFrom (room - c.utf8Size) (c :: block) rest
    else ([], false)

def readable (text : List Char) : List Char × Bool := readableFrom blockBytes [] text

namespace Cursor

def step (count : Nat) (c : Cursor) : Cursor :=
  ⟨c.rest.drop count, c.mark.past (c.rest.take count)⟩

/-- Passes over the break that comes next. A carriage return and the line feed after it are one
break. -/
def stepLine (c : Cursor) : Cursor :=
  match c.rest with
  | '\r' :: '\n' :: rest => ⟨rest, c.mark.newline 2⟩
  | b :: rest => ⟨rest, c.mark.newline b.utf8Size⟩
  | [] => c

def stepWhile (p : Char → Bool) (c : Cursor) : Cursor :=
  c.step (c.rest.takeWhile p).length

end Cursor

end CanBus.Yaml
