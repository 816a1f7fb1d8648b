import CanBus.Text.Digits
import CanBus.Yaml.Scalar.Gap

namespace CanBus.Yaml

def singleQuoted? (mark : Mark) (gap : Gap) : List Char → Option (List Char × Cursor)
  | [] => none
  | '\'' :: '\'' :: rest =>
    prepend (gap.text ++ ['\'']) (singleQuoted? (mark.skip 2) .none rest)
  | '\r' :: '\n' :: rest => singleQuoted? (mark.newline 2) (gap.addBreak '\n') rest
  | c :: rest =>
    if c = '\'' then some (gap.text, ⟨rest, mark.next c⟩)
    else if isBreak c then singleQuoted? (mark.newline c.utf8Size) (gap.addBreak c) rest
    else if isBlank c then singleQuoted? (mark.next c) (gap.addBlank c) rest
    else if documentMark mark (c :: rest) then none
    else prepend (gap.text ++ [c]) (singleQuoted? (mark.next c) .none rest)

def shortEscape? (c : Char) : Option Char :=
  [('0', '\x00'), ('a', '\x07'), ('b', '\x08'), ('t', '\t'), ('\t', '\t'), ('n', '\n'),
    ('v', '\x0b'), ('f', '\x0c'), ('r', '\r'), ('e', '\x1b'), (' ', ' '), ('"', '"'),
    ('/', '/'), ('\\', '\\'), ('N', '\u0085'), ('_', '\u00a0'), ('L', '\u2028'),
    ('P', '\u2029')].lookup c

def codePoint? (digits : List Char) : Option Nat :=
  digits.foldlM (fun code c => (Text.hexValue? c).map (code * 16 + ·)) 0

/-- The character of a numeric escape. Surrogates and numbers past the last code point are no
characters. -/
def charOf? (digits : List Char) : Option Char :=
  match codePoint? digits with
  | none => none
  | some code => if h : code.isValidChar then some (Char.ofNatAux code h) else none

def doubleQuoted? (mark : Mark) (gap : Gap) : List Char → Option (List Char × Cursor)
  | [] => none
  | '\\' :: '\r' :: '\n' :: rest =>
    prepend gap.text (doubleQuoted? ((mark.next '\\').newline 2) .escaped rest)
  | '\\' :: 'x' :: a :: b :: rest =>
    match charOf? [a, b] with
    | some c => prepend (gap.text ++ [c]) (doubleQuoted? (mark.skip 4) .none rest)
    | none => none
  | '\\' :: 'u' :: a :: b :: c :: d :: rest =>
    match charOf? [a, b, c, d] with
    | some c => prepend (gap.text ++ [c]) (doubleQuoted? (mark.skip 6) .none rest)
    | none => none
  | '\\' :: 'U' :: a :: b :: c :: d :: e :: f :: g :: h :: rest =>
    match charOf? [a, b, c, d, e, f, g, h] with
    | some c => prepend (gap.text ++ [c]) (doubleQuoted? (mark.skip 10) .none rest)
    | none => none
  | '\\' :: c :: rest =>
    if isBreak c then
      prepend gap.text (doubleQuoted? ((mark.next '\\').newline c.utf8Size) .escaped rest)
    else match shortEscape? c with
      | some c => prepend (gap.text ++ [c]) (doubleQuoted? (mark.skip 2) .none rest)
      | none => none
  | '\r' :: '\n' :: rest => doubleQuoted? (mark.newline 2) (gap.addBreak '\n') rest
  | c :: rest =>
    if c = '"' then some (gap.text, ⟨rest, mark.next c⟩)
    else if c = '\\' then none
    else if isBreak c then doubleQuoted? (mark.newline c.utf8Size) (gap.addBreak c) rest
    else if isBlank c then doubleQuoted? (mark.next c) (gap.addBlank c) rest
    else if documentMark mark (c :: rest) then none
    else prepend (gap.text ++ [c]) (doubleQuoted? (mark.next c) .none rest)

structure PlainContext where
  inFlow : Bool
  indent : Int
deriving DecidableEq

def isFlowMark (c : Char) : Bool :=
  c == ',' || c == '[' || c == ']' || c == '{' || c == '}'

def strayColon (context : PlainContext) (c : Char) (rest : List Char) : Bool :=
  context.inFlow && c == ':' && (rest.take 1).any fun d => d == '?' || isFlowMark d

def plainEnds (context : PlainContext) (mark : Mark) (gap : Gap) (c : Char) (rest : List Char) :
    Bool :=
  (!gap.isEmpty && (c == '#' || (!context.inFlow && mark.column < context.indent)))
    || documentMark mark (c :: rest)
    || (c == ':' && blankNext rest)
    || (context.inFlow && isFlowMark c)

/-- A plain scalar. With the place after it and the white space there comes whether that holds a
line break. -/
def plain? (context : PlainContext) (mark : Mark) (gap : Gap) :
    List Char → Option (List Char × Bool × Cursor)
  | [] => some ([], gap.broken, ⟨[], mark⟩)
  | '\r' :: '\n' :: rest => plain? context (mark.newline 2) (gap.addBreak '\n') rest
  | c :: rest =>
    if isBreak c then plain? context (mark.newline c.utf8Size) (gap.addBreak c) rest
    else if isBlank c then
      if c = '\t' ∧ gap.broken ∧ mark.column < context.indent then none
      else plain? context (mark.next c) (gap.addBlank c) rest
    else if plainEnds context mark gap c rest then some ([], gap.broken, ⟨c :: rest, mark⟩)
    else if strayColon context c rest then none
    else prepend (gap.text ++ [c]) (plain? context (mark.next c) .none rest)

end CanBus.Yaml
