import CanBus.Yaml.Scalar.Gap

namespace CanBus.Yaml

inductive Chomping
  | strip
  | clip
  | keep
deriving DecidableEq

def chomping? : List Char → Option Chomping
  | '+' :: _ => some .keep
  | '-' :: _ => some .strip
  | _ => none

def indentDigit? : List Char → Option Nat
  | c :: _ => if '0' ≤ c ∧ c ≤ '9' then some (c.toNat - 48) else none
  | [] => none

/-- The chomping mark and the indentation digit, in either order, each at most once. The
indentation is zero where none is given. -/
def blockHeader? (c : Cursor) : Option (Chomping × Nat × Cursor) :=
  let result :=
    match chomping? c.rest with
    | some chomping =>
      match indentDigit? (c.rest.drop 1) with
      | some digit => (chomping, some digit, c.step 2)
      | none => (chomping, none, c.step 1)
    | none =>
      match indentDigit? c.rest with
      | some digit =>
        match chomping? (c.rest.drop 1) with
        | some chomping => (chomping, some digit, c.step 2)
        | none => (.clip, some digit, c.step 1)
      | none => (.clip, none, c)
  match result with
  | (_, some 0, _) => none
  | (chomping, digit, c) => some (chomping, digit.getD 0, c)

def headerEnd? (c : Cursor) : Option Cursor :=
  let c := c.stepWhile isBlank
  let c := if startsWith "#" c.rest then c.stepWhile (!isBreak ·) else c
  match c.rest with
  | [] => some c
  | b :: _ => if isBreak b then some c.stepLine else none

/-- The indentation of a line that has text, after any empty lines: their breaks, the widest
column reached, and the place. Zero for `indent` means that it is still to be found out. A tab
must not stand in the indentation. -/
def indentation? (indent : Nat) (mark : Mark) (breaks : List Char) (widest : Nat) :
    List Char → Option (List Char × Nat × Cursor)
  | [] => some (breaks, max widest mark.column, ⟨[], mark⟩)
  | '\r' :: '\n' :: rest =>
    indentation? indent (mark.newline 2) (breaks ++ ['\n']) (max widest mark.column) rest
  | c :: rest =>
    let inside := indent == 0 || decide (mark.column < indent)
    if inside && c == ' ' then indentation? indent (mark.next c) breaks widest rest
    else if inside && c == '\t' then none
    else if isBreak c then
      indentation? indent (mark.newline c.utf8Size) (breaks ++ [keptBreak c])
        (max widest mark.column) rest
    else some (breaks, max widest mark.column, ⟨c :: rest, mark⟩)

def lineBreak (cs : List Char) : List Char :=
  match cs with
  | [] => []
  | c :: _ => [keptBreak c]

/-- What stands between two lines of the scalar: `first` ends the upper one and `more` are the
empty lines. Folding makes a space of a single break, unless a line begins with a blank. -/
def joined (fold : Bool) (blankAbove blankBelow : Bool) (first more : List Char) : List Char :=
  if fold && first == ['\n'] && !blankAbove && !blankBelow then
    (if more.isEmpty then [' '] else more)
  else first ++ more

/-- The lines of a scalar from a place at the start of one: their text, the break after the last of
them, and the empty lines that follow. `first` and `more` are the breaks before the place. `lines`
bounds how many lines are left. -/
def blockLines? (fold : Bool) (indent : Nat) : (lines : Nat) → (blankAbove : Bool) →
    (first more : List Char) → Cursor → Option (List Char × List Char × List Char × Cursor)
  | 0, _, first, more, c => some ([], first, more, c)
  | lines + 1, blankAbove, first, more, c =>
    if c.mark.column == indent && !c.rest.isEmpty then
      let blankBelow := (c.rest.take 1).any isBlank
      let line := c.rest.takeWhile (!isBreak ·)
      let after := c.step line.length
      let next := if after.rest.isEmpty then after else after.stepLine
      match indentation? indent next.mark [] 0 next.rest with
      | none => none
      | some (below, _, place) =>
        prepend (joined fold blankAbove blankBelow first more ++ line)
          (blockLines? fold indent lines blankBelow (lineBreak after.rest) below place)
    else some ([], first, more, c)

def blockScalar? (fold : Bool) (parent : Int) (c : Cursor) : Option (List Char × Cursor) :=
  match blockHeader? c with
  | none => none
  | some (chomping, digit, c) =>
    match headerEnd? c with
    | none => none
    | some c =>
      let given := if digit = 0 then 0 else (max parent 0).toNat + digit
      match indentation? given c.mark [] 0 c.rest with
      | none => none
      | some (breaks, widest, c) =>
        let indent := if given = 0 then max (max widest (parent + 1).toNat) 1 else given
        match blockLines? fold indent (c.rest.length + 1) false [] breaks c with
        | none => none
        | some (text, first, more, c) =>
          let ending :=
            match chomping with
            | .strip => []
            | .clip => first
            | .keep => first ++ more
          some (text ++ ending, c)

end CanBus.Yaml
