import CanBus.Yaml.Scalar.Block
import CanBus.Yaml.Scalar.Flow
import CanBus.Yaml.Token

namespace CanBus.Yaml

/-- A place where a key without a mark of its own may have begun. Only a colon after it tells, and
then the token of a key is put there. -/
structure KeyPlace where
  /-- Whether the block can only go on with a key here. -/
  required : Bool
  number : Nat
  mark : Mark
deriving DecidableEq

/-- The tokens found so far, the last one first, and how many they are. -/
structure Found where
  latest : List Token
  count : Nat
  count_eq : latest.length = count
deriving DecidableEq

namespace Found

def empty : Found := ⟨[], 0, rfl⟩

def push (token : Token) (found : Found) : Found :=
  ⟨token :: found.latest, found.count + 1, by rw [List.length_cons, found.count_eq]⟩

def insert (number : Nat) (token : Token) (found : Found) : Found :=
  let later := found.count - number
  ⟨found.latest.take later ++ token :: found.latest.drop later, found.count + 1, by
    have total := found.count_eq
    rw [List.length_append, List.length_cons, List.length_take, List.length_drop]
    omega⟩

def toList (found : Found) : List Token := found.latest.reverse

@[simp] theorem toList_push (token : Token) (found : Found) :
    (found.push token).toList = found.toList ++ [token] :=
  List.reverse_cons

end Found

structure Scanner where
  cursor : Cursor
  whole : Bool
  found : Found
  /-- Column of the innermost block, -1 outside of all blocks. -/
  indent : Int
  outer : List Int
  keyPlace : Option KeyPlace
  around : List (Option KeyPlace)
  /-- Inside brackets, the possible key around them all, if the block can only go on with it. -/
  needed : Option KeyPlace
  keyAllowed : Bool
  ended : Bool
deriving DecidableEq

namespace Scanner

def start (text : List Char) (whole : Bool) : Scanner where
  cursor := ⟨text, Mark.start⟩
  whole := whole
  found := Found.empty
  indent := -1
  outer := []
  keyPlace := none
  around := []
  needed := none
  keyAllowed := true
  ended := false

def inFlow (s : Scanner) : Bool := !s.around.isEmpty

def column (s : Scanner) : Int := s.cursor.mark.column

def emit (token : Token) (s : Scanner) : Scanner := { s with found := s.found.push token }

def allowKey (allowed : Bool) (s : Scanner) : Scanner := { s with keyAllowed := allowed }

def step (count : Nat) (s : Scanner) : Scanner := { s with cursor := s.cursor.step count }

/-- Passes over blanks, comments and line breaks, and tells whether a key may begin after them: a
new line allows one outside of brackets. Tabs count as blanks only where no key could begin. A byte
order mark may begin a line, and takes up its first column. -/
def passBlanks (inFlow : Bool) (keyAllowed inComment : Bool) (mark : Mark) :
    List Char → Bool × Cursor
  | [] => (keyAllowed, ⟨[], mark⟩)
  | '\r' :: '\n' :: rest => passBlanks inFlow (keyAllowed || !inFlow) false (mark.newline 2) rest
  | c :: rest =>
    if isBreak c then passBlanks inFlow (keyAllowed || !inFlow) false (mark.newline c.utf8Size) rest
    else if inComment then passBlanks inFlow keyAllowed true (mark.next c) rest
    else if c = '#' then passBlanks inFlow keyAllowed true (mark.next c) rest
    else if c = ' ' ∨ (c = '\t' ∧ (inFlow ∨ !keyAllowed)) ∨ (c = '\ufeff' ∧ mark.column = 0) then
      passBlanks inFlow keyAllowed false (mark.next c) rest
    else (keyAllowed, ⟨c :: rest, mark⟩)

def toNextToken (s : Scanner) : Scanner :=
  let (keyAllowed, cursor) :=
    passBlanks s.inFlow s.keyAllowed false s.cursor.mark s.cursor.rest
  { s with keyAllowed := keyAllowed, cursor := cursor }

/-- A key ends in its own line and within 1024 bytes. A possible key that can no longer be
one is forgotten; where the block needs a key, there is a mistake. -/
def freshKey? (mark : Mark) : Option KeyPlace → Option (Option KeyPlace)
  | none => some none
  | some place =>
    if place.mark.line < mark.line || place.mark.index + 1024 < mark.index then
      if place.required then none else some none
    else some (some place)

/-- The possible keys of outer brackets can wait: nobody looks at them before they are the innermost
again. -/
def forgetStale? (s : Scanner) : Option Scanner :=
  match freshKey? s.cursor.mark s.needed, freshKey? s.cursor.mark s.keyPlace with
  | some _, some keyPlace => some { s with keyPlace := keyPlace }
  | _, _ => none

def giveUpKey? (s : Scanner) : Option Scanner :=
  match s.keyPlace with
  | some place => if place.required then none else some { s with keyPlace := none }
  | none => some s

def noteKey? (s : Scanner) : Option Scanner :=
  if s.keyAllowed then
    s.giveUpKey?.map fun s =>
      { s with keyPlace := some ⟨!s.inFlow && s.indent == s.column, s.found.count,
        s.cursor.mark⟩ }
  else some s

def endBlocks (column : Int) : (indent : Int) → (outer : List Int) → Found →
    Int × List Int × Found
  | indent, [], found => (indent, [], found)
  | indent, next :: outer, found =>
    if column < indent then endBlocks column next outer (found.push .blockEnd)
    else (indent, next :: outer, found)

def unrollTo (column : Int) (s : Scanner) : Scanner :=
  if s.inFlow then s
  else
    let (indent, outer, found) := endBlocks column s.indent s.outer s.found
    { s with indent := indent, outer := outer, found := found }

def rollTo (column : Int) (number : Nat) (token : Token) (s : Scanner) : Scanner :=
  if s.inFlow || column ≤ s.indent then s
  else
    { s with
      found := s.found.insert number token
      indent := column
      outer := s.indent :: s.outer }

def endStream? (s : Scanner) : Option Scanner :=
  let mark := s.cursor.mark
  let s := if mark.column = 0 then s else { s with cursor := ⟨[], mark.newline 0⟩ }
  (s.unrollTo (-1)).giveUpKey?.map fun s =>
    { (s.allowKey false).emit .streamEnd with ended := true }

def documentBoundary? (token : Token) (s : Scanner) : Option Scanner :=
  (s.unrollTo (-1)).giveUpKey?.map fun s => ((s.allowKey false).step 3).emit token

def openFlow? (token : Token) (s : Scanner) : Option Scanner :=
  s.noteKey?.map fun s =>
    let needed := if s.inFlow then s.needed else s.keyPlace.filter (·.required)
    let s := { s with around := s.keyPlace :: s.around, needed := needed, keyPlace := none }
    ((s.allowKey true).step 1).emit token

/-- Outside of brackets a closing one opens nothing up; the reader of tokens refuses it. -/
def closeFlow? (token : Token) (s : Scanner) : Option Scanner :=
  s.giveUpKey?.map fun s =>
    let s :=
      match s.around with
      | [] => s
      | keyPlace :: around =>
        let needed := if around.isEmpty then none else s.needed
        { s with keyPlace := keyPlace, around := around, needed := needed }
    ((s.allowKey false).step 1).emit token

def flowEntry? (s : Scanner) : Option Scanner :=
  s.giveUpKey?.map fun s => ((s.allowKey true).step 1).emit .flowEntry

def beginBlock? (token : Token) (s : Scanner) : Option Scanner :=
  if s.inFlow then some s
  else if s.keyAllowed then some (s.rollTo s.column s.found.count token)
  else none

def blockEntry? (s : Scanner) : Option Scanner :=
  ((s.beginBlock? .blockSequenceStart).bind giveUpKey?).map fun s =>
    ((s.allowKey true).step 1).emit .blockEntry

def keyMark? (s : Scanner) : Option Scanner :=
  ((s.beginBlock? .blockMappingStart).bind giveUpKey?).map fun s =>
    ((s.allowKey (!s.inFlow)).step 1).emit .key

/-- At a colon the possible key becomes one. A colon without a key follows a marked key. -/
def valueMark? (s : Scanner) : Option Scanner :=
  match s.keyPlace with
  | some place =>
    let s := { s with found := s.found.insert place.number .key }
    let s := s.rollTo place.mark.column place.number .blockMappingStart
    some ((({ s with keyPlace := none }.allowKey false).step 1).emit .value)
  | none =>
    (s.beginBlock? .blockMappingStart).map fun s =>
      ((s.allowKey (!s.inFlow)).step 1).emit .value

def isNameChar (c : Char) : Bool :=
  ('0' ≤ c && c ≤ '9') || ('A' ≤ c && c ≤ 'Z') || ('a' ≤ c && c ≤ 'z') || c == '_' || c == '-'

def nameEnds (cs : List Char) : Bool :=
  blankNext cs || (cs.take 1).any fun c => ['?', ':', ',', ']', '}', '%', '@', '\x60'].contains c

def named? (token : List Char → Token) (s : Scanner) : Option Scanner :=
  s.noteKey?.bind fun s =>
    let s := (s.allowKey false).step 1
    let name := s.cursor.rest.takeWhile isNameChar
    let s := s.step name.length
    if !name.isEmpty && nameEnds s.cursor.rest then some (s.emit (token name)) else none

def blockScalarToken? (fold : Bool) (s : Scanner) : Option Scanner :=
  s.giveUpKey?.bind fun s =>
    (blockScalar? fold s.indent (s.cursor.step 1)).map fun (text, cursor) =>
      { (s.allowKey true).emit (.scalar text (if fold then .folded else .literal)) with
        cursor := cursor }

def quotedToken? (single : Bool) (s : Scanner) : Option Scanner :=
  s.noteKey?.bind fun s =>
    let inner := s.cursor.step 1
    let found :=
      if single then singleQuoted? inner.mark .none inner.rest
      else doubleQuoted? inner.mark .none inner.rest
    found.map fun (text, cursor) =>
      { (s.allowKey false).emit (.scalar text (if single then .singleQuoted else .doubleQuoted))
        with cursor := cursor }

/-- A key may begin after a plain scalar only if a line break has come in between. -/
def plainToken? (s : Scanner) : Option Scanner :=
  s.noteKey?.bind fun s =>
    (plain? ⟨s.inFlow, s.indent + 1⟩ s.cursor.mark .none s.cursor.rest).map
      fun (text, broken, cursor) =>
        { (s.allowKey broken).emit (.scalar text .plain) with cursor := cursor }

def isIndicator (c : Char) : Bool :=
  ['-', '?', ':', ',', '[', ']', '{', '}', '#', '&', '*', '!', '|', '>', '\'', '"', '%', '@',
    '\x60'].contains c

def plainBegins (inFlow : Bool) (c : Char) (rest : List Char) : Bool :=
  !(isBlank c || isBreak c || isIndicator c)
    || (c == '-' && !(rest.take 1).any isBlank)
    || (!inFlow && (c == '?' || c == ':') && !blankNext rest)

def token? (c : Char) (rest : List Char) (s : Scanner) : Option Scanner :=
  if documentMark s.cursor.mark (c :: rest) then
    s.documentBoundary? (if c = '-' then .documentStart else .documentEnd)
  else if c = '[' then s.openFlow? .flowSequenceStart
  else if c = '{' then s.openFlow? .flowMappingStart
  else if c = ']' then s.closeFlow? .flowSequenceEnd
  else if c = '}' then s.closeFlow? .flowMappingEnd
  else if c = ',' then s.flowEntry?
  else if c = '-' ∧ blankNext rest then s.blockEntry?
  else if c = '?' ∧ (s.inFlow ∨ blankNext rest) then s.keyMark?
  else if c = ':' ∧ (s.inFlow ∨ blankNext rest) then s.valueMark?
  else if c = '*' then s.named? .alias
  else if c = '&' then s.named? .anchor
  else if c = '|' ∧ !s.inFlow then s.blockScalarToken? false
  else if c = '>' ∧ !s.inFlow then s.blockScalarToken? true
  else if c = '\'' then s.quotedToken? true
  else if c = '"' then s.quotedToken? false
  else if plainBegins s.inFlow c rest then s.plainToken?
  else none

def having? (count : Nat) (s : Scanner) : Option Scanner :=
  if s.whole || (s.cursor.rest.take count).length == count then some s else none

/-- Reads one token more, with the tokens of block structure that come before it. To tell tokens
apart takes four characters, and to see the end of one takes the next character. -/
def next? (s : Scanner) : Option Scanner :=
  (s.toNextToken.forgetStale?.bind (having? 4)).bind fun s =>
    let s := s.unrollTo s.column
    let found :=
      match s.cursor.rest with
      | [] => s.endStream?
      | c :: rest => s.token? c rest
    (found.bind (having? 1)).bind forgetStale?

/-- How many tokens come before the first place that may still turn out to be a key's. -/
def settled (s : Scanner) : Nat :=
  (s.keyPlace :: s.around).foldl
    (fun least place =>
      match freshKey? s.cursor.mark place with
      | some (some place) => min least place.number
      | _ => least)
    s.found.count

/-- Reads tokens up to the end of the text or the first mistake; `steps` bounds their number. In
the second case only those tokens count before which no key can be put any more. -/
def run : (steps : Nat) → Scanner → List Token × Bool
  | 0, s => (s.found.toList.take s.settled, false)
  | steps + 1, s =>
    match s.next? with
    | none => (s.found.toList.take s.settled, false)
    | some s => if s.ended then (s.found.toList, true) else run steps s

end Scanner

def tokens (text : List Char) : List Token × Bool :=
  let (text, whole) := readable text
  Scanner.run (text.length + 1) (Scanner.start text whole)

end CanBus.Yaml
