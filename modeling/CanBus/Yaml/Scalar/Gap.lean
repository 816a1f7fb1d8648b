import CanBus.Yaml.Cursor

namespace CanBus.Yaml

structure Gap where
  blanks : List Char
  broken : Bool
  /-- The break that ended the line, unless it was escaped. -/
  first : List Char
  more : List Char
deriving DecidableEq

namespace Gap

def none : Gap := ⟨[], false, [], []⟩

def escaped : Gap := ⟨[], true, [], []⟩

def isEmpty (gap : Gap) : Bool := gap.blanks.isEmpty && !gap.broken

/-- Blanks after a break are indentation and do not count. -/
def addBlank (c : Char) (gap : Gap) : Gap :=
  if gap.broken then gap else { gap with blanks := gap.blanks ++ [c] }

def addBreak (c : Char) (gap : Gap) : Gap :=
  if gap.broken then { gap with more := gap.more ++ [keptBreak c] }
  else { gap with blanks := [], broken := true, first := [keptBreak c] }

def text (gap : Gap) : List Char :=
  if gap.broken then
    if gap.first = ['\n'] then (if gap.more.isEmpty then [' '] else gap.more)
    else gap.first ++ gap.more
  else gap.blanks

@[simp] theorem text_none : none.text = [] := rfl

theorem text_addBlank {c : Char} {gap : Gap} (h : gap.broken = false) :
    (gap.addBlank c).text = gap.text ++ [c] := by
  simp [addBlank, text, h]

end Gap

def prepend (text : List Char) {α : Type} : Option (List Char × α) → Option (List Char × α)
  | some (found, rest) => some (text ++ found, rest)
  | none => none

end CanBus.Yaml
