import CanBus.Json.Lexeme

namespace CanBus.Json

inductive Bracket
  | object
  | array
deriving DecidableEq

inductive Await
  | value
  /-- A first element, or the end of the array. -/
  | element
  /-- A first key, or the end of the object. -/
  | member
  | key
  | colon
  /-- A comma, or the end of the innermost brackets. -/
  | separator
deriving DecidableEq

/-- How far a value has come: it cannot go on like this, it is complete, or it goes on inside the
brackets of `stack`, the innermost first. -/
inductive Progress
  | broken
  | complete
  | more (await : Await) (stack : List Bracket)
deriving DecidableEq

def Progress.finished : List Bracket → Progress
  | [] => .complete
  | bracket :: stack => .more .separator (bracket :: stack)

def Progress.begun (stack : List Bracket) : Lexeme → Progress
  | .openArray => .more .element (.array :: stack)
  | .openObject => .more .member (.object :: stack)
  | .text _ | .brokenText | .integer _ | .otherNumber | .literal => .finished stack
  | .closeArray | .closeObject | .colon | .comma | .bad => .broken

def Progress.keyed (stack : List Bracket) : Lexeme → Progress
  | .text _ | .brokenText => .more .colon stack
  | _ => .broken

def Progress.step (await : Await) (stack : List Bracket) (lexeme : Lexeme) : Progress :=
  match await, stack, lexeme with
  | .element, .array :: outer, .closeArray => .finished outer
  | .member, .object :: outer, .closeObject => .finished outer
  | .separator, .array :: outer, .closeArray => .finished outer
  | .separator, .object :: outer, .closeObject => .finished outer
  | .separator, .array :: outer, .comma => .more .value (.array :: outer)
  | .separator, .object :: outer, .comma => .more .key (.object :: outer)
  | .separator, _, _ => .broken
  | .colon, _, .colon => .more .value stack
  | .colon, _, _ => .broken
  | .value, _, _ | .element, _, _ => .begun stack lexeme
  | .member, _, _ | .key, _, _ => .keyed stack lexeme

def skipFrom (await : Await) (stack : List Bracket) : List Lexeme → Option (List Lexeme)
  | [] => none
  | lexeme :: rest =>
    match Progress.step await stack lexeme with
    | .broken => none
    | .complete => some rest
    | .more await stack => skipFrom await stack rest

def skipValue? (lexemes : List Lexeme) : Option (List Lexeme) := skipFrom .value [] lexemes

theorem skipFrom_shorter {await : Await} {stack : List Bracket} {lexemes rest : List Lexeme}
    (h : skipFrom await stack lexemes = some rest) : rest.length < lexemes.length := by
  induction lexemes generalizing await stack with
  | nil => simp [skipFrom] at h
  | cons lexeme more ih =>
    rw [skipFrom] at h
    split at h
    · simp at h
    · simp_all
    · have := ih h
      simp only [List.length_cons]
      omega

end CanBus.Json
