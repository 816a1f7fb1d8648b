import CanBus.Json.Text

namespace CanBus.Json

/-- Where a text stops being JSON its lexemes end with `bad`, so a reader meets every mistake in its
place. -/
inductive Lexeme
  | openObject
  | closeObject
  | openArray
  | closeArray
  | colon
  | comma
  | text (s : List Char)
  /-- A string with half of a surrogate pair in it; it has a place in the text, but no value. -/
  | brokenText
  | integer (n : Int)
  /-- A number that is written with a fraction or an exponent, or the negative zero. -/
  | otherNumber
  /-- One of `true`, `false` and `null`. -/
  | literal
  | bad
deriving DecidableEq

def isBlank (c : Char) : Bool :=
  c == ' ' || c == '\t' || c == '\n' || c == '\r'

def isDigit (c : Char) : Bool := '0' ≤ c && c ≤ '9'

def decimal (digits : List Char) : Nat :=
  digits.foldl (fun n c => n * 10 + (c.toNat - 48)) 0

def skipDigits? : List Char → Option (List Char)
  | [] => none
  | c :: rest => if isDigit c then some (rest.dropWhile isDigit) else none

/-- Takes away a fraction, if one begins here. The answer says whether it did. -/
def skipFraction? : List Char → Option (Bool × List Char)
  | [] => some (false, [])
  | c :: rest => if c = '.' then (skipDigits? rest).map (true, ·) else some (false, c :: rest)

def skipSign : List Char → List Char
  | [] => []
  | c :: rest => if c = '+' ∨ c = '-' then rest else c :: rest

def skipExponent? : List Char → Option (Bool × List Char)
  | [] => some (false, [])
  | c :: rest =>
    if c = 'e' ∨ c = 'E' then (skipDigits? (skipSign rest)).map (true, ·)
    else some (false, c :: rest)

/-- The digits before a fraction, and the rest. A zero is no leading digit of a longer number. -/
def wholeDigits? : List Char → Option (List Char × List Char)
  | [] => none
  | c :: rest =>
    if c = '0' then
      if (rest.takeWhile isDigit).isEmpty then some ([c], rest) else none
    else if isDigit c then some (c :: rest.takeWhile isDigit, rest.dropWhile isDigit)
    else none

def unsignedNumber? (negative : Bool) (cs : List Char) : Option (Lexeme × List Char) :=
  match wholeDigits? cs with
  | none => none
  | some (digits, rest) =>
    match skipFraction? rest with
    | none => none
    | some (fraction, rest) =>
      match skipExponent? rest with
      | none => none
      | some (exponent, rest) =>
        let n := decimal digits
        if fraction || exponent || (negative && n == 0) then some (.otherNumber, rest)
        else some (.integer (if negative then -n else n), rest)

def number? : List Char → Option (Lexeme × List Char)
  | [] => none
  | c :: rest => if c = '-' then unsignedNumber? true rest else unsignedNumber? false (c :: rest)

def next? : List Char → Option (Lexeme × List Char)
  | '{' :: rest => some (.openObject, rest)
  | '}' :: rest => some (.closeObject, rest)
  | '[' :: rest => some (.openArray, rest)
  | ']' :: rest => some (.closeArray, rest)
  | ':' :: rest => some (.colon, rest)
  | ',' :: rest => some (.comma, rest)
  | '"' :: rest =>
    match body? rest with
    | none => none
    | some (pieces, rest) =>
      match text? pieces with
      | some s => some (.text s, rest)
      | none => some (.brokenText, rest)
  | 't' :: 'r' :: 'u' :: 'e' :: rest => some (.literal, rest)
  | 'f' :: 'a' :: 'l' :: 's' :: 'e' :: rest => some (.literal, rest)
  | 'n' :: 'u' :: 'l' :: 'l' :: rest => some (.literal, rest)
  | cs => number? cs

theorem length_dropWhile_le (p : Char → Bool) (cs : List Char) :
    (cs.dropWhile p).length ≤ cs.length := by
  induction cs with
  | nil => simp
  | cons c rest ih =>
    rw [List.dropWhile_cons]
    split
    · exact Nat.le_succ_of_le ih
    · exact Nat.le_refl _

theorem skipDigits?_shorter {cs rest : List Char} (h : skipDigits? cs = some rest) :
    rest.length < cs.length := by
  cases cs with
  | nil => simp [skipDigits?] at h
  | cons c more =>
    have := length_dropWhile_le isDigit more
    grind [skipDigits?]

theorem skipFraction?_le {cs rest : List Char} {b : Bool} (h : skipFraction? cs = some (b, rest)) :
    rest.length ≤ cs.length := by
  cases cs with
  | nil => grind [skipFraction?]
  | cons c more =>
    cases found : skipDigits? more with
    | none => grind [skipFraction?]
    | some after =>
      have := skipDigits?_shorter found
      grind [skipFraction?]

theorem skipExponent?_le {cs rest : List Char} {b : Bool} (h : skipExponent? cs = some (b, rest)) :
    rest.length ≤ cs.length := by
  cases cs with
  | nil => grind [skipExponent?]
  | cons c more =>
    have : (skipSign more).length ≤ more.length := by cases more <;> grind [skipSign]
    cases found : skipDigits? (skipSign more) with
    | none => grind [skipExponent?]
    | some after =>
      have := skipDigits?_shorter found
      grind [skipExponent?]

theorem wholeDigits?_shorter {cs digits rest : List Char}
    (h : wholeDigits? cs = some (digits, rest)) : rest.length < cs.length := by
  cases cs with
  | nil => simp [wholeDigits?] at h
  | cons c more =>
    have := length_dropWhile_le isDigit more
    grind [wholeDigits?]

theorem unsignedNumber?_shorter {negative : Bool} {cs rest : List Char} {lexeme : Lexeme}
    (h : unsignedNumber? negative cs = some (lexeme, rest)) : rest.length < cs.length := by
  unfold unsignedNumber? at h
  grind [→ wholeDigits?_shorter, → skipFraction?_le, → skipExponent?_le]

theorem number?_shorter {cs rest : List Char} {lexeme : Lexeme}
    (h : number? cs = some (lexeme, rest)) : rest.length < cs.length := by
  cases cs with
  | nil => simp [number?] at h
  | cons c more => grind [number?, → unsignedNumber?_shorter]

theorem next?_shorter {cs rest : List Char} {lexeme : Lexeme}
    (h : next? cs = some (lexeme, rest)) : rest.length < cs.length := by
  unfold next? at h
  split at h
  all_goals grind [→ body?_shorter, → number?_shorter]

theorem rest_shorter {cs rest more : List Char} {c : Char} {lexeme : Lexeme}
    (trimmed : cs.dropWhile isBlank = c :: more) (found : next? (c :: more) = some (lexeme, rest)) :
    rest.length < cs.length := by
  have shorter := next?_shorter found
  have := length_dropWhile_le isBlank cs
  rw [trimmed] at this
  omega

def lexemes (cs : List Char) : List Lexeme :=
  match trimmed : cs.dropWhile isBlank with
  | [] => []
  | c :: more =>
    match found : next? (c :: more) with
    | none => [.bad]
    | some (lexeme, rest) =>
      have := rest_shorter trimmed found
      lexeme :: lexemes rest
termination_by cs.length

end CanBus.Json
