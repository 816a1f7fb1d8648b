import CanBus.Json.Skip
import CanBus.Proofs.Json.Numbers
import CanBus.Proofs.Json.Strings

namespace CanBus.Json

def Blank (gap : List Char) : Prop := ∀ c ∈ gap, isBlank c = true

theorem blank_nil : Blank [] := by simp [Blank]

theorem lexemes_trimmed (cs : List Char) :
    lexemes cs = match cs.dropWhile isBlank with
      | [] => []
      | c :: more => match next? (c :: more) with
        | none => [.bad]
        | some (lexeme, rest) => lexeme :: lexemes rest := by
  -- The definition matches on the trimmed text together with a proof of its shape.
  rw [lexemes.eq_def]
  split
  · rename_i trimmed
    rw [trimmed]
  · rename_i c more trimmed
    simp only [trimmed]
    split <;> simp_all

theorem lexemes_blank {gap : List Char} (blank : Blank gap) (rest : List Char) :
    lexemes (gap ++ rest) = lexemes rest := by
  have trimmed : (gap ++ rest).dropWhile isBlank = rest.dropWhile isBlank :=
    List.dropWhile_append_of_pos blank
  rw [lexemes_trimmed, trimmed, ← lexemes_trimmed]

theorem lexemes_only_blank {gap : List Char} (blank : Blank gap) : lexemes gap = [] := by
  have none := lexemes_blank blank []
  rw [List.append_nil] at none
  rw [none, lexemes_trimmed]
  rfl

theorem lexemes_next {c : Char} {text rest : List Char} {lexeme : Lexeme}
    (visible : isBlank c = false) (found : next? (c :: text) = some (lexeme, rest)) :
    lexemes (c :: text) = lexeme :: lexemes rest := by
  have trimmed : (c :: text).dropWhile isBlank = c :: text := by
    rw [List.dropWhile_cons, visible]
    rfl
  rw [lexemes_trimmed, trimmed]
  simp only [found]

theorem lexemes_openObject (rest : List Char) :
    lexemes ('{' :: rest) = .openObject :: lexemes rest := lexemes_next (by decide) rfl

theorem lexemes_closeObject (rest : List Char) :
    lexemes ('}' :: rest) = .closeObject :: lexemes rest := lexemes_next (by decide) rfl

theorem lexemes_openArray (rest : List Char) :
    lexemes ('[' :: rest) = .openArray :: lexemes rest := lexemes_next (by decide) rfl

theorem lexemes_closeArray (rest : List Char) :
    lexemes (']' :: rest) = .closeArray :: lexemes rest := lexemes_next (by decide) rfl

theorem lexemes_colon (rest : List Char) :
    lexemes (':' :: rest) = .colon :: lexemes rest := lexemes_next (by decide) rfl

theorem lexemes_comma (rest : List Char) :
    lexemes (',' :: rest) = .comma :: lexemes rest := lexemes_next (by decide) rfl

theorem lexemes_body {body : List Char} (wellFormed : Body body) (rest : List Char) :
    ∃ lexeme, (lexeme = .brokenText ∨ ∃ s, lexeme = .text s) ∧
      lexemes ('"' :: (body ++ '"' :: rest)) = lexeme :: lexemes rest := by
  obtain ⟨pieces, spelled⟩ := wellFormed
  have read := spelled.read rest
  cases means : text? pieces with
  | none =>
    refine ⟨.brokenText, .inl rfl, lexemes_next (by decide) ?_⟩
    simp only [next?, read, means]
  | some s =>
    refine ⟨.text s, .inr ⟨s, rfl⟩, lexemes_next (by decide) ?_⟩
    simp only [next?, read, means]

theorem lexemes_text {text body : List Char} (spells : Spells text body) (rest : List Char) :
    lexemes ('"' :: (body ++ '"' :: rest)) = .text text :: lexemes rest := by
  obtain ⟨pieces, spelled, means⟩ := spells
  apply lexemes_next (by decide)
  simp only [next?, spelled.read rest, means.read]

theorem next?_number {c : Char} {rest : List Char} (first : c = '-' ∨ isDigit c = true) :
    next? (c :: rest) = number? (c :: rest) := by
  have apart (mark : Char) (other : mark ≠ '-') (letter : isDigit mark = false) : c ≠ mark := by
    rintro rfl
    rcases first with rfl | digit
    · contradiction
    · rw [letter] at digit
      contradiction
  have marks : ∀ mark ∈ ['{', '}', '[', ']', ':', ',', '"', 't', 'f', 'n'], c ≠ mark := by
    intro mark member
    have listed : ∀ mark ∈ ['{', '}', '[', ']', ':', ',', '"', 't', 'f', 'n'],
        mark ≠ '-' ∧ isDigit mark = false := by simp [isDigit]
    exact apart mark (listed mark member).1 (listed mark member).2
  simp only [List.forall_mem_cons, List.not_mem_nil, false_imp_iff, implies_true, and_true] at marks
  unfold next?
  split <;> simp_all

theorem isBlank_number {c : Char} (first : c = '-' ∨ isDigit c = true) : isBlank c = false := by
  rcases first with rfl | digit
  · decide
  · have blank : isBlank c = true → isDigit c = false := by
      simp only [isBlank, Bool.or_eq_true, beq_iff_eq]
      rintro (((rfl | rfl) | rfl) | rfl) <;> decide
    cases white : isBlank c with
    | false => rfl
    | true => simp [blank white] at digit

theorem lexemes_number {text rest : List Char} (number : Number text) (ends : Ends rest) :
    ∃ lexeme, (lexeme = .otherNumber ∨ ∃ n, lexeme = .integer n) ∧
      lexemes (text ++ rest) = lexeme :: lexemes rest := by
  obtain ⟨lexeme, kind, read⟩ := number.read ends
  obtain ⟨c, more, shape, first⟩ := number.head
  rw [shape, List.cons_append] at read ⊢
  exact ⟨lexeme, kind, lexemes_next (isBlank_number first) ((next?_number first).trans read)⟩

theorem lexemes_integer (n : Int) {rest : List Char} (ends : Ends rest) :
    lexemes (Text.signedDecimal n ++ rest) = .integer n :: lexemes rest := by
  have read := number?_signedDecimal n ends
  obtain ⟨c, more, shape, first⟩ :
      ∃ c more, Text.signedDecimal n = c :: more ∧ (c = '-' ∨ isDigit c = true) := by
    cases n with
    | ofNat n =>
      obtain ⟨c, more, shape, digit⟩ := (whole_decimal n).head
      exact ⟨c, more, shape, .inr digit⟩
    | negSucc n => exact ⟨'-', _, rfl, .inl rfl⟩
  rw [shape, List.cons_append] at read ⊢
  exact lexemes_next (isBlank_number first) ((next?_number first).trans read)

theorem ends_of_mem {c : Char} {rest : List Char} (mark : c ∈ [',', ']', '}']) :
    Ends (c :: rest) := by
  have each : ∀ c ∈ [',', ']', '}'],
      isDigit c = false ∧ c ≠ '.' ∧ c ≠ 'e' ∧ c ≠ 'E' := by simp [isDigit]
  intro d first
  obtain rfl := Option.some.inj first
  exact each c mark

theorem ends_blank {gap rest : List Char} (blank : Blank gap) (ends : Ends rest) :
    Ends (gap ++ rest) := by
  cases gap with
  | nil => exact ends
  | cons c gap =>
    intro d first
    obtain rfl := Option.some.inj first
    have white := blank c List.mem_cons_self
    simp only [isBlank, Bool.or_eq_true, beq_iff_eq] at white
    rcases white with ((rfl | rfl) | rfl) | rfl <;> decide

inductive Part
  | value
  | element
  | elements
  | member
  | members

inductive Phrase : Part → List Char → Prop
  | literal {word : String} (named : word ∈ ["true", "false", "null"]) :
      Phrase .value word.toList
  | number {text : List Char} (number : Number text) : Phrase .value text
  | string {body : List Char} (wellFormed : Body body) : Phrase .value ('"' :: (body ++ ['"']))
  | emptyArray {gap : List Char} (blank : Blank gap) : Phrase .value ('[' :: (gap ++ [']']))
  | array {text : List Char} (elements : Phrase .elements text) :
      Phrase .value ('[' :: (text ++ [']']))
  | emptyObject {gap : List Char} (blank : Blank gap) : Phrase .value ('{' :: (gap ++ ['}']))
  | object {text : List Char} (members : Phrase .members text) :
      Phrase .value ('{' :: (text ++ ['}']))
  | element {before text after : List Char} (blankBefore : Blank before)
      (value : Phrase .value text) (blankAfter : Blank after) :
      Phrase .element (before ++ (text ++ after))
  | lastElement {text : List Char} (element : Phrase .element text) : Phrase .elements text
  | nextElement {text more : List Char} (element : Phrase .element text)
      (elements : Phrase .elements more) : Phrase .elements (text ++ ',' :: more)
  | member {before key after text : List Char} (blankBefore : Blank before) (named : Body key)
      (blankAfter : Blank after) (element : Phrase .element text) :
      Phrase .member (before ++ '"' :: (key ++ '"' :: (after ++ ':' :: text)))
  | lastMember {text : List Char} (member : Phrase .member text) : Phrase .members text
  | nextMember {text more : List Char} (member : Phrase .member text)
      (members : Phrase .members more) : Phrase .members (text ++ ',' :: more)

def resume : List Bracket → List Lexeme → Option (List Lexeme)
  | [], lexemes => some lexemes
  | bracket :: stack, lexemes => skipFrom .separator (bracket :: stack) lexemes

theorem skipFrom_finished {await : Await} {stack outer : List Bracket} {lexeme : Lexeme}
    (step : Progress.step await stack lexeme = Progress.finished outer) (rest : List Lexeme) :
    skipFrom await stack (lexeme :: rest) = resume outer rest := by
  rw [skipFrom, step]
  cases outer <;> rfl

theorem skipFrom_more {await next : Await} {stack inner : List Bracket} {lexeme : Lexeme}
    (step : Progress.step await stack lexeme = .more next inner) (rest : List Lexeme) :
    skipFrom await stack (lexeme :: rest) = skipFrom next inner rest := by
  rw [skipFrom, step]

theorem step_begun {await : Await} (begins : await = .value ∨ await = .element)
    (stack : List Bracket) {lexeme : Lexeme} (other : lexeme ≠ .closeArray) :
    Progress.step await stack lexeme = Progress.begun stack lexeme := by
  rcases begins with rfl | rfl
  · rfl
  · rcases stack with _ | ⟨_ | _, outer⟩ <;> cases lexeme <;> first | rfl | contradiction

theorem step_keyed {await : Await} (begins : await = .key ∨ await = .member)
    (stack : List Bracket) {lexeme : Lexeme} (other : lexeme ≠ .closeObject) :
    Progress.step await stack lexeme = Progress.keyed stack lexeme := by
  rcases begins with rfl | rfl
  · rfl
  · rcases stack with _ | ⟨_ | _, outer⟩ <;> cases lexeme <;> first | rfl | contradiction

/-- What passing over a part comes to, whatever brackets are around it and whatever follows. -/
def Passed (text : List Char) : Part → Prop
  | .value | .element => ∀ await stack rest, (await = .value ∨ await = .element) → Ends rest →
      skipFrom await stack (lexemes (text ++ rest)) = resume stack (lexemes rest)
  | .elements => ∀ await stack rest, (await = .value ∨ await = .element) →
      skipFrom await (.array :: stack) (lexemes (text ++ ']' :: rest)) =
        resume stack (lexemes rest)
  | .member => ∀ await stack rest, (await = .key ∨ await = .member) → Ends rest →
      skipFrom await (.object :: stack) (lexemes (text ++ rest)) =
        resume (.object :: stack) (lexemes rest)
  | .members => ∀ await stack rest, (await = .key ∨ await = .member) →
      skipFrom await (.object :: stack) (lexemes (text ++ '}' :: rest)) =
        resume stack (lexemes rest)

theorem passed_token {await : Await} {stack : List Bracket} {text rest : List Char}
    {lexeme : Lexeme} (begins : await = .value ∨ await = .element)
    (token : lexemes (text ++ rest) = lexeme :: lexemes rest)
    (whole : Progress.begun stack lexeme = Progress.finished stack) (other : lexeme ≠ .closeArray) :
    skipFrom await stack (lexemes (text ++ rest)) = resume stack (lexemes rest) := by
  rw [token]
  exact skipFrom_finished ((step_begun begins stack other).trans whole) _

theorem lexemes_literal {word : String} (named : word ∈ ["true", "false", "null"])
    (rest : List Char) : lexemes (word.toList ++ rest) = .literal :: lexemes rest := by
  simp only [List.mem_cons, List.not_mem_nil, or_false] at named
  rcases named with rfl | rfl | rfl
  all_goals
    apply lexemes_next
    · decide
    · rfl

theorem Phrase.passed {part : Part} {text : List Char} (phrase : Phrase part text) :
    Passed text part := by
  -- On the grammar. A value inside brackets comes back to them, and `resume` goes on from there.
  induction phrase with
  | literal named =>
    intro await stack rest begins _
    exact passed_token begins (lexemes_literal named rest) rfl nofun
  | number number =>
    intro await stack rest begins ends
    obtain ⟨lexeme, rfl | ⟨n, rfl⟩, token⟩ := lexemes_number number ends
    · exact passed_token begins token rfl nofun
    · exact passed_token begins token rfl nofun
  | @string body wellFormed =>
    intro await stack rest begins _
    have shape : '"' :: (body ++ ['"']) ++ rest = '"' :: (body ++ '"' :: rest) := by simp
    obtain ⟨lexeme, kind, token⟩ := lexemes_body wellFormed rest
    rw [← shape] at token
    rcases kind with rfl | ⟨s, rfl⟩
    · exact passed_token begins token rfl nofun
    · exact passed_token begins token rfl nofun
  | @emptyArray gap blank =>
    intro await stack rest begins _
    have shape : '[' :: (gap ++ [']']) ++ rest = '[' :: (gap ++ ']' :: rest) := by simp
    have opened : Progress.step await stack .openArray = .more .element (.array :: stack) :=
      step_begun begins stack nofun
    rw [shape, lexemes_openArray, skipFrom_more opened, lexemes_blank blank, lexemes_closeArray]
    exact skipFrom_finished rfl _
  | @array text elements ih =>
    intro await stack rest begins _
    have shape : '[' :: (text ++ [']']) ++ rest = '[' :: (text ++ ']' :: rest) := by simp
    have opened : Progress.step await stack .openArray = .more .element (.array :: stack) :=
      step_begun begins stack nofun
    rw [shape, lexemes_openArray, skipFrom_more opened]
    exact ih .element stack rest (.inr rfl)
  | @emptyObject gap blank =>
    intro await stack rest begins _
    have shape : '{' :: (gap ++ ['}']) ++ rest = '{' :: (gap ++ '}' :: rest) := by simp
    have opened : Progress.step await stack .openObject = .more .member (.object :: stack) :=
      step_begun begins stack nofun
    rw [shape, lexemes_openObject, skipFrom_more opened, lexemes_blank blank, lexemes_closeObject]
    exact skipFrom_finished rfl _
  | @object text members ih =>
    intro await stack rest begins _
    have shape : '{' :: (text ++ ['}']) ++ rest = '{' :: (text ++ '}' :: rest) := by simp
    have opened : Progress.step await stack .openObject = .more .member (.object :: stack) :=
      step_begun begins stack nofun
    rw [shape, lexemes_openObject, skipFrom_more opened]
    exact ih .member stack rest (.inr rfl)
  | element blankBefore value blankAfter ih =>
    intro await stack rest begins ends
    simp only [List.append_assoc]
    rw [lexemes_blank blankBefore, ih await stack _ begins (ends_blank blankAfter ends),
      lexemes_blank blankAfter]
  | lastElement element ih =>
    intro await stack rest begins
    rw [ih await (.array :: stack) _ begins (ends_of_mem (by decide)), lexemes_closeArray]
    exact skipFrom_finished rfl _
  | nextElement element elements first others =>
    intro await stack rest begins
    rw [List.append_assoc, List.cons_append,
      first await (.array :: stack) _ begins (ends_of_mem (by decide)), lexemes_comma]
    exact others .value stack rest (.inl rfl)
  | @member before key after text blankBefore named blankAfter element ih =>
    intro await stack rest begins ends
    obtain ⟨lexeme, kind, token⟩ := lexemes_body named (after ++ ':' :: (text ++ rest))
    have keyed : Progress.step await (.object :: stack) lexeme = .more .colon (.object :: stack) := by
      rcases kind with rfl | ⟨s, rfl⟩ <;> exact step_keyed begins _ nofun
    have valued : Progress.step .colon (.object :: stack) .colon = .more .value (.object :: stack) :=
      rfl
    simp only [List.append_assoc, List.cons_append]
    rw [lexemes_blank blankBefore, token, skipFrom_more keyed, lexemes_blank blankAfter,
      lexemes_colon, skipFrom_more valued]
    exact ih .value (.object :: stack) rest (.inl rfl) ends
  | lastMember member ih =>
    intro await stack rest begins
    rw [ih await stack _ begins (ends_of_mem (by decide)), lexemes_closeObject]
    exact skipFrom_finished rfl _
  | nextMember member members first others =>
    intro await stack rest begins
    rw [List.append_assoc, List.cons_append, first await stack _ begins (ends_of_mem (by decide)),
      lexemes_comma]
    exact others .key stack rest (.inl rfl)

theorem skipValue?_element {text rest : List Char} (element : Phrase .element text)
    (ends : Ends rest) : skipValue? (lexemes (text ++ rest)) = some (lexemes rest) :=
  element.passed .value [] rest (.inl rfl) ends

end CanBus.Json
