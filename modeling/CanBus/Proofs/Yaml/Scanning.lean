import CanBus.Proofs.Yaml.Scalars
import CanBus.Yaml.Scanner

namespace CanBus.Yaml

def Visible (c : Char) : Prop := Shown c ∧ c ≠ ' ' ∧ c ≠ '#'

instance (c : Char) : Decidable (Visible c) := inferInstanceAs (Decidable (_ ∧ _))

theorem readableFrom_shown {text : List Char} (shown : ∀ c ∈ text, Shown c) (room : Nat)
    (block : List Char) : readableFrom room block text = (block.reverse ++ text, true) := by
  induction text generalizing room block with
  | nil => simp [readableFrom]
  | cons c text ih =>
    obtain ⟨first, others⟩ := List.forall_mem_cons.mp shown
    rw [readableFrom]
    simp only [first.allowed, if_true]
    split
    · rw [ih others]
      rfl
    · rw [ih others, List.reverse_cons, List.append_assoc, List.singleton_append]

theorem readable_shown {text : List Char} (shown : ∀ c ∈ text, Shown c) :
    readable text = (text, true) := readableFrom_shown shown _ _

namespace Found

def extend (tokens : List Token) (found : Found) : Found :=
  tokens.foldl (fun found token => found.push token) found

theorem extend_append (tokens more : List Token) (found : Found) :
    found.extend (tokens ++ more) = (found.extend tokens).extend more := List.foldl_append

theorem toList_extend (tokens : List Token) (found : Found) :
    (found.extend tokens).toList = found.toList ++ tokens := by
  induction tokens generalizing found with
  | nil => simp [extend]
  | cons token tokens ih =>
    have more := ih (found.push token)
    rwa [toList_push, List.append_assoc, List.singleton_append] at more

end Found

namespace Scanner

theorem run_step {s t : Scanner} (next : s.next? = some t) (going : t.ended = false)
    (steps : Nat) : run (steps + 1) s = run steps t := by
  simp only [run, next, going, Bool.false_eq_true, if_false]

theorem passBlanks_visible {c : Char} (visible : Visible c) (inFlow keyAllowed : Bool) (mark : Mark)
    (rest : List Char) :
    passBlanks inFlow keyAllowed false mark (c :: rest) = (keyAllowed, ⟨c :: rest, mark⟩) := by
  obtain ⟨shown, solid, uncommented⟩ := visible
  have notTab : c ≠ '\t' := shown.ne (by decide)
  have notMark : c ≠ '\ufeff' := shown.ne (by decide)
  rw [passBlanks]
  · simp [shown.not_break, uncommented, solid, notTab, notMark]
  · exact fun _ same _ => shown.ne (by decide) same

theorem toNextToken_visible {s : Scanner} {c : Char} {rest : List Char}
    (begins : s.cursor.rest = c :: rest) (visible : Visible c) : s.toNextToken = s := by
  rw [toNextToken, begins, passBlanks_visible visible]
  simp only [← begins]

theorem next?_token {s t : Scanner} {c : Char} {rest : List Char}
    (begins : s.cursor.rest = c :: rest) (visible : Visible c) (whole : s.whole = true)
    (fresh : s.forgetStale? = some s) (level : s.unrollTo s.column = s)
    (read : s.token? c rest = some t) (wholeAfter : t.whole = true) : s.next? = t.forgetStale? := by
  have enough (count : Nat) : s.having? count = some s := by rw [having?, whole]; rfl
  have enoughAfter (count : Nat) : t.having? count = some t := by rw [having?, wholeAfter]; rfl
  rw [next?, toNextToken_visible begins visible, fresh, Option.bind_some, enough, Option.bind_some]
  simp only [level, begins, read, Option.bind_some, enoughAfter]

/-- Inside the braces that a text begins with, behind its first `n` characters. -/
def inside (n : Nat) (rest : List Char) (found : Found) (keyPlace : Option KeyPlace)
    (keyAllowed : Bool) : Scanner where
  cursor := ⟨rest, .along n⟩
  whole := true
  found := found
  indent := -1
  outer := []
  keyPlace := keyPlace
  around := [some ⟨false, 0, Mark.start⟩]
  needed := none
  keyAllowed := keyAllowed
  ended := false

variable {n : Nat} {found : Found} {place : Option KeyPlace} {allowed : Bool}

theorem forgetStale?_inside (rest : List Char) (fresh : freshKey? (.along n) place = some place) :
    (inside n rest found place allowed).forgetStale? = some (inside n rest found place allowed) := by
  have keyless : freshKey? (.along n) none = some none := rfl
  simp only [forgetStale?, inside, keyless, fresh]

theorem next?_inside {c : Char} {rest : List Char} {t : Scanner} (visible : Visible c)
    (fresh : freshKey? (.along n) place = some place)
    (read : (inside n (c :: rest) found place allowed).token? c rest = some t)
    (whole : t.whole = true) :
    (inside n (c :: rest) found place allowed).next? = t.forgetStale? :=
  next?_token rfl visible rfl (forgetStale?_inside _ fresh) rfl read whole

theorem step_shown {c : Char} (shown : Shown c) (n : Nat) (rest : List Char) :
    (⟨c :: rest, .along n⟩ : Cursor).step 1 = ⟨rest, .along (n + 1)⟩ := by
  simp only [Cursor.step, List.drop_succ_cons, List.drop_zero, List.take_succ_cons, List.take_zero,
    Mark.past, List.foldl_cons, List.foldl_nil, Mark.next_along shown]

theorem next?_comma (positive : 0 < n) (found : Found) (allowed : Bool) (rest : List Char) :
    (inside n (',' :: rest) found none allowed).next? =
      some (inside (n + 1) rest (found.push .flowEntry) none true) := by
  have read : (inside n (',' :: rest) found none allowed).token? ',' rest =
      some (inside (n + 1) rest (found.push .flowEntry) none true) := by
    have moved := step_shown (by decide : Shown ',') n rest
    simp [token?, inside, documentMark_along positive, flowEntry?, giveUpKey?, allowKey, step, emit,
      moved]
  rw [next?_inside (by decide) rfl read rfl]
  exact forgetStale?_inside rest rfl

theorem next?_open (rest : List Char) :
    (start ('{' :: rest) true).next? =
      some (inside 1 rest (Found.empty.push .flowMappingStart) none true) := by
  have first : documentMark Mark.start ('{' :: rest) = false := by
    simp [documentMark, startsWith]
  have chosen : (start ('{' :: rest) true).token? '{' rest =
      (start ('{' :: rest) true).openFlow? .flowMappingStart := by
    simp [token?, start, first]
  rw [next?_token rfl (by decide) rfl rfl rfl chosen rfl]
  exact forgetStale?_inside rest rfl

theorem freshKey?_near {m : Nat} (near : n ≤ m + 1024) (number : Nat) :
    freshKey? (.along n) (some ⟨false, number, .along m⟩) =
      some (some ⟨false, number, .along m⟩) := by
  simp [freshKey?, Mark.along, Nat.not_lt.mpr near]

theorem next?_colon (positive : 0 < n) {m : Nat} (near : n ≤ m + 1024) (found : Found)
    (token : Token) (rest : List Char) :
    (inside n (':' :: rest) (found.push token) (some ⟨false, found.count, .along m⟩) false).next? =
      some (inside (n + 1) rest (((found.push .key).push token).push .value) none false) := by
  have put : (found.push token).insert found.count .key = (found.push .key).push token := by
    simp [Found.insert, Found.push]
  have read : (inside n (':' :: rest) (found.push token)
      (some ⟨false, found.count, .along m⟩) false).token? ':' rest =
      some (inside (n + 1) rest (((found.push .key).push token).push .value) none false) := by
    have moved := step_shown (by decide : Shown ':') n rest
    simp [token?, inside, documentMark_along positive, inFlow, valueMark?, rollTo, put, allowKey,
      step, emit, moved]
  rw [next?_inside (by decide) (freshKey?_near near _) read rfl]
  exact forgetStale?_inside rest rfl

/-- The place where a key may have begun, if one was allowed there. -/
def noted (n : Nat) (found : Found) (allowed : Bool) : Option KeyPlace :=
  if allowed then some ⟨false, found.count, .along n⟩ else none

theorem noteKey?_inside (n : Nat) (rest : List Char) (found : Found) (allowed : Bool) :
    (inside n rest found none allowed).noteKey? =
      some (inside n rest found (noted n found allowed) allowed) := by
  cases allowed <;> rfl

theorem quotedToken?_read {s t : Scanner} {text : List Char} {cursor : Cursor}
    (begun : s.noteKey? = some t)
    (body : doubleQuoted? (t.cursor.step 1).mark .none (t.cursor.step 1).rest = some (text, cursor)) :
    s.quotedToken? false =
      some { (t.allowKey false).emit (.scalar text .doubleQuoted) with cursor := cursor } := by
  rw [quotedToken?, begun, Option.bind_some]
  simp only [Bool.false_eq_true, if_false, body, Option.map_some]

theorem plainToken?_read {s t : Scanner} {text : List Char} {broken : Bool} {cursor : Cursor}
    (begun : s.noteKey? = some t)
    (body : plain? ⟨t.inFlow, t.indent + 1⟩ t.cursor.mark .none t.cursor.rest =
      some (text, broken, cursor)) :
    s.plainToken? =
      some { (t.allowKey broken).emit (.scalar text .plain) with cursor := cursor } := by
  rw [plainToken?, begun, Option.bind_some, body, Option.map_some]

theorem next?_quoted {text : List Char} (ascii : ∀ c ∈ text, c.toNat < 127) (positive : 0 < n)
    (found : Found) (allowed : Bool) (short : allowed = true → (Json.quote text).length ≤ 1024)
    (rest : List Char) :
    (inside n (Json.quote text ++ rest) found none allowed).next? =
      some (inside (n + (Json.quote text).length) rest (found.push (.scalar text .doubleQuoted))
        (noted n found allowed) false) := by
  have shape : Json.quote text ++ rest = '"' :: (text.flatMap Json.escaped ++ '"' :: rest) := by
    simp [Json.quote]
  have size : n + (Json.quote text).length = n + 1 + (text.flatMap Json.escaped).length + 1 := by
    simp only [Json.quote, List.length_append, List.length_cons, List.length_nil]
    omega
  have chosen : (inside n (Json.quote text ++ rest) found none allowed).token? '"'
      (text.flatMap Json.escaped ++ '"' :: rest) =
      (inside n (Json.quote text ++ rest) found none allowed).quotedToken? false := by
    simp [token?, inside, documentMark_along positive]
  have body := doubleQuoted?_escaped ascii (Nat.succ_pos n) (rfl : Gap.none.broken = false) rest
  rw [← size] at body
  have begun := noteKey?_inside n (Json.quote text ++ rest) found allowed
  have opened : (inside n (Json.quote text ++ rest) found (noted n found allowed)
      allowed).cursor.step 1 = ⟨text.flatMap Json.escaped ++ '"' :: rest, .along (n + 1)⟩ := by
    rw [inside, shape]
    exact step_shown (by decide) n _
  have read := quotedToken?_read begun (by rw [opened]; exact body)
  -- Only a key has to be short: a value leaves no place behind that could grow stale.
  have fresh : freshKey? (.along (n + (Json.quote text).length)) (noted n found allowed) =
      some (noted n found allowed) := by
    cases allowed with
    | false => rfl
    | true => exact freshKey?_near (Nat.add_le_add_left (short rfl) n) _
  rw [shape] at chosen read ⊢
  rw [next?_inside (by decide) rfl (chosen.trans read) rfl]
  exact forgetStale?_inside rest fresh

structure BeginsPlain (c : Char) (rest : List Char) : Prop where
  visible : Visible c
  unmarked : c ∉ ['[', '{', ']', '}', ',', '?', ':', '*', '&', '|', '>', '\'', '"']
  noEntry : ¬ (c = '-' ∧ blankNext rest = true)
  begins : plainBegins true c rest = true

theorem digit_begins {d : Nat} (small : d < 10) (rest : List Char) :
    BeginsPlain (Text.lowerDigit d) rest ∧
      isBlank (Text.lowerDigit d) = false ∧ isBreak (Text.lowerDigit d) = false := by
  have each : ∀ d : Fin 10, Visible (Text.lowerDigit d.val) ∧
      Text.lowerDigit d.val ∉ ['[', '{', ']', '}', ',', '?', ':', '*', '&', '|', '>', '\'', '"'] ∧
      Text.lowerDigit d.val ≠ '-' ∧ isIndicator (Text.lowerDigit d.val) = false ∧
      isBlank (Text.lowerDigit d.val) = false ∧ isBreak (Text.lowerDigit d.val) = false := by
    decide
  obtain ⟨visible, unmarked, notMinus, unreserved, solid, joined⟩ := each ⟨d, small⟩
  have begins : plainBegins true (Text.lowerDigit d) rest = true := by
    simp [plainBegins, unreserved, solid, joined]
  exact ⟨⟨visible, unmarked, fun entry => notMinus entry.1, begins⟩, solid, joined⟩

theorem signedDecimal_begins (m : Int) (rest : List Char) :
    ∃ c more, Text.signedDecimal m ++ rest = c :: more ∧ BeginsPlain c more := by
  have digits (n : Nat) := Text.decimal_head
    (p := fun c => ∀ more, BeginsPlain c more ∧ isBlank c = false ∧ isBreak c = false)
    (fun _ small more => digit_begins small more) n rest
  cases m with
  | ofNat m =>
    obtain ⟨c, more, shape, begins⟩ := digits m
    exact ⟨c, more, shape, (begins more).1⟩
  | negSucc m =>
    obtain ⟨c, more, shape, begins⟩ := digits (m + 1)
    obtain ⟨_, solid, joined⟩ := begins more
    refine ⟨'-', c :: more, by rw [Text.signedDecimal, List.cons_append, shape], by decide,
      by decide, ?_, ?_⟩
    · simp [blankNext, solid, joined]
    · simp [plainBegins, solid]

theorem token?_plain {c : Char} {rest : List Char} (plain : BeginsPlain c rest) (positive : 0 < n)
    (whole : List Char) :
    (inside n whole found none allowed).token? c rest =
      (inside n whole found none allowed).plainToken? := by
  have unmarked := plain.unmarked
  simp only [List.mem_cons, List.not_mem_nil, or_false, not_or] at unmarked
  obtain ⟨h1, h2, h3, h4, h5, h6, h7, h8, h9, h10, h11, h12, h13⟩ := unmarked
  simp only [token?, inside, documentMark_along positive, h1, h2, h3, h4, h5, h6, h7, h8, h9, h10,
    h11, h12, h13, if_neg plain.noEntry, false_and, if_false, Bool.false_eq_true]
  exact if_pos plain.begins

theorem next?_integer (m : Int) (positive : 0 < n) (found : Found) {stop : Char}
    (stops : stop = ',' ∨ stop = '}') (rest : List Char) :
    (inside n (Text.signedDecimal m ++ stop :: rest) found none false).next? =
      some (inside (n + (Text.signedDecimal m).length) (stop :: rest)
        (found.push (.scalar (Text.signedDecimal m) .plain)) none false) := by
  have body := plain?_solid (solid_signedDecimal m) stops positive 0 rest
  have begun := noteKey?_inside n (Text.signedDecimal m ++ stop :: rest) found false
  have read := plainToken?_read begun body
  obtain ⟨c, more, shape, plain⟩ := signedDecimal_begins m (stop :: rest)
  rw [shape] at read ⊢
  rw [next?_inside plain.visible rfl ((token?_plain plain positive _).trans read) rfl]
  exact forgetStale?_inside _ rfl

def closed (n : Nat) (found : Found) (keyPlace : Option KeyPlace) : Scanner where
  cursor := ⟨[], .along n⟩
  whole := true
  found := found
  indent := -1
  outer := []
  keyPlace := keyPlace
  around := []
  needed := none
  keyAllowed := false
  ended := false

def Optional (place : Option KeyPlace) : Prop := ∀ p ∈ place, p.required = false

theorem Optional.fresh (optional : Optional place) (mark : Mark) :
    ∃ kept, freshKey? mark place = some kept ∧ Optional kept := by
  cases place with
  | none => exact ⟨none, rfl, optional⟩
  | some p =>
    rw [freshKey?]
    split
    · rw [optional p rfl, if_neg Bool.false_ne_true]
      exact ⟨none, rfl, nofun⟩
    · exact ⟨some p, rfl, optional⟩

theorem Optional.giveUp {s : Scanner} (optional : Optional s.keyPlace) :
    s.giveUpKey? = some { s with keyPlace := none } := by
  unfold giveUpKey?
  split
  · rename_i p kept
    rw [optional p kept, if_neg Bool.false_ne_true]
  · rename_i kept
    simp only [← kept]

theorem Optional.forget (optional : Optional place) (n : Nat) (found : Found) :
    ∃ kept, (closed n found place).forgetStale? = some (closed n found kept) ∧ Optional kept := by
  obtain ⟨kept, fresh, optional⟩ := optional.fresh (.along n)
  have keyless : freshKey? (.along n) none = some none := rfl
  exact ⟨kept, by simp only [forgetStale?, closed, keyless, fresh], optional⟩

theorem next?_close (positive : 0 < n) (found : Found) (allowed : Bool) :
    ∃ kept, (inside n ['}'] found none allowed).next? =
      some (closed (n + 1) (found.push .flowMappingEnd) kept) ∧ Optional kept := by
  have read : (inside n ['}'] found none allowed).token? '}' [] =
      some (closed (n + 1) (found.push .flowMappingEnd) (some ⟨false, 0, Mark.start⟩)) := by
    have moved := step_shown (by decide : Shown '}') n []
    simp [token?, inside, closed, documentMark_along positive, closeFlow?, giveUpKey?, allowKey,
      step, emit, moved]
  -- The opening brace is the innermost place again, and too far back if the line is long.
  have optional : Optional (some ⟨false, 0, Mark.start⟩) := by
    rintro p ⟨⟩
    rfl
  rw [next?_inside (by decide) rfl read rfl]
  exact optional.forget (n + 1) _

theorem next?_end (positive : 0 < n) (found : Found) (optional : Optional place) :
    ∃ t, (closed n found place).next? = some t ∧ t.ended = true ∧
      t.found = found.push .streamEnd := by
  obtain ⟨kept, forgotten, optional⟩ := optional.forget n found
  have column : ¬ (closed n found kept).cursor.mark.column = 0 := Nat.ne_of_gt positive
  have given : ({ closed n found kept with cursor := ⟨[], (Mark.along n).newline 0⟩ } :
      Scanner).giveUpKey? =
      some { closed n found none with cursor := ⟨[], (Mark.along n).newline 0⟩ } :=
    Optional.giveUp optional
  have ends : (closed n found kept).endStream? = some { closed n (found.push .streamEnd) none with
      cursor := ⟨[], (Mark.along n).newline 0⟩, ended := true } := by
    rw [endStream?, if_neg column]
    exact congrArg (Option.map _) given
  refine ⟨{ closed n (found.push .streamEnd) none with
    cursor := ⟨[], (Mark.along n).newline 0⟩, ended := true }, ?_, rfl, rfl⟩
  have here : (closed n found place).toNextToken = closed n found place := rfl
  have enough : (closed n found kept).having? 4 = some (closed n found kept) := rfl
  rw [next?, here, forgotten, Option.bind_some, enough, Option.bind_some]
  exact congrArg (fun found : Option Scanner => (found.bind (having? 1)).bind forgetStale?) ends

theorem run_close (positive : 0 < n) (found : Found) (allowed : Bool) (steps : Nat) :
    run (steps + 2) (inside n ['}'] found none allowed) =
      (found.toList ++ [.flowMappingEnd, .streamEnd], true) := by
  obtain ⟨kept, closes, optional⟩ := next?_close positive found allowed
  obtain ⟨t, ends, ended, all⟩ :=
    next?_end (Nat.succ_pos n) (found.push .flowMappingEnd) optional
  rw [run_step closes rfl, run]
  simp only [ends, ended, if_true, all, Found.toList_push, List.append_assoc, List.singleton_append]

end Scanner

end CanBus.Yaml
