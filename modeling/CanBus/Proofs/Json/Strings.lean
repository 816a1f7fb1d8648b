import CanBus.Json.Text

namespace CanBus.Json

/-- What may stand between the quotes of a string, by its elements. -/
inductive Spelled : List Piece → List Char → Prop
  | done : Spelled [] []
  | plain {c : Char} {pieces : List Piece} {body : List Char} (unquoted : c ≠ '"')
      (unescaped : c ≠ '\\') (visible : ¬ c < ' ') (more : Spelled pieces body) :
      Spelled (.char c :: pieces) (c :: body)
  | short {letter c : Char} {pieces : List Piece} {body : List Char}
      (escape : shortEscape? letter = some c) (more : Spelled pieces body) :
      Spelled (.char c :: pieces) ('\\' :: letter :: body)
  | unit {a b c d : Char} {code : Nat} {pieces : List Piece} {body : List Char}
      (hex : unit? a b c d = some code) (more : Spelled pieces body) :
      Spelled (.unit code :: pieces) ('\\' :: 'u' :: a :: b :: c :: d :: body)

/-- The text of a body's elements. A character past 16 bits has two halves. -/
inductive Means : List Piece → List Char → Prop
  | done : Means [] []
  | char {c : Char} {pieces : List Piece} {text : List Char} (more : Means pieces text) :
      Means (.char c :: pieces) (c :: text)
  | unit {code : Nat} {pieces : List Piece} {text : List Char} (notHigh : isHigh code = false)
      (notLow : isLow code = false) (more : Means pieces text) :
      Means (.unit code :: pieces) (Char.ofNat code :: text)
  | pair {high low : Nat} {pieces : List Piece} {text : List Char} (isHigh : isHigh high = true)
      (isLow : isLow low = true) (more : Means pieces text) :
      Means (.unit high :: .unit low :: pieces) (pairChar high low :: text)

def Body (body : List Char) : Prop := ∃ pieces, Spelled pieces body

def Spells (text body : List Char) : Prop := ∃ pieces, Spelled pieces body ∧ Means pieces text

theorem body?_quote (rest : List Char) : body? ('"' :: rest) = some ([], rest) := by
  rw [body?.eq_def]
  split
  · contradiction
  · simp_all
  · simp_all
  · rename_i same
    obtain ⟨rfl, rfl⟩ := List.cons.inj same
    rfl

theorem body?_plain {c : Char} (unquoted : c ≠ '"') (unescaped : c ≠ '\\') (visible : ¬ c < ' ')
    (rest : List Char) :
    body? (c :: rest) = (body? rest).map fun found => (.char c :: found.1, found.2) := by
  have itself : ¬ (c = '\\' ∨ c < ' ') := not_or.mpr ⟨unescaped, visible⟩
  rw [body?.eq_def]
  split
  · contradiction
  · simp_all
  · simp_all
  · rename_i same
    obtain ⟨rfl, rfl⟩ := List.cons.inj same
    rw [if_neg unquoted, if_neg itself]
    cases body? rest <;> rfl

theorem shortEscape?_u : shortEscape? 'u' = none := by decide

theorem body?_short {letter c : Char} (escape : shortEscape? letter = some c)
    (rest : List Char) :
    body? ('\\' :: letter :: rest) =
      (body? rest).map fun found => (.char c :: found.1, found.2) := by
  have other : letter ≠ 'u' := by
    rintro rfl
    rw [shortEscape?_u] at escape
    contradiction
  rw [body?.eq_def]
  split
  · contradiction
  · simp_all
  · rename_i same
    obtain ⟨_, same⟩ := List.cons.inj same
    obtain ⟨rfl, rfl⟩ := List.cons.inj same
    simp only [escape]
    cases body? rest <;> rfl
  · rename_i apart same
    obtain ⟨rfl, rfl⟩ := List.cons.inj same
    exact absurd rfl (apart _ _ rfl)

theorem body?_unit {a b c d : Char} {code : Nat} (hex : unit? a b c d = some code)
    (rest : List Char) :
    body? ('\\' :: 'u' :: a :: b :: c :: d :: rest) =
      (body? rest).map fun found => (.unit code :: found.1, found.2) := by
  rw [body?]
  simp only [hex]
  cases body? rest <;> rfl

theorem Spelled.read {pieces : List Piece} {body : List Char} (spelled : Spelled pieces body)
    (rest : List Char) : body? (body ++ '"' :: rest) = some (pieces, rest) := by
  induction spelled with
  | done => exact body?_quote rest
  | plain unquoted unescaped visible more ih =>
    rw [List.cons_append, body?_plain unquoted unescaped visible, ih, Option.map_some]
  | short escape more ih =>
    rw [List.cons_append, List.cons_append, body?_short escape, ih, Option.map_some]
  | unit hex more ih =>
    simp only [List.cons_append]
    rw [body?_unit hex, ih, Option.map_some]

theorem text?_unit {code : Nat} (notHigh : isHigh code = false) (notLow : isLow code = false)
    (pieces : List Piece) :
    text? (.unit code :: pieces) = (text? pieces).map (Char.ofNat code :: ·) := by
  cases pieces with
  | nil => simp [text?, notHigh, notLow]
  | cons piece rest => cases piece <;> simp [text?, notHigh, notLow]

theorem Means.read {pieces : List Piece} {text : List Char} (means : Means pieces text) :
    text? pieces = some text := by
  induction means with
  | done => rfl
  | char more ih => rw [text?, ih, Option.map_some]
  | unit notHigh notLow more ih => rw [text?_unit notHigh notLow, ih, Option.map_some]
  | pair isHigh isLow more ih =>
    rw [text?, isHigh, isLow, if_pos rfl, if_pos rfl, ih, Option.map_some]

theorem spells_nil : Spells [] [] := ⟨[], .done, .done⟩

theorem spells_plain {c : Char} {text body : List Char} (unquoted : c ≠ '"') (unescaped : c ≠ '\\')
    (visible : ¬ c < ' ') (more : Spells text body) : Spells (c :: text) (c :: body) := by
  obtain ⟨pieces, spelled, means⟩ := more
  exact ⟨_, .plain unquoted unescaped visible spelled, .char means⟩

theorem spells_short {letter c : Char} {text body : List Char}
    (escape : shortEscape? letter = some c) (more : Spells text body) :
    Spells (c :: text) ('\\' :: letter :: body) := by
  obtain ⟨pieces, spelled, means⟩ := more
  exact ⟨_, .short escape spelled, .char means⟩

theorem spells_unit {a b c d : Char} {code : Nat} {text body : List Char}
    (hex : unit? a b c d = some code) (notHigh : isHigh code = false)
    (notLow : isLow code = false) (more : Spells text body) :
    Spells (Char.ofNat code :: text) ('\\' :: 'u' :: a :: b :: c :: d :: body) := by
  obtain ⟨pieces, spelled, means⟩ := more
  exact ⟨_, .unit hex spelled, .unit notHigh notLow means⟩

theorem hexPadded_control {n : Nat} (small : n < 32) :
    Text.hexPadded Text.lowerDigit 4 n =
      ['0', '0', Text.lowerDigit (n / 16), Text.lowerDigit (n % 16)] := by
  have low : ∀ n : Fin 32, Text.hexPadded Text.lowerDigit 4 n.val =
      ['0', '0', Text.lowerDigit (n.val / 16), Text.lowerDigit (n.val % 16)] := by decide +kernel
  exact low ⟨n, small⟩

theorem unit?_control {n : Nat} (small : n < 32) :
    unit? '0' '0' (Text.lowerDigit (n / 16)) (Text.lowerDigit (n % 16)) = some n := by
  have zero : Text.hexValue? '0' = some 0 := by decide
  have high : Text.hexValue? (Text.lowerDigit (n / 16)) = some (n / 16) :=
    Text.hexValue?_lowerDigit (by omega)
  have low : Text.hexValue? (Text.lowerDigit (n % 16)) = some (n % 16) :=
    Text.hexValue?_lowerDigit (by omega)
  simp only [unit?, zero, high, low, Option.some.injEq]
  omega

theorem spells_control {c : Char} {text body : List Char} (control : c < ' ')
    (more : Spells text body) :
    Spells (c :: text) (['\\', 'u'] ++ Text.hexPadded Text.lowerDigit 4 c.toNat ++ body) := by
  have small : c.toNat < 32 := control
  have notHigh : isHigh c.toNat = false := by
    simp only [isHigh, Bool.and_eq_false_iff, decide_eq_false_iff_not]
    omega
  have notLow : isLow c.toNat = false := by
    simp only [isLow, Bool.and_eq_false_iff, decide_eq_false_iff_not]
    omega
  have unit := spells_unit (unit?_control small) notHigh notLow more
  rw [Char.ofNat_toNat] at unit
  rw [hexPadded_control small]
  exact unit

def letters : List (Char × Char) :=
  [('"', '"'), ('\\', '\\'), ('b', '\x08'), ('t', '\t'), ('n', '\n'), ('f', '\x0c'), ('r', '\r')]

theorem escaped_cases (c : Char) :
    (∃ letter, (letter, c) ∈ letters ∧ escaped c = ['\\', letter]) ∨
      (c < ' ' ∧ escaped c = ['\\', 'u'] ++ Text.hexPadded Text.lowerDigit 4 c.toNat) ∨
      (c ≠ '"' ∧ c ≠ '\\' ∧ ¬ c < ' ' ∧ escaped c = [c]) := by
  have lettered : ∀ entry ∈ letters, escaped entry.2 = ['\\', entry.1] := by decide +kernel
  by_cases named : ∃ letter, (letter, c) ∈ letters
  · obtain ⟨letter, member⟩ := named
    exact .inl ⟨letter, member, lettered _ member⟩
  · simp only [letters, List.mem_cons, Prod.mk.injEq, List.not_mem_nil, or_false, exists_or,
      exists_eq_left, not_or] at named
    obtain ⟨quote, backslash, backspace, tab, feed, page, carriage⟩ := named
    by_cases control : c < ' '
    · right; left
      simp [escaped, quote, backslash, backspace, tab, feed, page, carriage, control]
    · right; right
      simp [escaped, quote, backslash, backspace, tab, feed, page, carriage, control]

theorem spells_escaped (c : Char) {text body : List Char} (more : Spells text body) :
    Spells (c :: text) (escaped c ++ body) := by
  have known : ∀ entry ∈ letters, shortEscape? entry.1 = some entry.2 := by decide
  rcases escaped_cases c with
    ⟨letter, member, short⟩ | ⟨control, unit⟩ | ⟨quote, backslash, visible, plain⟩
  · rw [short]
    exact spells_short (known _ member) more
  · rw [unit]
    exact spells_control control more
  · rw [plain]
    exact spells_plain quote backslash visible more

theorem spells_flatMap_escaped (text : List Char) : Spells text (text.flatMap escaped) := by
  induction text with
  | nil => exact spells_nil
  | cons c text ih => exact spells_escaped c ih

end CanBus.Json
