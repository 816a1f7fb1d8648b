import CanBus.Json.Lexeme
import CanBus.Proofs.Text.Decimal

namespace CanBus.Json

def NoDigit (rest : List Char) : Prop := ∀ c ∈ rest.head?, isDigit c = false

def Ends (rest : List Char) : Prop :=
  ∀ c ∈ rest.head?, isDigit c = false ∧ c ≠ '.' ∧ c ≠ 'e' ∧ c ≠ 'E'

theorem Ends.noDigit {rest : List Char} (ends : Ends rest) : NoDigit rest :=
  fun c first => (ends c first).1

def Digits (text : List Char) : Prop := text ≠ [] ∧ ∀ c ∈ text, isDigit c = true

inductive Whole : List Char → Prop
  | zero : Whole ['0']
  | more {c : Char} {rest : List Char} (first : isDigit c = true) (leading : c ≠ '0')
      (digits : ∀ d ∈ rest, isDigit d = true) : Whole (c :: rest)

inductive Fraction : List Char → Prop
  | absent : Fraction []
  | present {digits : List Char} (run : Digits digits) : Fraction ('.' :: digits)

inductive Exponent : List Char → Prop
  | absent : Exponent []
  | present {mark : Char} {sign digits : List Char} (marked : mark = 'e' ∨ mark = 'E')
      (signed : sign ∈ [[], ['+'], ['-']]) (run : Digits digits) :
      Exponent (mark :: (sign ++ digits))

inductive Number : List Char → Prop
  | intro {sign whole fraction exponent : List Char} (signed : sign ∈ [[], ['-']])
      (isWhole : Whole whole) (isFraction : Fraction fraction) (isExponent : Exponent exponent) :
      Number (sign ++ (whole ++ (fraction ++ exponent)))

theorem takeWhile_digits {digits rest : List Char} (all : ∀ d ∈ digits, isDigit d = true)
    (ends : NoDigit rest) : (digits ++ rest).takeWhile isDigit = digits := by
  rw [List.takeWhile_append_of_pos all]
  cases rest with
  | nil => simp
  | cons c rest => simp [ends c rfl]

theorem dropWhile_digits {digits rest : List Char} (all : ∀ d ∈ digits, isDigit d = true)
    (ends : NoDigit rest) : (digits ++ rest).dropWhile isDigit = rest := by
  rw [List.dropWhile_append_of_pos all]
  cases rest with
  | nil => rfl
  | cons c rest => simp [ends c rfl]

theorem Digits.skip {digits rest : List Char} (run : Digits digits) (ends : NoDigit rest) :
    skipDigits? (digits ++ rest) = some rest := by
  obtain ⟨present, all⟩ := run
  cases digits with
  | nil => contradiction
  | cons c more =>
    obtain ⟨first, others⟩ := List.forall_mem_cons.mp all
    rw [List.cons_append, skipDigits?, if_pos first, dropWhile_digits others ends]

theorem Whole.read {whole rest : List Char} (isWhole : Whole whole) (ends : NoDigit rest) :
    wholeDigits? (whole ++ rest) = some (whole, rest) := by
  cases isWhole with
  | zero =>
    have none : ∀ d ∈ ([] : List Char), isDigit d = true := by simp
    have stops : rest.takeWhile isDigit = [] := takeWhile_digits none ends
    simp [wholeDigits?, stops]
  | more first leading digits =>
    rw [List.cons_append, wholeDigits?, if_neg leading, if_pos first, takeWhile_digits digits ends,
      dropWhile_digits digits ends]

theorem Fraction.skip {fraction rest : List Char} (isFraction : Fraction fraction)
    (ends : NoDigit rest) (pointless : ∀ c ∈ rest.head?, c ≠ '.') :
    ∃ present, skipFraction? (fraction ++ rest) = some (present, rest) := by
  cases isFraction with
  | absent =>
    cases rest with
    | nil => exact ⟨false, rfl⟩
    | cons c rest => exact ⟨false, by simp [skipFraction?, pointless c rfl]⟩
  | present digits =>
    refine ⟨true, ?_⟩
    rw [List.cons_append, skipFraction?, if_pos rfl, digits.skip ends, Option.map_some]

theorem skipSign_digits {digits : List Char} (run : Digits digits) (rest : List Char) :
    skipSign (digits ++ rest) = digits ++ rest := by
  obtain ⟨present, all⟩ := run
  cases digits with
  | nil => contradiction
  | cons c more =>
    have digit := all c List.mem_cons_self
    have unsigned : ¬ (c = '+' ∨ c = '-') := by
      rintro (rfl | rfl) <;> exact absurd digit (by decide)
    rw [List.cons_append, skipSign, if_neg unsigned]

theorem Exponent.skip {exponent rest : List Char} (isExponent : Exponent exponent)
    (ends : Ends rest) : ∃ present, skipExponent? (exponent ++ rest) = some (present, rest) := by
  cases isExponent with
  | absent =>
    cases rest with
    | nil => exact ⟨false, rfl⟩
    | cons c rest =>
      obtain ⟨_, _, lower, upper⟩ := ends c rfl
      exact ⟨false, by simp [skipExponent?, lower, upper]⟩
  | @present mark sign digits marked signed run =>
    have unsigned : skipSign (sign ++ digits ++ rest) = digits ++ rest := by
      simp only [List.mem_cons, List.not_mem_nil, or_false] at signed
      rcases signed with rfl | rfl | rfl
      · exact skipSign_digits run rest
      · rfl
      · rfl
    refine ⟨true, ?_⟩
    rw [List.cons_append, skipExponent?, if_pos marked, unsigned, run.skip ends.noDigit,
      Option.map_some]

theorem Exponent.apart {exponent rest : List Char} (isExponent : Exponent exponent)
    (ends : Ends rest) : ∀ c ∈ (exponent ++ rest).head?, isDigit c = false ∧ c ≠ '.' := by
  cases isExponent with
  | absent => exact fun c first => ⟨(ends c first).1, (ends c first).2.1⟩
  | present marked signed digits =>
    intro c first
    obtain rfl := Option.some.inj first
    rcases marked with rfl | rfl <;> decide

theorem Fraction.apart {fraction rest : List Char} (isFraction : Fraction fraction)
    (ends : NoDigit rest) : NoDigit (fraction ++ rest) := by
  cases isFraction with
  | absent => exact ends
  | present digits =>
    intro c first
    obtain rfl := Option.some.inj first
    decide

theorem unsignedNumber?_read (negative : Bool) {whole fraction exponent rest : List Char}
    (isWhole : Whole whole) (isFraction : Fraction fraction) (isExponent : Exponent exponent)
    (ends : Ends rest) :
    ∃ lexeme, (lexeme = .otherNumber ∨ ∃ n, lexeme = .integer n) ∧
      unsignedNumber? negative (whole ++ (fraction ++ (exponent ++ rest))) = some (lexeme, rest) := by
  have apart := isExponent.apart ends
  have noDigit : NoDigit (exponent ++ rest) := fun c first => (apart c first).1
  have wholes := isWhole.read (isFraction.apart noDigit)
  obtain ⟨fractional, fractions⟩ := isFraction.skip noDigit fun c first => (apart c first).2
  obtain ⟨scaled, exponents⟩ := isExponent.skip ends
  unfold unsignedNumber?
  simp only [wholes, fractions, exponents]
  split
  · exact ⟨_, .inl rfl, rfl⟩
  · exact ⟨_, .inr ⟨_, rfl⟩, rfl⟩

theorem Whole.head {whole : List Char} (isWhole : Whole whole) :
    ∃ c rest, whole = c :: rest ∧ isDigit c = true := by
  cases isWhole with
  | zero => exact ⟨'0', [], rfl, by decide⟩
  | more first => exact ⟨_, _, rfl, first⟩

theorem number?_unsigned {c : Char} {rest : List Char} (digit : isDigit c = true) :
    number? (c :: rest) = unsignedNumber? false (c :: rest) := by
  have unsigned : c ≠ '-' := by
    rintro rfl
    exact absurd digit (by decide)
  rw [number?, if_neg unsigned]

theorem Number.read {text rest : List Char} (number : Number text) (ends : Ends rest) :
    ∃ lexeme, (lexeme = .otherNumber ∨ ∃ n, lexeme = .integer n) ∧
      number? (text ++ rest) = some (lexeme, rest) := by
  obtain ⟨signed, isWhole, isFraction, isExponent⟩ := number
  simp only [List.mem_cons, List.not_mem_nil, or_false] at signed
  simp only [List.append_assoc]
  rcases signed with rfl | rfl
  · obtain ⟨lexeme, kind, read⟩ :=
      unsignedNumber?_read false isWhole isFraction isExponent ends
    obtain ⟨c, more, rfl, digit⟩ := isWhole.head
    refine ⟨lexeme, kind, ?_⟩
    rw [List.nil_append, List.cons_append, number?_unsigned digit]
    exact read
  · obtain ⟨lexeme, kind, read⟩ :=
      unsignedNumber?_read true isWhole isFraction isExponent ends
    refine ⟨lexeme, kind, ?_⟩
    rw [List.singleton_append, number?, if_pos rfl]
    exact read

theorem Number.head {text : List Char} (number : Number text) :
    ∃ c rest, text = c :: rest ∧ (c = '-' ∨ isDigit c = true) := by
  obtain ⟨signed, isWhole, isFraction, isExponent⟩ := number
  obtain ⟨c, more, rfl, digit⟩ := isWhole.head
  simp only [List.mem_cons, List.not_mem_nil, or_false] at signed
  rcases signed with rfl | rfl
  · exact ⟨c, _, rfl, .inr digit⟩
  · exact ⟨'-', _, rfl, .inl rfl⟩

theorem isDigit_lowerDigit {d : Nat} (small : d < 10) : isDigit (Text.lowerDigit d) = true := by
  have each : ∀ d : Fin 10, isDigit (Text.lowerDigit d.val) = true := by decide
  exact each ⟨d, small⟩

theorem decimal_decimal (n : Nat) : decimal (Text.decimal n) = n := by
  apply Text.foldl_decimal
  intro m d small
  have value : ∀ d : Fin 10, (Text.lowerDigit d.val).toNat - 48 = d.val := by decide
  rw [value ⟨d, small⟩]

theorem whole_decimal (n : Nat) : Whole (Text.decimal n) := by
  by_cases positive : 0 < n
  · have all := Text.forall_decimal (p := fun c => isDigit c = true)
      (fun d small => isDigit_lowerDigit small) n
    obtain ⟨c, rest, shape, leading⟩ := Text.decimal_positive positive
    rw [shape] at all ⊢
    obtain ⟨first, others⟩ := List.forall_mem_cons.mp all
    exact .more first leading others
  · rw [Nat.eq_zero_of_not_pos positive, Text.decimal_zero]
    exact .zero

theorem unsignedNumber?_decimal (negative : Bool) (n : Nat) {rest : List Char} (ends : Ends rest)
    (nonzero : negative = true → n ≠ 0) :
    unsignedNumber? negative (Text.decimal n ++ rest) =
      some (.integer (if negative then -n else n), rest) := by
  have wholes := (whole_decimal n).read ends.noDigit
  obtain ⟨present, fractions⟩ : ∃ b, skipFraction? rest = some (b, rest) ∧ b = false := by
    cases rest with
    | nil => exact ⟨false, rfl, rfl⟩
    | cons c rest => exact ⟨false, by simp [skipFraction?, (ends c rfl).2.1], rfl⟩
  obtain ⟨present, exponents⟩ : ∃ b, skipExponent? rest = some (b, rest) ∧ b = false := by
    cases rest with
    | nil => exact ⟨false, rfl, rfl⟩
    | cons c rest =>
      obtain ⟨_, _, lower, upper⟩ := ends c rfl
      exact ⟨false, by simp [skipExponent?, lower, upper], rfl⟩
  unfold unsignedNumber?
  simp only [wholes, fractions.1, fractions.2, exponents.1, exponents.2, decimal_decimal]
  cases negative <;> simp_all

theorem number?_signedDecimal (n : Int) {rest : List Char} (ends : Ends rest) :
    number? (Text.signedDecimal n ++ rest) = some (.integer n, rest) := by
  cases n with
  | ofNat n =>
    obtain ⟨c, more, shape, digit⟩ := (whole_decimal n).head
    have read := unsignedNumber?_decimal false n ends (fun impossible => nomatch impossible)
    rw [Text.signedDecimal, shape, List.cons_append, number?_unsigned digit, ← List.cons_append,
      ← shape, read]
    rfl
  | negSucc n =>
    have read := unsignedNumber?_decimal true (n + 1) ends (fun _ => Nat.succ_ne_zero n)
    rw [Text.signedDecimal, List.cons_append, number?, if_pos rfl, read]
    rfl

end CanBus.Json
