import CanBus.Proofs.Json.Strings
import CanBus.Proofs.Text.Decimal
import CanBus.Yaml.Number
import CanBus.Yaml.Scalar.Flow

namespace CanBus.Yaml

def Shown (c : Char) : Prop := ' ' ≤ c ∧ c ≤ '~'

instance (c : Char) : Decidable (Shown c) := inferInstanceAs (Decidable (_ ∧ _))

theorem Shown.ne {c d : Char} (shown : Shown c) (other : ¬ Shown d) : c ≠ d :=
  fun same => other (same ▸ shown)

theorem Shown.utf8Size {c : Char} (shown : Shown c) : c.utf8Size = 1 := by
  have last : c.val ≤ 126 := shown.2
  rw [Char.utf8Size_eq_one_iff]
  exact UInt32.le_trans last (by decide)

theorem Shown.allowed {c : Char} (shown : Shown c) : allowed c = true := by
  simp [Yaml.allowed, shown.1, shown.2]

theorem Shown.not_break {c : Char} (shown : Shown c) : isBreak c = false := by
  cases found : isBreak c with
  | false => rfl
  | true =>
    simp only [isBreak, Bool.or_eq_true, beq_iff_eq] at found
    rcases found with (((rfl | rfl) | rfl) | rfl) | rfl <;> exact absurd shown (by decide)

def Mark.along (n : Nat) : Mark := ⟨n, 0, n⟩

theorem Mark.next_along {c : Char} (shown : Shown c) (n : Nat) :
    (along n).next c = along (n + 1) := by
  simp only [along, next, shown.utf8Size]

theorem documentMark_along {n : Nat} (inside : 0 < n) (cs : List Char) :
    documentMark (.along n) cs = false := by
  have column : ((Mark.along n).column == 0) = false := beq_false_of_ne (Nat.ne_of_gt inside)
  rw [documentMark, column, Bool.false_and, Bool.false_and]

theorem prepend_some {α : Type} (text found : List Char) (rest : α) :
    prepend text (some (found, rest)) = some (text ++ found, rest) := rfl

theorem doubleQuoted?_letter {letter c : Char} (known : (letter, c) ∈ Json.letters) (mark : Mark)
    (gap : Gap) (rest : List Char) :
    doubleQuoted? mark gap ('\\' :: letter :: rest) =
      prepend (gap.text ++ [c]) (doubleQuoted? (mark.skip 2) .none rest) := by
  have each : ∀ entry ∈ Json.letters, shortEscape? entry.1 = some entry.2 ∧
      isBreak entry.1 = false ∧ entry.1 ∉ ['x', 'u', 'U', '\r'] := by decide
  obtain ⟨escape, joined, other⟩ := each _ known
  simp only [List.mem_cons, List.not_mem_nil, or_false, not_or] at other
  obtain ⟨notTwo, notFour, notEight, notReturn⟩ := other
  rw [doubleQuoted?]
  · simp only [joined, Bool.false_eq_true, if_false, escape]
  · exact fun _ same _ => notReturn same
  · exact fun _ _ _ same _ => notTwo same
  · exact fun _ _ _ _ _ same _ => notFour same
  · exact fun _ _ _ _ _ _ _ _ _ same _ => notEight same

theorem doubleQuoted?_unit {a b c d e : Char} (hex : charOf? [a, b, c, d] = some e) (mark : Mark)
    (gap : Gap) (rest : List Char) :
    doubleQuoted? mark gap ('\\' :: 'u' :: a :: b :: c :: d :: rest) =
      prepend (gap.text ++ [e]) (doubleQuoted? (mark.skip 6) .none rest) := by
  rw [doubleQuoted?, hex]

theorem doubleQuoted?_space (mark : Mark) (gap : Gap) (rest : List Char) :
    doubleQuoted? mark gap (' ' :: rest) =
      doubleQuoted? (mark.next ' ') (gap.addBlank ' ') rest := by
  simp [doubleQuoted?, isBreak, isBlank]

theorem doubleQuoted?_plain {c : Char} (shown : Shown c) (unquoted : c ≠ '"')
    (unescaped : c ≠ '\\') (solid : c ≠ ' ') {n : Nat} (inside : 0 < n) (gap : Gap)
    (rest : List Char) :
    doubleQuoted? (.along n) gap (c :: rest) =
      prepend (gap.text ++ [c]) (doubleQuoted? (.along (n + 1)) .none rest) := by
  have joined := shown.not_break
  have visible : isBlank c = false := by
    rw [isBlank, beq_false_of_ne solid, Bool.false_or, beq_eq_false_iff_ne]
    exact shown.ne (by decide)
  rw [doubleQuoted?]
  · simp only [unquoted, unescaped, joined, visible, documentMark_along inside, if_false,
      Bool.false_eq_true, Mark.next_along shown]
  · exact fun _ same _ => unescaped same
  · exact fun _ _ _ same _ => unescaped same
  · exact fun _ _ _ _ _ same _ => unescaped same
  · exact fun _ _ _ _ _ _ _ _ _ same _ => unescaped same
  · exact fun _ _ same _ => unescaped same
  · exact fun _ same _ => shown.ne (by decide) same

theorem doubleQuoted?_close (gap : Gap) (n : Nat) (rest : List Char) :
    doubleQuoted? (.along n) gap ('"' :: rest) = some (gap.text, ⟨rest, .along (n + 1)⟩) := by
  simp [doubleQuoted?, Mark.next_along (by decide : Shown '"')]

theorem Shown.of_visible {c : Char} (ascii : c.toNat < 127) (visible : ¬ c < ' ') : Shown c :=
  ⟨Char.not_lt.mp visible, Nat.le_of_lt_succ ascii⟩

theorem shown_lowerDigit {d : Nat} (small : d < 16) : Shown (Text.lowerDigit d) := by
  have each : ∀ d : Fin 16, Shown (Text.lowerDigit d.val) := by decide
  exact each ⟨d, small⟩

theorem charOf?_control {n : Nat} (small : n < 32) :
    charOf? ['0', '0', Text.lowerDigit (n / 16), Text.lowerDigit (n % 16)] =
      some (Char.ofNat n) := by
  have each : ∀ n : Fin 32, charOf? ['0', '0', Text.lowerDigit (n.val / 16),
      Text.lowerDigit (n.val % 16)] = some (Char.ofNat n.val) := by decide
  exact each ⟨n, small⟩

theorem escaped_shown {c : Char} (ascii : c.toNat < 127) : ∀ d ∈ Json.escaped c, Shown d := by
  have named : ∀ entry ∈ Json.letters, Shown entry.1 := by decide
  rcases Json.escaped_cases c with
    ⟨letter, known, short⟩ | ⟨control, unit⟩ | ⟨_, _, visible, plain⟩
  · rw [short]
    simp only [List.forall_mem_cons, List.not_mem_nil, false_imp_iff, implies_true, and_true]
    exact ⟨by decide, named _ known⟩
  · have small : c.toNat < 32 := control
    rw [unit, Json.hexPadded_control small]
    simp only [List.cons_append, List.nil_append, List.forall_mem_cons, List.not_mem_nil,
      false_imp_iff, implies_true, and_true]
    exact ⟨by decide, by decide, by decide, by decide, shown_lowerDigit (by omega),
      shown_lowerDigit (by omega)⟩
  · rw [plain]
    simp only [List.mem_singleton, forall_eq]
    exact .of_visible ascii visible

theorem doubleQuoted?_escaped {text : List Char} (ascii : ∀ c ∈ text, c.toNat < 127) {n : Nat}
    (inside : 0 < n) {gap : Gap} (unbroken : gap.broken = false) (rest : List Char) :
    doubleQuoted? (.along n) gap (text.flatMap Json.escaped ++ '"' :: rest) =
      some (gap.text ++ text, ⟨rest, .along (n + (text.flatMap Json.escaped).length + 1)⟩) := by
  -- A space waits in the gap for what follows it, so the gap changes along the way.
  induction text generalizing n gap with
  | nil => simp [doubleQuoted?_close]
  | cons c text ih =>
    obtain ⟨first, others⟩ := List.forall_mem_cons.mp ascii
    have again {count : Nat} (size : (Json.escaped c).length = count) :
        prepend (gap.text ++ [c])
          (doubleQuoted? (.along (n + count)) .none (text.flatMap Json.escaped ++ '"' :: rest)) =
        some (gap.text ++ c :: text,
          ⟨rest, .along (n + ((Json.escaped c).length + (text.flatMap Json.escaped).length) + 1)⟩) := by
      rw [ih others (by omega) rfl, prepend_some, Gap.text_none, List.nil_append, List.append_assoc,
        List.singleton_append, size, Nat.add_assoc n count]
    rw [List.flatMap_cons, List.append_assoc, List.length_append]
    rcases Json.escaped_cases c with
      ⟨letter, known, short⟩ | ⟨control, unit⟩ | ⟨quote, backslash, visible, plain⟩
    · have read := again (congrArg List.length short)
      rw [← read, short]
      exact doubleQuoted?_letter known _ _ _
    · have small : c.toNat < 32 := control
      have hex := charOf?_control small
      rw [Char.ofNat_toNat] at hex
      rw [Json.hexPadded_control small] at unit
      have read := again (congrArg List.length unit)
      rw [← read, unit]
      exact doubleQuoted?_unit hex _ _ _
    · have shown := Shown.of_visible first visible
      by_cases space : c = ' '
      · subst space
        have kept : (gap.addBlank ' ').broken = false := by
          rw [Gap.addBlank, if_neg (by simp [unbroken])]
          exact unbroken
        rw [plain, List.singleton_append, doubleQuoted?_space, Mark.next_along shown,
          ih others (by omega) kept, Gap.text_addBlank unbroken, List.append_assoc,
          List.singleton_append, List.length_singleton, Nat.add_assoc n 1]
      · have read := again (congrArg List.length plain)
        rw [← read, plain, List.singleton_append]
        exact doubleQuoted?_plain shown quote backslash space inside _ _

def Solid (c : Char) : Prop := Shown c ∧ c ∉ [' ', ':', ',', '[', ']', '{', '}']

instance (c : Char) : Decidable (Solid c) := inferInstanceAs (Decidable (_ ∧ _))

theorem Solid.not_blank {c : Char} (solid : Solid c) : isBlank c = false := by
  cases found : isBlank c with
  | false => rfl
  | true =>
    simp only [isBlank, Bool.or_eq_true, beq_iff_eq] at found
    rcases found with rfl | rfl <;> exact absurd solid (by decide)

theorem Solid.not_flowMark {c : Char} (solid : Solid c) : isFlowMark c = false := by
  cases found : isFlowMark c with
  | false => rfl
  | true =>
    simp only [isFlowMark, Bool.or_eq_true, beq_iff_eq] at found
    rcases found with (((rfl | rfl) | rfl) | rfl) | rfl <;> exact absurd solid (by decide)

theorem plain?_solid {text : List Char} (solid : ∀ c ∈ text, Solid c) {stop : Char}
    (stops : stop = ',' ∨ stop = '}') {n : Nat} (inside : 0 < n) (indent : Int) (rest : List Char) :
    plain? ⟨true, indent⟩ (.along n) .none (text ++ stop :: rest) =
      some (text, false, ⟨stop :: rest, .along (n + text.length)⟩) := by
  induction text generalizing n with
  | nil =>
    have ends (gap : Gap) : plainEnds ⟨true, indent⟩ (.along n) gap stop rest = true := by
      rcases stops with rfl | rfl <;> simp [plainEnds, isFlowMark]
    have visible : isBreak stop = false ∧ isBlank stop = false ∧ stop ≠ '\r' := by
      rcases stops with rfl | rfl <;> decide
    obtain ⟨joined, visible, other⟩ := visible
    rw [List.nil_append, plain?]
    · simp only [joined, visible, ends, Bool.false_eq_true, if_false, if_true]
      rfl
    · exact fun _ same _ => other same
  | cons c text ih =>
    obtain ⟨first, others⟩ := List.forall_mem_cons.mp solid
    have uncolon : (c == ':') = false := beq_false_of_ne fun same =>
      absurd first (same ▸ (by decide : ¬ Solid ':'))
    have goesOn : plainEnds ⟨true, indent⟩ (.along n) .none c (text ++ stop :: rest) = false := by
      simp [plainEnds, Gap.none, Gap.isEmpty, documentMark_along inside, uncolon,
        first.not_flowMark]
    have calm : strayColon ⟨true, indent⟩ c (text ++ stop :: rest) = false := by
      simp [strayColon, uncolon]
    rw [List.cons_append, plain?]
    · simp only [first.1.not_break, first.not_blank, goesOn, calm, Bool.false_eq_true, if_false,
        Mark.next_along first.1, ih others (Nat.succ_pos n), prepend_some, Gap.text_none]
      rw [List.nil_append, List.singleton_append, List.length_cons, Nat.succ_add_eq_add_succ]
    · exact fun _ same _ => first.1.ne (by decide) same

theorem solid_signedDecimal (n : Int) : ∀ c ∈ Text.signedDecimal n, Solid c := by
  have each : ∀ d : Fin 10, Solid (Text.lowerDigit d.val) := by decide
  have digits := Text.forall_decimal (p := Solid) fun d small => each ⟨d, small⟩
  cases n with
  | ofNat n => exact digits n
  | negSucc n => exact List.forall_mem_cons.mpr ⟨by decide, digits (n + 1)⟩

theorem digits?_decimal (n : Nat) : digits? 10 (Text.decimal n) = some n := by
  have digit : ∀ d : Fin 10, Text.hexValue? (Text.lowerDigit d.val) = some d.val := by decide
  have nonempty : (Text.decimal n).isEmpty = false := by
    rw [List.isEmpty_eq_false_iff]
    exact Text.digits_ne_nil _ _ _
  rw [digits?, nonempty, if_neg Bool.false_ne_true]
  refine Text.decimal_induction (motive := fun n text => List.foldlM _ 0 text = some n) ?_ ?_ n
  · intro d small
    simp [digit ⟨d, small⟩, small]
  · intro n d text small _ value
    simp [List.foldlM_append, value, digit ⟨d, small⟩, small]

theorem magnitude?_decimal (n : Nat) : magnitude? (Text.decimal n) = some n := by
  by_cases positive : 0 < n
  · obtain ⟨c, rest, shape, leading⟩ := Text.decimal_positive positive
    have read := digits?_decimal n
    rw [shape] at read ⊢
    have unmarked : marked? (c :: rest) = none := by
      unfold marked?
      split <;> first | rfl | exact absurd (List.cons.inj ‹_›).1 leading
    rw [magnitude?, unmarked, Option.none_or, plainDigits?, read]
    · exact fun same => leading (List.cons.inj same).1
    · exact fun _ same => leading (List.cons.inj same).1
  · rw [Nat.eq_zero_of_not_pos positive, Text.decimal_zero]
    rfl

theorem decimal_unsigned (n : Nat) {sign : Char} (isSign : sign = '+' ∨ sign = '-')
    (rest : List Char) : Text.decimal n ≠ sign :: rest := by
  have each : ∀ d : Fin 10, Text.lowerDigit d.val ≠ '+' ∧ Text.lowerDigit d.val ≠ '-' := by decide
  have digits := Text.forall_decimal (p := fun c => c ≠ '+' ∧ c ≠ '-')
    (fun d small => each ⟨d, small⟩) n
  intro shape
  rw [shape] at digits
  obtain ⟨notPlus, notMinus⟩ := digits sign List.mem_cons_self
  rcases isSign with same | same
  · exact notPlus same
  · exact notMinus same

theorem unsigned?_decimal (n : Nat) : unsigned? (Text.decimal n) = some (n : Int) := by
  rw [unsigned?, magnitude?_decimal]
  · rfl
  · exact decimal_unsigned n (.inl rfl)

theorem signed?_signedDecimal (n : Int) : signed? (Text.signedDecimal n) = some n := by
  cases n with
  | ofNat n =>
    rw [Text.signedDecimal, signed?, unsigned?_decimal]
    · rfl
    · exact decimal_unsigned n (.inr rfl)
  | negSucc n =>
    rw [Text.signedDecimal, signed?, magnitude?_decimal]
    rfl

end CanBus.Yaml
