import CanBus.Message
import CanBus.Proofs.Text.Hexadecimal

namespace CanBus

theorem Frame.isExtended_iff (frame : Frame) :
    frame.isExtended = true ↔ 2 ^ 31 ≤ frame.word.toNat := by
  have bound := frame.word.toNat_lt
  have flag : extendedFlag.toNat = 2 ^ 31 := rfl
  have bit : (frame.word &&& extendedFlag).toNat = frame.word.toNat / 2 ^ 31 % 2 * 2 ^ 31 := by
    rw [UInt32.toNat_and, flag, Nat.and_two_pow, Nat.toNat_testBit]
  rw [isExtended, bne_iff_ne, ne_eq, ← UInt32.toNat_inj, UInt32.toNat_zero, bit]
  omega

theorem Frame.toNat_idBits (frame : Frame) :
    frame.idBits.toNat = frame.word.toNat % 2 ^ (if frame.isExtended then 29 else 11) := by
  have extended : extendedMax.toNat = 2 ^ 29 - 1 := rfl
  have standard : standardMax.toNat = 2 ^ 11 - 1 := rfl
  unfold idBits
  cases frame.isExtended with
  | true =>
    rw [if_pos rfl, if_pos rfl, UInt32.toNat_and, extended, Nat.and_two_pow_sub_one_eq_mod]
  | false =>
    rw [if_neg Bool.false_ne_true, if_neg Bool.false_ne_true, UInt32.toNat_and, standard,
      Nat.and_two_pow_sub_one_eq_mod]

namespace Identifier

inductive Origin
  | standard (raw : UInt32)
  | extended (raw : UInt32)
  /-- A number for which the format is picked. -/
  | number (raw : UInt32)
  | initial
  | received (frame : Frame)

namespace Origin

def identifier? : Origin → Option Identifier
  | standard raw => standard? raw
  | extended raw => extended? raw
  | number raw => ofNumber? raw
  | initial => some default
  | received frame => some (Message.ofFrame frame).id

def value : Origin → Nat
  | standard raw | extended raw | number raw => raw.toNat
  | initial => 0
  | received frame => frame.word.toNat % 2 ^ (if 2 ^ 31 ≤ frame.word.toNat then 29 else 11)

def wide : Origin → Bool
  | standard _ | initial => false
  | extended _ => true
  | number raw => decide (0x7FF < raw.toNat)
  | received frame => decide (2 ^ 31 ≤ frame.word.toNat)

end Origin

variable {raw : UInt32} {id : Identifier}

theorem eq_iff {a b : Identifier} : a = b ↔ a.raw.toNat = b.raw.toNat ∧ a.extended = b.extended := by
  constructor
  · rintro rfl
    exact ⟨rfl, rfl⟩
  · rintro ⟨raw, extended⟩
    exact ext (UInt32.toNat_inj.mp raw) extended

theorem standard?_eq_some_iff :
    standard? raw = some id ↔ id.raw.toNat = raw.toNat ∧ id.extended = false := by
  unfold standard?
  split
  · rw [Option.some.injEq, eq_comm, eq_iff]
  · rename_i large
    constructor
    · intro found
      cases found
    · rintro ⟨same, format⟩
      have fits := raw_le_standardMax format
      rw [UInt32.toNat_inj.mp same] at fits
      exact absurd fits large

theorem extended?_eq_some_iff :
    extended? raw = some id ↔ id.raw.toNat = raw.toNat ∧ id.extended = true := by
  unfold extended?
  split
  · rw [Option.some.injEq, eq_comm, eq_iff]
  · rename_i large
    constructor
    · intro found
      cases found
    · rintro ⟨same, -⟩
      have fits := id.raw_le_extendedMax
      rw [UInt32.toNat_inj.mp same] at fits
      exact absurd fits large

theorem ofNumber?_eq_some_iff :
    ofNumber? raw = some id ↔
      id.raw.toNat = raw.toNat ∧ id.extended = decide (0x7FF < raw.toNat) := by
  have limit : raw ≤ standardMax ↔ raw.toNat ≤ 0x7FF := UInt32.le_iff_toNat_le
  unfold ofNumber?
  by_cases small : raw.toNat ≤ 0x7FF
  · rw [if_pos (limit.mpr small), standard?_eq_some_iff, decide_eq_false (Nat.not_lt.mpr small)]
  · rw [if_neg (mt limit.mp small), extended?_eq_some_iff, decide_eq_true (Nat.not_le.mp small)]

theorem Origin.identifier?_eq_some_iff (origin : Origin) :
    origin.identifier? = some id ↔ id.raw.toNat = origin.value ∧ id.extended = origin.wide := by
  cases origin with
  | standard raw => exact standard?_eq_some_iff
  | extended raw => exact extended?_eq_some_iff
  | number raw => exact ofNumber?_eq_some_iff
  | initial =>
    rw [identifier?, Option.some.injEq, eq_comm, eq_iff]
    rfl
  | received frame =>
    have number : (Message.ofFrame frame).id.raw.toNat = (received frame).value := by
      simp only [value, ← frame.isExtended_iff]
      exact frame.toNat_idBits
    have format : (Message.ofFrame frame).id.extended = (received frame).wide := by
      rw [wide, Bool.eq_iff_iff, decide_eq_true_iff]
      exact frame.isExtended_iff
    rw [identifier?, Option.some.injEq, eq_comm, eq_iff, number, format]

theorem toNat_le_extendedMax (id : Identifier) : id.raw.toNat ≤ 0x1FFFFFFF :=
  UInt32.le_iff_toNat_le.mp id.raw_le_extendedMax

theorem toNat_le_standardMax (format : id.extended = false) : id.raw.toNat ≤ 0x7FF :=
  UInt32.le_iff_toNat_le.mp (raw_le_standardMax format)

theorem exists_origin (id : Identifier) : ∃ origin : Origin, origin.identifier? = some id := by
  cases format : id.extended with
  | true => exact ⟨.extended id.raw, extended?_eq_some_iff.mpr ⟨rfl, format⟩⟩
  | false => exact ⟨.standard id.raw, standard?_eq_some_iff.mpr ⟨rfl, format⟩⟩

theorem ofNumber?_raw_iff (id : Identifier) :
    ofNumber? id.raw = some id ↔ id.extended = false ∨ 0x7FF < id.raw.toNat := by
  rw [ofNumber?_eq_some_iff]
  cases format : id.extended with
  | true => simp
  | false =>
    have small := toNat_le_standardMax format
    simpa using small

instance : Std.TransCmp compare :=
  inferInstanceAs (Std.TransCmp (compareLex (compareOn fun id : Identifier => id.raw.toNat)
    (compareOn fun id => id.extended.toNat)))

theorem compare_eq_iff {a b : Identifier} : compare a b = .eq ↔ a = b := by
  have formats : a.extended.toNat = b.extended.toNat ↔ a.extended = b.extended := by
    cases a.extended <;> cases b.extended <;> decide
  rw [compare, Ordering.then_eq_eq, Nat.compare_eq_eq, Nat.compare_eq_eq, formats, eq_iff]

theorem compare_of_lt {a b : Identifier} (less : a.raw.toNat < b.raw.toNat) :
    compare a b = .lt := by
  rw [compare, Ordering.then_eq_lt, Nat.compare_eq_lt]
  exact .inl less

theorem isLE_total (a b : Identifier) :
    (compare a b).isLE = true ∨ (compare b a).isLE = true := by
  have turned : compare a b = (compare b a).swap := Std.OrientedCmp.eq_swap
  rw [turned]
  cases compare b a <;> decide

theorem isLE_antisymm {a b : Identifier} (first : (compare a b).isLE = true)
    (second : (compare b a).isLE = true) : a = b :=
  compare_eq_iff.mp (Std.OrientedCmp.isLE_antisymm first second)

theorem isLE_trans {a b c : Identifier} (first : (compare a b).isLE = true)
    (second : (compare b c).isLE = true) : (compare a c).isLE = true :=
  Std.TransCmp.isLE_trans first second

theorem sorted_perm (ids : List Identifier) : (sorted ids).Perm ids :=
  List.mergeSort_perm ids _

theorem sorted_ascending (ids : List Identifier) :
    (sorted ids).Pairwise fun a b => (compare a b).isLE = true := by
  apply List.pairwise_mergeSort
  · intro a b c first second
    exact isLE_trans first second
  · intro a b
    rw [Bool.or_eq_true]
    exact isLE_total a b

/-- Identifiers can be put into ascending order in one way only. -/
theorem eq_sorted {ids arranged : List Identifier} (same : arranged.Perm ids)
    (ascending : arranged.Pairwise fun a b => (compare a b).isLE = true) :
    arranged = sorted ids :=
  List.Perm.eq_of_pairwise (fun _ _ _ _ => isLE_antisymm) ascending (sorted_ascending ids)
    (same.trans (sorted_perm ids).symm)

theorem text_spelled (id : Identifier) :
    ∃ digits, id.text = "0x" ++ String.ofList digits ∧
      Text.UpperHex (if id.extended then 8 else 3) id.raw.toNat digits := by
  refine ⟨_, rfl, ?_⟩
  cases format : id.extended with
  | true =>
    apply Text.upperHex_hexPadded (by decide)
    exact Nat.lt_of_le_of_lt id.toNat_le_extendedMax (by decide)
  | false =>
    apply Text.upperHex_hexPadded (by decide)
    exact Nat.lt_of_le_of_lt (toNat_le_standardMax format) (by decide)

theorem text_injective {a b : Identifier} (same : a.text = b.text) : a = b := by
  obtain ⟨first, textA, spelledA⟩ := a.text_spelled
  obtain ⟨second, textB, spelledB⟩ := b.text_spelled
  rw [textA, textB, String.append_right_inj, String.ofList_inj] at same
  subst same
  have widths : (if a.extended then 8 else 3) = if b.extended then 8 else 3 :=
    spelledA.length.symm.trans spelledB.length
  have formats : a.extended = b.extended := by
    cases left : a.extended <;> cases right : b.extended <;> simp [left, right] at widths ⊢
  exact eq_iff.mpr ⟨spelledA.value.symm.trans spelledB.value, formats⟩

/-- What an identifier can be, how identifiers are ordered, how they read, and which are found again
by their number. -/
theorem identifier_laws :
    (∀ (origin : Origin) (id : Identifier),
      (origin.identifier? = some id ↔ id.raw.toNat = origin.value ∧ id.extended = origin.wide) ∧
      (origin.identifier? = some id →
        id.raw.toNat ≤ 0x1FFFFFFF ∧ (id.extended = false → id.raw.toNat ≤ 0x7FF))) ∧
    (∀ id : Identifier, ∃ origin : Origin, origin.identifier? = some id) ∧
    (∀ a b : Identifier,
      compare a b = (compare b a).swap ∧
      ((compare a b).isLE = true ∨ (compare b a).isLE = true) ∧
      ((compare a b).isLE = true → (compare b a).isLE = true → a = b) ∧
      (compare a b = .eq ↔ a = b) ∧
      (a.raw.toNat < b.raw.toNat → compare a b = .lt)) ∧
    (∀ a b c : Identifier,
      (compare a b).isLE = true → (compare b c).isLE = true → (compare a c).isLE = true) ∧
    (∀ ids : List Identifier,
      (sorted ids).Perm ids ∧ (sorted ids).Pairwise (fun a b => (compare a b).isLE = true) ∧
      (∀ other, other.Perm ids → sorted other = sorted ids) ∧
      ∀ arranged, arranged.Perm ids →
        arranged.Pairwise (fun a b => (compare a b).isLE = true) → arranged = sorted ids) ∧
    (∀ id : Identifier, ∃ digits, id.text = "0x" ++ String.ofList digits ∧
      Text.UpperHex (if id.extended then 8 else 3) id.raw.toNat digits) ∧
    (∀ a b : Identifier, a.text = b.text ↔ a = b) ∧
    ∀ id : Identifier,
      ofNumber? id.raw = some id ↔ id.extended = false ∨ 0x7FF < id.raw.toNat := by
  refine ⟨?range, exists_origin, ?order, fun _ _ _ => isLE_trans, ?sorting, text_spelled, ?text,
    ofNumber?_raw_iff⟩
  case range =>
    intro origin id
    exact ⟨origin.identifier?_eq_some_iff,
      fun _ => ⟨id.toNat_le_extendedMax, toNat_le_standardMax⟩⟩
  case order =>
    intro a b
    exact ⟨Std.OrientedCmp.eq_swap, isLE_total a b, isLE_antisymm, compare_eq_iff, compare_of_lt⟩
  case sorting =>
    intro ids
    refine ⟨sorted_perm ids, sorted_ascending ids, ?_, fun _ => eq_sorted⟩
    intro other same
    exact eq_sorted ((sorted_perm other).trans same) (sorted_ascending other)
  case text =>
    intro a b
    exact ⟨text_injective, congrArg text⟩

end Identifier

end CanBus
