import CanBus.Proofs.Encoding

namespace CanBus

def extendedOnly : UInt32 := 0x1FFFF800

theorem and_or_distrib (word a b : UInt32) :
    word &&& (a ||| b) = (word &&& a) ||| (word &&& b) := by
  rw [UInt32.and_comm, or_and_distrib, UInt32.and_comm a, UInt32.and_comm b]

theorem and_eq_self_iff (word kept dropped : UInt32)
    (whole : kept ||| dropped = -1) (apart : kept &&& dropped = 0) :
    word &&& kept = word ↔ word &&& dropped = 0 := by
  constructor
  · intro keeps
    rw [← keeps, UInt32.and_assoc, apart, UInt32.and_zero]
  · intro clear
    have parts : word = (word &&& kept) ||| (word &&& dropped) := by
      rw [← and_or_distrib, whole, UInt32.and_neg_one]
    rw [clear, UInt32.or_zero] at parts
    exact parts.symm

theorem flag_if_met {flag : UInt32} (place : Nat) (single : flag.toNat = 2 ^ place)
    (word : UInt32) :
    (if word &&& flag != 0 then flag else 0) = word &&& flag := by
  have met : (word &&& flag).toNat = (word.toNat.testBit place).toNat * 2 ^ place := by
    rw [UInt32.toNat_and, single, Nat.and_two_pow]
  cases set : word.toNat.testBit place with
  | true =>
    have whole : word &&& flag = flag := by
      apply UInt32.toNat_inj.mp
      rw [met, set, single, Bool.toNat_true, Nat.one_mul]
    have present : flag ≠ 0 := by
      intro zero
      have positive := Nat.two_pow_pos place
      rw [← single, zero, UInt32.toNat_zero] at positive
      exact Nat.lt_irrefl 0 positive
    simp [whole, present]
  | false =>
    have missed : word &&& flag = 0 := by
      apply UInt32.toNat_inj.mp
      rw [met, set, Bool.toNat_false, Nat.zero_mul, UInt32.toNat_zero]
    simp [missed]

theorem testBit_extendedOnly (bit : Nat) :
    extendedOnly.toNat.testBit bit = decide (11 ≤ bit ∧ bit ≤ 28) := by
  have shifted : extendedOnly.toNat = (2 ^ 18 - 1) <<< 11 := by decide
  rw [shifted, Nat.testBit_shiftLeft, Nat.testBit_two_pow_sub_one, ← Bool.decide_and]
  congr 1
  apply propext
  omega

theorem and_extendedOnly_iff (word : UInt32) :
    word &&& extendedOnly = 0 ↔
      ∀ bit, 11 ≤ bit → bit ≤ 28 → word.toNat.testBit bit = false := by
  have bits : word &&& extendedOnly = 0 ↔ word.toNat &&& extendedOnly.toNat = 0 := by
    rw [← UInt32.toNat_and, ← UInt32.toNat_inj, UInt32.toNat_zero]
  rw [bits]
  constructor
  · intro clear bit low high
    have place := congrArg (fun n => n.testBit bit) clear
    simpa [Nat.testBit_and, testBit_extendedOnly, low, high] using place
  · intro clear
    apply Nat.eq_of_testBit_eq
    intro bit
    rw [Nat.testBit_and, testBit_extendedOnly, Nat.zero_testBit]
    by_cases inside : 11 ≤ bit ∧ bit ≤ 28
    · rw [clear bit inside.1 inside.2, Bool.false_and]
    · rw [decide_eq_false inside, Bool.and_false]

namespace Frame

/-- The records that messages are written as. -/
structure Canonical (frame : Frame) : Prop where
  pad : frame.pad = 0
  reserved : frame.reserved = 0
  len8 : frame.len8 = 0
  dlc : frame.dlc.toNat ≤ maxPayload
  unused : ∀ (position : Nat) (inside : position < 8),
    frame.dlc.toNat ≤ position → frame.data[position] = 0
  noError : frame.word &&& errorFlag = 0
  narrow : frame.isExtended = false →
    ∀ bit, 11 ≤ bit → bit ≤ 28 → frame.word.toNat.testBit bit = false

def kept (extended : Bool) : UInt32 :=
  (if extended then extendedMax else standardMax) ||| extendedFlag ||| remoteFlag

theorem idBits_eq (frame : Frame) :
    frame.idBits = frame.word &&& if frame.isExtended then extendedMax else standardMax := by
  unfold idBits
  split <;> rfl

theorem word_ofFrame (frame : Frame) :
    (Message.ofFrame frame).word = frame.word &&& kept frame.isExtended := by
  have extended : (if frame.isExtended then extendedFlag else 0) = frame.word &&& extendedFlag :=
    flag_if_met 31 (by decide) frame.word
  have remote : (if frame.isRemote then remoteFlag else 0) = frame.word &&& remoteFlag :=
    flag_if_met 30 (by decide) frame.word
  have word : (Message.ofFrame frame).word =
      frame.idBits ||| (if frame.isExtended then extendedFlag else 0) |||
        (if frame.isRemote then remoteFlag else 0) := rfl
  rw [word, extended, remote, idBits_eq, ← and_or_distrib, ← and_or_distrib, kept]

theorem word_ofFrame_iff (frame : Frame) :
    (Message.ofFrame frame).word = frame.word ↔
      frame.word &&& errorFlag = 0 ∧
        (frame.isExtended = false →
          ∀ bit, 11 ≤ bit → bit ≤ 28 → frame.word.toNat.testBit bit = false) := by
  rw [word_ofFrame]
  cases frame.isExtended with
  | true =>
    rw [and_eq_self_iff frame.word _ errorFlag (by decide) (by decide)]
    simp
  | false =>
    rw [and_eq_self_iff frame.word _ (errorFlag ||| extendedOnly) (by decide) (by decide),
      and_or_distrib, UInt32.or_eq_zero_iff, and_extendedOnly_iff]
    simp

end Frame

namespace Message

theorem ofFrame_toFrame (message : Message) :
    ofFrame message.toFrame =
      { message with payload := message.payload.take maxPayload, stamp := none } := by
  have word : message.toFrame.word =
      flagged message.id.raw message.id.extended message.remote := rfl
  have bound := message.id.raw_le_extendedMax
  have id : (ofFrame message.toFrame).id = message.id :=
    Identifier.ext (Frame.idBits_flagged word message.id.fits bound)
      (Frame.isExtended_flagged word bound)
  have payload := message.ofFrame_toFrame_payload
  have remote : (ofFrame message.toFrame).remote = message.remote :=
    Frame.isRemote_flagged word bound
  have stamp : (ofFrame message.toFrame).stamp = none := rfl
  cases read : ofFrame message.toFrame
  simp only [read] at id payload remote stamp
  subst id payload remote stamp
  rfl

theorem ofFrame_toFrame_eq_iff (message : Message) :
    ofFrame message.toFrame = message ↔
      message.payload.length ≤ maxPayload ∧ message.stamp = none := by
  rw [ofFrame_toFrame, ← List.take_eq_self_iff]
  constructor
  · intro same
    exact ⟨congrArg payload same, (congrArg stamp same).symm⟩
  · rintro ⟨payload, stamp⟩
    rw [payload, ← stamp]

theorem dlc_ofFrame_iff (frame : Frame) :
    (ofFrame frame).toFrame.dlc = frame.dlc ↔ frame.dlc.toNat ≤ maxPayload := by
  rw [← UInt8.toNat_inj, toFrame_dlc, length_ofFrame]
  omega

theorem data_ofFrame (frame : Frame) (position : Nat) (inside : position < 8) :
    (ofFrame frame).toFrame.data[position] =
      if position < frame.dlc.toNat then frame.data[position] else 0 := by
  have written : (ofFrame frame).toFrame.data[position] =
      (ofFrame frame).payload.getD position 0 := by
    simp only [toFrame, Vector.getElem_ofFn]
  have length := length_ofFrame frame
  have eight : maxPayload = 8 := rfl
  rw [written, List.getD_eq_getElem?_getD]
  split
  · rename_i used
    have within : position < (ofFrame frame).payload.length := by omega
    rw [List.getElem?_eq_getElem within, Option.getD_some]
    simp only [ofFrame, List.getElem_take, Vector.getElem_toList]
  · rename_i past
    rw [List.getElem?_eq_none (by omega), Option.getD_none]

theorem toFrame_ofFrame_eq_iff (frame : Frame) :
    (ofFrame frame).toFrame = frame ↔ frame.Canonical := by
  have dlc := dlc_ofFrame_iff frame
  have word : (ofFrame frame).toFrame.word = frame.word ↔ _ := frame.word_ofFrame_iff
  constructor
  · intro same
    obtain ⟨noError, narrow⟩ := word.mp (congrArg Frame.word same)
    constructor
    · exact (congrArg Frame.pad same).symm
    · exact (congrArg Frame.reserved same).symm
    · exact (congrArg Frame.len8 same).symm
    · exact dlc.mp (congrArg Frame.dlc same)
    · intro position inside past
      have zero := data_ofFrame frame position inside
      rw [if_neg (Nat.not_lt.mpr past), same] at zero
      exact zero
    · exact noError
    · exact narrow
  · intro canonical
    have sameWord := word.mpr ⟨canonical.noError, canonical.narrow⟩
    have sameDlc := dlc.mpr canonical.dlc
    have sameData : (ofFrame frame).toFrame.data = frame.data := by
      apply Vector.ext
      intro position inside
      rw [data_ofFrame frame position inside]
      split
      · rfl
      · rename_i past
        exact (canonical.unused position inside (Nat.not_lt.mp past)).symm
    have pad := canonical.pad
    have reserved := canonical.reserved
    have len8 := canonical.len8
    cases frame
    simp_all [toFrame]

/-- Reading undoes writing up to what does not fit a record. Writing undoes reading on the records
that messages are written as, and what it changes of another record is not seen by reading. -/
theorem codec_laws :
    (∀ message : Message, ofFrame message.toFrame =
      { message with payload := message.payload.take maxPayload, stamp := none }) ∧
    (∀ message : Message, ofFrame message.toFrame = message ↔
      message.payload.length ≤ maxPayload ∧ message.stamp = none) ∧
    (∀ frame : Frame, (ofFrame frame).toFrame = frame ↔ frame.Canonical) ∧
    ∀ frame : Frame, ofFrame (ofFrame frame).toFrame = ofFrame frame := by
  refine ⟨ofFrame_toFrame, ofFrame_toFrame_eq_iff, toFrame_ofFrame_eq_iff, ?_⟩
  intro frame
  have short : (ofFrame frame).payload.length ≤ maxPayload := by
    rw [length_ofFrame]
    exact Nat.min_le_right _ _
  exact (ofFrame frame).ofFrame_toFrame_eq_iff.mpr ⟨short, rfl⟩

end Message

end CanBus
