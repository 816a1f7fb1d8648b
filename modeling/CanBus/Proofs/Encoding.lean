import CanBus.Message
import Mathlib

namespace CanBus

theorem or_and_distrib (a b mask : UInt32) :
    (a ||| b) &&& mask = (a &&& mask) ||| (b &&& mask) := by
  apply UInt32.toNat_inj.mp
  simp only [UInt32.toNat_and, UInt32.toNat_or, Nat.and_or_distrib_right]

theorem and_full {raw mask : UInt32} (width : Nat) (full : mask.toNat = 2 ^ width - 1)
    (fits : raw ≤ mask) : raw &&& mask = raw := by
  have small : raw.toNat < 2 ^ width := by
    have bound := UInt32.le_iff_toNat_le.mp fits
    have positive := Nat.two_pow_pos width
    omega
  apply UInt32.toNat_inj.mp
  rw [UInt32.toNat_and, full]
  exact Nat.and_two_pow_sub_one_of_lt_two_pow small

theorem and_extendedMax {raw : UInt32} (fits : raw ≤ extendedMax) : raw &&& extendedMax = raw :=
  and_full 29 (by decide) fits

theorem and_standardMax {raw : UInt32} (fits : raw ≤ standardMax) : raw &&& standardMax = raw :=
  and_full 11 (by decide) fits

theorem and_outside {raw mask : UInt32} (fits : raw ≤ extendedMax)
    (outside : extendedMax &&& mask = 0) : raw &&& mask = 0 := by
  rw [← and_extendedMax fits, UInt32.and_assoc, outside, UInt32.and_zero]

def flagged (raw : UInt32) (extended remote : Bool) : UInt32 :=
  raw ||| (if extended then extendedFlag else 0) ||| (if remote then remoteFlag else 0)

section

variable {raw : UInt32} (extended remote : Bool)

theorem flagged_and (mask : UInt32) :
    flagged raw extended remote &&& mask =
      (raw &&& mask) ||| ((if extended then extendedFlag else 0) &&& mask) |||
        ((if remote then remoteFlag else 0) &&& mask) := by
  simp only [flagged, or_and_distrib]

theorem flagged_or_extendedFlag :
    flagged raw extended remote ||| extendedFlag = flagged raw true remote := by
  have twice : extendedFlag ||| (if extended then extendedFlag else 0) = extendedFlag := by
    cases extended <;> decide
  unfold flagged
  rw [UInt32.or_comm _ extendedFlag, UInt32.or_comm raw, ← UInt32.or_assoc, ← UInt32.or_assoc,
    twice, UInt32.or_comm extendedFlag raw]
  rfl

theorem flagged_extendedFlag (fits : raw ≤ extendedMax) :
    flagged raw extended remote &&& extendedFlag = if extended then extendedFlag else 0 := by
  rw [flagged_and, and_outside fits (by decide), UInt32.zero_or]
  cases extended <;> cases remote <;> decide

theorem flagged_remoteFlag (fits : raw ≤ extendedMax) :
    flagged raw extended remote &&& remoteFlag = if remote then remoteFlag else 0 := by
  rw [flagged_and, and_outside fits (by decide), UInt32.zero_or]
  cases extended <;> cases remote <;> decide

theorem flagged_and_max {max : UInt32} (inside : max &&& extendedMax = max) :
    flagged raw extended remote &&& max = raw &&& max := by
  -- the flags are outside the bits of every number
  have clear (flag : UInt32) (outside : flag &&& extendedMax = 0) : flag &&& max = 0 := by
    rw [← inside, UInt32.and_comm max, ← UInt32.and_assoc, outside, UInt32.zero_and]
  have first : (if extended then extendedFlag else 0) &&& max = 0 :=
    clear _ (by cases extended <;> decide)
  have second : (if remote then remoteFlag else 0) &&& max = 0 :=
    clear _ (by cases remote <;> decide)
  rw [flagged_and, first, second, UInt32.or_zero, UInt32.or_zero]

end

namespace Message

variable (message : Message) (forceExtended : Bool)

theorem sentFrame_word :
    (message.sentFrame forceExtended).word =
      flagged message.id.raw (message.id.extended || forceExtended) message.remote := by
  have word : message.toFrame.word =
      flagged message.id.raw message.id.extended message.remote := rfl
  unfold sentFrame
  by_cases large : message.id.raw > standardMax
  · have extended : message.id.extended = true := by
      cases format : message.id.extended with
      | true => rfl
      | false => exact absurd large (UInt32.not_lt.mpr (Identifier.raw_le_standardMax format))
    simp only [large, decide_true, Bool.or_true, if_true, word, flagged_or_extendedFlag, extended,
      Bool.true_or]
  · cases forceExtended with
    | true => simp only [Bool.true_or, if_true, word, flagged_or_extendedFlag, Bool.or_true]
    | false => simp only [large, decide_false, Bool.or_false, Bool.false_eq_true, if_false, word]

theorem sentFrame_payload :
    (ofFrame (message.sentFrame forceExtended)).payload = (ofFrame message.toFrame).payload := by
  unfold sentFrame
  simp only []
  split <;> rfl

theorem toFrame_dlc : message.toFrame.dlc.toNat = min message.payload.length maxPayload := by
  have bound : min message.payload.length maxPayload ≤ 8 := Nat.min_le_right _ _
  simp only [toFrame, UInt8.toNat_ofNat']
  omega

theorem length_ofFrame (frame : Frame) :
    (ofFrame frame).payload.length = min frame.dlc.toNat maxPayload := by
  have size : frame.data.toList.length = maxPayload := Vector.length_toList
  simp only [ofFrame, List.length_take, size]
  omega

theorem ofFrame_toFrame_payload :
    (ofFrame message.toFrame).payload = message.payload.take maxPayload := by
  have code : min message.toFrame.dlc.toNat maxPayload = min message.payload.length maxPayload := by
    rw [toFrame_dlc]
    omega
  apply List.ext_getElem
  · rw [length_ofFrame, code, List.length_take, Nat.min_comm]
  · intro position within inside
    have small : position < message.payload.length := by
      rw [List.length_take] at inside
      omega
    simp only [ofFrame, toFrame, List.getElem_take, Vector.getElem_toList, Vector.getElem_ofFn]
    rw [List.getD_eq_getElem?_getD, List.getElem?_eq_getElem small, Option.getD_some]

theorem toFrame_payload {message : Message} (short : message.payload.length ≤ maxPayload) :
    (ofFrame message.toFrame).payload = message.payload := by
  rw [ofFrame_toFrame_payload, List.take_of_length_le short]

end Message

namespace Frame

variable {frame : Frame} {raw : UInt32} {extended remote : Bool}

theorem isExtended_flagged (word : frame.word = flagged raw extended remote)
    (fits : raw ≤ extendedMax) : frame.isExtended = extended := by
  rw [isExtended, word, flagged_extendedFlag extended remote fits]
  cases extended <;> decide

theorem isRemote_flagged (word : frame.word = flagged raw extended remote)
    (fits : raw ≤ extendedMax) : frame.isRemote = remote := by
  rw [isRemote, word, flagged_remoteFlag extended remote fits]
  cases remote <;> decide

theorem idBits_flagged (word : frame.word = flagged raw extended remote)
    (fits : raw ≤ if extended then extendedMax else standardMax) (bound : raw ≤ extendedMax) :
    frame.idBits = raw := by
  unfold idBits
  rw [isExtended_flagged word bound, word]
  cases extended with
  | true =>
    rw [if_pos rfl, flagged_and_max true remote (by decide), and_extendedMax bound]
  | false =>
    rw [if_neg Bool.false_ne_true] at fits ⊢
    rw [flagged_and_max false remote (by decide), and_standardMax fits]

end Frame

/-- The message that is read back where the other was sent. -/
structure Message.ReadBack (forceExtended : Bool) (sent received : Message) : Prop where
  raw : received.id.raw = sent.id.raw
  extended : received.id.extended = (sent.id.extended || forceExtended)
  payload : received.payload = sent.payload
  remote : received.remote = sent.remote

theorem Message.sentFrame_readBack (forceExtended : Bool) {message : Message}
    (short : message.payload.length ≤ maxPayload) :
    ReadBack forceExtended message (ofFrame (message.sentFrame forceExtended)) := by
  have word := message.sentFrame_word forceExtended
  have bound := message.id.raw_le_extendedMax
  have fits : message.id.raw ≤
      if message.id.extended || forceExtended then extendedMax else standardMax := by
    cases format : message.id.extended || forceExtended with
    | true => exact bound
    | false => exact Identifier.raw_le_standardMax (Bool.or_eq_false_iff.mp format).1
  constructor
  · exact Frame.idBits_flagged word fits bound
  · exact Frame.isExtended_flagged word bound
  · rw [sentFrame_payload, toFrame_payload short]
  · exact Frame.isRemote_flagged word bound

end CanBus
