import CanBus.Identifier

namespace CanBus

def extendedFlag : UInt32 := 0x80000000

def remoteFlag : UInt32 := 0x40000000

def errorFlag : UInt32 := 0x20000000

def maxPayload : Nat := 8

def frameBytes : Nat := 16

structure Frame where
  word : UInt32
  dlc : UInt8
  pad : UInt8
  reserved : UInt8
  len8 : UInt8
  data : Vector UInt8 8
deriving DecidableEq

namespace Frame

def isExtended (frame : Frame) : Bool :=
  frame.word &&& extendedFlag != 0

def idBits (frame : Frame) : UInt32 :=
  if frame.isExtended then frame.word &&& extendedMax else frame.word &&& standardMax

def isRemote (frame : Frame) : Bool :=
  frame.word &&& remoteFlag != 0

theorem and_le_right (a b : UInt32) : a &&& b ≤ b := by
  rw [UInt32.le_iff_toNat_le, UInt32.toNat_and]
  exact Nat.and_le_right

def identifier (frame : Frame) : Identifier where
  raw := frame.idBits
  extended := frame.isExtended
  fits := by
    unfold idBits
    cases frame.isExtended <;> simp [and_le_right]

def wordBytes (word : UInt32) : List UInt8 :=
  [UInt8.ofNat word.toNat, UInt8.ofNat (word.toNat / 256), UInt8.ofNat (word.toNat / 65536),
    UInt8.ofNat (word.toNat / 16777216)]

def wordOfBytes (a b c d : UInt8) : UInt32 :=
  UInt32.ofNat (a.toNat + 256 * b.toNat + 65536 * c.toNat + 16777216 * d.toNat)

def toBytes (frame : Frame) : List UInt8 :=
  wordBytes frame.word ++ [frame.dlc, frame.pad, frame.reserved, frame.len8] ++ frame.data.toList

def ofBytes? : List UInt8 → Option Frame
  | [a, b, c, d, dlc, pad, reserved, len8, d0, d1, d2, d3, d4, d5, d6, d7] =>
    some ⟨wordOfBytes a b c d, dlc, pad, reserved, len8, #v[d0, d1, d2, d3, d4, d5, d6, d7]⟩
  | _ => none

@[simp] theorem length_toBytes (frame : Frame) : frame.toBytes.length = frameBytes := by
  simp [toBytes, wordBytes, frameBytes]

theorem wordOfBytes_wordBytes (word : UInt32) :
    wordOfBytes (UInt8.ofNat word.toNat) (UInt8.ofNat (word.toNat / 256))
      (UInt8.ofNat (word.toNat / 65536)) (UInt8.ofNat (word.toNat / 16777216)) = word := by
  have bound := word.toNat_lt
  apply UInt32.toNat_inj.mp
  simp only [wordOfBytes, UInt32.toNat_ofNat', UInt8.toNat_ofNat']
  omega

theorem wordBytes_wordOfBytes (a b c d : UInt8) :
    wordBytes (wordOfBytes a b c d) = [a, b, c, d] := by
  have boundA := a.toNat_lt
  have boundB := b.toNat_lt
  have boundC := c.toNat_lt
  have boundD := d.toNat_lt
  have value : (wordOfBytes a b c d).toNat
      = a.toNat + 256 * b.toNat + 65536 * c.toNat + 16777216 * d.toNat := by
    simp only [wordOfBytes, UInt32.toNat_ofNat']
    omega
  simp only [wordBytes, value, List.cons.injEq, ← UInt8.toNat_inj, UInt8.toNat_ofNat', and_true]
  omega

theorem ofBytes?_toBytes (frame : Frame) : ofBytes? frame.toBytes = some frame := by
  obtain ⟨word, dlc, pad, reserved, len8, ⟨⟨data⟩, size⟩⟩ := frame
  have length : data.length = 8 := by simpa using size
  match data, length with
  | [d0, d1, d2, d3, d4, d5, d6, d7], _ =>
    change some (Frame.mk (wordOfBytes _ _ _ _) dlc pad reserved len8 _) = _
    rw [wordOfBytes_wordBytes]

theorem toBytes_of_ofBytes? {bytes : List UInt8} {frame : Frame}
    (h : ofBytes? bytes = some frame) : frame.toBytes = bytes := by
  unfold ofBytes? at h
  split at h
  · rw [Option.some.injEq] at h
    subst h
    simp [toBytes, wordBytes_wordOfBytes]
  · nomatch h

theorem ofBytes?_isSome_iff {bytes : List UInt8} :
    (ofBytes? bytes).isSome = true ↔ bytes.length = frameBytes := by
  constructor
  · intro found
    obtain ⟨frame, read⟩ := Option.isSome_iff_exists.mp found
    rw [← toBytes_of_ofBytes? read]
    exact length_toBytes frame
  · intro length
    match bytes, length with
    | [_, _, _, _, _, _, _, _, _, _, _, _, _, _, _, _], _ => rfl

end Frame

/-- An acceptance filter: a frame passes when its word and the filter's agree under the mask. -/
structure Filter where
  id : UInt32
  mask : UInt32
deriving DecidableEq

def Filter.Accepts (filter : Filter) (word : UInt32) : Prop :=
  word &&& filter.mask = filter.id &&& filter.mask

instance (filter : Filter) (word : UInt32) : Decidable (filter.Accepts word) :=
  inferInstanceAs (Decidable (_ = _))

end CanBus
