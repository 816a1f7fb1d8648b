import CanBus.Proofs.Readiness
import CanBus.Proofs.Text.Decimal
import Mathlib.Data.Nat.Digits.Defs

namespace CanBus

def inTurn {σ α : Type} : List (Call σ α) → σ → List (Except Fault α) × σ
  | [], s => ([], s)
  | call :: rest, s =>
    let (answer, s) := call s
    let (answers, s) := inTurn rest s
    (answer :: answers, s)

theorem inTurn_cons {σ α : Type} {call : Call σ α} {rest : List (Call σ α)} {s after : σ}
    {answer : Except Fault α} (made : call s = (answer, after)) :
    inTurn (call :: rest) s = (answer :: (inTurn rest after).1, (inTurn rest after).2) := by
  rw [inTurn, made]

theorem shortRead_text (count : Nat) :
    (Fault.shortRead count).text = s!"short CAN frame read: {count} of 16 bytes" := by
  show "short CAN frame read: " ++ Text.ofNat count ++ " of 16 bytes" = _
  rw [Text.ofNat_eq_repr]
  rfl

namespace Frame

/-- The record's sixteen bytes are the frame's fields in their order, its word with the lowest byte
first. -/
structure LaidOut (frame : Frame) (record : List UInt8) : Prop where
  length : record.length = 16
  word : Nat.ofDigits 256 ((record.take 4).map UInt8.toNat) = frame.word.toNat
  header : (record.drop 4).take 4 = [frame.dlc, frame.pad, frame.reserved, frame.len8]
  data : record.drop 8 = frame.data.toList

theorem toBytes_laidOut (frame : Frame) : frame.LaidOut frame.toBytes where
  length := frame.length_toBytes
  word := by
    have bound := frame.word.toNat_lt
    simp only [toBytes, wordBytes, List.cons_append, List.nil_append, List.take_succ_cons,
      List.take_zero, List.map_cons, List.map_nil, Nat.ofDigits_cons, Nat.ofDigits_nil,
      UInt8.toNat_ofNat']
    omega
  header := rfl
  data := rfl

theorem laidOut_of_ofBytes? {bytes : List UInt8} {frame : Frame}
    (found : ofBytes? bytes = some frame) : frame.LaidOut bytes := by
  rw [← toBytes_of_ofBytes? found]
  exact frame.toBytes_laidOut

end Frame

namespace Pipe

/-- Nothing waits, both ends are open, and nobody would wait for more. -/
structure Idle (p : Pipe) : Prop where
  bytes : p.bytes = []
  reader : p.readerOpen = true
  writer : p.writerOpen = true
  nonblocking : p.nonblocking = true

def Short (count : Nat) (answer : Except Fault Frame) : Prop :=
  answer = .error (.shortRead count) ∧
    (Fault.shortRead count).text = s!"short CAN frame read: {count} of 16 bytes"

/-- What a read answers after so many others, if these bytes were put in before them. -/
def Answers (bytes : List UInt8) (hungUp : Bool) (before : Nat) (answer : Except Fault Frame) :
    Prop :=
  if before < bytes.length / 16 then
    ∃ frame, answer = .ok frame ∧ frame.LaidOut ((bytes.drop (16 * before)).take 16)
  else if before = bytes.length / 16 ∧ bytes.length % 16 ≠ 0 then
    Short (bytes.length % 16) answer
  else if hungUp then Short 0 answer
  else answer = .error (.errno 11)

variable {p : Pipe} {bytes : List UInt8}

theorem short_shortRead (count : Nat) : Short count (.error (.shortRead count)) :=
  ⟨rfl, shortRead_text count⟩

theorem read_frame {frame : Frame} (reader : p.readerOpen = true)
    (found : Frame.ofBytes? (p.bytes.take 16) = some frame) :
    read readerHandle p = (.ok frame, { p with bytes := p.bytes.drop 16 }) := by
  have front : p.bytes = frame.toBytes ++ p.bytes.drop 16 := by
    rw [Frame.toBytes_of_ofBytes? found, List.take_append_drop]
  exact read_record reader front

theorem read_short (reader : p.readerOpen = true) (nonblocking : p.nonblocking = true)
    (short : p.bytes.length < 16) :
    read readerHandle p =
      (.error (if p.bytes = [] ∧ p.writerOpen = true then .errno 11 else
        .shortRead p.bytes.length), { p with bytes := [] }) := by
  have front : p.bytes.take frameBytes = p.bytes := List.take_of_length_le (Nat.le_of_lt short)
  have rest : p.bytes.drop frameBytes = [] := List.drop_of_length_le (Nat.le_of_lt short)
  have none : Frame.ofBytes? p.bytes = none := by
    rw [← Option.not_isSome_iff_eq_none, Frame.ofBytes?_isSome_iff]
    exact Nat.ne_of_lt short
  obtain ⟨bytes, readerOpen, writerOpen, blocking⟩ := p
  simp only at *
  subst reader nonblocking
  unfold read
  cases bytes with
  | nil => cases writerOpen <;> rfl
  | cons byte bytes =>
    simp [front, rest, none]

theorem read_left {before : Nat} (reader : p.readerOpen = true)
    (nonblocking : p.nonblocking = true) (left : p.bytes = bytes.drop (16 * before)) :
    Answers bytes (!p.writerOpen) before (read readerHandle p).1 ∧
      (read readerHandle p).2 = { p with bytes := bytes.drop (16 * (before + 1)) } := by
  have count : p.bytes.length = bytes.length - 16 * before := by rw [left, List.length_drop]
  have next : bytes.drop (16 * (before + 1)) = p.bytes.drop 16 := by
    rw [left, List.drop_drop, Nat.mul_succ]
  rw [next]
  unfold Answers
  by_cases whole : 16 ≤ p.bytes.length
  · have size : (p.bytes.take 16).length = frameBytes := List.length_take_of_le whole
    obtain ⟨frame, found⟩ := Option.isSome_iff_exists.mp (Frame.ofBytes?_isSome_iff.mpr size)
    rw [read_frame reader found, if_pos (by omega), ← left]
    exact ⟨⟨frame, rfl, Frame.laidOut_of_ofBytes? found⟩, rfl⟩
  · have short : p.bytes.length < 16 := Nat.lt_of_not_le whole
    rw [read_short reader nonblocking short, if_neg (by omega), List.drop_of_length_le (Nat.le_of_lt short)]
    refine ⟨?_, rfl⟩
    by_cases some : p.bytes = []
    · have none : p.bytes.length = 0 := by rw [some]; rfl
      rw [if_neg (by omega), none]
      cases p.writerOpen with
      | false => simp [some, short_shortRead]
      | true => simp [some]
    · have positive := List.length_pos_iff.mpr some
      have rest : bytes.length % 16 = p.bytes.length := by omega
      rw [if_pos (by omega), if_neg (fun none => some none.1), rest]
      exact short_shortRead _

theorem reads_left {before : Nat} (count : Nat) (reader : p.readerOpen = true)
    (nonblocking : p.nonblocking = true) (left : p.bytes = bytes.drop (16 * before)) :
    let result := inTurn (List.replicate count (read readerHandle)) p
    result.1.length = count ∧
      (∀ i answer, result.1[i]? = some answer →
        Answers bytes (!p.writerOpen) (before + i) answer) ∧
      result.2 = { p with bytes := bytes.drop (16 * (before + count)) } := by
  induction count generalizing before p with
  | zero =>
    refine ⟨rfl, nofun, ?_⟩
    rw [Nat.add_zero, ← left]
    rfl
  | succ count ih =>
    obtain ⟨first, next⟩ := read_left reader nonblocking left
    have made : read readerHandle p =
        (_, { p with bytes := bytes.drop (16 * (before + 1)) }) := Prod.ext rfl next
    obtain ⟨length, others, last⟩ :=
      ih (p := { p with bytes := bytes.drop (16 * (before + 1)) }) reader nonblocking rfl
    rw [Nat.succ_add_eq_add_succ] at last
    rw [List.replicate_succ, inTurn_cons made]
    refine ⟨congrArg (· + 1) length, fun i answer found => ?_, last⟩
    cases i with
    | zero =>
      obtain rfl := Option.some.inj found
      exact first
    | succ i =>
      rw [← Nat.succ_add_eq_add_succ]
      exact others i answer found

theorem close_writer (writer : p.writerOpen = true) :
    close writerHandle p = (.ok (), { p with writerOpen := false }) := by
  have live : p.live writerHandle = true := by
    rw [Pipe.live, writer]
    rfl
  rw [close, if_pos live]
  rfl

theorem reads_closing (early late : Nat) (idle : p.Idle) :
    let before := inTurn (List.replicate early (read readerHandle)) (p.feed bytes)
    let closed := close writerHandle before.2
    let after := inTurn (List.replicate late (read readerHandle)) closed.2
    closed.1 = .ok () ∧ (before.1 ++ after.1).length = early + late ∧
      (∀ i answer, (before.1 ++ after.1)[i]? = some answer → Answers bytes (early ≤ i) i answer) ∧
      before.2.bytes = bytes.drop (16 * early) ∧
      after.2.bytes = bytes.drop (16 * (early + late)) := by
  intro before closed after
  have fed : (p.feed bytes).bytes = bytes.drop (16 * 0) := by
    rw [feed, idle.bytes]
    rfl
  obtain ⟨soonCount, soon, between⟩ := reads_left (p := p.feed bytes) early idle.reader idle.nonblocking fed
  have soonCount : before.1.length = early := soonCount
  rw [Nat.zero_add] at between
  have ended : closed =
      (.ok (), { p with bytes := bytes.drop (16 * early), writerOpen := false }) := by
    show close writerHandle before.2 = _
    rw [between]
    exact close_writer idle.writer
  obtain ⟨restCount, rest, last⟩ :=
    reads_left (p := closed.2) late (by rw [ended]; exact idle.reader)
      (by rw [ended]; exact idle.nonblocking) (by rw [ended])
  refine ⟨by rw [ended], ?_, ?_, by rw [between], by rw [last]⟩
  · rw [List.length_append, soonCount, restCount]
  · intro i answer found
    by_cases later : early ≤ i
    · rw [List.getElem?_append_right (by omega), soonCount] at found
      have told := rest (i - early) answer found
      rw [ended, Nat.add_sub_cancel' later] at told
      rw [decide_eq_true later]
      exact told
    · rw [List.getElem?_append_left (by omega)] at found
      have writer : (p.feed bytes).writerOpen = true := idle.writer
      have told := soon i answer found
      rw [Nat.zero_add, writer] at told
      rw [decide_eq_false later]
      exact told

theorem writes_open (frames : List Frame) (reader : p.readerOpen = true)
    (writer : p.writerOpen = true) :
    inTurn (frames.map (write writerHandle)) p =
      (frames.map fun _ => .ok 16, { p with bytes := p.bytes ++ frames.flatMap Frame.toBytes }) := by
  induction frames generalizing p with
  | nil => simp [inTurn]
  | cons frame rest ih =>
    rw [List.map_cons, inTurn_cons (write_open frame writer reader),
      ih (p := { p with bytes := p.bytes ++ frame.toBytes }) reader writer, List.append_assoc]
    rfl

theorem reads_written (frames : List Frame) (reader : p.readerOpen = true) :
    inTurn (List.replicate frames.length (read readerHandle))
        { p with bytes := frames.flatMap Frame.toBytes } =
      (frames.map .ok, { p with bytes := [] }) := by
  induction frames with
  | nil => rfl
  | cons frame rest ih =>
    have first := read_record (p := { p with bytes := (frame :: rest).flatMap Frame.toBytes })
      reader List.flatMap_cons
    rw [List.length_cons, List.replicate_succ, inTurn_cons first, ih]
    rfl

/-- Frames that were written into a pipe are read from it as they were. Of any other bytes each
sixteen are a frame, what is left over is one short read, and then there is nothing until the write
end is closed, and the end of the bytes after that. -/
theorem records_survive (p : Pipe) (idle : p.Idle) :
    (∀ frames : List Frame,
      let written := inTurn (frames.map (write writerHandle)) p
      written.1 = frames.map (fun _ => .ok 16) ∧
        (∃ records, List.Forall₂ Frame.LaidOut frames records ∧
          written.2.bytes = records.flatten) ∧
        inTurn (List.replicate frames.length (read readerHandle)) written.2 =
          (frames.map .ok, p)) ∧
      ∀ (bytes : List UInt8) (early late : Nat),
        let before := inTurn (List.replicate early (read readerHandle)) (p.feed bytes)
        let closed := close writerHandle before.2
        let after := inTurn (List.replicate late (read readerHandle)) closed.2
        closed.1 = .ok () ∧ (before.1 ++ after.1).length = early + late ∧
          (∀ i answer, (before.1 ++ after.1)[i]? = some answer →
            Answers bytes (early ≤ i) i answer) ∧
          before.2.bytes = bytes.drop (16 * early) ∧
          after.2.bytes = bytes.drop (16 * (early + late)) := by
  refine ⟨fun frames => ?_, fun bytes early late => reads_closing early late idle⟩
  intro written
  have made : written = (_, _) := writes_open frames idle.reader idle.writer
  rw [idle.bytes, List.nil_append] at made
  rw [made]
  refine ⟨rfl, ⟨frames.map Frame.toBytes, ?_, List.flatMap_def⟩, ?_⟩
  · rw [List.forall₂_map_right_iff, List.forall₂_same]
    exact fun frame _ => frame.toBytes_laidOut
  · rw [reads_written frames idle.reader, ← idle.bytes]

theorem limits_and_twenty_bytes :
    let p := (setNonblocking readerHandle start).2
    let frame : Frame := ⟨0xFFFFFFFF, 255, 255, 255, 255, Vector.replicate 8 255⟩
    let written := write writerHandle frame p
    let before := inTurn (List.replicate 3 (read readerHandle)) (p.feed (List.replicate 20 7))
    let closed := close writerHandle before.2
    let answers := before.1 ++ (inTurn [read readerHandle] closed.2).1
    p.Idle ∧ inTurn [read readerHandle] written.2 = ([.ok frame], p) ∧ answers.length = 4 ∧
      (∀ answer, answers[1]? = some answer → Short 4 answer) ∧
      (∀ answer, answers[2]? = some answer → answer = .error (.errno 11)) ∧
      ∀ answer, answers[3]? = some answer → Short 0 answer := by
  intro p frame written before closed answers
  have idle : p.Idle := ⟨rfl, rfl, rfl, rfl⟩
  obtain ⟨frames, others⟩ := records_survive p idle
  obtain ⟨-, -, same⟩ := frames [frame]
  obtain ⟨-, count, each, -⟩ := others (List.replicate 20 7) 3 1
  exact ⟨idle, same, count, each 1, each 2, each 3⟩

end Pipe

end CanBus
