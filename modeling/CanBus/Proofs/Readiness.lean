import CanBus.Proofs.Transfer
import CanBus.Socket.Pipe

namespace CanBus

namespace Pipe

variable {p : Pipe} {frames : List Frame}

structure Holds (frames : List Frame) (p : Pipe) : Prop where
  bytes : p.bytes = frames.flatMap Frame.toBytes
  reader : p.readerOpen = true
  writer : p.writerOpen = true

theorem Holds.isEmpty (holds : p.Holds frames) : p.bytes.isEmpty = frames.isEmpty := by
  rw [holds.bytes]
  cases frames <;> rfl

theorem Holds.poll (holds : p.Holds frames) (timeout : Duration) :
    ∃ count, poll readerHandle timeout p = (.ok count, p) ∧ count.toInt = min frames.length 1 := by
  have ready : p.ready readerHandle = !frames.isEmpty := by
    simp [Pipe.ready, readerHandle, holds.reader, holds.writer, holds.isEmpty]
  refine ⟨_, rfl, ?_⟩
  rw [ready]
  cases frames with
  | nil => rfl
  | cons frame rest =>
    have one : (1 : Int32).toInt = 1 := by decide
    rw [List.isEmpty_cons, Bool.not_false, if_pos rfl, one, List.length_cons]
    omega

theorem Holds.read {frame : Frame} {rest : List Frame} (holds : p.Holds (frame :: rest)) :
    ∃ after, read readerHandle p = (.ok frame, after) ∧ after.Holds rest := by
  have bytes : p.bytes = frame.toBytes ++ rest.flatMap Frame.toBytes := by
    rw [holds.bytes, List.flatMap_cons]
  exact ⟨_, read_record holds.reader bytes, rfl, holds.reader, holds.writer⟩

end Pipe

namespace Channel

section

variable {c : Channel} {host : Host Pipe} {frames : List Frame}

theorem isOpen_reader (reader : c.handle = Pipe.readerHandle) : c.isOpen = true := by
  rw [isOpen, reader]
  decide

theorem drain_pipe (expected left : Nat) (got : List Message) (few : left ≤ frames.length)
    (reader : c.handle = Pipe.readerHandle) (holds : host.net.Holds frames) :
    ∃ later, c.drain Pipe.layer expected left got host =
        (.ok (got ++ (frames.take left).map (Message.arrival ⟨0⟩)), later) ∧
      later.net.Holds (frames.drop left) := by
  induction left generalizing got host frames with
  | zero => exact ⟨host, by simp [drain], holds⟩
  | succ left ih =>
    cases frames with
    | nil => exact absurd few (Nat.not_succ_le_zero left)
    | cons frame rest =>
      obtain ⟨after, took, remains⟩ := holds.read
      rw [← reader] at took
      obtain ⟨first, made, rfl⟩ := drain_read Pipe.layer expected left got took
      have fewer : left ≤ rest.length := Nat.le_of_succ_le_succ few
      obtain ⟨later, drained, last⟩ := ih (got ++ [Message.arrival ⟨0⟩ frame]) fewer remains
      refine ⟨later, ?_, last⟩
      have step : c.drain Pipe.layer expected (left + 1) got host =
          c.drain Pipe.layer expected left (got ++ [Message.arrival ⟨0⟩ frame]) first := made
      rw [step, drained, List.take_succ_cons, List.map_cons, List.append_assoc]
      rfl

theorem receiveBatch_pipe (few : c.expected ≤ frames.length)
    (reader : c.handle = Pipe.readerHandle) (holds : host.net.Holds frames) :
    ∃ later, c.receiveBatch Pipe.layer host =
        (.ok ((frames.take c.expected).map (Message.arrival ⟨0⟩)), { c with pending := 0 }, later) ∧
      later.net.Holds (frames.drop c.expected) := by
  obtain ⟨later, drained, remains⟩ :=
    drain_pipe (c := { c with pending := 0 }) c.expected c.expected [] few reader holds
  rw [List.nil_append] at drained
  exact ⟨_, receiveBatch_done (isOpen_reader reader) drained, remains⟩

/-- However many frames wait in a pipe, a wait and a batch take the first of them only. -/
theorem wait_receiveBatch_pipe (timeout : Option Duration) (reader : c.handle = Pipe.readerHandle)
    (holds : host.net.Holds frames) :
    let waited := c.wait Pipe.layer timeout host
    let batch := waited.2.1.receiveBatch Pipe.layer waited.2.2
    (∃ time, batch.1 = .ok ((frames.take 1).map (Message.arrival time))) ∧
      batch.2.2.net.Holds (frames.drop 1) := by
  intro waited batch
  obtain ⟨count, polled, size⟩ := holds.poll (timeout.getD c.waitTimeout)
  rw [← reader] at polled
  obtain ⟨first, waits, net⟩ := wait_reports Pipe.layer (isOpen_reader reader) polled
  have waitedEq : waited = _ := waits
  have still : first.net.Holds frames := by
    rw [net]
    exact holds
  have due : ({ c with pending := count } : Channel).expected = min 1 frames.length := by
    simp only [expected, size]
    omega
  have few : ({ c with pending := count } : Channel).expected ≤ frames.length := by omega
  obtain ⟨later, received, remains⟩ := receiveBatch_pipe few reader still
  rw [due, ← List.take_eq_take_min] at received
  rw [due, ← List.drop_eq_drop_min] at remains
  have same : batch = ({ c with pending := count } : Channel).receiveBatch Pipe.layer first := by
    simp only [batch, waitedEq]
  rw [same, received]
  exact ⟨⟨_, rfl⟩, remains⟩

end

/-- The same frames before a simulated socket and in a pipe. The reports agree only where no more
than one frame waits. -/
theorem waiting_frames_reported (frames : List Frame) (simulated piped : Channel)
    (near : Host Simulator) (far : Host Pipe)
    (isOpen : simulated.isOpen = true) (held : near.net.isOpen simulated.handle = true)
    (queued : near.net.inbound = frames) (unscripted : near.net.readyOverride = none)
    (polls : near.net.failures .poll = none) (reads : near.net.failures .read = none)
    (reader : piped.handle = Pipe.readerHandle) (holds : far.net.Holds frames) :
    let nearWait := simulated.wait Simulator.layer (some Duration.zero) near
    let nearBatch := nearWait.2.1.receiveBatch Simulator.layer nearWait.2.2
    let farWait := piped.wait Pipe.layer (some Duration.zero) far
    let farBatch := farWait.2.1.receiveBatch Pipe.layer farWait.2.2
    ∃ count signal : Int32,
      (Simulator.layer.poll simulated.handle Duration.zero near.net).1 = .ok count ∧
      (Pipe.layer.poll piped.handle Duration.zero far.net).1 = .ok signal ∧
      count.toInt = min frames.length (2 ^ 31 - 1) ∧ signal.toInt = min frames.length 1 ∧
      (count = signal ↔ frames.length ≤ 1) ∧
      (∃ time, nearBatch.1 =
        .ok ((frames.take (2 ^ 31 - 1)).map (Message.arrival time))) ∧
      nearBatch.2.2.net.inbound = frames.drop (2 ^ 31 - 1) ∧
      (∃ time, farBatch.1 = .ok ((frames.take 1).map (Message.arrival time))) ∧
      farBatch.2.2.net.Holds (frames.drop 1) := by
  intro nearWait nearBatch farWait farBatch
  subst queued
  obtain ⟨_, nearReceives, nearRest, _⟩ :=
    wait_receiveBatch_most (some Duration.zero) isOpen held polls reads unscripted
  obtain ⟨farReceives, farRest⟩ := wait_receiveBatch_pipe (some Duration.zero) reader holds
  obtain ⟨signal, signals, one⟩ := holds.poll Duration.zero
  have counts := Simulator.poll_held Duration.zero polls held
  have many := near.net.queued_toInt
  refine ⟨near.net.queued, signal, ?_, ?_, many, one, ?_, nearReceives, nearRest, farReceives,
    farRest⟩
  · rw [← Simulator.ready_unscripted unscripted]
    exact congrArg Prod.fst counts
  · rw [reader]
    exact congrArg Prod.fst signals
  · rw [← Int32.toInt_inj, many, one]
    omega

theorem three_frames_reported :
    let frames : List Frame := [0x101, 0x102, 0x103].map fun word =>
      ⟨word, 0, 0, 0, 0, Vector.replicate 8 0⟩
    let near : Host Simulator :=
      ⟨{ Simulator.start with openHandles := [3], inbound := frames }, .zero, []⟩
    let far : Host Pipe := ⟨Pipe.start.feed (frames.flatMap Frame.toBytes), .zero, []⟩
    let simulated : Channel := { fresh "mock0" 1 0 Identifier.zero with handle := 3 }
    let piped : Channel := { simulated with handle := Pipe.readerHandle }
    ∃ count signal : Int32,
      (Simulator.layer.poll simulated.handle Duration.zero near.net).1 = .ok count ∧
      (Pipe.layer.poll piped.handle Duration.zero far.net).1 = .ok signal ∧
      count.toInt = 3 ∧ signal.toInt = 1 := by
  intro frames near far simulated piped
  have holds : far.net.Holds frames := ⟨rfl, rfl, rfl⟩
  obtain ⟨count, signal, counts, signals, many, one, _⟩ :=
    waiting_frames_reported frames simulated piped near far (by decide) (by decide) rfl rfl rfl rfl
      rfl holds
  exact ⟨count, signal, counts, signals, many, one⟩

/-- With two frames in a pipe a wait reports one, and the batch after it leaves the second. -/
theorem second_frame_left :
    let first : Frame := ⟨0x123, 1, 0, 0, 0, #v[7, 0, 0, 0, 0, 0, 0, 0]⟩
    let second : Frame := ⟨0x124, 0, 0, 0, 0, #v[0, 0, 0, 0, 0, 0, 0, 0]⟩
    let net := { Simulator.start with openHandles := [3], inbound := [first, second] }
    let piped : Channel := { fresh "mock0" 1 0 Identifier.zero with handle := Pipe.readerHandle }
    let far : Host Pipe := ⟨Pipe.start.feed (first.toBytes ++ second.toBytes), .zero, []⟩
    let waited := piped.wait Pipe.layer (some Duration.zero) far
    let batch := waited.2.1.receiveBatch Pipe.layer waited.2.2
    (Simulator.layer.poll 3 Duration.zero net).1 = .ok 2 ∧
      (Pipe.layer.poll piped.handle Duration.zero far.net).1 = .ok 1 ∧
      batch.1 = .ok [Message.arrival ⟨0⟩ first] ∧ batch.2.2.net.bytes = second.toBytes := by
  intro first second net piped far waited batch
  refine ⟨?_, ?_, ?_, ?_⟩ <;> decide

end Channel

end CanBus
