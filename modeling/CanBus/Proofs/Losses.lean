import CanBus.Proofs.Reading
import Mathlib.Data.List.Forall2

namespace CanBus

variable {σ : Type}

/-- Reads of a handle one after the other, with what each of them gave. -/
inductive Layer.Reads (layer : Layer σ) (handle : Int32) : σ → List (Except Fault Frame) → σ → Prop
  | nil (s : σ) : Reads layer handle s [] s
  | cons {s t u : σ} {outcome : Except Fault Frame} {outcomes : List (Except Fault Frame)}
      (read : layer.read handle s = (outcome, t)) (rest : Reads layer handle t outcomes u) :
      Reads layer handle s (outcome :: outcomes) u

def taken (outcomes : List (Except Fault Frame)) : List Frame := outcomes.filterMap Except.toOption

theorem taken_ok (frame : Frame) (outcomes : List (Except Fault Frame)) :
    taken (.ok frame :: outcomes) = frame :: taken outcomes := rfl

theorem taken_eq_nil_iff {outcomes : List (Except Fault Frame)} {fault : Fault}
    (shape : outcomes = (taken outcomes).map .ok ++ [.error fault]) :
    taken outcomes = [] ↔ outcomes.length ≤ 1 := by
  have length : outcomes.length = (taken outcomes).length + 1 := by
    simpa using congrArg List.length shape
  rw [← List.length_eq_zero_iff, length]
  omega

/-- The messages are those of the frames, in their order, each with the time it was read. -/
def HandedOver (frames : List Frame) (messages : List Message) : Prop :=
  List.Forall₂ (fun frame message => ∃ time, message = Message.arrival time frame) frames messages

namespace Channel

variable {layer : Layer σ} {c : Channel} {host : Host σ}

/-- How the reads of an open channel's batch went, by what they add to the messages it had got. -/
def Answers (c : Channel) (got : List Message) (outcomes : List (Except Fault Frame)) :
    Except ChannelError (List Message) → Prop
  | .ok messages => ∃ more, messages = got ++ more ∧ HandedOver (taken outcomes) more
  | .error error => ∃ fault, outcomes = (taken outcomes).map .ok ++ [.error fault] ∧
      fault.wouldBlock = false ∧ error = .transferFailed .read c.handle fault

theorem Answers.cons {got : List Message} {outcomes : List (Except Fault Frame)}
    {answer : Except ChannelError (List Message)} {time : Timestamp} {frame : Frame}
    (answers : c.Answers (got ++ [Message.arrival time frame]) outcomes answer) :
    c.Answers got (.ok frame :: outcomes) answer := by
  cases answer with
  | ok messages =>
    obtain ⟨more, rfl, handed⟩ := answers
    refine ⟨Message.arrival time frame :: more, ?_, .cons ⟨time, rfl⟩ handed⟩
    rw [List.append_assoc, List.singleton_append]
  | error error =>
    obtain ⟨fault, shape, hard, told⟩ := answers
    refine ⟨fault, ?_, hard, told⟩
    rw [taken_ok, List.map_cons, List.cons_append, ← shape]

theorem drain_answers (layer : Layer σ) (c : Channel) (expected left : Nat) (got : List Message)
    (host : Host σ) :
    ∃ outcomes,
      layer.Reads c.handle host.net outcomes (c.drain layer expected left got host).2.net ∧
      outcomes.length ≤ left ∧ c.Answers got outcomes (c.drain layer expected left got host).1 := by
  induction left generalizing got host with
  | zero => exact ⟨[], .nil _, Nat.le_refl 0, [], (List.append_nil got).symm, .nil⟩
  | succ left ih =>
    rcases read : layer.read c.handle host.net with ⟨fault | frame, after⟩
    · have last := Layer.Reads.cons read (.nil after)
      have one : 1 ≤ left + 1 := Nat.le_add_left 1 left
      cases blocks : fault.wouldBlock with
      | true =>
        obtain ⟨later, stale, rfl⟩ := drain_stale layer expected left got blocks read
        rw [stale]
        exact ⟨_, last, one, [], (List.append_nil got).symm, .nil⟩
      | false =>
        obtain ⟨later, fails, rfl⟩ := drain_fails layer expected left got blocks read
        rw [fails]
        exact ⟨_, last, one, fault, rfl, blocks, rfl⟩
    · obtain ⟨later, made, rfl⟩ := drain_read layer expected left got read
      obtain ⟨outcomes, reads, few, answers⟩ :=
        ih (got ++ [Message.arrival (layer.now later.net) frame]) later
      rw [made]
      exact ⟨.ok frame :: outcomes, .cons read reads, Nat.succ_le_succ few, answers.cons⟩

/-- A batch that ends well hands over every frame it took. One that fails at a read had taken a
frame with each read before that one, so nothing is lost exactly when its first read fails. -/
theorem receiveBatch_accounts (layer : Layer σ) (c : Channel) (host : Host σ) :
    ∃ outcomes,
      layer.Reads c.handle host.net outcomes (c.receiveBatch layer host).2.2.net ∧
      outcomes.length ≤ c.expected ∧
      match (c.receiveBatch layer host).1 with
      | .ok messages => HandedOver (taken outcomes) messages
      | .error error =>
        (taken outcomes = [] ↔ outcomes.length ≤ 1) ∧
          (outcomes = [] ∧ error = .notOpen c.handle ∨
            ∃ fault, outcomes = (taken outcomes).map .ok ++ [.error fault] ∧
              fault.wouldBlock = false ∧ error = .transferFailed .read c.handle fault) := by
  cases isOpen : c.isOpen with
  | false =>
    rw [receiveBatch_idle isOpen]
    exact ⟨[], .nil _, Nat.zero_le _, iff_of_true rfl (Nat.zero_le 1), .inl ⟨rfl, rfl⟩⟩
  | true =>
    obtain ⟨outcomes, reads, few, answers⟩ :=
      drain_answers layer { c with pending := 0 } c.expected c.expected [] host
    refine ⟨outcomes, ?_⟩
    rcases ended : drain layer { c with pending := 0 } c.expected c.expected [] host with
      ⟨error | messages, later⟩
    · rw [ended] at reads answers
      rw [receiveBatch_failed isOpen ended]
      obtain ⟨fault, shape, hard, told⟩ := answers
      exact ⟨reads, few, taken_eq_nil_iff shape, .inr ⟨fault, shape, hard, told⟩⟩
    · rw [ended] at reads answers
      rw [receiveBatch_done isOpen ended]
      obtain ⟨more, rfl, handed⟩ := answers
      exact ⟨reads, few, handed⟩

/-- Whatever number of frames comes before a failing read, a batch that is due to read that far
loses them all. -/
theorem drain_loses {frames : List Frame} {fault : Fault} {after : σ} (expected left : Nat)
    (got : List Message)
    (reads : layer.Reads c.handle host.net (frames.map .ok ++ [.error fault]) after)
    (hard : fault.wouldBlock = false) (due : frames.length < left) :
    ∃ later, c.drain layer expected left got host =
        (.error (.transferFailed .read c.handle fault), later) ∧ later.net = after := by
  induction frames generalizing left got host with
  | nil =>
    obtain ⟨left, rfl⟩ := Nat.exists_eq_succ_of_ne_zero (Nat.ne_of_gt due)
    obtain _ | ⟨read, _ | _⟩ := reads
    exact drain_fails layer expected left got hard read
  | cons frame rest ih =>
    obtain ⟨left, rfl⟩ := Nat.exists_eq_succ_of_ne_zero (Nat.ne_of_gt (Nat.zero_lt_of_lt due))
    obtain _ | ⟨read, more⟩ := reads
    obtain ⟨later, made, net⟩ := drain_read layer expected left got read
    rw [Nat.succ_eq_add_one, made]
    exact ih left _ (net ▸ more) (Nat.lt_of_succ_lt_succ due)

theorem receiveBatch_loses {frames : List Frame} {fault : Fault} {after : σ}
    (isOpen : c.isOpen = true)
    (reads : layer.Reads c.handle host.net (frames.map .ok ++ [.error fault]) after)
    (hard : fault.wouldBlock = false) (due : frames.length < c.expected) :
    ∃ later, c.receiveBatch layer host =
        (.error (.transferFailed .read c.handle fault), { c with pending := 0 }, later) ∧
      later.net = after := by
  obtain ⟨later, ended, net⟩ :=
    drain_loses (c := { c with pending := 0 }) c.expected c.expected [] reads hard due
  exact ⟨later, receiveBatch_failed isOpen ended, net⟩

end Channel

/-- The simulated layer beside another user of the simulator, who sets a read to fail as soon as one
has gone through. -/
def Simulator.interrupted (code : Int32) : Layer Simulator :=
  { layer with
    read := fun handle s =>
      match read handle s with
      | (.ok frame, s) => (.ok frame, s.failNext .read code)
      | (.error fault, s) => (.error fault, s) }

/-- Two frames wait and both are reported. The batch takes the first, fails at the second, and hands
over neither. -/
theorem Channel.first_frame_lost :
    let first : Frame := ⟨0x123, 1, 0, 0, 0, #v[7, 0, 0, 0, 0, 0, 0, 0]⟩
    let second : Frame := ⟨0x124, 0, 0, 0, 0, #v[0, 0, 0, 0, 0, 0, 0, 0]⟩
    let layer := Simulator.interrupted 5
    let c : Channel := { fresh "mock0" 1 0 Identifier.zero with handle := 3 }
    let host : Host Simulator :=
      ⟨{ Simulator.start with openHandles := [3], inbound := [first, second] }, .zero, []⟩
    let waited := c.wait layer none host
    let batch := waited.2.1.receiveBatch layer waited.2.2
    waited.1 = .ok true ∧ waited.2.2.net.inbound = [first, second] ∧
      batch.1 = .error (.transferFailed .read 3 (.errno 5)) ∧
      batch.2.2.net.inbound = [second] ∧ batch.2.2.net.calls = [.poll, .read, .read] := by
  intro first second layer c host waited batch
  refine ⟨?_, ?_, ?_, ?_, ?_⟩ <;> decide +kernel

end CanBus
