import CanBus.Proofs.Outcomes

namespace CanBus

namespace Fault

variable {fault : Fault}

theorem code?_eq_some_iff {code : Int32} : fault.code? = some code ↔ fault = errno code := by
  cases fault <;> simp [code?]

theorem wouldBlock_iff :
    fault.wouldBlock = true ↔ fault = errno Errno.again ∨ fault = emptyQueue := by
  cases fault with
  | errno code =>
    have same : (errno code).wouldBlock = (code == Errno.again) := rfl
    rw [same, beq_iff_eq, errno.injEq]
    exact (or_iff_left nofun).symm
  | emptyQueue => exact iff_of_true rfl (.inr rfl)
  | badHandle | noDevice | invalidName | shortRead => exact iff_of_false nofun (by simp)

theorem described_uncoded (uncoded : fault.code? = none) :
    fault.described = "Error: " ++ fault.text := by
  simp only [described, uncoded]

theorem toList_front {whole : String} (front rest : String) (same : front ++ rest = whole) :
    front.toList <+: whole.toList :=
  ⟨rest.toList, by rw [← same, String.toList_append]⟩

theorem eq_emptyQueue_of_text (uncoded : fault.code? = none) (same : fault.text = text emptyQueue) :
    fault = emptyQueue := by
  cases fault with
  | emptyQueue => rfl
  | errno code => nomatch uncoded
  | badHandle handle => exact absurd (toList_front "bad file descriptor " _ same) (by decide)
  | noDevice name => exact absurd (toList_front "no such device " _ same) (by decide)
  | invalidName name =>
    exact absurd (toList_front "invalid interface name " _ same) (by decide)
  | shortRead count =>
    have words := String.append_assoc.symm.trans same
    exact absurd (toList_front "short CAN frame read: " _ words) (by decide)

end Fault

namespace ChannelError

/-- The error of a read that would have had to wait: by the system's code for that, or as the
simulated queue puts it. -/
def wouldBlock (error : ChannelError) : Bool :=
  match error with
  | io _ socket _ =>
    error = transferFailed .read socket (.errno Errno.again) ||
      error = transferFailed .read socket .emptyQueue
  | _ => false

variable {step : TransferStep} {socket : Int32} {fault : Fault}

theorem transferFailed_eq_errno_iff {code : Int32} :
    transferFailed step socket fault = transferFailed step socket (.errno code) ↔
      fault = .errno code := by
  refine ⟨?_, fun same => same ▸ rfl⟩
  intro same
  have codes : fault.code? = some code := (io.inj same).2.2
  exact Fault.code?_eq_some_iff.mp codes

theorem transferFailed_eq_emptyQueue_iff :
    transferFailed step socket fault = transferFailed step socket .emptyQueue ↔
      fault = .emptyQueue := by
  refine ⟨?_, fun same => same ▸ rfl⟩
  intro same
  obtain ⟨message, -, uncoded⟩ := io.inj same
  rw [String.append_right_inj, Fault.described_uncoded uncoded, Fault.described_uncoded rfl,
    String.append_right_inj] at message
  exact Fault.eq_emptyQueue_of_text uncoded message

theorem wouldBlock_transferFailed_iff :
    (transferFailed .read socket fault).wouldBlock = true ↔
      fault = .errno Errno.again ∨ fault = .emptyQueue := by
  let error := transferFailed .read socket fault
  have either : error.wouldBlock =
      (decide (error = transferFailed .read socket (.errno Errno.again)) ||
        decide (error = transferFailed .read socket .emptyQueue)) := rfl
  rw [either, Bool.or_eq_true, decide_eq_true_iff, decide_eq_true_iff,
    transferFailed_eq_errno_iff, transferFailed_eq_emptyQueue_iff]

theorem wouldBlock_transferFailed (socket : Int32) (fault : Fault) :
    (transferFailed .read socket fault).wouldBlock = fault.wouldBlock :=
  Bool.eq_iff_iff.mpr (wouldBlock_transferFailed_iff.trans Fault.wouldBlock_iff.symm)

end ChannelError

structure Singles (σ : Type) where
  messages : List Message
  stop : Option ChannelError
  host : Host σ

namespace Singles

variable {σ : Type}

def ranDry (singles : Singles σ) : Bool := singles.stop.any ChannelError.wouldBlock

def asBatch (singles : Singles σ) : Except ChannelError (List Message) :=
  match singles.stop with
  | some error => if error.wouldBlock then .ok singles.messages else .error error
  | none => .ok singles.messages

theorem asBatch_eq_error_iff {singles : Singles σ} {error : ChannelError} :
    singles.asBatch = .error error ↔ singles.stop = some error ∧ error.wouldBlock = false := by
  unfold asBatch
  cases singles.stop with
  | none => simp
  | some stop =>
    simp only [Option.some.injEq]
    split
    · rename_i soft
      refine ⟨nofun, ?_⟩
      rintro ⟨rfl, hard⟩
      exact absurd (soft.symm.trans hard) nofun
    · rename_i hard
      constructor
      · rintro ⟨⟩
        exact ⟨rfl, Bool.eq_false_iff.mpr hard⟩
      · rintro ⟨rfl, -⟩
        rfl

theorem asBatch_ok {singles : Singles σ} {messages : List Message}
    (ended : singles.asBatch = .ok messages) : messages = singles.messages := by
  unfold asBatch at ended
  repeat' split at ended
  all_goals cases ended
  all_goals rfl

theorem asBatch_cons (message : Message) (later : Singles σ) :
    asBatch { later with messages := message :: later.messages } =
      later.asBatch.map (message :: ·) := by
  unfold asBatch
  cases later.stop with
  | none => rfl
  | some stop =>
    simp only []
    split <;> rfl

/-- How a batch ends that went along with the single reads, after those that gave `got`. Only the
failure that it keeps quiet about is not counted. -/
structure Matches (singles : Singles σ) (metered : Bool) (got : List Message)
    (ended : Except ChannelError (List Message) × Host σ) : Prop where
  answer : ended.1 = singles.asBatch.map (got ++ ·)
  net : ended.2.net = singles.host.net
  counters : singles.host.counters =
    if metered && singles.ranDry then ended.2.counters.failed else ended.2.counters

end Singles

namespace Channel

section

variable {σ : Type} (layer : Layer σ) {c : Channel}

def receiveEach (layer : Layer σ) (c : Channel) : Nat → Host σ → Singles σ
  | 0, host => ⟨[], none, host⟩
  | left + 1, host =>
    match c.receive layer host with
    | (.error error, host) => ⟨[], some error, host⟩
    | (.ok message, host) =>
      let later := receiveEach layer c left host
      { later with messages := message :: later.messages }

theorem drain_pending (pending : Int32) (expected left : Nat) (got : List Message)
    (host : Host σ) :
    drain layer { c with pending := pending } expected left got host =
      c.drain layer expected left got host := by
  induction left generalizing got host with
  | zero => rfl
  | succ left ih =>
    simp only [drain, ih]
    rfl

theorem drain_matches (isOpen : c.isOpen = true) (expected left : Nat) (got : List Message)
    (host : Host σ) :
    (c.receiveEach layer left host).Matches c.metered got
      (c.drain layer expected left got host) := by
  -- the host is general, since either loop goes on from what the last read left
  induction left generalizing got host with
  | zero =>
    refine ⟨?_, rfl, ?_⟩
    · exact congrArg Except.ok (List.append_nil got).symm
    · rw [Singles.ranDry, receiveEach, Option.any_none, Bool.and_false]
      rfl
  | succ left ih =>
    unfold drain receiveEach receive
    simp only [isOpen, if_true]
    rcases c.readOne layer host with ⟨fault | message, after⟩
    · -- both stop here, and differ in what they make of it
      have blocks := ChannelError.wouldBlock_transferFailed c.handle fault
      have counted : (Host.count c.metered Counters.failed after).counters =
          if c.metered then after.counters.failed else after.counters := by
        cases c.metered <;> rfl
      have net : (Host.count c.metered Counters.failed after).net = after.net :=
        Host.net_count _ _
      cases soft : fault.wouldBlock with
      | true =>
        simp only [soft, if_true, readFailed]
        refine ⟨?_, net.symm, ?_⟩
        · simp [Singles.asBatch, blocks, soft, Except.map]
        · simp [Singles.ranDry, blocks, soft, counted, Host.note]
      | false =>
        simp only [soft, Bool.false_eq_true, if_false, readFailed]
        refine ⟨?_, rfl, ?_⟩
        · simp [Singles.asBatch, blocks, soft, Except.map]
        · simp [Singles.ranDry, blocks, soft]
    · obtain ⟨answer, net, counters⟩ := ih (got ++ [message]) after
      refine ⟨?_, net, counters⟩
      rw [Singles.asBatch_cons]
      simp only [answer]
      cases (c.receiveEach layer left after).asBatch <;> simp [Except.map]

theorem receiveBatch_matches (isOpen : c.isOpen = true) (host : Host σ) :
    let batch := c.receiveBatch layer host
    (c.receiveEach layer c.expected host).Matches c.metered [] (batch.1, batch.2.2) ∧
      batch.2.1 = { c with pending := 0 } := by
  intro batch
  have drained := drain_matches layer isOpen c.expected c.expected [] host
  rw [← drain_pending layer 0] at drained
  rcases ended : drain layer { c with pending := 0 } c.expected c.expected [] host with
    ⟨error | messages, after⟩ <;> rw [ended] at drained
  · have batched : batch = _ := receiveBatch_failed isOpen ended
    rw [batched]
    exact ⟨drained, rfl⟩
  · have batched : batch = _ := receiveBatch_done isOpen ended
    rw [batched]
    exact ⟨⟨drained.answer, drained.net, drained.counters⟩, rfl⟩

end

open Simulator (layer)

variable {c : Channel} {host : Host Simulator}

/-- Once a read of the simulated layer went through, the empty queue alone stops the next ones. So
there are no messages before any other failure. -/
theorem receiveEach_fails {left : Nat} {error : ChannelError} (isOpen : c.isOpen = true)
    (stop : (c.receiveEach layer left host).stop = some error) (hard : error.wouldBlock = false) :
    (c.receiveEach layer left host).messages = [] := by
  cases left with
  | zero => rfl
  | succ left =>
    cases gate : host.net.gate .read (some c.handle) with
    | some fault =>
      have failed : c.readOne layer host =
          (.error fault, { host with net := host.net.entered [.read] }) := by
        rw [readOne_outcome, gate]
      simp only [receiveEach, receive, isOpen, if_true, failed]
    | none =>
      have drained := (drain_matches layer isOpen 0 (left + 1) [] host).answer
      rw [drain_passes _ _ _ c host gate, Singles.asBatch_eq_error_iff.mpr ⟨stop, hard⟩] at drained
      nomatch drained

theorem receiveBatch_passes (isOpen : c.isOpen = true)
    (passes : host.net.gate .read (some c.handle) = none) :
    let queue := host.net.inbound
    (c.receiveBatch layer host).1 =
        .ok ((queue.take c.expected).map (Message.arrival host.net.now)) ∧
      (c.receiveBatch layer host).2.2.net.calls =
        host.net.calls ++ List.replicate (min c.expected (queue.length + 1)) .read := by
  intro queue
  have drained := drain_passes c.expected c.expected [] { c with pending := 0 } host passes
  rw [receiveBatch_done isOpen drained]
  refine ⟨rfl, ?_⟩
  simp only [Host.net_note, Effect.on, Effect.net, Simulator.entered, Effect.andThen, taking,
    List.map_const', List.length_take]
  by_cases short : queue.length < c.expected
  · have reads : min c.expected queue.length + 1 = min c.expected (queue.length + 1) := by omega
    rw [if_pos short, ← reads, List.replicate_succ']
    rfl
  · have reads : min c.expected queue.length = min c.expected (queue.length + 1) := by omega
    rw [if_neg short, ← reads]
    exact congrArg _ (List.append_nil _)

def handed {ε : Type} : Except ε (List Message) → List Message
  | .ok messages => messages
  | .error _ => []

/-- A batch is so many single reads up to the first failure, except that it neither reports nor
counts a failure to find more frames. -/
theorem receiveBatch_agrees (c : Channel) (host : Host Simulator) (isOpen : c.isOpen = true) :
    let count := (max c.pending.toInt 0).toNat
    let singles := c.receiveEach layer count host
    let batch := c.receiveBatch layer host
    handed batch.1 = singles.messages ∧
      (∀ error, batch.1 = .error error ↔
        singles.stop = some error ∧ error.wouldBlock = false) ∧
      batch.2.2.net = singles.host.net ∧
      batch.2.2.counters.receivedFrames = singles.host.counters.receivedFrames ∧
      singles.host.counters =
        (if c.metered && singles.ranDry then batch.2.2.counters.failed
          else batch.2.2.counters) ∧
      (host.net.failures .read = none → host.net.isOpen c.handle = true →
        let queue := host.net.inbound
        singles.messages =
            (queue.take (min count queue.length)).map (Message.arrival host.net.now) ∧
          batch.2.2.net.calls =
            host.net.calls ++ List.replicate (min count (queue.length + 1)) .read) ∧
      batch.2.1 = { c with pending := 0 } := by
  intro count singles batch
  have same : count = c.expected := by
    simp only [count, expected]
    omega
  obtain ⟨⟨answer, net, counters⟩, used⟩ := receiveBatch_matches layer isOpen host
  rw [← same] at answer net counters
  have answered : batch.1 = singles.asBatch := by
    rw [answer]
    cases singles.asBatch <;> rfl
  have messages : handed singles.asBatch = singles.messages := by
    cases ended : singles.asBatch with
    | ok messages => exact Singles.asBatch_ok ended
    | error error =>
      obtain ⟨stop, hard⟩ := Singles.asBatch_eq_error_iff.mp ended
      exact (receiveEach_fails isOpen stop hard).symm
  refine ⟨answered ▸ messages, ?_, net, ?_, counters, ?_, used⟩
  · intro error
    rw [answered]
    exact Singles.asBatch_eq_error_iff
  · rw [counters]
    split <;> rfl
  · intro unset held queue
    obtain ⟨got, calls⟩ :=
      receiveBatch_passes isOpen (Simulator.gate_eq_none_iff.mpr ⟨unset, held⟩)
    refine ⟨?_, same ▸ calls⟩
    have front : queue.take (min count queue.length) = queue.take c.expected := by
      rw [same, ← List.take_eq_take_min]
    rw [← messages, ← answered, front]
    exact congrArg handed got

theorem short_batch_agrees :
    let frame : Frame := ⟨0x123, 1, 0, 0, 0, #v[7, 0, 0, 0, 0, 0, 0, 0]⟩
    let c : Channel := { fresh "mock0" 1 0 Identifier.zero with
      handle := 100, pending := 3, metered := true }
    let net : Simulator := { Simulator.start with openHandles := [100], inbound := [frame, frame] }
    let batch := c.receiveBatch layer ⟨net, Counters.zero, []⟩
    let singles := c.receiveEach layer 3 ⟨net, Counters.zero, []⟩
    c.isOpen = true ∧ handed batch.1 = singles.messages ∧ singles.messages.length = 2 ∧
      singles.stop.isSome = true ∧ batch.2.2.net.calls = [.read, .read, .read] ∧
      batch.2.2.counters = ⟨0, 0, 2, 0⟩ ∧ singles.host.counters = ⟨0, 0, 2, 1⟩ := by
  intro frame c net batch singles
  have isOpen : c.isOpen = true := by decide
  obtain ⟨messages, -⟩ := receiveBatch_agrees c ⟨net, Counters.zero, []⟩ isOpen
  exact ⟨isOpen, messages, by decide, by decide, by decide, by decide, by decide⟩

end Channel

end CanBus
