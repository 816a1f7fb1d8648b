import CanBus.Proofs.Tenure
import CanBus.Proofs.Transfer

namespace CanBus

/-- What bears on the count: a wait that got as far as its poll, or a batch. -/
inductive Notice
  | polled (outcome : Except Fault Int32)
  | used

def Notice.count : Notice → Int32
  | polled (.ok count) => count
  | polled (.error _) | used => 0

def ChannelStep.notice? (c : Channel) (s : Simulator) : ChannelStep → Option Notice
  | wait timeout =>
    if c.isOpen then
      some (.polled (Simulator.layer.poll c.handle (timeout.getD c.waitTimeout) s).1)
    else none
  | receiveBatch => if c.isOpen then some .used else none
  | _ => none

/-- What the step has to say to the slot's channel. -/
def Step.notice? (slot : Nat) (b : Bench) : Step → Option Notice
  | channel other inner =>
    if other = slot then (b.channel? slot).bind (inner.notice? · b.host.net) else none
  | _ => none

/-- The count that a history leaves, if there was none before it. -/
def unusedReport (notices : List Notice) : Int32 :=
  (notices.getLast?.map Notice.count).getD 0

namespace Simulator

theorem poll_count {s : Simulator} {handle : Int32} {timeout : Duration} {count : Int32}
    (polled : (layer.poll handle timeout s).1 = .ok count) :
    match s.readyOverride with
    | some scripted => count = scripted
    | none => count.toInt = min s.inbound.length (2 ^ 31 - 1) := by
  have ready : s.ready = count := by
    rw [layer_poll] at polled
    split at polled
    · cases polled
    · exact Except.ok.inj polled
  rw [← ready]
  cases scripted : s.readyOverride with
  | some count => rw [Simulator.ready, scripted, Option.getD_some]
  | none => rw [ready_unscripted scripted, queued_toInt]

end Simulator

namespace Channel

variable (c : Channel) (s : Simulator)

theorem outcome_pending (reported : Option Nat) (step : ChannelStep) :
    (c.outcome reported s step).channel.pending =
      ((step.notice? c s).map Notice.count).getD c.pending := by
  cases step with
  | wait timeout =>
    simp only [outcome, Outcome.map, waitOutcome, ChannelStep.notice?, Simulator.layer_poll]
    cases c.isOpen with
    | false => rfl
    | true => cases s.gate .poll (some c.handle) <;> rfl
  | receiveBatch =>
    simp only [outcome, Outcome.map, receiveBatchOutcome, ChannelStep.notice?]
    cases c.isOpen with
    | false => rfl
    | true => rcases c.drainOutcome s c.expected with ⟨_ | _, _⟩ <;> rfl
  | close =>
    simp only [outcome, Outcome.map, closeOutcome]
    repeat' split
    all_goals rfl
  | setFilter mask id =>
    simp only [outcome, Outcome.map, filterOutcome]
    repeat' split
    all_goals rfl
  | receive | send | sendBatch | setSender | filterMask | socket | info => rfl

/-- A wait tells that frames can be read if it got as far as its poll and leaves a count of some.
What a closed channel has left from an earlier wait does not matter. -/
theorem wait_flag (reported : Option Nat) (timeout : Option Duration) (time : Timestamp) :
    let o := c.outcome reported s (.wait timeout)
    o.answer time = .flag true ↔ c.isOpen = true ∧ 0 < o.channel.pending := by
  simp only [outcome, Outcome.map, waitOutcome]
  cases c.isOpen with
  | false => simp [Bench.replyOf]
  | true => cases s.gate .poll (some c.handle) <;> simp [Bench.replyOf]

theorem expected_eq : c.expected = (max c.pending.toInt 0).toNat := by
  unfold expected
  omega

theorem drain_reads (expected : Nat) :
    ∃ reads ≤ expected, (c.drainOutcome s expected).2.calls = List.replicate reads .read := by
  unfold drainOutcome
  split
  · exact ⟨0, Nat.zero_le _, rfl⟩
  rename_i due
  have one : 1 ≤ expected := Nat.one_le_iff_ne_zero.mpr due
  cases s.gate .read (some c.handle) with
  | some fault =>
    refine ⟨1, one, ?_⟩
    cases blocks : fault.wouldBlock <;> simp [blocks, stopping]
  | none =>
    by_cases short : s.inbound.length < expected
    · -- one more read finds that the queue is empty
      refine ⟨s.inbound.length + 1, short, ?_⟩
      simp only [if_pos short, Effect.andThen, taking, stopping, List.map_const',
        List.take_of_length_le (Nat.le_of_lt short), List.replicate_succ']
    · refine ⟨expected, Nat.le_refl _, ?_⟩
      simp [if_neg short, Effect.andThen, taking, List.map_const', Nat.not_lt.mp short]

theorem batch_reads (reported : Option Nat) :
    ∃ reads ≤ (max c.pending.toInt 0).toNat,
      (c.outcome reported s .receiveBatch).effect.calls = List.replicate reads .read := by
  obtain ⟨reads, few, calls⟩ := c.drain_reads s c.expected
  rw [← expected_eq]
  simp only [outcome, Outcome.map, receiveBatchOutcome]
  cases c.isOpen with
  | false => exact ⟨0, Nat.zero_le _, rfl⟩
  | true =>
    refine ⟨reads, few, ?_⟩
    rw [← calls, if_pos rfl]
    rcases c.drainOutcome s c.expected with ⟨_ | _, e⟩
    · rfl
    · exact List.append_nil _

end Channel

namespace Bench

variable {b : Bench} {slot : Nat} {c : Channel} {step : Step}

def notices (slot : Nat) : List Step → Bench → List Notice
  | [], _ => []
  | step :: rest, b => (step.notice? slot b).toList ++ notices slot rest (b.step step).2

theorem pending_step (found : b.channel? slot = some c) (keeps : ¬ step.Replaces slot) :
    ∃ d, (b.step step).2.channel? slot = some d ∧
      d.pending = ((step.notice? slot b).map Notice.count).getD c.pending := by
  refine ⟨_, step_channel found keeps, ?_⟩
  cases step with
  | channel other inner =>
    simp only [Step.channelAfter, Step.notice?]
    by_cases own : other = slot
    · rw [if_pos own, if_pos own, found]
      exact c.outcome_pending b.host.net b.reported inner
    · rw [if_neg own, if_neg own]
      rfl
  | create | ofConfig | drop | script | direct | reportWrites | exposition | idle => rfl

theorem pending_run {steps : List Step} (spared : ∀ step ∈ steps, ¬ step.Replaces slot)
    (found : b.channel? slot = some c) :
    ∃ d, (b.run steps).channel? slot = some d ∧
      d.pending = ((notices slot steps b).getLast?.map Notice.count).getD c.pending := by
  induction steps generalizing b c with
  | nil => exact ⟨c, found, rfl⟩
  | cons step rest ih =>
    obtain ⟨next, found, first⟩ := pending_step found (spared step List.mem_cons_self)
    obtain ⟨last, reached, pending⟩ :=
      ih (fun step member => spared step (List.mem_cons_of_mem _ member)) found
    refine ⟨last, reached, ?_⟩
    rw [pending, first, notices, List.getLast?_append]
    cases (notices slot rest (b.step step).2).getLast? with
    | some notice => rfl
    | none => cases step.notice? slot b <;> rfl

/-- What a channel keeps for its next batch is the last poll's report, as long as no batch has used
it up. A wait on an open channel tells of frames just where the count it leaves is positive, and a
batch does not read more often than the count says. -/
theorem pending_unused_report {construction : Step} {limit : Duration} {handle : Int32} (b : Bench)
    (opens : construction.Opens slot limit) (made : (b.step construction).1 = .handle handle)
    (steps : List Step) (spared : ∀ step ∈ steps, ¬ step.Replaces slot) :
    let opened := (b.step construction).2
    let reached := opened.run steps
    ∃ c, reached.channel? slot = some c ∧
      c.pending = unusedReport (notices slot steps opened) ∧
      (∀ step, ¬ step.Replaces slot → step.notice? slot reached = none →
        ∃ d, (reached.step step).2.channel? slot = some d ∧ d.pending = c.pending) ∧
      (∀ handle timeout count, (Simulator.layer.poll handle timeout reached.host.net).1 = .ok count →
        match reached.host.net.readyOverride with
        | some scripted => count = scripted
        | none => count.toInt = min reached.host.net.inbound.length (2 ^ 31 - 1)) ∧
      (∀ timeout,
        let next := reached.step (.channel slot (.wait timeout))
        ∃ d, next.2.channel? slot = some d ∧
          (next.1 = .flag true ↔ c.isOpen = true ∧ 0 < d.pending)) ∧
      (let next := reached.step (.channel slot .receiveBatch)
        ∃ reads ≤ (max c.pending.toInt 0).toNat,
          next.2.host.net.calls = reached.host.net.calls ++ List.replicate reads .read) := by
  intro opened reached
  obtain ⟨fresh, seated, unused⟩ := opens_unused opens made
  obtain ⟨c, found, pending⟩ := pending_run spared seated
  rw [unused.pending] at pending
  refine ⟨c, found, pending, ?kept, fun _ _ _ => Simulator.poll_count, ?flag, ?batch⟩
  case kept =>
    intro step keeps quiet
    obtain ⟨d, after, count⟩ := pending_step found keeps
    rw [quiet] at count
    exact ⟨d, after, count⟩
  case flag =>
    intro timeout next
    have undergone := step_outcome found (.wait timeout)
    refine ⟨_, undergone.here, ?_⟩
    rw [undergone.reply]
    exact c.wait_flag _ _ _ _
  case batch =>
    intro next
    obtain ⟨reads, few, calls⟩ := c.batch_reads reached.host.net reached.reported
    have undergone := step_outcome found .receiveBatch
    have entered : next.2.host.net.calls = reached.host.net.calls ++ _ :=
      congrArg (·.net.calls) undergone.host
    exact ⟨reads, few, entered.trans (by rw [calls])⟩

theorem report_outlives_read :
    let construction : Step := .create 0 "mock0" 1 0 Identifier.zero false
    let frame : Frame := ⟨0x123, 0, 0, 0, 0, Vector.replicate 8 0⟩
    let steps : List Step := [.script (.push frame), .script (.push frame),
      .channel 0 (.wait none), .channel 0 .receive, .script (.failNext .close 5), .channel 0 .close,
      .script (.setReady (some (-1)))]
    let opened := ((start [] false).step construction).2
    let reached := opened.run steps
    ((start [] false).step construction).1 = .handle 3 ∧
      (∀ step ∈ steps, ¬ step.Replaces 0) ∧
      ∃ c, reached.channel? 0 = some c ∧ c.pending = 2 := by
  intro construction frame steps opened reached
  have made : ((start [] false).step construction).1 = .handle 3 := rfl
  have spared : ∀ step ∈ steps, ¬ step.Replaces 0 := by simp [steps, Step.Replaces]
  have report : unusedReport (notices 0 steps opened) = 2 := by decide +kernel
  obtain ⟨c, found, pending, _⟩ :=
    pending_unused_report (start [] false) (.create "mock0" 1 0 Identifier.zero false) made steps
      spared
  exact ⟨made, spared, c, found, pending.trans report⟩

/-- A close leaves the report, and the wait after it is refused. So a positive count alone does not
make a wait tell of frames. -/
theorem refused_wait_leaves_report :
    let frame : Frame := ⟨0x123, 0, 0, 0, 0, Vector.replicate 8 0⟩
    let steps : List Step := [.script (.push frame), .channel 0 (.wait none), .channel 0 .close]
    let opened := ((start [] false).step (.create 0 "mock0" 1 0 Identifier.zero false)).2
    let next := (opened.run steps).step (.channel 0 (.wait none))
    next.1 = .failed (.notOpen (-1)) ∧
      ∃ d, next.2.channel? 0 = some d ∧ d.pending = 1 ∧
        ¬ (next.1 = .flag true ↔ 0 < d.pending) := by
  intro frame steps opened next
  have refused : next.1 = .failed (.notOpen (-1)) := rfl
  have kept : (next.2.channel? 0).map Channel.pending = some 1 := by decide +kernel
  obtain ⟨d, found, pending⟩ := Option.map_eq_some_iff.mp kept
  refine ⟨refused, d, found, pending, fun told => ?_⟩
  have flag : next.1 = .flag true := told.mpr (by rw [pending]; decide)
  rw [refused] at flag
  cases flag

end Bench

end CanBus
