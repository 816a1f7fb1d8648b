import CanBus.Proofs.Upkeep

namespace CanBus

inductive Act
  | script (step : ScriptStep)
  | call (asked : DirectCall)
  | pause (time : Duration)

namespace Act

def perform : Act → Simulator → Reply × Simulator
  | script step => Bench.scriptStep step
  | call asked => Bench.directCall asked Simulator.layer
  | pause time => fun s => (.done, s.pause time)

/-- What the act decides about the next call of the kind: the code to fail with, or none. -/
def verdict? (kind : SocketCall) : Act → Option (Option Int32)
  | script (.failNext other code) => if other = kind then some (some code) else none
  | call asked => if asked.kind = kind then some none else none
  | script _ | pause _ => none

def script? : Act → Option ScriptStep
  | script step => some step
  | call _ | pause _ => none

end Act

def Step.script? : Step → Option ScriptStep
  | script step => some step
  | _ => none

/-- The code that a history leaves for the next call of the kind, after what was left before it. -/
def leftFor (kind : SocketCall) (acts : List Act) (before : Option Int32) : Option Int32 :=
  (acts.filterMap (Act.verdict? kind)).getLast?.getD before

namespace Simulator

variable {α : Type} {kind failing : SocketCall} {handle : Option Int32} {code : Int32}
variable {s start middle : Simulator} {work : Call Simulator α} {result : Except Fault α × Simulator}

def after (acts : List Act) (s : Simulator) : Simulator :=
  acts.foldl (fun s act => (act.perform s).2) s

theorem after_append (front back : List Act) (s : Simulator) :
    s.after (front ++ back) = (s.after front).after back :=
  List.foldl_append

structure CallLaw (kind : SocketCall) (before : Simulator) (made : Reply × Simulator) : Prop where
  logged : made.2.calls = before.calls ++ [kind]
  spent : made.2.failures = fun other => if other = kind then none else before.failures other
  fires : ∀ code, made.1 = .refused (.errno code) ↔ before.failures kind = some code
  harmless : ∀ fault, made.1 = .refused fault →
    made.2 = { before with calls := made.2.calls, failures := made.2.failures }

inductive Dispatches (kind : SocketCall) : (Simulator → Reply × Simulator) → Prop
  | of {α : Type} {made : Call Simulator α} (isCall : IsCall kind made) (ok : α → Reply)
    (answers : ∀ value fault, ok value ≠ .refused fault) :
    Dispatches kind fun s => Bench.directReply ok (made s)

theorem directCall_dispatches (call : DirectCall) :
    Dispatches call.kind (Bench.directCall call layer) := by
  cases call with
  | openSocket protocol => exact .of openSocket_isCall .handle nofun
  | interfaceIndex handle name => exact .of (interfaceIndex_isCall handle name) .handle nofun
  | setNonblocking handle => exact .of (setNonblocking_isCall handle) (fun _ => .done) nofun
  | setFilter handle filter => exact .of (setFilter_isCall handle filter) (fun _ => .done) nofun
  | bind handle index => exact .of (bind_isCall handle index) (fun _ => .done) nofun
  | poll handle timeout => exact .of (poll_isCall handle timeout) .handle nofun
  | read handle => exact .of (read_isCall handle) .frame nofun
  | write handle frame => exact .of (write_isCall handle frame) .count nofun
  | close handle => exact .of (close_isCall handle) (fun _ => .done) nofun

theorem failures_entered (kind : SocketCall) (s : Simulator) :
    (s.entered [kind]).failures = fun other => if other = kind then none else s.failures other := by
  funext other
  simp only [entered_failures, List.mem_singleton]

theorem call_passed (works : ∀ s, Works kind s (work s)) (unset : s.failures kind = none) :
    Works kind (s.entered [kind]) (call kind handle work s) := by
  cases handle with
  | none =>
    rw [call_free unset]
    exact works _
  | some handle =>
    cases held : s.isOpen handle with
    | true =>
      rw [call_open unset held]
      exact works _
    | false =>
      rw [call_refused unset held]
      exact .refused rfl

theorem Works.law {ok : α → Reply} (works : Works kind (s.entered [kind]) result)
    (unset : s.failures kind = none) (answers : ∀ value fault, ok value ≠ .refused fault) :
    CallLaw kind s (Bench.directReply ok result) := by
  cases works with
  | refused uncoded =>
    refine ⟨rfl, failures_entered kind s, ?_, fun _ _ => rfl⟩
    intro code
    rw [unset]
    constructor
    · rintro ⟨⟩
      nomatch uncoded
    · exact nofun
  | done does =>
    have leaves := does.leaves
    refine ⟨leaves.calls, leaves.failures.trans (failures_entered kind s), ?_, ?_⟩
    · intro code
      rw [unset]
      exact ⟨fun refused => absurd refused (answers _ _), nofun⟩
    · intro fault refused
      exact absurd refused (answers _ _)

theorem Dispatches.injected {made : Simulator → Reply × Simulator}
    (dispatches : Dispatches kind made) (set : s.failures kind = some code) :
    made s = (.refused (.errno code), s.entered [kind]) := by
  cases dispatches with
  | of isCall ok answers =>
    cases isCall with
    | of handle work works blind => simp only [call_injected set, Bench.directReply]

theorem Dispatches.law {made : Simulator → Reply × Simulator} (dispatches : Dispatches kind made)
    (s : Simulator) : CallLaw kind s (made s) := by
  cases set : s.failures kind with
  | some code =>
    rw [dispatches.injected set]
    refine ⟨rfl, failures_entered kind s, ?_, fun _ _ => rfl⟩
    intro other
    rw [set]
    simp
  | none =>
    cases dispatches with
    | of isCall ok answers =>
      cases isCall with
      | of handle work works blind => exact (call_passed works set).law set answers

theorem directCall_law (call : DirectCall) (s : Simulator) :
    CallLaw call.kind s (Bench.directCall call layer s) :=
  (directCall_dispatches call).law s

theorem failures_perform (act : Act) (kind : SocketCall) (s : Simulator) :
    (act.perform s).2.failures kind = (act.verdict? kind).getD (s.failures kind) := by
  cases act with
  | call asked =>
    have spent := congrFun (directCall_law asked s).spent kind
    simp only [Act.perform, Act.verdict?, spent, eq_comm]
    split <;> rfl
  | script step =>
    cases step with
    | failNext other code =>
      simp only [Act.perform, Bench.scriptStep, failNext, Act.verdict?, eq_comm]
      split <;> rfl
    | push | addInterface | setReady | setPollDelay | clearCalls | calls | countCalls | written
    | filters | isOpen => rfl
  | pause time => rfl

theorem failures_after (acts : List Act) (kind : SocketCall) (s : Simulator) :
    (s.after acts).failures kind = leftFor kind acts (s.failures kind) := by
  induction acts generalizing s with
  | nil => rfl
  | cons act rest ih =>
    have later : s.after (act :: rest) = (act.perform s).2.after rest := rfl
    rw [later, ih, failures_perform, leftFor, leftFor, List.filterMap_cons]
    cases act.verdict? kind with
    | none => rfl
    | some verdict =>
      rw [List.getLast?_cons, Option.getD_some]
      rfl

theorem failNext_failNext {other : SocketCall} (ne : other ≠ failing) (next : Int32) :
    (s.failNext failing code).failNext other next =
      (s.failNext other next).failNext failing code := by
  simp only [failNext, Simulator.mk.injEq, true_and, and_true]
  funext kind
  by_cases own : kind = failing
  · subst own
    simp [ne.symm]
  · simp [own]

theorem entered_failNext (ne : kind ≠ failing) :
    (s.failNext failing code).entered [kind] = (s.entered [kind]).failNext failing code := by
  simp only [entered, failNext, Simulator.mk.injEq, true_and, and_true, List.mem_singleton]
  funext other
  by_cases own : other = failing
  · subst own
    simp [ne.symm]
  · simp [own]

theorem entered_failNext_self : (s.failNext kind code).entered [kind] = s.entered [kind] := by
  simp only [entered, failNext, Simulator.mk.injEq, true_and, and_true, List.mem_singleton]
  funext other
  by_cases own : other = kind <;> simp [own]

theorem gate_failNext (ne : kind ≠ failing) :
    (s.failNext failing code).gate kind handle = s.gate kind handle := by
  have same : (s.failNext failing code).failures kind = s.failures kind := if_neg ne
  unfold gate
  rw [same]
  rfl

theorem call_failNext (ne : kind ≠ failing)
    (works : ∀ state, work (state.failNext failing code) =
      (work state).map id (·.failNext failing code)) :
    call kind handle work (s.failNext failing code) =
      (call kind handle work s).map id (·.failNext failing code) := by
  rw [call_eq, call_eq, gate_failNext ne, entered_failNext ne]
  cases s.gate kind handle with
  | some fault => rfl
  | none => exact works _

theorem directReply_map (ok : α → Reply) (change : Simulator → Simulator) :
    Bench.directReply ok (result.map id change) = (Bench.directReply ok result).map id change := by
  obtain ⟨outcome, after⟩ := result
  cases outcome <;> rfl

theorem Dispatches.failNext {made : Simulator → Reply × Simulator}
    (dispatches : Dispatches kind made) (ne : kind ≠ failing) :
    made (s.failNext failing code) = (made s).map id (·.failNext failing code) := by
  cases dispatches with
  | of isCall ok answers =>
    cases isCall with
    | of handle work works blind =>
      simp only [call_failNext ne fun state => blind state failing code, directReply_map]

theorem perform_failNext {act : Act} (silent : act.verdict? failing = none) :
    act.perform (s.failNext failing code) = (act.perform s).map id (·.failNext failing code) := by
  cases act with
  | call asked =>
    apply (directCall_dispatches asked).failNext
    intro same
    simp [Act.verdict?, same] at silent
  | script step =>
    cases step with
    | failNext other next =>
      have ne : other ≠ failing := by
        intro same
        simp [Act.verdict?, same] at silent
      exact congrArg (Prod.mk Reply.done) (failNext_failNext ne next)
    | push | addInterface | setReady | setPollDelay | clearCalls | calls | countCalls | written
    | filters | isOpen => rfl
  | pause time => rfl

theorem after_failNext {acts : List Act} (silent : ∀ act ∈ acts, act.verdict? failing = none) :
    (s.failNext failing code).after acts = (s.after acts).failNext failing code := by
  induction acts generalizing s with
  | nil => rfl
  | cons act rest ih =>
    have later (state : Simulator) : state.after (act :: rest) = (act.perform state).2.after rest :=
      rfl
    rw [later, later, perform_failNext (silent act List.mem_cons_self)]
    exact ih fun act member => silent act (List.mem_cons_of_mem _ member)

/-- Calls, time and these steps of a script lead from the one state to the other. -/
def Reaches (start : Simulator) (scripts : List ScriptStep) (s : Simulator) : Prop :=
  ∃ acts : List Act, acts.filterMap Act.script? = scripts ∧ s = start.after acts

theorem Reaches.trans {first second : List ScriptStep} (front : start.Reaches first middle)
    (back : middle.Reaches second s) : start.Reaches (first ++ second) s := by
  obtain ⟨early, rfl, rfl⟩ := front
  obtain ⟨late, rfl, rfl⟩ := back
  exact ⟨early ++ late, List.filterMap_append, (after_append early late start).symm⟩

theorem Reaches.call (reaches : start.Reaches [] s) (call : DirectCall) :
    start.Reaches [] (Bench.directCall call layer s).2 :=
  reaches.trans ⟨[.call call], rfl, rfl⟩

theorem reaches_keeps (start : Simulator) (kind : SocketCall) :
    layer.Keeps (start.Reaches []) kind := by
  have made {β : Type} {ok : β → Reply} {result : Except Fault β × Simulator}
      (reaches : start.Reaches [] (Bench.directReply ok result).2) : start.Reaches [] result.2 := by
    rwa [Bench.net_directReply] at reaches
  cases kind with
  | openSocket => exact fun protocol s reaches => made (reaches.call (.openSocket protocol))
  | interfaceIndex =>
    exact fun handle name s reaches => made (reaches.call (.interfaceIndex handle name))
  | setNonblocking => exact fun handle s reaches => made (reaches.call (.setNonblocking handle))
  | setFilter => exact fun handle filter s reaches => made (reaches.call (.setFilter handle filter))
  | bind => exact fun handle index s reaches => made (reaches.call (.bind handle index))
  | poll => exact fun handle timeout s reaches => made (reaches.call (.poll handle timeout))
  | read => exact fun handle s reaches => made (reaches.call (.read handle))
  | write => exact fun handle frame s reaches => made (reaches.call (.write handle frame))
  | close => exact fun handle s reaches => made (reaches.call (.close handle))

end Simulator

namespace Bench

/-- Channels act on their layer through its calls alone. -/
theorem step_reaches (step : Step) (b : Bench) :
    b.host.net.Reaches step.script?.toList (b.step step).2.host.net := by
  have plain (unscripted : ∀ script, step ≠ .script script) :
      b.host.net.Reaches [] (b.step step).2.host.net := by
    apply step_keeps step fun kind _ => Simulator.reaches_keeps b.host.net kind
    · exact fun time s reaches => reaches.trans ⟨[.pause time], rfl, rfl⟩
    · exact fun script same => absurd same (unscripted script)
    · exact ⟨[], rfl, rfl⟩
  cases step with
  | script script => exact ⟨[.script script], rfl, rfl⟩
  | create | ofConfig | drop | channel | direct | reportWrites | exposition | idle =>
    exact plain nofun

theorem run_reaches (steps : List Step) (b : Bench) :
    b.host.net.Reaches (steps.filterMap Step.script?) (b.run steps).host.net := by
  induction steps generalizing b with
  | nil => exact ⟨[], rfl, rfl⟩
  | cons step rest ih =>
    have scripts : (step :: rest).filterMap Step.script? =
        step.script?.toList ++ rest.filterMap Step.script? := by
      rw [List.filterMap_cons]
      cases step.script? <;> rfl
    rw [scripts]
    exact (b.step_reaches step).trans (ih (b.step step).2)

end Bench

namespace Simulator

/-- In any state a call keeps its law. After any run a call fails with a code just where the run's
last word on its kind was to set that code. A code waits for the next call of its kind: before that
call nothing else can tell that it is set, and after it the code is gone. What channels do to a layer
is such a run. -/
theorem failures_fire_once (s : Simulator) :
    (∀ call, CallLaw call.kind s (Bench.directCall call layer s)) ∧
    (∀ (acts : List Act) (call : DirectCall) (code : Int32),
      ((Act.call call).perform (s.after acts)).1 = .refused (.errno code) ↔
        leftFor call.kind acts (s.failures call.kind) = some code) ∧
    (∀ (call : DirectCall) (code : Int32) (between : List Act),
      (∀ act ∈ between, act.verdict? call.kind = none) →
      let armed := (s.failNext call.kind code).after between
      (∀ act : Act, act.verdict? call.kind = none →
        (act.perform armed).1 = (act.perform (s.after between)).1) ∧
      (Act.call call).perform armed =
        (.refused (.errno code), (s.after between).entered [call.kind])) ∧
    ∀ b : Bench, b.host.net = s → ∀ steps : List Step,
      s.Reaches (steps.filterMap Step.script?) (b.run steps).host.net := by
  refine ⟨fun call => directCall_law call s, ?run, ?once, ?bench⟩
  case run =>
    intro acts call code
    rw [← failures_after]
    exact (directCall_law call (s.after acts)).fires code
  case once =>
    intro call code between silent armed
    have waits : armed = (s.after between).failNext call.kind code := after_failNext silent
    rw [waits]
    constructor
    · intro act unrelated
      rw [perform_failNext unrelated]
      rfl
    · have fired := (directCall_dispatches call).injected
        (s := (s.after between).failNext call.kind code) (if_pos rfl)
      rwa [entered_failNext_self] at fired
  case bench =>
    rintro b rfl steps
    exact b.run_reaches steps

theorem second_code_fires :
    let frame : Frame := ⟨0x123, 0, 0, 0, 0, Vector.replicate 8 0⟩
    let between : List Act :=
      [.call (.openSocket 1), .script (.push frame), .call (.poll 3 Duration.zero)]
    let s := start.failNext .read 5
    let fired := (Act.call (.read 99)).perform ((s.failNext .read 11).after between)
    (∀ act ∈ between, act.verdict? .read = none) ∧
      fired = (.refused (.errno 11), (s.after between).entered [.read]) ∧
      ((Act.call (.read 3)).perform fired.2).1 = .frame frame := by
  intro frame between s fired
  have silent : ∀ act ∈ between, act.verdict? .read = none := by
    simp [between, Act.verdict?, DirectCall.kind]
  obtain ⟨-, -, once, -⟩ := failures_fire_once s
  obtain ⟨-, fires⟩ := once (.read 99) 11 between silent
  exact ⟨silent, fires, rfl⟩

end Simulator

end CanBus
