import CanBus.Bench.Step

namespace CanBus

inductive Activity
  | sending
  | waiting (limit : Duration) (deadline : Nat)
  | waited (result : Except ChannelError Bool)

structure Task where
  slot : Nat
  /-- The channel, once its slot has given it up. -/
  kept : Option Channel
  activity : Activity

namespace Task

def channel? (t : Task) (b : Bench) : Option Channel := t.kept.or (b.channel? t.slot)

def uses (slot : Nat) (t : Task) : Bool := t.slot == slot && t.kept.isNone

def deadline? (t : Task) : Option Nat :=
  match t.activity with
  | .waiting _ deadline => some deadline
  | .sending | .waited _ => none

/-- Ends a wait that lasts until `time` at most. The queue is looked at when the wait ends, not
when it began. -/
def endBy (time : Nat) (t : Task) (b : Bench) : Task × Bench :=
  match t.activity, t.channel? b with
  | .waiting limit deadline, some c =>
    if deadline ≤ time then
      match c.settle limit (.ok b.host.net.ready) b.host with
      | (result, c, host) =>
        ({ t with activity := .waited result },
          { (if t.kept.isNone then b.put t.slot c else b) with host := host })
    else (t, b)
  | _, _ => (t, b)

def keep (slot : Nat) (c : Channel) (t : Task) : Task :=
  if t.uses slot then { t with kept := some c } else t

end Task

def ChannelStep.needsReceiver : ChannelStep → Bool
  | close | wait _ | receive | receiveBatch | setFilter _ _ | setSender _ | filterMask => true
  | send _ _ | sendBatch _ _ _ | socket | info => false

/-- A bench with commands under way. A wait has the receiving side of its channel to itself until it
ends, and a channel that its slot gives up stays until no command uses it. -/
structure BusyBench where
  bench : Bench
  /-- The commands under way, the latest first. -/
  tasks : List Task

namespace BusyBench

def idle (b : Bench) : BusyBench := ⟨b, []⟩

def clock (s : BusyBench) : Nat := s.bench.host.net.clock

def endAll (time : Nat) : List Task → Bench → List Task × Bench
  | [], b => ([], b)
  | t :: older, b =>
    match endAll time older b with
    | (older, b) =>
      match t.endBy time b with
      | (t, b) => (t :: older, b)

def endBy (time : Nat) (s : BusyBench) : BusyBench :=
  match endAll time s.tasks s.bench with
  | (tasks, bench) => ⟨bench, tasks⟩

def elapse (s : BusyBench) : BusyBench :=
  let due := (s.tasks.filterMap Task.deadline?).filter (· ≤ s.clock)
  (due.mergeSort (· ≤ ·)).foldl (fun s time => s.endBy time) s

def passTo (time : Nat) (s : BusyBench) : BusyBench :=
  let net := s.bench.host.net
  { s with bench := s.bench.setNet { net with clock := max net.clock time } }.elapse

def pause (delay : Duration) (s : BusyBench) : BusyBench :=
  s.passTo (s.clock + delay.nanos)

def release (slot : Nat) (s : BusyBench) : BusyBench :=
  match (s.tasks.filter (·.uses slot)).findSome? Task.deadline? with
  | some deadline => s.passTo deadline
  | none => s

def enter (slot : Nat) (activity : Activity) (s : BusyBench) : BusyBench :=
  { s with tasks := ⟨slot, none, activity⟩ :: s.tasks }

/-- The latest command ends. A channel without a slot goes with the last command that uses it. -/
def leave (s : BusyBench) : BusyBench :=
  match s.tasks with
  | [] => s
  | t :: older =>
    match t.kept with
    | none => { s with tasks := older }
    | some c =>
      if older.any (·.kept == some c) then { s with tasks := older }
      else ⟨{ s.bench with host := c.drop s.bench.layer s.bench.host }, older⟩

def inUse (slot : Nat) (s : BusyBench) : Bool := s.tasks.any (·.uses slot)

def giveUp (slot : Nat) (c : Channel) (s : BusyBench) : BusyBench :=
  ⟨s.bench.vacate slot, s.tasks.map (Task.keep slot c)⟩

def plainStep (step : Step) (s : BusyBench) : Reply × BusyBench :=
  match s.bench.step step with
  | (reply, b) => (reply, { s with bench := b })

def remake (slot : Nat) (c : Channel) (step : Step) (s : BusyBench) : Reply × BusyBench :=
  match (s.bench.vacate slot).step step with
  | (.failed error, b) => (.failed error, { s with bench := b.put slot c })
  | (reply, b) => (reply, { s.giveUp slot c with bench := b })

def used? (slot : Nat) (s : BusyBench) : Option Channel :=
  if s.inUse slot then s.bench.channel? slot else none

def beginWait (slot : Nat) (timeout : Option Duration) (c : Channel) (s : BusyBench) :
    BusyBench :=
  if c.isOpen then
    let limit := timeout.getD c.waitTimeout
    match s.bench.host.call (Simulator.beginPoll c.handle limit) with
    | (.error fault, host) =>
      match c.settle limit (.error fault) host with
      | (result, c, host) =>
        { s with bench := { s.bench.put slot c with host := host } }.enter slot (.waited result)
    | (.ok delay, host) =>
      ({ s with bench := { s.bench with host := host } }.enter slot
        (.waiting limit (host.net.clock + delay.nanos))).elapse
  else s.enter slot (.waited (.error (.notOpen c.handle)))

def stillWaiting (s : BusyBench) : Bool :=
  (s.tasks.head?.bind Task.deadline?).isSome

def endWait (s : BusyBench) : Except ChannelError Bool × BusyBench :=
  let s :=
    match s.tasks.head?.bind Task.deadline? with
    | some deadline => s.passTo deadline
    | none => s
  match s.tasks.head?.map Task.activity with
  | some (.waited result) => (result, s.leave)
  | _ => (.ok false, s.leave)

def feedOne (opened : Channel) (delay : Duration) (forceExtended isFirst : Bool)
    (message : Message) (s : BusyBench) : Except ChannelError Nat × BusyBench :=
  let s := if isFirst then s else s.pause delay
  let c := (s.tasks.head?.bind (·.channel? s.bench)).getD opened
  match c.send s.bench.layer message forceExtended s.bench.host with
  | (result, host) => (result, { s with bench := { s.bench with host := host } })

/-- A message of a batch, and what happens when the batch asks for it. -/
abbrev Feed := (BusyBench → BusyBench) × Message

def feedRest (opened : Channel) (delay : Duration) (forceExtended : Bool) :
    (taken total : Nat) → List Feed → BusyBench → Except ChannelError Nat × Nat × BusyBench
  | taken, total, [], s =>
    let host := s.bench.host.note (.batchSent opened.interface total)
    (.ok total, taken, { s with bench := { s.bench with host := host } })
  | taken, total, (before, message) :: rest, s =>
    match (before s).feedOne opened delay forceExtended (taken == 0) message with
    | (.error error, s) => (.error error, taken + 1, s)
    | (.ok written, s) =>
      feedRest opened delay forceExtended (taken + 1) (total + written) rest s

def feed (slot : Nat) (items : List Feed) (delay : Option Duration) (forceExtended : Bool)
    (s : BusyBench) : Reply × BusyBench :=
  match s.bench.channel? slot with
  | none => (.noChannel, s)
  | some c =>
    if c.isOpen then
      match feedRest c (delay.getD c.batchDelay) forceExtended 0 0 items
          (s.enter slot .sending) with
      | (result, taken, after) => (.batch taken result (after.clock - s.clock), after.leave)
    else (.batch 0 (.error (.notOpen c.handle)) 0, s)

def waitOut (slot : Nat) (timeout : Option Duration) (s : BusyBench) : Reply × BusyBench :=
  match s.bench.channel? slot with
  | none => (.noChannel, s)
  | some c =>
    match (s.beginWait slot timeout c).endWait with
    | (result, s) => (Bench.replyOf .flag result, s)

def actOnChannel (slot : Nat) (step : ChannelStep) (s : BusyBench) : Reply × BusyBench :=
  let s := if step.needsReceiver then s.release slot else s
  match step with
  | .wait timeout => s.waitOut slot timeout
  | .sendBatch messages delay forceExtended =>
    s.feed slot (messages.map fun message => (id, message)) delay forceExtended
  | _ => s.plainStep (.channel slot step)

def act (step : Step) (s : BusyBench) : Reply × BusyBench :=
  if s.tasks.isEmpty then s.plainStep step
  else match step with
    | .channel slot inner => s.actOnChannel slot inner
    | .drop slot =>
      match s.used? slot with
      | some c => (.flag true, s.giveUp slot c)
      | none => s.plainStep step
    | .create slot .. | .ofConfig slot .. =>
      match s.used? slot with
      | some c => s.remake slot c step
      | none => s.plainStep step
    | .script _ | .direct _ | .reportWrites _ | .exposition | .idle => s.plainStep step

@[simp] theorem elapse_idle (b : Bench) : (idle b).elapse = idle b := by
  simp [elapse, idle]

theorem act_idle (step : Step) (b : Bench) :
    (idle b).act step = ((b.step step).1, idle (b.step step).2) := rfl

end BusyBench

end CanBus
