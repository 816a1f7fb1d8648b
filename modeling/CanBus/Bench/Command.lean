import CanBus.Bench.Task

namespace CanBus

inductive Command
  | step (step : Step)
  /-- A batch. The commands beside a message run when the batch asks for it, before its pause. -/
  | feed (slot : Nat) (items : List (List Command × Message)) (delay : Option Duration)
      (forceExtended : Bool)
  | during (slot : Nat) (timeout : Option Duration) (commands : List Command)

inductive Answer
  | reply (reply : Reply)
  | during (answers : List (Answer × Bool)) (result : Except ChannelError Bool)

namespace BusyBench

mutual

def command (command : Command) (s : BusyBench) : Answer × BusyBench :=
  match command with
  | .step step =>
    match s.act step with
    | (reply, s) => (.reply reply, s.elapse)
  | .feed slot items delay forceExtended =>
    match s.feed slot (feeds items) delay forceExtended with
    | (reply, s) => (.reply reply, s)
  | .during slot timeout commands =>
    let s := s.release slot
    match s.bench.channel? slot with
    | none => (.reply .noChannel, s)
    | some c =>
      match meanwhile commands (s.beginWait slot timeout c) with
      | (answers, s) =>
        match s.endWait with
        | (result, s) => (.during answers result, s)

def feeds (items : List (List Command × Message)) : List Feed :=
  match items with
  | [] => []
  | (before, message) :: rest => (commands before, message) :: feeds rest

def commands (list : List Command) (s : BusyBench) : BusyBench :=
  match list with
  | [] => s
  | first :: rest => commands rest (command first s).2

def meanwhile (list : List Command) (s : BusyBench) : List (Answer × Bool) × BusyBench :=
  match list with
  | [] => ([], s)
  | first :: rest =>
    match command first s with
    | (answer, s) =>
      match meanwhile rest s with
      | (answers, after) => ((answer, s.stillWaiting) :: answers, after)

end

end BusyBench

namespace Bench

structure Record where
  answer : Answer
  calls : List SocketCall
  events : List Event

def record (before after : Bench) (answer : Answer) : Record where
  answer := answer
  calls := after.host.net.calls.drop before.host.net.calls.length
  events := after.host.log.drop before.host.log.length

def perform (first : Command) (b : Bench) : Record × Bench :=
  match BusyBench.command first (BusyBench.idle b) with
  | (answer, after) => (record b after.bench answer, after.bench)

theorem perform_step (step : Step) (b : Bench) :
    perform (.step step) b
      = (record b (b.step step).2 (.reply (b.step step).1), (b.step step).2) := by
  simp only [perform, BusyBench.command, BusyBench.act_idle, BusyBench.elapse_idle]
  rfl

end Bench

end CanBus
