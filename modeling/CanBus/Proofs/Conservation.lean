import CanBus.Proofs.Reading
import CanBus.Proofs.Slots
import Mathlib.Data.List.Forall2

namespace CanBus

def Step.pushed : Step → List Frame
  | .script (.push frame) => [frame]
  | _ => []

namespace Bench

variable {b : Bench}

def replies : List Step → Bench → List Reply
  | [], _ => []
  | step :: rest, b => (b.step step).1 :: replies rest (b.step step).2

def Queues (frames : List Frame) (s : Simulator) : Prop := s.inbound = frames

theorem queues_keeps {frames : List Frame} (kind : SocketCall) (other : kind ≠ .read) :
    Simulator.layer.Keeps (Queues frames) kind := by
  apply Simulator.layer_keeps
  · exact fun _ holds => holds
  · intro before after does holds
    exact (does.leaves.inbound other).trans holds

theorem script_pushes (script : ScriptStep) :
    (b.step (.script script)).2.host.net.inbound =
      b.host.net.inbound ++ (Step.script script).pushed := by
  cases script with
  | push frame => rfl
  | addInterface | failNext | setReady | setPollDelay | clearCalls | calls | countCalls | written
  | filters | isOpen => exact (List.append_nil _).symm

theorem step_pushes {step : Step} (quiet : .read ∉ step.calls) :
    (b.step step).2.host.net.inbound = b.host.net.inbound ++ step.pushed := by
  by_cases scripted : ∃ script, step = .script script
  · obtain ⟨script, rfl⟩ := scripted
    exact script_pushes script
  · have silent : step.pushed = [] := by
      cases step with
      | script script => exact absurd ⟨script, rfl⟩ scripted
      | create | ofConfig | drop | channel | direct | reportWrites | exposition | idle => rfl
    have each (kind : SocketCall) (member : kind ∈ step.calls) :
        Simulator.layer.Keeps (Queues b.host.net.inbound) kind :=
      queues_keeps kind fun same => quiet (same ▸ member)
    rw [silent, List.append_nil]
    exact step_keeps step each (fun _ _ holds => holds)
      (fun script same => absurd ⟨script, same⟩ scripted) rfl

theorem reading_cases {step : Step} (reads : .read ∈ step.calls) :
    (∃ slot, step = .channel slot .receive ∨ step = .channel slot .receiveBatch) ∨
      ∃ handle, step = .direct (.read handle) := by
  have built : .read ∉ Channel.setupCalls ++ [.close] := by decide
  cases step with
  | channel slot step =>
    cases step with
    | receive => exact .inl ⟨slot, .inl rfl⟩
    | receiveBatch => exact .inl ⟨slot, .inr rfl⟩
    | _ => simp [Step.calls, ChannelStep.calls] at reads
  | direct call =>
    cases call with
    | read handle => exact .inr ⟨handle, rfl⟩
    | _ => simp [Step.calls, DirectCall.kind] at reads
  | create => exact absurd reads built
  | ofConfig slot config metered =>
    cases valid : config.sender.toBool with
    | true =>
      rw [Step.calls, valid] at reads
      exact absurd reads built
    | false => simp [Step.calls, valid] at reads
  | drop | script | reportWrites | exposition | idle => simp [Step.calls] at reads

end Bench

end CanBus
