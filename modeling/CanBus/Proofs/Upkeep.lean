import CanBus.Bench.Step
import CanBus.Proofs.Calls

namespace CanBus

variable {σ α : Type} {fact : σ → Prop} {layer : Layer σ} {host : Host σ} {c : Channel}

def Layer.Keeps (layer : Layer σ) (fact : σ → Prop) : SocketCall → Prop
  | .openSocket => ∀ protocol state, fact state → fact (layer.openSocket protocol state).2
  | .interfaceIndex =>
    ∀ handle name state, fact state → fact (layer.interfaceIndex handle name state).2
  | .setNonblocking => ∀ handle state, fact state → fact (layer.setNonblocking handle state).2
  | .setFilter => ∀ handle filter state, fact state → fact (layer.setFilter handle filter state).2
  | .bind => ∀ handle index state, fact state → fact (layer.bind handle index state).2
  | .poll => ∀ handle timeout state, fact state → fact (layer.poll handle timeout state).2
  | .read => ∀ handle state, fact state → fact (layer.read handle state).2
  | .write => ∀ handle frame state, fact state → fact (layer.write handle frame state).2
  | .close => ∀ handle state, fact state → fact (layer.close handle state).2

theorem Layer.Keeps.reporting {kind : SocketCall} (keeps : layer.Keeps fact kind)
    (count : Option Nat) : (layer.reporting count).Keeps fact kind := by
  cases kind with
  | write =>
    intro handle frame state holds
    have after := keeps handle frame state holds
    simp only [Layer.reporting]
    split <;> rename_i written <;> simpa only [written] using after
  | openSocket | interfaceIndex | setNonblocking | setFilter | bind | poll | read | close =>
    exact keeps

/-- Of the simulated layer it is enough to know what the work of its calls can do. -/
theorem Simulator.layer_keeps {kind : SocketCall} {fact : Simulator → Prop}
    (logs : ∀ s, fact s → fact (s.entered [kind]))
    (works : ∀ before after, Does kind before after → fact before → fact after) :
    Simulator.layer.Keeps fact kind := by
  have made {before after : Simulator} (holds : fact before) (follows : Follows kind before after) :
      fact after := by
    rcases follows with rfl | done
    · exact logs _ holds
    · exact works _ _ done (logs _ holds)
  cases kind with
  | openSocket => exact fun _ s holds => made holds (openSocket_follows s)
  | interfaceIndex =>
    exact fun handle name s holds => made holds (interfaceIndex_follows handle name s)
  | setNonblocking => exact fun handle s holds => made holds (setNonblocking_follows handle s)
  | setFilter => exact fun handle filter s holds => made holds (setFilter_follows handle filter s)
  | bind => exact fun handle index s holds => made holds (bind_follows handle index s)
  | poll => exact fun handle timeout s holds => made holds (poll_follows handle timeout s)
  | read => exact fun handle s holds => made holds (read_follows handle s)
  | write => exact fun handle frame s holds => made holds (write_follows handle frame s)
  | close => exact fun handle s holds => made holds (close_follows handle s)

namespace Host

@[simp] theorem net_note (event : Event) : (host.note event).net = host.net := rfl

@[simp] theorem net_count (metered : Bool) (change : Counters → Counters) :
    (host.count metered change).net = host.net := by
  unfold count
  split <;> rfl

theorem call_keeps {call : Call σ α} {outcome : Except Fault α} {after : Host σ}
    (kept : fact (call host.net).2) (made : host.call call = (outcome, after)) :
    fact after.net := by
  have same : after = { host with net := (call host.net).2 } := (Prod.mk.inj made).2.symm
  rw [same]
  exact kept

end Host

namespace Channel

theorem installFilter_keeps (mask id : UInt32) (keeps : layer.Keeps fact .setFilter)
    (holds : fact host.net) : fact (c.installFilter layer mask id host).2.2.net := by
  unfold installFilter
  simp only []
  split
  all_goals
    rename_i made
    have kept := Host.call_keeps (keeps _ _ _ holds) made
    exact kept

def laterCalls : List SocketCall := [.interfaceIndex, .setNonblocking, .setFilter, .bind]

def setupCalls : List SocketCall := .openSocket :: laterCalls

theorem setup_keeps (opened : fact (layer.openSocket c.protocol host.net).2)
    (keeps : ∀ kind ∈ laterCalls, layer.Keeps fact kind) :
    fact (c.setup layer host).2.2.net := by
  have resolves : layer.Keeps fact .interfaceIndex := keeps _ (by simp [laterCalls])
  have unblocks : layer.Keeps fact .setNonblocking := keeps _ (by simp [laterCalls])
  have filters : layer.Keeps fact .setFilter := keeps _ (by simp [laterCalls])
  have binds : layer.Keeps fact .bind := keeps _ (by simp [laterCalls])
  unfold setup
  split
  · rename_i made
    exact Host.call_keeps opened made
  · rename_i handle _ made
    have first := Host.call_keeps opened made
    simp only []
    split
    · rename_i resolved
      exact Host.call_keeps (resolves _ _ _ first) resolved
    · rename_i resolved
      have second := Host.call_keeps (resolves _ _ _ first) resolved
      split
      · rename_i unblocked
        exact Host.call_keeps (unblocks _ _ second) unblocked
      · rename_i unblocked
        have third := Host.call_keeps (unblocks _ _ second) unblocked
        split
        · rename_i filtered
          have fourth := installFilter_keeps (c := { c with handle := handle }) c.filterMask 0
            filters third
          rwa [filtered] at fourth
        · rename_i filtered
          have fourth := installFilter_keeps (c := { c with handle := handle }) c.filterMask 0
            filters third
          rw [filtered] at fourth
          split
          all_goals
            rename_i attached
            have fifth := Host.call_keeps (binds _ _ _ fourth) attached
            exact fifth

theorem close_keeps (keeps : layer.Keeps fact .close) (holds : fact host.net) :
    fact (c.close layer host).2.2.net := by
  unfold close
  split
  · split
    all_goals
      rename_i made
      have kept := Host.call_keeps (keeps _ _ holds) made
      exact kept
  · exact holds

theorem drop_keeps (keeps : layer.Keeps fact .close) (holds : fact host.net) :
    fact (c.drop layer host).net := by
  have closed := close_keeps (c := c) keeps holds
  unfold drop
  split
  · split <;> rename_i made <;> rw [made] at closed <;> exact closed
  · exact holds

theorem create_keeps (interface : String) (protocol : Int32) (mask : UInt32) (sender : Identifier)
    (opened : fact (layer.openSocket protocol host.net).2)
    (keeps : ∀ kind ∈ laterCalls, layer.Keeps fact kind) (closes : layer.Keeps fact .close) :
    fact (create layer interface protocol mask sender host).2.net := by
  have built := setup_keeps (c := fresh interface protocol mask sender) opened keeps
  unfold create
  split <;> rename_i made <;> rw [made] at built
  · exact built
  · exact drop_keeps closes built

theorem ofConfig_keeps (config : Config)
    (opened : fact (layer.openSocket config.protocol host.net).2)
    (asked : config.sender.toBool = true)
    (keeps : ∀ kind ∈ laterCalls, layer.Keeps fact kind) (closes : layer.Keeps fact .close) :
    fact (ofConfig layer config host).2.net := by
  unfold ofConfig
  split
  · rename_i refused
    rw [refused] at asked
    nomatch asked
  · rename_i sender _
    have built := create_keeps config.interface config.protocol config.filterMask sender opened
      keeps closes
    split <;> rename_i made <;> rw [made] at built <;> exact built

theorem wait_keeps (timeout : Option Duration) (keeps : layer.Keeps fact .poll)
    (holds : fact host.net) : fact (c.wait layer timeout host).2.2.net := by
  unfold wait
  split
  · have polled := keeps c.handle (timeout.getD c.waitTimeout) host.net holds
    simp only [settle]
    split
    · exact polled
    · rw [Host.net_count]
      exact polled
  · exact holds

theorem readOne_keeps (keeps : layer.Keeps fact .read) (holds : fact host.net) :
    fact (c.readOne layer host).2.net := by
  unfold readOne
  split
  · rename_i made
    exact Host.call_keeps (keeps _ _ holds) made
  · rename_i made
    simpa only [Host.net_count, Host.net_note] using Host.call_keeps (keeps _ _ holds) made

theorem receive_keeps (keeps : layer.Keeps fact .read) (holds : fact host.net) :
    fact (c.receive layer host).2.net := by
  have read := readOne_keeps (c := c) keeps holds
  unfold receive
  split
  · split <;> rename_i made <;> rw [made] at read
    · exact read
    · simpa only [readFailed, Host.net_count] using read
  · exact holds

theorem drain_keeps (expected left : Nat) (got : List Message) (keeps : layer.Keeps fact .read)
    (holds : fact host.net) : fact (c.drain layer expected left got host).2.net := by
  induction left generalizing got host with
  | zero => exact holds
  | succ left ih =>
    have read := readOne_keeps (c := c) keeps holds
    unfold drain
    split <;> rename_i made <;> rw [made] at read
    · exact ih _ read
    · split
      · exact read
      · simpa only [readFailed, Host.net_count] using read

theorem receiveBatch_keeps (keeps : layer.Keeps fact .read) (holds : fact host.net) :
    fact (c.receiveBatch layer host).2.2.net := by
  unfold receiveBatch
  split
  · have drained := drain_keeps (c := { c with pending := 0 }) c.expected c.expected [] keeps holds
    simp only []
    split <;> rename_i made <;> rw [made] at drained <;> exact drained
  · exact holds

theorem send_keeps (message : Message) (forceExtended : Bool) (keeps : layer.Keeps fact .write)
    (holds : fact host.net) : fact (c.send layer message forceExtended host).2.net := by
  unfold send
  split
  · split
    · exact holds
    · simp only []
      split <;> rename_i made <;>
        simpa only [Host.net_count, Host.net_note] using Host.call_keeps (keeps _ _ _ holds) made
  · exact holds

theorem sendRest_keeps {delay : Duration} {forceExtended : Bool} {taken total : Nat}
    {messages : List Message} (keeps : layer.Keeps fact .write)
    (pauses : ∀ state, fact state → fact (layer.pause delay state)) (holds : fact host.net) :
    fact (c.sendRest layer delay forceExtended taken total messages host).2.2.net := by
  induction messages generalizing taken total host with
  | nil => exact holds
  | cons message rest ih =>
    have sent : fact (c.sendNext layer delay forceExtended (taken == 0) message host).2.net := by
      apply send_keeps message forceExtended keeps
      split
      · exact holds
      · exact pauses _ holds
    unfold sendRest
    split <;> rename_i made <;> rw [made] at sent
    · exact sent
    · exact ih sent

theorem sendCounted_keeps {messages : List Message} {delay : Option Duration} {forceExtended : Bool}
    (keeps : layer.Keeps fact .write)
    (pauses : ∀ time state, fact state → fact (layer.pause time state)) (holds : fact host.net) :
    fact (c.sendCounted layer messages delay forceExtended host).2.2.net := by
  unfold sendCounted
  split
  · exact sendRest_keeps keeps (pauses _) holds
  · exact holds

theorem setFilter_keeps (mask id : UInt32) (keeps : layer.Keeps fact .setFilter)
    (holds : fact host.net) : fact (c.setFilter layer mask id host).2.2.net := by
  unfold setFilter
  split
  · exact installFilter_keeps mask id keeps holds
  · exact holds

end Channel

def ChannelStep.calls : ChannelStep → List SocketCall
  | close => [.close]
  | wait _ => [.poll]
  | receive | receiveBatch => [.read]
  | send _ _ | sendBatch _ _ _ => [.write]
  | setFilter _ _ => [.setFilter]
  | setSender _ | filterMask | socket | info => []

def DirectCall.kind : DirectCall → SocketCall
  | openSocket _ => .openSocket
  | interfaceIndex _ _ => .interfaceIndex
  | setNonblocking _ => .setNonblocking
  | setFilter _ _ => .setFilter
  | bind _ _ => .bind
  | poll _ _ => .poll
  | read _ => .read
  | write _ _ => .write
  | close _ => .close

def Step.calls : Step → List SocketCall
  | create .. => Channel.setupCalls ++ [.close]
  | ofConfig _ config _ => if config.sender.toBool then Channel.setupCalls ++ [.close] else []
  | drop _ => [.close]
  | channel _ step => step.calls
  | direct call => [call.kind]
  | script _ | reportWrites _ | exposition | idle => []

namespace Bench

variable {fact : Simulator → Prop} {b : Bench}

theorem dropSlot_keeps (slot : Nat) (closes : Simulator.layer.Keeps fact .close)
    (holds : fact b.host.net) : fact (b.dropSlot slot).host.net := by
  unfold dropSlot
  split
  · exact Channel.drop_keeps (closes.reporting _) holds
  · exact holds

theorem seat_keeps (slot : Nat) (metered : Bool)
    (made : Except ChannelError Channel × Host Simulator)
    (closes : Simulator.layer.Keeps fact .close) (holds : fact made.2.net) :
    fact (b.seat slot metered made).2.host.net := by
  unfold seat
  split
  · exact holds
  · rename_i host
    exact dropSlot_keeps (b := { b with host := host }) slot closes holds

theorem channelStep_keeps (slot : Nat) (c : Channel) (step : ChannelStep)
    (keeps : ∀ kind ∈ step.calls, Simulator.layer.Keeps fact kind)
    (pauses : ∀ time s, fact s → fact (Simulator.pause time s)) (holds : fact b.host.net) :
    fact (b.channelStep slot c step).2.host.net := by
  have each (kind : SocketCall) (member : kind ∈ step.calls) : b.layer.Keeps fact kind :=
    (keeps kind member).reporting b.reported
  have only {kind : SocketCall} : kind ∈ [kind] := List.mem_singleton.mpr rfl
  cases step with
  | close => exact Channel.close_keeps (each .close only) holds
  | wait timeout => exact Channel.wait_keeps timeout (each .poll only) holds
  | receive => exact Channel.receive_keeps (each .read only) holds
  | receiveBatch => exact Channel.receiveBatch_keeps (each .read only) holds
  | send message forceExtended =>
    exact Channel.send_keeps message forceExtended (each .write only) holds
  | sendBatch messages delay forceExtended =>
    exact Channel.sendCounted_keeps (each .write only) pauses holds
  | setFilter mask id => exact Channel.setFilter_keeps mask id (each .setFilter only) holds
  | setSender sender => exact holds
  | filterMask | socket | info => exact holds

@[simp] theorem net_directReply {α : Type} (ok : α → Reply) (result : Except Fault α × Simulator) :
    (directReply ok result).2 = result.2 := by
  obtain ⟨outcome, after⟩ := result
  cases outcome <;> rfl

theorem directCall_keeps {layer : Layer Simulator} {s : Simulator} (call : DirectCall)
    (keeps : layer.Keeps fact call.kind) (holds : fact s) : fact (directCall call layer s).2 := by
  cases call with
  | openSocket protocol =>
    rw [directCall, net_directReply]
    exact keeps protocol s holds
  | interfaceIndex handle name =>
    rw [directCall, net_directReply]
    exact keeps handle name s holds
  | setNonblocking handle =>
    rw [directCall, net_directReply]
    exact keeps handle s holds
  | setFilter handle filter =>
    rw [directCall, net_directReply]
    exact keeps handle filter s holds
  | bind handle index =>
    rw [directCall, net_directReply]
    exact keeps handle index s holds
  | poll handle timeout =>
    rw [directCall, net_directReply]
    exact keeps handle timeout s holds
  | read handle =>
    rw [directCall, net_directReply]
    exact keeps handle s holds
  | write handle frame =>
    rw [directCall, net_directReply]
    exact keeps handle frame s holds
  | close handle =>
    rw [directCall, net_directReply]
    exact keeps handle s holds

/-- A socket is asked for before all else and once, so that call is looked at apart. -/
theorem opening_keeps {step : Step} (asks : .openSocket ∈ step.calls)
    (opened : fact (Simulator.openSocket b.host.net).2)
    (keeps : ∀ kind ∈ step.calls, kind ≠ .openSocket → Simulator.layer.Keeps fact kind) :
    fact (b.step step).2.host.net := by
  have later (constructs : step.calls = Channel.setupCalls ++ [.close]) :
      (∀ kind ∈ Channel.laterCalls, b.layer.Keeps fact kind) ∧
        Simulator.layer.Keeps fact .close := by
    rw [constructs] at keeps
    refine ⟨?_, keeps .close (by decide) (by decide)⟩
    intro kind member
    apply Layer.Keeps.reporting
    apply keeps kind (List.mem_append_left _ (List.mem_cons_of_mem _ member))
    rintro rfl
    exact absurd member (by decide)
  cases step with
  | create slot interface protocol mask sender metered =>
    obtain ⟨steps, closes⟩ := later rfl
    exact seat_keeps slot metered _ closes
      (Channel.create_keeps interface protocol mask sender opened steps (closes.reporting _))
  | ofConfig slot config metered =>
    cases valid : config.sender.toBool with
    | false =>
      rw [Step.calls, valid] at asks
      nomatch asks
    | true =>
      obtain ⟨steps, closes⟩ := later (by rw [Step.calls, valid]; rfl)
      exact seat_keeps slot metered _ closes
        (Channel.ofConfig_keeps config opened valid steps (closes.reporting _))
  | direct call =>
    cases call with
    | openSocket protocol =>
      have replied := net_directReply Reply.handle (Simulator.openSocket b.host.net)
      rw [← replied] at opened
      exact opened
    | _ => simp [Step.calls, DirectCall.kind] at asks
  | channel slot step => cases step <;> simp [Step.calls, ChannelStep.calls] at asks
  | drop slot => simp [Step.calls] at asks
  | script script | reportWrites count | exposition | idle => nomatch asks

theorem unopening_keeps {step : Step} (asks : .openSocket ∉ step.calls)
    (keeps : ∀ kind ∈ step.calls, Simulator.layer.Keeps fact kind)
    (pauses : ∀ time s, fact s → fact (Simulator.pause time s))
    (scripts : ∀ script, step = .script script → fact (scriptStep script b.host.net).2)
    (holds : fact b.host.net) : fact (b.step step).2.host.net := by
  cases step with
  | create slot interface protocol mask sender metered =>
    exact absurd List.mem_cons_self asks
  | ofConfig slot config metered =>
    cases sender : config.sender with
    | ok id =>
      rw [Step.calls, sender] at asks
      exact absurd List.mem_cons_self asks
    | error error =>
      simp only [Bench.step, Channel.ofConfig, sender]
      exact holds
  | drop slot => exact dropSlot_keeps slot (keeps .close List.mem_cons_self) holds
  | channel slot step =>
    cases found : b.channel? slot with
    | some c =>
      simp only [Bench.step, found]
      exact channelStep_keeps slot c step keeps pauses holds
    | none =>
      simp only [Bench.step, found]
      exact holds
  | script script => exact scripts script rfl
  | direct call =>
    exact directCall_keeps call
      ((keeps call.kind (List.mem_singleton.mpr rfl)).reporting b.reported) holds
  | reportWrites count => exact holds
  | exposition => exact holds
  | idle => exact holds

theorem step_keeps (step : Step) (keeps : ∀ kind ∈ step.calls, Simulator.layer.Keeps fact kind)
    (pauses : ∀ time s, fact s → fact (Simulator.pause time s))
    (scripts : ∀ script, step = .script script → fact (scriptStep script b.host.net).2)
    (holds : fact b.host.net) : fact (b.step step).2.host.net := by
  by_cases asks : .openSocket ∈ step.calls
  · have opened : fact (Simulator.openSocket b.host.net).2 :=
      keeps .openSocket asks 0 b.host.net holds
    exact opening_keeps asks opened fun kind member _ => keeps kind member
  · exact unopening_keeps asks keeps pauses scripts holds

theorem start_net (interfaces : List (String × Int32)) (metered : Bool) :
    ∃ known, (start interfaces metered).host.net =
      { Simulator.start with interfaces := known } := by
  refine List.foldlRecOn interfaces _
    (motive := fun net => ∃ known, net = { Simulator.start with interfaces := known }) ?_ ?_
  · exact ⟨Simulator.start.interfaces, rfl⟩
  · rintro net ⟨known, rfl⟩ entry _
    exact ⟨entry :: known, rfl⟩

end Bench

end CanBus
