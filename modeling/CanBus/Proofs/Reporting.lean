import CanBus.Proofs.Watching

namespace CanBus

inductive Operation
  | create (interface : String) (protocol : Int32) (mask : UInt32) (sender : Identifier)
  | ofConfig (config : Config)
  | act (c : Channel) (step : ChannelStep)
  | drop (c : Channel)

def errorOf {ε α : Type} : Except ε α → Option ε
  | .ok _ => none
  | .error error => some error

section

variable {σ : Type}

def ChannelStep.perform (layer : Layer σ) (c : Channel) (host : Host σ) :
    ChannelStep → Option ChannelError × Host σ
  | close => (errorOf (c.close layer host).1, (c.close layer host).2.2)
  | wait timeout => (errorOf (c.wait layer timeout host).1, (c.wait layer timeout host).2.2)
  | receive => (errorOf (c.receive layer host).1, (c.receive layer host).2)
  | receiveBatch => (errorOf (c.receiveBatch layer host).1, (c.receiveBatch layer host).2.2)
  | send message forceExtended =>
    (errorOf (c.send layer message forceExtended host).1,
      (c.send layer message forceExtended host).2)
  | sendBatch messages delay forceExtended =>
    (errorOf (c.sendBatch layer messages delay forceExtended host).1,
      (c.sendBatch layer messages delay forceExtended host).2)
  | setFilter mask id =>
    (errorOf (c.setFilter layer mask id host).1, (c.setFilter layer mask id host).2.2)
  | setSender _ | filterMask | socket | info => (none, host)

namespace Operation

def perform (layer : Layer σ) (host : Host σ) : Operation → Option ChannelError × Host σ
  | create interface protocol mask sender =>
    (errorOf (Channel.create layer interface protocol mask sender host).1,
      (Channel.create layer interface protocol mask sender host).2)
  | ofConfig config =>
    (errorOf (Channel.ofConfig layer config host).1, (Channel.ofConfig layer config host).2)
  | act c step => step.perform layer c host
  | drop c => (none, c.drop layer host)

def handle : Operation → Int32
  | act c _ | drop c => c.handle
  | create .. | ofConfig _ => -1

/-- A failure that the operation does not report. -/
def Ignores : Operation → Failure → Prop
  | create .., failure | ofConfig _, failure | drop _, failure => failure.kind = .close
  | act _ .receiveBatch, failure => failure.kind = .read ∧ failure.fault.wouldBlock = true
  | act _ _, _ => False

/-- The error of the operation accounts for the calls of it that failed. -/
structure Accounts (op : Operation) (error? : Option ChannelError) (failures : List Failure) :
    Prop where
  told : ∀ failure ∈ failures, ¬ op.Ignores failure →
    ∃ error, error? = some error ∧ failure.ToldBy op.handle error
  origin : ∀ error, error? = some error →
    error.IsRefusal ∨ ∃ failure ∈ failures, ¬ op.Ignores failure ∧ failure.ToldBy op.handle error
  batch : ∀ c, op = act c .receiveBatch → ∀ failure ∈ failures, op.Ignores failure → error? = none

variable {op : Operation} {kinds : List SocketCall} {failures : List Failure}

theorem Accounts.nothing : op.Accounts none [] := ⟨nofun, nofun, nofun⟩

theorem accounts_reports {α : Type} {answer : Except ChannelError α}
    (reports : Reports kinds op.handle answer failures)
    (minds : ∀ failure ∈ failures, ¬ op.Ignores failure) :
    op.Accounts (errorOf answer) failures := by
  cases reports with
  | fine value => exact .nothing
  | refused refusal =>
    refine ⟨nofun, ?_, nofun⟩
    rintro _ ⟨⟩
    exact .inl refusal
  | told made told =>
    refine ⟨?_, ?_, ?_⟩
    · intro failure member _
      obtain rfl := List.mem_singleton.mp member
      exact ⟨_, rfl, told⟩
    · rintro _ ⟨⟩
      exact .inr ⟨_, List.mem_singleton.mpr rfl, minds _ (List.mem_singleton.mpr rfl), told⟩
    · intro c _ failure member ignored
      exact absurd ignored (minds failure member)

theorem Accounts.undoing {error? : Option ChannelError} {more : List Failure}
    (accounts : op.Accounts error? failures) (making : ∀ c step, op ≠ act c step)
    (ignored : ∀ failure ∈ more, op.Ignores failure) : op.Accounts error? (failures ++ more) where
  told := by
    intro failure member minded
    rcases List.mem_append.mp member with first | later
    · exact accounts.told failure first minded
    · exact absurd (ignored failure later) minded
  origin := by
    intro error ended
    obtain refusal | ⟨failure, member, told⟩ := accounts.origin error ended
    · exact .inl refusal
    · exact .inr ⟨failure, List.mem_append_left _ member, told⟩
  batch := fun c same => absurd same (making c _)

theorem accounts_batch {c : Channel} {answer : Except ChannelError (List Message)}
    (reports : BatchReports c.handle answer failures) :
    (act c .receiveBatch).Accounts (errorOf answer) failures := by
  cases reports with
  | reports reports hard =>
    apply accounts_reports reports
    rintro failure member ⟨-, soft⟩
    exact absurd soft (Bool.eq_false_iff.mp (hard failure member))
  | passed messages soft =>
    refine ⟨?_, nofun, fun _ _ _ _ _ => rfl⟩
    intro failure member minded
    obtain rfl := List.mem_singleton.mp member
    exact absurd ⟨rfl, soft⟩ minded

section

variable {α β : Type}

theorem watched_answer {plain : Except ChannelError α × Host σ}
    {under : Except ChannelError α × Host (σ × List Failure)}
    (watched : ∃ failures, under = plain.map id (.watching ([] ++ failures)) ∧
      Reports kinds op.handle plain.1 failures) (minds : ∀ failure, ¬ op.Ignores failure) :
    ∃ failures, (errorOf under.1, under.2) = (errorOf plain.1, plain.2.watching failures) ∧
      op.Accounts (errorOf plain.1) failures := by
  obtain ⟨failures, rfl, reports⟩ := watched
  exact ⟨failures, rfl, accounts_reports reports fun failure _ => minds failure⟩

theorem watched_result {plain : Except ChannelError α × β × Host σ}
    {under : Except ChannelError α × β × Host (σ × List Failure)}
    (watched : ∃ failures, under = plain.map id (.map id (.watching ([] ++ failures))) ∧
      Reports kinds op.handle plain.1 failures) (minds : ∀ failure, ¬ op.Ignores failure) :
    ∃ failures, (errorOf under.1, under.2.2) = (errorOf plain.1, plain.2.2.watching failures) ∧
      op.Accounts (errorOf plain.1) failures := by
  obtain ⟨failures, rfl, reports⟩ := watched
  exact ⟨failures, rfl, accounts_reports reports fun failure _ => minds failure⟩

theorem watched_construction {plain : Except ChannelError α × Host σ}
    {under : Except ChannelError α × Host (σ × List Failure)}
    (watched : ∃ failures undoing,
      under = plain.map id (.watching ([] ++ (failures ++ undoing))) ∧
      Reports Channel.setupCalls op.handle plain.1 failures ∧
      ∀ failure ∈ undoing, failure.kind = .close)
    (ignores : ∀ failure, op.Ignores failure ↔ failure.kind = .close)
    (making : ∀ c step, op ≠ act c step) :
    ∃ failures, (errorOf under.1, under.2) = (errorOf plain.1, plain.2.watching failures) ∧
      op.Accounts (errorOf plain.1) failures := by
  obtain ⟨failures, undoing, rfl, reports, closes⟩ := watched
  have minds (failure : Failure) (member : failure ∈ failures) : ¬ op.Ignores failure := by
    intro ignored
    have close := reports.kind member
    rw [(ignores failure).mp ignored] at close
    exact absurd close (by decide)
  refine ⟨failures ++ undoing, rfl, (accounts_reports reports minds).undoing making ?_⟩
  exact fun failure member => (ignores failure).mpr (closes failure member)

end

theorem watched_accounts (layer : Layer σ) (host : Host σ) (op : Operation) :
    ∃ failures,
      op.perform layer.watched (host.watching []) =
        ((op.perform layer host).1, (op.perform layer host).2.watching failures) ∧
      op.Accounts (op.perform layer host).1 failures := by
  cases op with
  | create interface protocol mask sender =>
    exact watched_construction
      (Channel.create_watched layer host [] _ interface protocol mask sender) (fun _ => .rfl) nofun
  | ofConfig config =>
    exact watched_construction
      (Channel.ofConfig_watched layer host [] _ config) (fun _ => .rfl) nofun
  | drop c =>
    obtain ⟨failures, same, closes⟩ := c.drop_watched layer host []
    refine ⟨failures, congrArg (none, ·) same, ?_, nofun, nofun⟩
    exact fun failure member minded => absurd (closes failure member) minded
  | act c step =>
    cases step with
    | close => exact watched_result (c.close_watched layer host []) fun _ => id
    | wait timeout => exact watched_result (c.wait_watched layer host [] timeout) fun _ => id
    | receive => exact watched_answer (c.receive_watched layer host []) fun _ => id
    | receiveBatch =>
      obtain ⟨failures, same, reports⟩ := c.receiveBatch_watched layer host []
      refine ⟨failures, ?_, accounts_batch reports⟩
      simp only [perform, ChannelStep.perform, same]
      rfl
    | send message forceExtended =>
      exact watched_answer (c.send_watched layer host [] message forceExtended) fun _ => id
    | sendBatch messages delay forceExtended =>
      exact watched_result (c.sendCounted_watched layer host [] messages delay forceExtended)
        fun _ => id
    | setFilter mask word =>
      exact watched_result (c.setFilter_watched layer host [] mask word) fun _ => id
    | setSender | filterMask | socket | info => exact ⟨[], rfl, .nothing⟩

end Operation

end

namespace Simulator

/-- Where a failure comes from: a code that was set, a handle that is not open, a name that is not
known, or the empty queue. -/
def Causes (s : Simulator) (failure : Failure) : Prop :=
  match failure.fault with
  | .errno code => s.failures failure.kind = some code
  | .badHandle _ => failure.kind ≠ .openSocket
  | .noDevice name => failure.kind = .interfaceIndex ∧ s.interfaces.lookup name = none
  | .emptyQueue => failure.kind = .read
  | .invalidName _ | .shortRead _ => False

structure Outlives (s later : Simulator) : Prop where
  failures : ∀ kind code, later.failures kind = some code → s.failures kind = some code
  interfaces : later.interfaces = s.interfaces

variable {α : Type} {s later : Simulator} {kind : SocketCall}

theorem Outlives.causes (outlives : s.Outlives later) {failure : Failure}
    (causes : later.Causes failure) : s.Causes failure := by
  obtain ⟨kind, fault⟩ := failure
  cases fault with
  | errno code => exact outlives.failures kind code causes
  | noDevice name => exact ⟨causes.1, outlives.interfaces ▸ causes.2⟩
  | badHandle | emptyQueue => exact causes
  | invalidName | shortRead => exact causes

theorem outlives_entered (kinds : List SocketCall) (s : Simulator) :
    s.Outlives (s.entered kinds) := by
  refine ⟨?_, rfl⟩
  intro kind code set
  rw [entered_failures] at set
  split at set
  · nomatch set
  · exact set

theorem Outlives.follows {after : Simulator} (outlives : s.Outlives later)
    (follows : Follows kind later after) : s.Outlives after := by
  have entered := outlives_entered [kind] later
  rcases follows with rfl | does
  · exact ⟨fun kind code set => outlives.failures kind code (entered.failures kind code set),
      outlives.interfaces⟩
  · have leaves := does.leaves
    refine ⟨?_, leaves.interfaces.trans outlives.interfaces⟩
    intro kind code set
    rw [leaves.failures] at set
    exact outlives.failures kind code (entered.failures kind code set)

theorem gate_causes {handle : Option Int32} {fault : Fault}
    (refused : s.gate kind handle = some fault) (opening : kind = .openSocket → handle = none) :
    s.Causes ⟨kind, fault⟩ := by
  unfold gate at refused
  cases set : s.failures kind with
  | some code =>
    rw [set] at refused
    cases refused
    exact set
  | none =>
    rw [set] at refused
    cases handle with
    | none => nomatch refused
    | some handle =>
      simp only [] at refused
      split at refused <;> cases refused
      exact fun same => nomatch opening same

theorem call_causes {handle : Option Int32} {work : Call Simulator α} {fault : Fault}
    {after : Simulator} (failed : call kind handle work s = (.error fault, after))
    (opening : kind = .openSocket → handle = none)
    (works : ∀ state, work state = (.error fault, after) → state.Causes ⟨kind, fault⟩) :
    s.Causes ⟨kind, fault⟩ := by
  rw [call_eq] at failed
  cases gate : s.gate kind handle with
  | none =>
    rw [gate] at failed
    exact (outlives_entered [kind] s).causes (works _ failed)
  | some refused =>
    rw [gate] at failed
    cases failed
    exact gate_causes gate opening

structure Traced (s : Simulator) (state : Simulator × List Failure) : Prop where
  outlives : s.Outlives state.1
  causes : ∀ failure ∈ state.2, s.Causes failure

theorem watch_traced {call : Call Simulator α}
    (follows : ∀ state, Follows kind state (call state).2)
    (causes : ∀ state fault after, call state = (.error fault, after) →
      state.Causes ⟨kind, fault⟩) {state : Simulator × List Failure} (traced : s.Traced state) :
    s.Traced (watch kind call state).2 := by
  obtain ⟨current, seen⟩ := state
  have outlives := traced.outlives.follows (follows current)
  simp only [watch]
  rcases made : call current with ⟨fault | value, after⟩ <;> rw [made] at outlives
  · refine ⟨outlives, ?_⟩
    intro failure member
    rcases List.mem_append.mp member with earlier | new
    · exact traced.causes failure earlier
    · obtain rfl := List.mem_singleton.mp new
      exact traced.outlives.causes (causes _ _ _ made)
  · exact ⟨outlives, traced.causes⟩

theorem watched_traced (s : Simulator) (kind : SocketCall) :
    layer.watched.Keeps s.Traced kind := by
  cases kind with
  | openSocket =>
    intro protocol state
    refine watch_traced openSocket_follows ?_
    exact fun state fault after failed => call_causes failed (fun _ => rfl) nofun
  | interfaceIndex =>
    intro handle name state
    refine watch_traced (interfaceIndex_follows handle name) ?_
    refine fun state fault after failed => call_causes failed nofun ?_
    intro state found
    split at found
    · nomatch found
    · rename_i unknown
      cases found
      exact ⟨rfl, unknown⟩
  | setNonblocking =>
    intro handle state
    refine watch_traced (setNonblocking_follows handle) ?_
    exact fun state fault after failed => call_causes failed nofun nofun
  | setFilter =>
    intro handle filter state
    refine watch_traced (setFilter_follows handle filter) ?_
    exact fun state fault after failed => call_causes failed nofun nofun
  | bind =>
    intro handle index state
    refine watch_traced (bind_follows handle index) ?_
    exact fun state fault after failed => call_causes failed nofun nofun
  | poll =>
    intro handle timeout state
    refine watch_traced (poll_follows handle timeout) ?_
    intro state fault after failed
    unfold poll at failed
    split at failed
    · rename_i began
      cases failed
      exact call_causes began nofun nofun
    · cases failed
  | read =>
    intro handle state
    refine watch_traced (read_follows handle) ?_
    refine fun state fault after failed => call_causes failed nofun ?_
    intro state taken
    split at taken <;> cases taken
    rfl
  | write =>
    intro handle frame state
    refine watch_traced (write_follows handle frame) ?_
    exact fun state fault after failed => call_causes failed nofun nofun
  | close =>
    intro handle state
    refine watch_traced (close_follows handle) ?_
    refine fun state fault after failed => call_causes failed nofun ?_
    intro state refused
    split at refused <;> cases refused
    exact nofun

end Simulator

namespace Operation

variable {σ : Type} {fact : σ → Prop} {layer : Layer σ} {host : Host σ}

theorem perform_keeps (op : Operation) (keeps : ∀ kind, layer.Keeps fact kind)
    (pauses : ∀ time state, fact state → fact (layer.pause time state)) (holds : fact host.net) :
    fact (op.perform layer host).2.net := by
  have opened (protocol : Int32) : fact (layer.openSocket protocol host.net).2 :=
    keeps .openSocket protocol host.net holds
  have setups : ∀ kind ∈ Channel.laterCalls, layer.Keeps fact kind := fun kind _ => keeps kind
  cases op with
  | create interface protocol mask sender =>
    exact Channel.create_keeps interface protocol mask sender (opened protocol) setups
      (keeps .close)
  | ofConfig config =>
    cases named : config.sender with
    | ok sender =>
      exact Channel.ofConfig_keeps config (opened _) (by rw [named]; rfl) setups (keeps .close)
    | error error =>
      simp only [perform, Channel.ofConfig, named]
      exact holds
  | drop c => exact Channel.drop_keeps (keeps .close) holds
  | act c step =>
    cases step with
    | close => exact Channel.close_keeps (keeps .close) holds
    | wait timeout => exact Channel.wait_keeps timeout (keeps .poll) holds
    | receive => exact Channel.receive_keeps (keeps .read) holds
    | receiveBatch => exact Channel.receiveBatch_keeps (keeps .read) holds
    | send message forceExtended =>
      exact Channel.send_keeps message forceExtended (keeps .write) holds
    | sendBatch messages delay forceExtended =>
      exact Channel.sendCounted_keeps (keeps .write) pauses holds
    | setFilter mask word => exact Channel.setFilter_keeps mask word (keeps .setFilter) holds
    | setSender | filterMask | socket | info => exact holds

/-- Whatever state the simulated layer is in, an operation over it reports each call of it that
fails, except for what it ignores. The failures are codes that were set, or have no code. -/
theorem failures_reported (op : Operation) (host : Host Simulator) :
    let result := op.perform Simulator.layer host
    ∃ failures,
      op.perform Simulator.layer.watched (host.watching []) =
        (result.1, result.2.watching failures) ∧
      (∀ failure ∈ failures, host.net.Causes failure) ∧ op.Accounts result.1 failures := by
  intro result
  obtain ⟨failures, same, accounts⟩ := op.watched_accounts Simulator.layer host
  refine ⟨failures, same, ?_, accounts⟩
  have fresh : host.net.Traced (host.watching []).net :=
    ⟨⟨fun _ _ set => set, rfl⟩, nofun⟩
  have pauses (time : Duration) (state : Simulator × List Failure)
      (traced : host.net.Traced state) :
      host.net.Traced (Simulator.layer.watched.pause time state) :=
    ⟨⟨traced.outlives.failures, traced.outlives.interfaces⟩, traced.causes⟩
  have traced := op.perform_keeps (Simulator.watched_traced host.net) pauses fresh
  rw [same] at traced
  exact traced.causes

example :
    let net := (Simulator.start.failNext .bind 98).failNext .close 5
    let made := (create "mock0" 1 0 Identifier.zero).perform Simulator.layer.watched
      (Host.watching [] ⟨net, Counters.zero, []⟩)
    made.1.bind ChannelError.code? = some 98 ∧ made.2.net.2.map Failure.kind = [.bind, .close] := by
  decide

end Operation

end CanBus
