import CanBus.Proofs.Upkeep

namespace CanBus

structure Failure where
  kind : SocketCall
  fault : Fault

section

variable {σ α : Type}

def watch (kind : SocketCall) (call : Call σ α) : Call (σ × List Failure) α := fun (state, seen) =>
  match call state with
  | (.ok value, state) => (.ok value, (state, seen))
  | (.error fault, state) => (.error fault, (state, seen ++ [⟨kind, fault⟩]))

def Layer.watched (layer : Layer σ) : Layer (σ × List Failure) where
  openSocket protocol := watch .openSocket (layer.openSocket protocol)
  interfaceIndex handle name := watch .interfaceIndex (layer.interfaceIndex handle name)
  setNonblocking handle := watch .setNonblocking (layer.setNonblocking handle)
  setFilter handle filter := watch .setFilter (layer.setFilter handle filter)
  bind handle index := watch .bind (layer.bind handle index)
  poll handle timeout := watch .poll (layer.poll handle timeout)
  read handle := watch .read (layer.read handle)
  write handle frame := watch .write (layer.write handle frame)
  close handle := watch .close (layer.close handle)
  now state := layer.now state.1
  pause time state := (layer.pause time state.1, state.2)

namespace Host

def watching (seen : List Failure) (host : Host σ) : Host (σ × List Failure) where
  net := (host.net, seen)
  counters := host.counters
  log := host.log

variable {host after : Host σ} {seen : List Failure}

@[simp] theorem watching_note (event : Event) :
    (host.watching seen).note event = (host.note event).watching seen := rfl

@[simp] theorem watching_count (metered : Bool) (change : Counters → Counters) :
    (host.watching seen).count metered change = (host.count metered change).watching seen := by
  cases metered <;> rfl

theorem watching_call (kind : SocketCall) (call : Call σ α) :
    (host.watching seen).call (watch kind call) =
      match host.call call with
      | (.ok value, after) => (.ok value, after.watching seen)
      | (.error fault, after) => (.error fault, after.watching (seen ++ [⟨kind, fault⟩])) := by
  simp only [Host.call, watch, watching]
  rcases call host.net with ⟨fault | value, state⟩ <;> rfl

end Host

end

namespace Fault

def ending (fault : Fault) : String :=
  match fault with
  | errno code =>
    "Error: " ++ Text.ofInt code.toInt ++ " => " ++ Errno.sentence code ++ " (os error " ++
      Text.ofInt code.toInt ++ ")"
  | fault => "Error: " ++ fault.text

theorem described_eq_ending (fault : Fault) : fault.described = fault.ending := by
  cases fault with
  | errno code =>
    have words : (errno code).described = "Error: " ++ Text.ofInt code.toInt ++ " => " ++
        (Errno.sentence code ++ " (os error " ++ Text.ofInt code.toInt ++ ")") := by
      unfold described
      rfl
    rw [words]
    simp only [← String.append_assoc]
    rfl
  | badHandle | noDevice | emptyQueue | invalidName | shortRead => rfl

end Fault

namespace ChannelError

/-- The sort of error that stands for a call of the kind. -/
def IsOf : SocketCall → ChannelError → Prop
  | .openSocket, setup .. | .interfaceIndex, setup .. | .setNonblocking, setup ..
  | .setFilter, setup .. | .bind, setup .. => True
  | .close, close .. => True
  | .poll, io .. | .read, io .. | .write, io .. => True
  | _, _ => False

inductive IsRefusal : ChannelError → Prop
  | notOpen (socket : Int32) : IsRefusal (.notOpen socket)
  | alreadyClosed (socket : Int32) : IsRefusal (.alreadyClosed socket)
  | payloadTooLong (length : Nat) (socket : Int32) : IsRefusal (.payloadTooLong length socket)
  | senderTooLarge (number : UInt32) : IsRefusal (.senderTooLarge number)

end ChannelError

/-- The error tells of the failure: by its sort, with the code if there is one, with the socket
unless a setup failed, and in words. -/
structure Failure.ToldBy (failure : Failure) (socket : Int32) (error : ChannelError) : Prop where
  origin : error.IsOf failure.kind
  code : ∀ code, error.code? = some code ↔ failure.fault = .errno code
  socket : error.socket? =
    match failure.kind with
    | .close | .poll | .read | .write => some socket
    | .openSocket | .interfaceIndex | .setNonblocking | .setFilter | .bind => none
  message : ∃ context, error.text = context ++ failure.fault.ending

namespace Failure.ToldBy

open ChannelError

variable {kind : SocketCall} {fault : Fault} {socket : Int32}

theorem coded {error : ChannelError} (same : error.code? = fault.code?) (code : Int32) :
    error.code? = some code ↔ fault = .errno code := by
  rw [same]
  cases fault <;> simp [Fault.code?]

theorem worded (front back : String) (fault : Fault) :
    ∃ context, front ++ (back ++ fault.described) = context ++ fault.ending := by
  rw [Fault.described_eq_ending, ← String.append_assoc]
  exact ⟨_, rfl⟩

theorem setup (step : SetupStep) (setup : kind ∈ Channel.setupCalls) :
    ToldBy ⟨kind, fault⟩ socket (setupFailed step fault) := by
  refine ⟨?_, coded rfl, ?_, worded _ _ fault⟩
  · cases kind <;> trivial
  · cases kind <;> first | rfl | exact absurd setup (by decide)

theorem close : ToldBy ⟨.close, fault⟩ socket (closeFailed socket fault) :=
  ⟨trivial, coded rfl, rfl, worded _ _ fault⟩

theorem transfer (step : TransferStep) (transfers : kind ∈ [.poll, .read, .write]) :
    ToldBy ⟨kind, fault⟩ socket (transferFailed step socket fault) := by
  refine ⟨?_, coded rfl, ?_, worded _ _ fault⟩
  · cases kind <;> trivial
  · cases kind <;> first | rfl | exact absurd transfers (by decide)

end Failure.ToldBy

/-- What an operation answers of which these calls failed: the one that failed ended it. -/
inductive Reports (kinds : List SocketCall) (socket : Int32) {α : Type} :
    Except ChannelError α → List Failure → Prop
  | fine (value : α) : Reports kinds socket (.ok value) []
  | refused {error : ChannelError} (refusal : error.IsRefusal) :
    Reports kinds socket (.error error) []
  | told {kind : SocketCall} {fault : Fault} {error : ChannelError} (made : kind ∈ kinds)
      (told : Failure.ToldBy ⟨kind, fault⟩ socket error) :
    Reports kinds socket (.error error) [⟨kind, fault⟩]

section

variable {α : Type} {kinds more : List SocketCall} {socket : Int32} {failures : List Failure}

theorem Reports.quiet {value : α} (reports : Reports kinds socket (.ok value) failures) :
    failures = [] := by
  cases reports
  rfl

theorem Reports.kind {answer : Except ChannelError α}
    (reports : Reports kinds socket answer failures) {failure : Failure}
    (member : failure ∈ failures) : failure.kind ∈ kinds := by
  cases reports with
  | fine | refused => nomatch member
  | told made told =>
    obtain rfl := List.mem_singleton.mp member
    exact made

theorem Reports.mono {answer : Except ChannelError α}
    (reports : Reports kinds socket answer failures) (subset : kinds ⊆ more) :
    Reports more socket answer failures := by
  cases reports with
  | fine value => exact .fine value
  | refused refusal => exact .refused refusal
  | told made told => exact .told (subset made) told

theorem Reports.error {β : Type} {error : ChannelError}
    (reports : Reports kinds socket (.error error : Except ChannelError α) failures) :
    Reports kinds socket (.error error : Except ChannelError β) failures := by
  cases reports with
  | refused refusal => exact .refused refusal
  | told made told => exact .told made told

end

inductive BatchReports (socket : Int32) :
    Except ChannelError (List Message) → List Failure → Prop
  | reports {answer : Except ChannelError (List Message)} {failures : List Failure}
      (reports : Reports [.read] socket answer failures)
      (hard : ∀ failure ∈ failures, failure.fault.wouldBlock = false) :
    BatchReports socket answer failures
  | passed (messages : List Message) {fault : Fault} (soft : fault.wouldBlock = true) :
    BatchReports socket (.ok messages) [⟨.read, fault⟩]

namespace Channel

variable {σ : Type} (layer : Layer σ) (c : Channel) (host : Host σ) (seen : List Failure)

theorem installFilter_watched (socket : Int32) (mask word : UInt32) :
    ∃ more,
      c.installFilter layer.watched mask word (host.watching seen) =
        (c.installFilter layer mask word host).map id (.map id (.watching (seen ++ more))) ∧
      Reports [.setFilter] socket (c.installFilter layer mask word host).1 more := by
  unfold installFilter
  simp only [Layer.watched, Host.watching_call]
  rcases host.call (layer.setFilter c.handle _) with ⟨fault | _, after⟩
  · exact ⟨_, rfl, .told (by decide) (.setup _ (by decide))⟩
  · exact ⟨[], by simp, .fine ()⟩

theorem setFilter_watched (mask word : UInt32) :
    ∃ more,
      c.setFilter layer.watched mask word (host.watching seen) =
        (c.setFilter layer mask word host).map id (.map id (.watching (seen ++ more))) ∧
      Reports [.setFilter] c.handle (c.setFilter layer mask word host).1 more := by
  unfold setFilter
  cases c.isOpen with
  | false => exact ⟨[], by simp, .refused (.notOpen _)⟩
  | true => exact c.installFilter_watched layer host seen c.handle mask word

theorem setup_watched (socket : Int32) :
    ∃ more,
      c.setup layer.watched (host.watching seen) =
        (c.setup layer host).map id (.map id (.watching (seen ++ more))) ∧
      Reports setupCalls socket (c.setup layer host).1 more := by
  have filters (c : Channel) (host : Host σ) := c.installFilter_watched layer host seen socket
  unfold setup
  simp only [Layer.watched, Host.watching_call] at filters ⊢
  rcases host.call (layer.openSocket c.protocol) with ⟨fault | handle, opened⟩
  · exact ⟨_, rfl, .told (by decide) (.setup _ (by decide))⟩
  simp only [Host.watching_call]
  rcases opened.call (layer.interfaceIndex handle c.interface) with ⟨fault | index, resolved⟩
  · exact ⟨_, rfl, .told (by decide) (.setup _ (by decide))⟩
  simp only [Host.watching_call]
  rcases resolved.call (layer.setNonblocking handle) with ⟨fault | _, unblocked⟩
  · exact ⟨_, rfl, .told (by decide) (.setup _ (by decide))⟩
  simp only []
  obtain ⟨more, same, reports⟩ := filters { c with handle := handle } unblocked c.filterMask 0
  rw [same]
  rcases installed : installFilter layer c.filterMask 0 { c with handle := handle } unblocked with
    ⟨error | _, c, filtered⟩ <;> rw [installed] at reports
  · exact ⟨more, rfl, reports.mono (by decide)⟩
  obtain rfl := reports.quiet
  simp only [Prod.map, id, List.append_nil, Host.watching_call]
  rcases filtered.call (layer.bind handle index) with ⟨fault | _, bound⟩
  · exact ⟨_, rfl, .told (by decide) (.setup _ (by decide))⟩
  · exact ⟨[], by simp, .fine ()⟩

theorem close_watched :
    ∃ more,
      c.close layer.watched (host.watching seen) =
        (c.close layer host).map id (.map id (.watching (seen ++ more))) ∧
      Reports [.close] c.handle (c.close layer host).1 more := by
  unfold close
  cases c.isOpen with
  | false => exact ⟨[], by simp, .refused (.alreadyClosed _)⟩
  | true =>
    simp only [if_true, Layer.watched, Host.watching_call]
    rcases host.call (layer.close c.handle) with ⟨fault | _, after⟩
    · exact ⟨_, rfl, .told (by decide) .close⟩
    · exact ⟨[], by simp, .fine ()⟩

theorem drop_watched :
    ∃ more,
      c.drop layer.watched (host.watching seen) = (c.drop layer host).watching (seen ++ more) ∧
      ∀ failure ∈ more, failure.kind = .close := by
  obtain ⟨more, same, reports⟩ := close_watched layer c host seen
  have closes (failure : Failure) (member : failure ∈ more) : failure.kind = .close :=
    List.mem_singleton.mp (reports.kind member)
  unfold drop
  rw [same]
  cases c.isOpen with
  | false => exact ⟨[], by simp, nofun⟩
  | true => rcases c.close layer host with ⟨error | _, closed, after⟩ <;> exact ⟨more, rfl, closes⟩

theorem wait_watched (timeout : Option Duration) :
    ∃ more,
      c.wait layer.watched timeout (host.watching seen) =
        (c.wait layer timeout host).map id (.map id (.watching (seen ++ more))) ∧
      Reports [.poll] c.handle (c.wait layer timeout host).1 more := by
  unfold wait settle
  cases c.isOpen with
  | false => exact ⟨[], by simp, .refused (.notOpen _)⟩
  | true =>
    simp only [if_true, Layer.watched, Host.watching_call]
    rcases host.call (layer.poll c.handle _) with ⟨fault | ready, after⟩
    · exact ⟨[⟨.poll, fault⟩], by simp, .told (by decide) (.transfer .wait (by decide))⟩
    · exact ⟨[], by simp, .fine _⟩

theorem readOne_watched :
    c.readOne layer.watched (host.watching seen) =
      match c.readOne layer host with
      | (.ok message, after) => (.ok message, after.watching seen)
      | (.error fault, after) => (.error fault, after.watching (seen ++ [⟨.read, fault⟩])) := by
  unfold readOne
  simp only [Layer.watched, Host.watching_call]
  rcases host.call (layer.read c.handle) with ⟨fault | frame, after⟩
  · rfl
  · simp only [Host.watching_note, Host.watching_count]
    rfl

theorem receive_watched :
    ∃ more,
      c.receive layer.watched (host.watching seen) =
        (c.receive layer host).map id (.watching (seen ++ more)) ∧
      Reports [.read] c.handle (c.receive layer host).1 more := by
  unfold receive
  rw [readOne_watched]
  cases c.isOpen with
  | false => exact ⟨[], by simp, .refused (.notOpen _)⟩
  | true =>
    rcases c.readOne layer host with ⟨fault | message, after⟩
    · exact ⟨[⟨.read, fault⟩], by simp [readFailed],
        .told (by decide) (.transfer .read (by decide))⟩
    · exact ⟨[], by simp, .fine _⟩

theorem drain_watched (expected left : Nat) (got : List Message) :
    ∃ more,
      c.drain layer.watched expected left got (host.watching seen) =
        (c.drain layer expected left got host).map id (.watching (seen ++ more)) ∧
      BatchReports c.handle (c.drain layer expected left got host).1 more := by
  induction left generalizing got host with
  | zero => exact ⟨[], by simp [drain], .reports (.fine got) nofun⟩
  | succ left ih =>
    unfold drain
    rw [readOne_watched]
    rcases c.readOne layer host with ⟨fault | message, after⟩
    · cases blocks : fault.wouldBlock with
      | true =>
        simp only [blocks, if_true]
        exact ⟨[⟨.read, fault⟩], by simp, .passed got blocks⟩
      | false =>
        refine ⟨[⟨.read, fault⟩], by simp [blocks, readFailed], ?_⟩
        simp only [blocks, readFailed]
        exact .reports (.told (by decide) (.transfer .read (by decide))) (by simp [blocks])
    · exact ih _ _

theorem receiveBatch_watched :
    ∃ more,
      c.receiveBatch layer.watched (host.watching seen) =
        (c.receiveBatch layer host).map id (.map id (.watching (seen ++ more))) ∧
      BatchReports c.handle (c.receiveBatch layer host).1 more := by
  unfold receiveBatch
  cases c.isOpen with
  | false => exact ⟨[], by simp, .reports (.refused (.notOpen _)) nofun⟩
  | true =>
    simp only [if_true]
    obtain ⟨more, same, ends⟩ :=
      drain_watched layer { c with pending := 0 } host seen c.expected c.expected []
    rw [same]
    rcases drained : drain layer { c with pending := 0 } c.expected c.expected [] host with
      ⟨error | messages, after⟩ <;> rw [drained] at ends <;> exact ⟨more, rfl, ends⟩

theorem send_watched (message : Message) (forceExtended : Bool) :
    ∃ more,
      c.send layer.watched message forceExtended (host.watching seen) =
        (c.send layer message forceExtended host).map id (.watching (seen ++ more)) ∧
      Reports [.write] c.handle (c.send layer message forceExtended host).1 more := by
  unfold send
  cases c.isOpen with
  | false => exact ⟨[], by simp, .refused (.notOpen _)⟩
  | true =>
    by_cases long : maxPayload < message.payload.length
    · simp only [long, if_true]
      exact ⟨[], by simp, .refused (.payloadTooLong _ _)⟩
    · simp only [long, if_true, if_false, Layer.watched, Host.watching_call]
      rcases host.call (layer.write c.handle _) with ⟨fault | written, after⟩
      · exact ⟨[⟨.write, fault⟩], by simp, .told (by decide) (.transfer .write (by decide))⟩
      · exact ⟨[], by simp, .fine _⟩

theorem sendNext_watched (delay : Duration) (forceExtended isFirst : Bool) (message : Message) :
    ∃ more,
      c.sendNext layer.watched delay forceExtended isFirst message (host.watching seen) =
        (c.sendNext layer delay forceExtended isFirst message host).map id
          (.watching (seen ++ more)) ∧
      Reports [.write] c.handle (c.sendNext layer delay forceExtended isFirst message host).1
        more := by
  unfold sendNext
  cases isFirst with
  | false => exact c.send_watched layer (host.pause layer delay) seen message forceExtended
  | true => exact c.send_watched layer host seen message forceExtended

theorem sendRest_watched (delay : Duration) (forceExtended : Bool) (taken total : Nat)
    (messages : List Message) :
    ∃ more,
      c.sendRest layer.watched delay forceExtended taken total messages (host.watching seen) =
        (c.sendRest layer delay forceExtended taken total messages host).map id
          (.map id (.watching (seen ++ more))) ∧
      Reports [.write] c.handle
        (c.sendRest layer delay forceExtended taken total messages host).1 more := by
  induction messages generalizing taken total host with
  | nil => exact ⟨[], by simp [sendRest], .fine total⟩
  | cons message rest ih =>
    obtain ⟨more, same, reports⟩ :=
      c.sendNext_watched layer host seen delay forceExtended (taken == 0) message
    unfold sendRest
    rw [same]
    rcases sent : c.sendNext layer delay forceExtended (taken == 0) message host with
      ⟨error | written, after⟩ <;> rw [sent] at reports
    · exact ⟨more, rfl, reports⟩
    · -- a message that went out left nothing to tell
      obtain rfl := reports.quiet
      simp only [Prod.map, id, List.append_nil]
      exact ih _ _ _

theorem sendCounted_watched (messages : List Message) (delay : Option Duration)
    (forceExtended : Bool) :
    ∃ more,
      c.sendCounted layer.watched messages delay forceExtended (host.watching seen) =
        (c.sendCounted layer messages delay forceExtended host).map id
          (.map id (.watching (seen ++ more))) ∧
      Reports [.write] c.handle (c.sendCounted layer messages delay forceExtended host).1 more := by
  unfold sendCounted
  cases c.isOpen with
  | false => exact ⟨[], by simp, .refused (.notOpen _)⟩
  | true => exact c.sendRest_watched layer host seen _ forceExtended 0 0 messages

theorem create_watched (socket : Int32) (interface : String) (protocol : Int32) (mask : UInt32)
    (sender : Identifier) :
    ∃ more undoing,
      create layer.watched interface protocol mask sender (host.watching seen) =
        (create layer interface protocol mask sender host).map id
          (.watching (seen ++ (more ++ undoing))) ∧
      Reports setupCalls socket (create layer interface protocol mask sender host).1 more ∧
      ∀ failure ∈ undoing, failure.kind = .close := by
  obtain ⟨more, same, reports⟩ :=
    (fresh interface protocol mask sender).setup_watched layer host seen socket
  unfold create
  rw [same]
  rcases built : (fresh interface protocol mask sender).setup layer host with
    ⟨error | _, c, after⟩ <;> rw [built] at reports
  · obtain ⟨undoing, dropped, closes⟩ := c.drop_watched layer after (seen ++ more)
    refine ⟨more, undoing, ?_, reports.error, closes⟩
    simp only [Prod.map, id, dropped, List.append_assoc]
  · obtain rfl := reports.quiet
    exact ⟨[], [], rfl, .fine c, nofun⟩

theorem ofConfig_watched (socket : Int32) (config : Config) :
    ∃ more undoing,
      ofConfig layer.watched config (host.watching seen) =
        (ofConfig layer config host).map id (.watching (seen ++ (more ++ undoing))) ∧
      Reports setupCalls socket (ofConfig layer config host).1 more ∧
      ∀ failure ∈ undoing, failure.kind = .close := by
  unfold ofConfig
  cases named : config.sender with
  | error error =>
    have refused : error = .senderTooLarge config.senderId := by
      unfold Config.sender at named
      split at named <;> cases named
      rfl
    exact ⟨[], [], by simp, .refused (refused ▸ .senderTooLarge _), nofun⟩
  | ok sender =>
    obtain ⟨more, undoing, same, reports, closes⟩ := create_watched layer host seen socket
      config.interface config.protocol config.filterMask sender
    simp only [same]
    rcases built : create layer config.interface config.protocol config.filterMask sender host with
      ⟨error | c, after⟩ <;> rw [built] at reports
    · exact ⟨more, undoing, rfl, reports, closes⟩
    · obtain rfl := reports.quiet
      exact ⟨[], undoing, rfl, .fine _, closes⟩

end Channel

end CanBus
