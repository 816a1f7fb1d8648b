import CanBus.Channel
import CanBus.Socket.Simulator

namespace CanBus

structure Bench where
  host : Host Simulator
  slots : List (Nat × Channel)
  metered : Bool
  /-- What successful writes are reported as, in place of the bytes written. -/
  reported : Option Nat

/-- A socket call that no channel makes. -/
inductive DirectCall
  | openSocket (protocol : Int32)
  | interfaceIndex (handle : Int32) (name : String)
  | setNonblocking (handle : Int32)
  | setFilter (handle : Int32) (filter : Filter)
  | bind (handle : Int32) (index : Int32)
  | poll (handle : Int32) (timeout : Duration)
  | read (handle : Int32)
  | write (handle : Int32) (frame : Frame)
  | close (handle : Int32)

inductive ChannelStep
  | close
  | wait (timeout : Option Duration)
  | receive
  | receiveBatch
  | send (message : Message) (forceExtended : Bool)
  | sendBatch (messages : List Message) (delay : Option Duration) (forceExtended : Bool)
  | setFilter (mask id : UInt32)
  | setSender (sender : Identifier)
  | filterMask
  | socket
  | info

inductive ScriptStep
  | push (frame : Frame)
  | addInterface (name : String) (index : Int32)
  | failNext (kind : SocketCall) (code : Int32)
  | setReady (count : Option Int32)
  | setPollDelay (delay : Duration)
  | clearCalls
  | calls
  | countCalls (kind : SocketCall)
  | written
  | filters
  | isOpen (handle : Int32)

inductive Step
  | create (slot : Nat) (interface : String) (protocol : Int32) (mask : UInt32)
      (sender : Identifier) (metered : Bool)
  | ofConfig (slot : Nat) (config : Config) (metered : Bool)
  | drop (slot : Nat)
  | channel (slot : Nat) (step : ChannelStep)
  | script (step : ScriptStep)
  | direct (call : DirectCall)
  | reportWrites (count : Option Nat)
  | exposition
  | idle

inductive Reply
  | done
  | flag (value : Bool)
  | count (value : Nat)
  | handle (value : Int32)
  | word (value : UInt32)
  | identifier (id : Identifier)
  | message (message : Message)
  | messages (messages : List Message)
  | frame (frame : Frame)
  | frames (frames : List Frame)
  | filters (filters : List Filter)
  | calls (calls : List SocketCall)
  | text (text : Option String)
  | info (channel : Channel)
  /-- How many messages a batch took, what came of it, and the nanoseconds that it lasted. -/
  | batch (taken : Nat) (result : Except ChannelError Nat) (elapsed : Nat)
  | failed (error : ChannelError)
  | refused (fault : Fault)
  | noChannel

namespace Bench

def start (interfaces : List (String × Int32)) (metered : Bool) : Bench where
  host := {
    net := interfaces.foldl (fun net (name, index) => net.withInterface name index)
      Simulator.start
    counters := Counters.zero
    log := [] }
  slots := []
  metered := metered
  reported := none

def channel? (slot : Nat) (b : Bench) : Option Channel := b.slots.lookup slot

def vacate (slot : Nat) (b : Bench) : Bench :=
  { b with slots := b.slots.filter (·.1 != slot) }

def put (slot : Nat) (c : Channel) (b : Bench) : Bench :=
  { b with slots := (slot, c) :: (b.vacate slot).slots }

def layer (b : Bench) : Layer Simulator := Simulator.layer.reporting b.reported

def setNet (net : Simulator) (b : Bench) : Bench := { b with host := { b.host with net := net } }

def dropSlot (slot : Nat) (b : Bench) : Bench :=
  match b.channel? slot with
  | some c => { b.vacate slot with host := c.drop b.layer b.host }
  | none => b

/-- Puts a new channel into a slot. The one that was there is dropped afterwards. -/
def seat (slot : Nat) (metered : Bool) (made : Except ChannelError Channel × Host Simulator)
    (b : Bench) : Reply × Bench :=
  match made with
  | (.error error, host) => (.failed error, { b with host := host })
  | (.ok c, host) =>
    let c := if metered && b.metered then c.metering else c
    (.handle c.handle, ({ b with host := host }.dropSlot slot).put slot c)

def replyOf {α : Type} (ok : α → Reply) : Except ChannelError α → Reply
  | .ok value => ok value
  | .error error => .failed error

def channelStep (slot : Nat) (c : Channel) (step : ChannelStep) (b : Bench) : Reply × Bench :=
  match step with
  | .close =>
    match c.close b.layer b.host with
    | (result, c, host) => (replyOf (fun _ => .done) result, { b.put slot c with host := host })
  | .wait timeout =>
    match c.wait b.layer timeout b.host with
    | (result, c, host) => (replyOf .flag result, { b.put slot c with host := host })
  | .receive =>
    match c.receive b.layer b.host with
    | (result, host) => (replyOf .message result, { b with host := host })
  | .receiveBatch =>
    match c.receiveBatch b.layer b.host with
    | (result, c, host) => (replyOf .messages result, { b.put slot c with host := host })
  | .send message forceExtended =>
    match c.send b.layer message forceExtended b.host with
    | (result, host) => (replyOf .count result, { b with host := host })
  | .sendBatch messages delay forceExtended =>
    match c.sendCounted b.layer messages delay forceExtended b.host with
    | (result, taken, host) =>
      (.batch taken result (host.net.clock - b.host.net.clock), { b with host := host })
  | .setFilter mask id =>
    match c.setFilter b.layer mask id b.host with
    | (result, c, host) => (replyOf (fun _ => .done) result, { b.put slot c with host := host })
  | .setSender sender => (.identifier sender, b.put slot (c.setSender sender))
  | .filterMask => (.word c.filterMask, b)
  | .socket => (.handle c.handle, b)
  | .info => (.info c, b)

def scriptStep (step : ScriptStep) (s : Simulator) : Reply × Simulator :=
  match step with
  | .push frame => (.done, s.push frame)
  | .addInterface name index => (.done, s.withInterface name index)
  | .failNext kind code => (.done, s.failNext kind code)
  | .setReady count => (.done, s.setReady count)
  | .setPollDelay delay => (.done, s.setPollDelay delay)
  | .clearCalls => (.done, s.clearCalls)
  | .calls => (.calls s.calls, s)
  | .countCalls kind => (.count (s.countCalls kind), s)
  | .written => (.frames s.written, s)
  | .filters => (.filters s.filters, s)
  | .isOpen handle => (.flag (s.isOpen handle), s)

def directReply {α : Type} (ok : α → Reply) : Except Fault α × Simulator → Reply × Simulator
  | (.ok value, s) => (ok value, s)
  | (.error fault, s) => (.refused fault, s)

def directCall (call : DirectCall) (layer : Layer Simulator) (s : Simulator) :
    Reply × Simulator :=
  match call with
  | .openSocket protocol => directReply .handle (layer.openSocket protocol s)
  | .interfaceIndex handle name => directReply .handle (layer.interfaceIndex handle name s)
  | .setNonblocking handle => directReply (fun _ => .done) (layer.setNonblocking handle s)
  | .setFilter handle filter => directReply (fun _ => .done) (layer.setFilter handle filter s)
  | .bind handle index => directReply (fun _ => .done) (layer.bind handle index s)
  | .poll handle timeout => directReply .handle (layer.poll handle timeout s)
  | .read handle => directReply .frame (layer.read handle s)
  | .write handle frame => directReply .count (layer.write handle frame s)
  | .close handle => directReply (fun _ => .done) (layer.close handle s)

def step (step : Step) (b : Bench) : Reply × Bench :=
  match step with
  | .create slot interface protocol mask sender metered =>
    b.seat slot metered (Channel.create b.layer interface protocol mask sender b.host)
  | .ofConfig slot config metered =>
    b.seat slot metered (Channel.ofConfig b.layer config b.host)
  | .drop slot => (.flag (b.channel? slot).isSome, b.dropSlot slot)
  | .channel slot step =>
    match b.channel? slot with
    | some c => b.channelStep slot c step
    | none => (.noChannel, b)
  | .script step =>
    match scriptStep step b.host.net with
    | (reply, net) => (reply, b.setNet net)
  | .direct call =>
    match directCall call b.layer b.host.net with
    | (reply, net) => (reply, b.setNet net)
  | .reportWrites count => (.done, { b with reported := count })
  | .exposition => (.text (if b.metered then some b.host.counters.exposition else none), b)
  | .idle => (.done, b)

def run (steps : List Step) (b : Bench) : Bench :=
  steps.foldl (fun b step => (b.step step).2) b

def finish (b : Bench) : Bench :=
  ((b.slots.map (·.1)).mergeSort (· ≤ ·)).foldl (fun b slot => b.dropSlot slot) b

end Bench

end CanBus
