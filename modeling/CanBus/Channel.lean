import CanBus.Channel.Host
import CanBus.Config

namespace CanBus

structure Channel where
  interface : String
  protocol : Int32
  /-- The socket's handle, -1 when there is none. -/
  handle : Int32
  waitTimeout : Duration
  batchDelay : Duration
  filterMask : UInt32
  filterId : UInt32
  /-- Stands in for the filter's identifier where none is given. -/
  sender : Identifier
  /-- How many frames the last wait reported, until a batch is read. -/
  pending : Int32
  metered : Bool
deriving DecidableEq

namespace Channel

variable {σ : Type}

def defaultWaitTimeout : Duration := Duration.ofMillis 3000

def defaultBatchDelay : Duration := Duration.ofMillis 20

def fresh (interface : String) (protocol : Int32) (mask : UInt32) (sender : Identifier) :
    Channel where
  interface := interface
  protocol := protocol
  handle := -1
  waitTimeout := defaultWaitTimeout
  batchDelay := defaultBatchDelay
  filterMask := mask
  filterId := 0
  sender := sender
  pending := 0
  metered := false

def isOpen (c : Channel) : Bool := !(c.handle < 0)

/-- Installs a filter. Identifier zero stands for the default sender. -/
def installFilter (layer : Layer σ) (mask id : UInt32) (c : Channel) (host : Host σ) :
    Except ChannelError Unit × Channel × Host σ :=
  let word := if id = 0 then c.sender.raw else id
  match host.call (layer.setFilter c.handle ⟨word, mask⟩) with
  | (.error fault, host) => (.error (.setupFailed (.filter mask c.handle) fault), c, host)
  | (.ok (), host) =>
    (.ok (), { c with filterMask := mask, filterId := word },
      host.note (.filterInstalled c.handle word mask))

def setup (layer : Layer σ) (c : Channel) (host : Host σ) :
    Except ChannelError Unit × Channel × Host σ :=
  match host.call (layer.openSocket c.protocol) with
  | (.error fault, host) => (.error (.setupFailed .create fault), c, host)
  | (.ok handle, host) =>
    let c := { c with handle := handle }
    match host.call (layer.interfaceIndex handle c.interface) with
    | (.error fault, host) => (.error (.setupFailed (.resolve c.interface) fault), c, host)
    | (.ok index, host) =>
      match host.call (layer.setNonblocking handle) with
      | (.error fault, host) => (.error (.setupFailed (.unblock handle) fault), c, host)
      | (.ok (), host) =>
        match c.installFilter layer c.filterMask 0 host with
        | (.error error, c, host) => (.error error, c, host)
        | (.ok (), c, host) =>
          match host.call (layer.bind handle index) with
          | (.error fault, host) => (.error (.setupFailed (.bind c.interface) fault), c, host)
          | (.ok (), host) =>
            (.ok (), c, host.note (.bound c.interface c.protocol handle index))

def close (layer : Layer σ) (c : Channel) (host : Host σ) :
    Except ChannelError Unit × Channel × Host σ :=
  if c.isOpen then
    match host.call (layer.close c.handle) with
    | (.error fault, host) => (.error (.closeFailed c.handle fault), c, host)
    | (.ok (), host) =>
      (.ok (), { c with handle := -1 }, host.note (.closed c.interface c.handle))
  else (.error (.alreadyClosed c.handle), c, host)

def drop (layer : Layer σ) (c : Channel) (host : Host σ) : Host σ :=
  if c.isOpen then
    match c.close layer host with
    | (.ok (), _, host) => host
    | (.error error, _, host) => host.note (.closeOnDropFailed c.interface error)
  else host

def create (layer : Layer σ) (interface : String) (protocol : Int32) (mask : UInt32)
    (sender : Identifier) (host : Host σ) : Except ChannelError Channel × Host σ :=
  match (fresh interface protocol mask sender).setup layer host with
  | (.ok (), c, host) => (.ok c, host)
  | (.error error, c, host) => (.error error, c.drop layer host)

def ofConfig (layer : Layer σ) (config : Config) (host : Host σ) :
    Except ChannelError Channel × Host σ :=
  match config.sender with
  | .error error => (.error error, host)
  | .ok sender =>
    match create layer config.interface config.protocol config.filterMask sender host with
    | (.error error, host) => (.error error, host)
    | (.ok c, host) =>
      (.ok { c with waitTimeout := config.waitTimeout, batchDelay := config.batchDelay }, host)

def metering (c : Channel) : Channel := { c with metered := true }

def settle (limit : Duration) (c : Channel) (outcome : Except Fault Int32) (host : Host σ) :
    Except ChannelError Bool × Channel × Host σ :=
  match outcome with
  | .ok ready =>
    (.ok (0 < ready), { c with pending := ready }, host.note (.waited c.handle ready limit))
  | .error fault =>
    (.error (.transferFailed .wait c.handle fault), { c with pending := 0 },
      host.count c.metered Counters.failed)

def wait (layer : Layer σ) (timeout : Option Duration) (c : Channel) (host : Host σ) :
    Except ChannelError Bool × Channel × Host σ :=
  if c.isOpen then
    let limit := timeout.getD c.waitTimeout
    match host.call (layer.poll c.handle limit) with
    | (outcome, host) => c.settle limit outcome host
  else (.error (.notOpen c.handle), c, host)

def readOne (layer : Layer σ) (c : Channel) (host : Host σ) : Except Fault Message × Host σ :=
  match host.call (layer.read c.handle) with
  | (.error fault, host) => (.error fault, host)
  | (.ok frame, host) =>
    let message := (Message.ofFrame frame).stamped (layer.now host.net)
    (.ok message,
      (host.note (.received c.handle message.id message.payload.length)).count c.metered
        Counters.received)

def readFailed (fault : Fault) (c : Channel) (host : Host σ) : ChannelError × Host σ :=
  (.transferFailed .read c.handle fault, host.count c.metered Counters.failed)

def receive (layer : Layer σ) (c : Channel) (host : Host σ) :
    Except ChannelError Message × Host σ :=
  if c.isOpen then
    match c.readOne layer host with
    | (.ok message, host) => (.ok message, host)
    | (.error fault, host) =>
      match c.readFailed fault host with
      | (error, host) => (.error error, host)
  else (.error (.notOpen c.handle), host)

/-- Reads `left` more frames after those in `got`. A read that would have to wait ends the batch,
any other failure fails it. -/
def drain (layer : Layer σ) (c : Channel) (expected : Nat) :
    (left : Nat) → (got : List Message) → Host σ → Except ChannelError (List Message) × Host σ
  | 0, got, host => (.ok got, host)
  | left + 1, got, host =>
    match c.readOne layer host with
    | (.ok message, host) => drain layer c expected left (got ++ [message]) host
    | (.error fault, host) =>
      if fault.wouldBlock then
        (.ok got, host.note (.staleCount c.handle expected got.length))
      else
        match c.readFailed fault host with
        | (error, host) => (.error error, host)

def expected (c : Channel) : Nat := c.pending.toInt.toNat

def receiveBatch (layer : Layer σ) (c : Channel) (host : Host σ) :
    Except ChannelError (List Message) × Channel × Host σ :=
  if c.isOpen then
    let emptied := { c with pending := 0 }
    match emptied.drain layer c.expected c.expected [] host with
    | (.error error, host) => (.error error, emptied, host)
    | (.ok messages, host) =>
      (.ok messages, emptied, host.note (.batchReceived c.handle messages.length))
  else (.error (.notOpen c.handle), c, host)

def send (layer : Layer σ) (message : Message) (forceExtended : Bool) (c : Channel)
    (host : Host σ) : Except ChannelError Nat × Host σ :=
  if c.isOpen then
    if maxPayload < message.payload.length then
      (.error (.payloadTooLong message.payload.length c.handle), host)
    else
      let frame := message.sentFrame forceExtended
      match host.call (layer.write c.handle frame) with
      | (.error fault, host) =>
        (.error (.transferFailed .write c.handle fault),
          host.count c.metered Counters.failed)
      | (.ok written, host) =>
        (.ok written,
          (host.note (.sent c.handle frame.word written)).count c.metered
            (Counters.sent written))
  else (.error (.notOpen c.handle), host)

def sendNext (layer : Layer σ) (delay : Duration) (forceExtended : Bool) (isFirst : Bool)
    (message : Message) (c : Channel) (host : Host σ) : Except ChannelError Nat × Host σ :=
  c.send layer message forceExtended (if isFirst then host else host.pause layer delay)

/-- Sends the messages left of a batch, of which `taken` came before and were `total` bytes. The
answer tells how many messages were taken in all. -/
def sendRest (layer : Layer σ) (delay : Duration) (forceExtended : Bool) (c : Channel) :
    (taken total : Nat) → List Message → Host σ → Except ChannelError Nat × Nat × Host σ
  | taken, total, [], host => (.ok total, taken, host.note (.batchSent c.interface total))
  | taken, total, message :: rest, host =>
    match c.sendNext layer delay forceExtended (taken == 0) message host with
    | (.error error, host) => (.error error, taken + 1, host)
    | (.ok written, host) =>
      sendRest layer delay forceExtended c (taken + 1) (total + written) rest host

def sendCounted (layer : Layer σ) (messages : List Message) (delay : Option Duration)
    (forceExtended : Bool) (c : Channel) (host : Host σ) :
    Except ChannelError Nat × Nat × Host σ :=
  if c.isOpen then
    c.sendRest layer (delay.getD c.batchDelay) forceExtended 0 0 messages host
  else (.error (.notOpen c.handle), 0, host)

def sendBatch (layer : Layer σ) (messages : List Message) (delay : Option Duration)
    (forceExtended : Bool) (c : Channel) (host : Host σ) : Except ChannelError Nat × Host σ :=
  match c.sendCounted layer messages delay forceExtended host with
  | (result, _, host) => (result, host)

def setFilter (layer : Layer σ) (mask id : UInt32) (c : Channel) (host : Host σ) :
    Except ChannelError Unit × Channel × Host σ :=
  if c.isOpen then c.installFilter layer mask id host
  else (.error (.notOpen c.handle), c, host)

def setSender (sender : Identifier) (c : Channel) : Channel := { c with sender := sender }

def summary (c : Channel) : String :=
  "CanChannel \x7b interface: " ++ Text.quoted c.interface ++ ", protocol: "
    ++ Text.ofInt c.protocol.toInt ++ ", socket: " ++ Text.ofInt c.handle.toInt ++ ", .. \x7d"

end Channel

end CanBus
