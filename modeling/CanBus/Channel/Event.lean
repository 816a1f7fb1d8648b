import CanBus.Channel.Error
import CanBus.Duration
import CanBus.Identifier

namespace CanBus

inductive Level
  | trace
  | debug
  | warn
deriving DecidableEq

inductive Event
  | bound (interface : String) (protocol : Int32) (socket : Int32) (index : Int32)
  | closed (interface : String) (socket : Int32)
  | waited (socket : Int32) (ready : Int32) (timeout : Duration)
  | staleCount (socket : Int32) (expected : Nat) (read : Nat)
  | batchReceived (socket : Int32) (frames : Nat)
  | received (socket : Int32) (id : Identifier) (length : Nat)
  | sent (socket : Int32) (word : UInt32) (written : Nat)
  | batchSent (interface : String) (total : Nat)
  | filterInstalled (socket : Int32) (id : UInt32) (mask : UInt32)
  | closeOnDropFailed (interface : String) (error : ChannelError)
deriving DecidableEq

namespace Event

def level : Event → Level
  | waited .. | received .. | sent .. => .trace
  | staleCount .. | closeOnDropFailed .. => .warn
  | bound .. | closed .. | batchReceived .. | batchSent .. | filterInstalled .. => .debug

def text : Event → String
  | bound .. => "CAN channel bound"
  | closed .. => "CAN channel closed"
  | waited .. => "readiness wait"
  | staleCount .. => "pending count was stale"
  | batchReceived .. => "batch receive"
  | received .. => "frame received"
  | sent .. => "frame sent"
  | batchSent .. => "batch send"
  | filterInstalled .. => "CAN filter installed"
  | closeOnDropFailed .. => "closing CAN channel on drop failed"

def fields : Event → List (String × String)
  | bound interface protocol socket index =>
    [("interface", interface), ("protocol", Text.ofInt protocol.toInt),
      ("fd", Text.ofInt socket.toInt), ("ifindex", Text.ofInt index.toInt)]
  | closed interface socket => [("interface", interface), ("fd", Text.ofInt socket.toInt)]
  | waited socket ready timeout =>
    [("fd", Text.ofInt socket.toInt), ("ready", Text.ofInt ready.toInt), ("timeout", timeout.text)]
  | staleCount socket expected read =>
    [("fd", Text.ofInt socket.toInt), ("expected", Text.ofNat expected), ("read", Text.ofNat read)]
  | batchReceived socket frames =>
    [("fd", Text.ofInt socket.toInt), ("frames", Text.ofNat frames)]
  | received socket id length =>
    [("fd", Text.ofInt socket.toInt), ("id", id.text), ("len", Text.ofNat length)]
  | sent socket word written =>
    [("fd", Text.ofInt socket.toInt), ("can_id", Text.ofNat word.toNat),
      ("written", Text.ofNat written)]
  | batchSent interface total => [("interface", interface), ("total", Text.ofNat total)]
  | filterInstalled socket id mask =>
    [("fd", Text.ofInt socket.toInt), ("can_id", Text.ofNat id.toNat), ("mask", Text.ofNat mask.toNat)]
  | closeOnDropFailed interface error => [("interface", interface), ("error", error.text)]

end Event

end CanBus
