import CanBus.Channel.Error
import CanBus.Duration
import CanBus.Identifier

namespace CanBus

structure Config where
  interface : String
  protocol : Int32
  /-- Zero lets every frame through. -/
  filterMask : UInt32
  senderId : UInt32
  waitTimeoutMillis : UInt64
  batchDelayMillis : UInt64
deriving DecidableEq

namespace Config

def rawProtocol : Int32 := 1

def alternateProtocol : Int32 := 7

def defaultProtocol : Int32 := rawProtocol

def defaultWaitTimeoutMillis : UInt64 := 3000

def defaultBatchDelayMillis : UInt64 := 20

def ofInterface (interface : String) : Config where
  interface := interface
  protocol := defaultProtocol
  filterMask := 0
  senderId := 0
  waitTimeoutMillis := defaultWaitTimeoutMillis
  batchDelayMillis := defaultBatchDelayMillis

def withProtocol (protocol : Int32) (c : Config) : Config := { c with protocol := protocol }

def withFilterMask (mask : UInt32) (c : Config) : Config := { c with filterMask := mask }

def withSenderId (id : UInt32) (c : Config) : Config := { c with senderId := id }

def withWaitTimeout (timeout : Duration) (c : Config) : Config :=
  { c with waitTimeoutMillis := timeout.toMillis }

def withBatchDelay (delay : Duration) (c : Config) : Config :=
  { c with batchDelayMillis := delay.toMillis }

def waitTimeout (c : Config) : Duration := Duration.ofMillis c.waitTimeoutMillis

def batchDelay (c : Config) : Duration := Duration.ofMillis c.batchDelayMillis

def sender (c : Config) : Except ChannelError Identifier :=
  match Identifier.ofNumber? c.senderId with
  | some id => .ok id
  | none => .error (.senderTooLarge c.senderId)

end Config

end CanBus
