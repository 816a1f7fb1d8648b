import CanBus.Frame

namespace CanBus

structure Timestamp where
  nanos : Int
deriving DecidableEq

namespace Timestamp

def ofSeconds (seconds : Int) : Timestamp := ⟨seconds * 1000000000⟩

def seconds (time : Timestamp) : Int := time.nanos / 1000000000

end Timestamp

structure Message where
  id : Identifier
  payload : List UInt8
  remote : Bool
  stamp : Option Timestamp
deriving DecidableEq

namespace Message

def ofPayload (id : Identifier) (payload : List UInt8) : Message :=
  ⟨id, payload, false, none⟩

/-- A remote request; it carries as many zero bytes as it asks for, eight at most. -/
def request (id : Identifier) (dlc : UInt8) : Message :=
  ⟨id, List.replicate (min dlc.toNat maxPayload) 0, true, none⟩

/-- A length code above eight stands for eight. -/
def ofFrame (frame : Frame) : Message where
  id := frame.identifier
  payload := frame.data.toList.take (min frame.dlc.toNat maxPayload)
  remote := frame.isRemote
  stamp := none

def word (message : Message) : UInt32 :=
  message.id.raw
    ||| (if message.id.extended then extendedFlag else 0)
    ||| (if message.remote then remoteFlag else 0)

/-- The record of a message. Payload bytes past the eighth do not fit and are left out. -/
def toFrame (message : Message) : Frame where
  word := message.word
  dlc := UInt8.ofNat (min message.payload.length maxPayload)
  pad := 0
  reserved := 0
  len8 := 0
  data := Vector.ofFn fun position => message.payload.getD position.val 0

def stamped (message : Message) (time : Timestamp) : Message :=
  { message with stamp := some time }

/-- The record that is sent: the extended flag is set on demand, and always where the number needs
more than eleven bits. -/
def sentFrame (message : Message) (forceExtended : Bool) : Frame :=
  let frame := message.toFrame
  if forceExtended || message.id.raw > standardMax then
    { frame with word := frame.word ||| extendedFlag }
  else frame

end Message

end CanBus
