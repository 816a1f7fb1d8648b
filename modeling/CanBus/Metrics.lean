import CanBus.Decimal.Shortest

namespace CanBus

structure Counters where
  sentFrames : UInt64
  sentBytes : UInt64
  receivedFrames : UInt64
  errors : UInt64
deriving DecidableEq

namespace Counters

def zero : Counters := ⟨0, 0, 0, 0⟩

def addSentFrames (n : UInt64) (c : Counters) : Counters :=
  { c with sentFrames := c.sentFrames + n }

def addSentBytes (n : UInt64) (c : Counters) : Counters :=
  { c with sentBytes := c.sentBytes + n }

def addReceivedFrames (n : UInt64) (c : Counters) : Counters :=
  { c with receivedFrames := c.receivedFrames + n }

def addErrors (n : UInt64) (c : Counters) : Counters :=
  { c with errors := c.errors + n }

def sent (bytes : Nat) (c : Counters) : Counters :=
  (c.addSentFrames 1).addSentBytes (UInt64.ofNat bytes)

def received (c : Counters) : Counters := c.addReceivedFrames 1

def failed (c : Counters) : Counters := c.addErrors 1

def family (name help : String) (value : UInt64) : String :=
  "# HELP " ++ name ++ " " ++ help ++ "\n"
    ++ "# TYPE " ++ name ++ " counter\n"
    ++ name ++ " " ++ Text.ofNat (Decimal.shortest value.toNat) ++ "\n"

def exposition (c : Counters) : String :=
  family "can_channel_errors" "Failed channel I/O operations" c.errors
    ++ family "can_channel_rx_frames" "Total CAN frames received" c.receivedFrames
    ++ family "can_channel_tx_bytes" "Total bytes written to the socket" c.sentBytes
    ++ family "can_channel_tx_frames" "Total CAN frames sent" c.sentFrames

end Counters

end CanBus
