import CanBus.Socket.Fault

namespace CanBus

inductive ChannelError
  | notOpen (socket : Int32)
  | setup (message : String) (code : Option Int32)
  | close (message : String) (socket : Int32) (code : Option Int32)
  | io (message : String) (socket : Int32) (code : Option Int32)
  | invalidFrame (message : String) (socket : Int32)
deriving DecidableEq

namespace ChannelError

def text : ChannelError → String
  | notOpen socket => "invalid socket " ++ Text.ofInt socket.toInt ++ ": channel is not open"
  | setup message _ => "initialisation failed: " ++ message
  | close message socket _ =>
    "close failed on socket " ++ Text.ofInt socket.toInt ++ ": " ++ message
  | io message socket _ => "I/O error on socket " ++ Text.ofInt socket.toInt ++ ": " ++ message
  | invalidFrame message socket =>
    "invalid frame for socket " ++ Text.ofInt socket.toInt ++ ": " ++ message

def code? : ChannelError → Option Int32
  | setup _ code | close _ _ code | io _ _ code => code
  | notOpen _ | invalidFrame _ _ => none

def socket? : ChannelError → Option Int32
  | notOpen socket | close _ socket _ | io _ socket _ | invalidFrame _ socket => some socket
  | setup _ _ => none

inductive SetupStep
  | create
  | resolve (interface : String)
  | unblock (socket : Int32)
  | filter (mask : UInt32) (socket : Int32)
  | bind (interface : String)

def SetupStep.text : SetupStep → String
  | create => "FAILED to initialise socketcan"
  | resolve interface => "FAILED to resolve interface " ++ interface
  | unblock socket => "FAILED to set socket " ++ Text.ofInt socket.toInt ++ " non-blocking"
  | filter mask socket =>
    "FAILED to set CAN filter mask " ++ Text.hexLiteral mask.toNat ++ " on socket "
      ++ Text.ofInt socket.toInt
  | bind interface => "FAILED to bind to " ++ interface

inductive TransferStep
  | wait
  | read
  | write

def TransferStep.text : TransferStep → String
  | wait => "FAILED to wait for CAN frames"
  | read => "FAILED to read from CAN"
  | write => "FAILED to write data to socket"

def setupFailed (step : SetupStep) (fault : Fault) : ChannelError :=
  setup (step.text ++ ": " ++ fault.described) fault.code?

def transferFailed (step : TransferStep) (socket : Int32) (fault : Fault) : ChannelError :=
  io (step.text ++ ": " ++ fault.described) socket fault.code?

def closeFailed (socket : Int32) (fault : Fault) : ChannelError :=
  close ("FAILED to close CAN socket: " ++ fault.described) socket fault.code?

def alreadyClosed (socket : Int32) : ChannelError :=
  close "cannot close an invalid socket" socket none

def payloadTooLong (length : Nat) (socket : Int32) : ChannelError :=
  invalidFrame
    ("INVALID data length " ++ Text.ofNat length ++ "! Message must be at most 8 bytes") socket

def senderTooLarge (number : UInt32) : ChannelError :=
  setup ("default sender id " ++ Text.hexLiteral number.toNat ++ " exceeds 29 bits") none

end ChannelError

end CanBus
