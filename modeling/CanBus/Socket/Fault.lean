import CanBus.Errno
import CanBus.Text.Quoted

namespace CanBus

inductive Fault
  | errno (code : Int32)
  | badHandle (handle : Int32)
  | noDevice (name : String)
  | emptyQueue
  | invalidName (name : String)
  | shortRead (count : Nat)
deriving DecidableEq

namespace Fault

def text : Fault → String
  | errno code => Errno.text code
  | badHandle handle => "bad file descriptor " ++ Text.ofInt handle.toInt
  | noDevice name => "no such device " ++ name
  | emptyQueue => "no frame queued"
  | invalidName name => "invalid interface name " ++ Text.quoted name
  | shortRead count => "short CAN frame read: " ++ Text.ofNat count ++ " of 16 bytes"

def code? : Fault → Option Int32
  | errno code => some code
  | _ => none

def wouldBlock : Fault → Bool
  | errno code => code == Errno.again
  | emptyQueue => true
  | _ => false

/-- The text as reports embed it: a code comes first, where there is one. -/
def described (fault : Fault) : String :=
  match fault.code? with
  | some code => "Error: " ++ Text.ofInt code.toInt ++ " => " ++ fault.text
  | none => "Error: " ++ fault.text

end Fault

end CanBus
