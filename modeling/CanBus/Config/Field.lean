import CanBus.Config

namespace CanBus.Config

inductive Field
  | interface
  | protocol
  | filterMask
  | senderId
  | waitTimeout
  | batchDelay
deriving DecidableEq

inductive FieldKind
  | text
  | signed
  | unsigned
deriving DecidableEq

/-- A value that was read, before its range is checked. -/
inductive Plain
  | text (s : String)
  | number (n : Int)
deriving DecidableEq

namespace Field

def all : List Field := [interface, protocol, filterMask, senderId, waitTimeout, batchDelay]

def name : Field → String
  | interface => "interface"
  | protocol => "protocol"
  | filterMask => "filter_mask"
  | senderId => "default_sender_id"
  | waitTimeout => "wait_timeout_ms"
  | batchDelay => "batch_delay_ms"

def ofName? (name : String) : Option Field :=
  all.find? (·.name == name)

def kind : Field → FieldKind
  | interface => .text
  | protocol => .signed
  | filterMask | senderId | waitTimeout | batchDelay => .unsigned

end Field

inductive ReadError
  | missing (field : Field)
  | duplicate (field : Field)
  /-- The text breaks the rules of its format, or a value is not of its field's kind. -/
  | malformed
deriving DecidableEq

def ReadError.text? : ReadError → Option String
  | missing field => some ("missing field `" ++ field.name ++ "`")
  | duplicate field => some ("duplicate field `" ++ field.name ++ "`")
  | malformed => none

structure Draft where
  interface : Option String
  protocol : Option Int32
  filterMask : Option UInt32
  senderId : Option UInt32
  waitTimeout : Option UInt64
  batchDelay : Option UInt64
deriving DecidableEq

namespace Draft

def empty : Draft := ⟨none, none, none, none, none, none⟩

def has (draft : Draft) : Field → Bool
  | .interface => draft.interface.isSome
  | .protocol => draft.protocol.isSome
  | .filterMask => draft.filterMask.isSome
  | .senderId => draft.senderId.isSome
  | .waitTimeout => draft.waitTimeout.isSome
  | .batchDelay => draft.batchDelay.isSome

def int32? (n : Int) : Option Int32 :=
  if Int32.minValue.toInt ≤ n ∧ n ≤ Int32.maxValue.toInt then some (Int32.ofInt n) else none

def uint32? (n : Int) : Option UInt32 :=
  if 0 ≤ n ∧ n < UInt32.size then some (UInt32.ofNat n.toNat) else none

def uint64? (n : Int) : Option UInt64 :=
  if 0 ≤ n ∧ n < UInt64.size then some (UInt64.ofNat n.toNat) else none

def put? (draft : Draft) : Field → Plain → Option Draft
  | .interface, .text s => some { draft with interface := some s }
  | .protocol, .number n => (int32? n).map fun value => { draft with protocol := some value }
  | .filterMask, .number n => (uint32? n).map fun value => { draft with filterMask := some value }
  | .senderId, .number n => (uint32? n).map fun value => { draft with senderId := some value }
  | .waitTimeout, .number n => (uint64? n).map fun value => { draft with waitTimeout := some value }
  | .batchDelay, .number n => (uint64? n).map fun value => { draft with batchDelay := some value }
  | _, _ => none

/-- The configuration of a complete draft. What stands in for an absent field is said here apart
from the builder. -/
def finish (draft : Draft) : Except ReadError Config :=
  match draft.interface with
  | none => .error (.missing .interface)
  | some interface => .ok {
      interface := interface
      protocol := draft.protocol.getD defaultProtocol
      filterMask := draft.filterMask.getD 0
      senderId := draft.senderId.getD 0
      waitTimeoutMillis := draft.waitTimeout.getD defaultWaitTimeoutMillis
      batchDelayMillis := draft.batchDelay.getD defaultBatchDelayMillis }

end Draft

end CanBus.Config
