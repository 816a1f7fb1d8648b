import CanBus.Socket.Layer

namespace CanBus

structure Simulator where
  nextHandle : Int32
  openHandles : List Int32
  interfaces : List (String × Int32)
  inbound : List Frame
  written : List Frame
  filters : List Filter
  calls : List SocketCall
  /-- The code with which the next call of a kind fails, where one is set. -/
  failures : SocketCall → Option Int32
  /-- What polls answer in place of the queue's length. -/
  readyOverride : Option Int32
  lastTimeout : Option Duration
  pollDelay : Duration
  bound : Option Int32
  clock : Nat

namespace Simulator

def start : Simulator where
  nextHandle := 3
  openHandles := []
  interfaces := [("mock0", 1)]
  inbound := []
  written := []
  filters := []
  calls := []
  failures := fun _ => none
  readyOverride := none
  lastTimeout := none
  pollDelay := Duration.zero
  bound := none
  clock := 0

def withInterface (name : String) (index : Int32) (s : Simulator) : Simulator :=
  { s with interfaces := (name, index) :: s.interfaces }

def push (frame : Frame) (s : Simulator) : Simulator :=
  { s with inbound := s.inbound ++ [frame] }

def failNext (kind : SocketCall) (code : Int32) (s : Simulator) : Simulator :=
  { s with failures := fun other => if other = kind then some code else s.failures other }

def setReady (count : Option Int32) (s : Simulator) : Simulator :=
  { s with readyOverride := count }

def setPollDelay (delay : Duration) (s : Simulator) : Simulator :=
  { s with pollDelay := delay }

def clearCalls (s : Simulator) : Simulator :=
  { s with calls := [] }

def countCalls (kind : SocketCall) (s : Simulator) : Nat :=
  s.calls.count kind

def isOpen (handle : Int32) (s : Simulator) : Bool :=
  s.openHandles.contains handle

def heldHandles (s : Simulator) : List Int32 :=
  s.openHandles.mergeSort fun a b => a ≤ b

/-- Logs the call. A failure that was set comes before everything else, and once; a handle that is
not open comes next; only then does the call do its work. -/
def call {α : Type} (kind : SocketCall) (handle : Option Int32) (work : Call Simulator α) :
    Call Simulator α := fun s =>
  let s := { s with calls := s.calls ++ [kind] }
  match s.failures kind with
  | some code =>
    (.error (.errno code),
      { s with failures := fun other => if other = kind then none else s.failures other })
  | none =>
    match handle with
    | none => work s
    | some handle => if s.isOpen handle then work s else (.error (.badHandle handle), s)

def openSocket : Call Simulator Int32 :=
  call .openSocket none fun s =>
    (.ok s.nextHandle,
      { s with nextHandle := s.nextHandle + 1, openHandles := s.openHandles ++ [s.nextHandle] })

def interfaceIndex (handle : Int32) (name : String) : Call Simulator Int32 :=
  call .interfaceIndex (some handle) fun s =>
    match s.interfaces.lookup name with
    | some index => (.ok index, s)
    | none => (.error (.noDevice name), s)

def setNonblocking (handle : Int32) : Call Simulator Unit :=
  call .setNonblocking (some handle) fun s => (.ok (), s)

def setFilter (handle : Int32) (filter : Filter) : Call Simulator Unit :=
  call .setFilter (some handle) fun s => (.ok (), { s with filters := s.filters ++ [filter] })

def bind (handle : Int32) (index : Int32) : Call Simulator Unit :=
  call .bind (some handle) fun s => (.ok (), { s with bound := some index })

/-- The first half of a poll: what it records, and how long it will wait. -/
def beginPoll (handle : Int32) (timeout : Duration) : Call Simulator Duration :=
  call .poll (some handle) fun s =>
    (.ok (s.pollDelay.shorter timeout), { s with lastTimeout := some timeout })

def queued (s : Simulator) : Int32 :=
  if s.inbound.length ≤ Int32.maxValue.toInt then Int32.ofNat s.inbound.length else Int32.maxValue

def ready (s : Simulator) : Int32 :=
  s.readyOverride.getD s.queued

def pause (time : Duration) (s : Simulator) : Simulator :=
  { s with clock := s.clock + time.nanos }

def poll (handle : Int32) (timeout : Duration) : Call Simulator Int32 := fun s =>
  match beginPoll handle timeout s with
  | (.error fault, s) => (.error fault, s)
  | (.ok delay, s) => (.ok s.ready, s.pause delay)

def read (handle : Int32) : Call Simulator Frame :=
  call .read (some handle) fun s =>
    match s.inbound with
    | [] => (.error .emptyQueue, s)
    | frame :: rest => (.ok frame, { s with inbound := rest })

def write (handle : Int32) (frame : Frame) : Call Simulator Nat :=
  call .write (some handle) fun s =>
    (.ok frameBytes, { s with written := s.written ++ [frame] })

def close (handle : Int32) : Call Simulator Unit :=
  call .close none fun s =>
    if s.isOpen handle then
      (.ok (), { s with openHandles := s.openHandles.filter (· != handle) })
    else (.error (.badHandle handle), s)

def now (s : Simulator) : Timestamp := ⟨s.clock⟩

def layer : Layer Simulator where
  openSocket := fun _ => openSocket
  interfaceIndex := interfaceIndex
  setNonblocking := setNonblocking
  setFilter := setFilter
  bind := bind
  poll := poll
  read := read
  write := write
  close := close
  now := now
  pause := pause

end Simulator

end CanBus
