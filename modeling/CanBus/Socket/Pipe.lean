import CanBus.Socket.Layer

namespace CanBus

structure Pipe where
  bytes : List UInt8
  readerOpen : Bool
  writerOpen : Bool
  /-- Whether a read fails at once where it would have to wait. -/
  nonblocking : Bool
deriving DecidableEq

namespace Pipe

def start : Pipe := ⟨[], true, true, false⟩

def readerHandle : Int32 := 0

def writerHandle : Int32 := 1

def strayHandle : Int32 := -1

def live (handle : Int32) (p : Pipe) : Bool :=
  (handle == readerHandle && p.readerOpen) || (handle == writerHandle && p.writerOpen)

/-- A call that no pipe end supports: `code` on an end, and a bad handle elsewhere. -/
def refuse {α : Type} (code : Int32) (handle : Int32) : Call Pipe α := fun p =>
  (.error (.errno (if p.live handle then code else Errno.badDescriptor)), p)

def nameBytes : Nat := 16

def validName (name : String) : Bool :=
  name != "" && decide (name.utf8ByteSize < nameBytes) && !name.toList.contains '\x00'

def interfaceIndex (handle : Int32) (name : String) : Call Pipe Int32 := fun p =>
  if validName name then refuse Errno.notTerminal handle p else (.error (.invalidName name), p)

def setNonblocking (handle : Int32) : Call Pipe Unit := fun p =>
  if p.live handle then
    (.ok (), if handle == readerHandle then { p with nonblocking := true } else p)
  else (.error (.errno Errno.badDescriptor), p)

/-- The reading end is ready when bytes wait or no more can come, the writing end when nobody will
read. A closed end is reported too, and a negative handle is passed over. -/
def ready (handle : Int32) (p : Pipe) : Bool :=
  if handle < 0 then false
  else if handle == readerHandle then !p.readerOpen || !p.bytes.isEmpty || !p.writerOpen
  else if handle == writerHandle then !p.writerOpen || !p.readerOpen
  else true

def poll (handle : Int32) (_timeout : Duration) : Call Pipe Int32 := fun p =>
  (.ok (if p.ready handle then 1 else 0), p)

/-- Takes one record, or what is left if that is less. Nothing else runs here that could put bytes
into an empty pipe, so a read that waits for them comes back only when a signal breaks it off. -/
def read (handle : Int32) : Call Pipe Frame := fun p =>
  if handle == readerHandle && p.readerOpen then
    if p.bytes.isEmpty && p.writerOpen then
      (.error (.errno (if p.nonblocking then Errno.again else Errno.interrupted)), p)
    else
      let taken := p.bytes.take frameBytes
      let p := { p with bytes := p.bytes.drop frameBytes }
      match Frame.ofBytes? taken with
      | some frame => (.ok frame, p)
      | none => (.error (.shortRead taken.length), p)
  else (.error (.errno Errno.badDescriptor), p)

def write (handle : Int32) (frame : Frame) : Call Pipe Nat := fun p =>
  if handle == writerHandle && p.writerOpen then
    if p.readerOpen then (.ok frameBytes, { p with bytes := p.bytes ++ frame.toBytes })
    else (.error (.errno Errno.brokenPipe), p)
  else (.error (.errno Errno.badDescriptor), p)

def close (handle : Int32) : Call Pipe Unit := fun p =>
  if p.live handle then
    (.ok (), if handle == readerHandle then { p with readerOpen := false }
      else { p with writerOpen := false })
  else (.error (.errno Errno.badDescriptor), p)

def feed (bytes : List UInt8) (p : Pipe) : Pipe :=
  { p with bytes := p.bytes ++ bytes }

def take (count : Nat) (p : Pipe) : List UInt8 × Pipe :=
  (p.bytes.take count, { p with bytes := p.bytes.drop count })

def layer : Layer Pipe where
  openSocket := fun _ p => (.error (.errno Errno.familyNotSupported), p)
  interfaceIndex := interfaceIndex
  setNonblocking := setNonblocking
  setFilter := fun handle _ => refuse Errno.notSocket handle
  bind := fun handle _ => refuse Errno.notSocket handle
  poll := poll
  read := read
  write := write
  close := close
  now := fun _ => ⟨0⟩
  pause := fun _ p => p

theorem read_record {p : Pipe} {frame : Frame} {rest : List UInt8} (reader : p.readerOpen = true)
    (bytes : p.bytes = frame.toBytes ++ rest) :
    read readerHandle p = (.ok frame, { p with bytes := rest }) := by
  have length : frame.toBytes.length = frameBytes := frame.length_toBytes
  have nonempty : p.bytes.isEmpty = false := by
    rw [bytes]
    rfl
  have front : p.bytes.take frameBytes = frame.toBytes := by
    rw [bytes]
    exact List.take_left' length
  have back : p.bytes.drop frameBytes = rest := by
    rw [bytes]
    exact List.drop_left' length
  simp only [read, reader, nonempty, front, back, Frame.ofBytes?_toBytes]
  rfl

theorem write_open {p : Pipe} (frame : Frame) (writer : p.writerOpen = true)
    (reader : p.readerOpen = true) :
    write writerHandle frame p = (.ok frameBytes, { p with bytes := p.bytes ++ frame.toBytes }) := by
  simp only [write, writer, reader]
  rfl

end Pipe

end CanBus
