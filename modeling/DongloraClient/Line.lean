import DongloraClient.Foundation.Sections
import DongloraClient.Link

/-! `_write_frame` statement by statement, for threads that share one transport. A
`MuxConnection` hands its bytes to the socket piece by piece, and may fail at any of
them. `Session.step` takes a write as a whole. -/

namespace DongloraClient
open Wire

/-- What a write asks of the operating system. -/
inductive LineOp where
  | send (data : Bytes)
  | flush

def LineReply : LineOp → Type
  | .send _ => Except Exc Nat
  | .flush => Except Exc Unit

abbrev LineProgram := ExceptT Exc (Program LineOp LineReply)

namespace LineProgram

def send (data : Bytes) : LineProgram Nat := ExceptT.mk (.perform (.send data) .pure)

def flush : LineProgram Unit := ExceptT.mk (.perform .flush .pure)

/-- `socket.sendall`, for at most `rounds` calls of `send`. -/
def sendall : Nat → Bytes → LineProgram Unit
  | 0, _ => ExceptT.mk .unfinished
  | rounds + 1, data => do
    let sent ← send data
    if data.drop sent = [] then return () else sendall rounds (data.drop sent)

/-- `MuxConnection.write`. Every `send` takes at least one byte. -/
def write (data : Bytes) : LineProgram Nat := do
  sendall data.length data
  return data.length

end LineProgram

variable (cobs : Cobs.Codec)

/-- A call of `_write_frame` that has encoded its frame. One that cannot raises before it
asks for the lock. -/
structure Writing where
  frame : Frame
  wire : Bytes
  encoded : encodeFrame cobs frame.typeId frame.tag frame.payload = .ok wire

/-- The body of `with self._transport_lock`. `flushes` says whether the transport has a
`flush` to call. -/
def writeBody (flushes : Bool) (writing : Writing cobs) : Program LineOp LineReply (Except Exc Unit) :=
  ExceptT.run do
    let _ ← LineProgram.write writing.wire
    if flushes then LineProgram.flush else return ()

/-- The bytes that the transport has carried, and the number of calls it has had. -/
structure Line where
  carried : Bytes := []
  moment : Nat := 0

/-- What becomes of each call: the failure it raises, or how many bytes a `send` takes
after its first. -/
structure Weather where
  sends : Nat → Except Exc Nat
  flushes : Nat → Except Exc Unit

def Weather.respond (weather : Weather) (line : Line) : (op : LineOp) → Option (LineReply op × Line)
  | .send data =>
    match weather.sends line.moment with
    | .ok more =>
      let sent := min (more + 1) data.length
      some (.ok sent, { carried := line.carried ++ data.take sent, moment := line.moment + 1 })
    | .error exc => some (.error exc, { line with moment := line.moment + 1 })
  | .flush => some (weather.flushes line.moment, { line with moment := line.moment + 1 })

/-- Threads that call `_write_frame`. -/
abbrev lineSystem (weather : Weather) (flushes : Bool) : Threads.System (Sections.Request LineOp)
    (Sections.Response LineReply) (Sections.Guarded Line) (Writing cobs) Empty (Except Exc Unit) :=
  Sections.system weather.respond (writeBody cobs flushes)

abbrev LineEvent := Threads.Event (Sections.Request LineOp) (Sections.Response LineReply) (Writing cobs) Empty (Except Exc Unit)

abbrev LinePool :=
  Threads.Pool (Sections.Request LineOp) (Sections.Response LineReply) (Sections.Guarded Line) (Writing cobs) (Except Exc Unit)

/-- Nothing has been written yet. -/
def LinePool.fresh : LinePool cobs := ⟨⟨{}, none⟩, fun _ => none⟩

end DongloraClient
