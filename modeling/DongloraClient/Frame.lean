import DongloraClient.Crc
import DongloraClient.Encoding
import DongloraClient.Foundation.Cobs

/-! Frames on the wire: `COBS(type || tag_le || payload || crc_le) || 0x00`. The
COBS package is a parameter. -/

namespace DongloraClient
open Wire

def maxOtaPayload : Nat := 255
def maxPayloadField : Nat := maxOtaPayload + 20
def frameHeaderSize : Nat := 3
def frameTrailerSize : Nat := 2
def maxPreCobsFrame : Nat := frameHeaderSize + maxPayloadField + frameTrailerSize
def maxCobsOverhead : Nat := 3
def maxWireFrame : Nat := maxPreCobsFrame + maxCobsOverhead + 1

variable (cobs : Cobs.Codec)

/-- `FrameTooLargeError` is a `ValueError`. -/
def encodeFrame (typeId tag : Int) (payload : Bytes) : Except Exc Bytes :=
  if ¬ (0 ≤ typeId ∧ typeId ≤ 0xFF) then .error (.valueError s!"type_id out of range: {typeId}")
  else if ¬ (0 ≤ tag ∧ tag ≤ 0xFFFF) then .error (.valueError s!"tag out of range: {tag}")
  else if payload.length > maxPayloadField then
    .error (.valueError s!"payload too large ({payload.length} > {maxPayloadField})")
  else do
    let body := (← packUnsigned 1 typeId) ++ (← packUnsigned 2 tag) ++ payload
    let crc := crc16 body
    let preCobs := body ++ (← packUnsigned 2 crc)
    return cobs.encode preCobs ++ [0]

structure Frame where
  typeId : Nat
  tag : Nat
  payload : Bytes
  deriving DecidableEq, Repr

/-- `FrameError` of the frame module with its three subclasses and their texts. -/
inductive FrameFault where
  | crc (message : String)
  | cobs (message : String)
  | tooShort (message : String)
  deriving DecidableEq, Repr

def FrameFault.message : FrameFault → String
  | .crc message | .cobs message | .tooShort message => message

def decodeFrame (frameBytes : Bytes) : Except FrameFault Frame :=
  match cobs.decode frameBytes with
  | .error text => .error (.cobs text)
  | .ok decoded =>
    if decoded.length < frameHeaderSize + frameTrailerSize then
      .error (.tooShort s!"decoded frame too short: {decoded.length} bytes")
    else
      let body := decoded.take (decoded.length - frameTrailerSize)
      let crcBytes := decoded.drop (decoded.length - frameTrailerSize)
      let expected := crc16 body
      let got := leNat crcBytes
      if expected ≠ got then
        let shownGot := hexText 4 got
        let shownExpected := hexText 4 expected
        .error (.crc s!"CRC mismatch: got 0x{shownGot}, expected 0x{shownExpected}")
      else
        .ok {
          typeId := leNat (body.take 1)
          tag := leNat ((body.drop 1).take 2)
          payload := body.drop frameHeaderSize }

/-- What the frame module can raise: a `FrameError`, or what an access outside the
bytes at hand would raise. -/
inductive FrameExc where
  | frameError (fault : FrameFault)
  | stray (exc : Exc)
  deriving DecidableEq, Repr

/-- `struct.unpack` of one unsigned field that has to fill its bytes. -/
def unpackWhole (width : Nat) (data : Bytes) : Except Exc Nat :=
  if data.length = width then .ok (leNat data) else .error .structError

/-- `decode_frame` with its accesses to the decoded bytes checked as Python checks
them. `decodeFrame` is what it comes to. -/
def decodeFrameChecked (frameBytes : Bytes) : Except FrameExc Frame :=
  match cobs.decode frameBytes with
  | .error text => .error (.frameError (.cobs text))
  | .ok decoded =>
    if decoded.length < frameHeaderSize + frameTrailerSize then
      .error (.frameError (.tooShort s!"decoded frame too short: {decoded.length} bytes"))
    else do
      let body := decoded.take (decoded.length - frameTrailerSize)
      let crcBytes := decoded.drop (decoded.length - frameTrailerSize)
      let expected := crc16 body
      let got ← (unpackWhole 2 crcBytes).mapError .stray
      if expected ≠ got then
        let shownGot := hexText 4 got
        let shownExpected := hexText 4 expected
        .error (.frameError (.crc s!"CRC mismatch: got 0x{shownGot}, expected 0x{shownExpected}"))
      else
        let typeId ← (byteAt body 0).mapError .stray
        let tag ← (unpackUnsigned 2 1 body).mapError .stray
        return { typeId, tag, payload := body.drop frameHeaderSize }

/-- What one call of `read_frame` comes to. `starved` means the call is still
waiting for a byte when the stream ends. -/
inductive ReadResult where
  | frame (frame : Frame)
  | fault (fault : FrameFault)
  | none
  | starved
  deriving DecidableEq, Repr

/-- The loop of `read_frame` over the results of `reader.read(1)`, where `none` is
the empty read of a transport timeout. The reads left over come back with it. -/
def readFrom (buf : Bytes) : List (Option UInt8) → ReadResult × List (Option UInt8)
  | [] => (.starved, [])
  | none :: rest => (.none, rest)
  | some byte :: rest =>
    if byte = 0 then
      if buf = [] then (.none, rest)
      else match decodeFrame cobs buf with
        | .ok frame => (.frame frame, rest)
        | .error fault => (.fault fault, rest)
    else readFrom (buf ++ [byte]) rest

def readFrame (reads : List (Option UInt8)) : ReadResult × List (Option UInt8) := readFrom cobs [] reads

/-- What a call of `read_frame` returns or raises, if the stream does not end before. -/
def readFromChecked (buf : Bytes) : List (Option UInt8) → Option (Except FrameExc (Option Frame))
  | [] => none
  | none :: _ => some (.ok none)
  | some byte :: rest =>
    if byte = 0 then
      if buf = [] then some (.ok none) else some ((decodeFrameChecked cobs buf).map some)
    else readFromChecked (buf ++ [byte]) rest

/-- The frames and frame errors that `_reader_loop` gets from at most `calls` calls
of `read_frame`, the `None` results left out. -/
def readerResults : Nat → List (Option UInt8) → List (Except FrameFault Frame)
  | 0, _ => []
  | calls + 1, reads =>
    match readFrame cobs reads with
    | (.frame frame, rest) => .ok frame :: readerResults calls rest
    | (.fault fault, rest) => .error fault :: readerResults calls rest
    | (.none, rest) => readerResults calls rest
    | (.starved, _) => []

/-- The contents of `buf` at every `reader.read(1)` of a call of `read_frame`. -/
def readBuffers (buf : Bytes) : List (Option UInt8) → List Bytes
  | [] => [buf]
  | none :: _ => [buf]
  | some byte :: rest => if byte = 0 then [buf] else buf :: readBuffers (buf ++ [byte]) rest

/-- The same for at most `calls` calls of it. -/
def readerBuffers : Nat → List (Option UInt8) → List Bytes
  | 0, _ => []
  | calls + 1, reads =>
    let (result, rest) := readFrame cobs reads
    readBuffers [] reads ++ if result = .starved then [] else readerBuffers calls rest

/-- The loop of `iter_frames` over `enumerate(data)`: what the generator yields, and
the error it ends with, if any. -/
def iterFrom (data : Bytes) (start : Nat) : List (UInt8 × Nat) → List (Except FrameFault Frame)
  | [] => []
  | (byte, i) :: rest =>
    if byte = 0 then
      if i > start then match decodeFrame cobs ((data.drop start).take (i - start)) with
        | .ok frame => .ok frame :: iterFrom data (i + 1) rest
        | .error fault => [.error fault]
      else iterFrom data (i + 1) rest
    else iterFrom data start rest

/-- The same with the accesses checked. -/
def iterFromChecked (data : Bytes) (start : Nat) : List (UInt8 × Nat) → List (Except FrameExc Frame)
  | [] => []
  | (byte, i) :: rest =>
    if byte = 0 then
      if i > start then match decodeFrameChecked cobs ((data.drop start).take (i - start)) with
        | .ok frame => .ok frame :: iterFromChecked data (i + 1) rest
        | .error exc => [.error exc]
      else iterFromChecked data (i + 1) rest
    else iterFromChecked data start rest

def iterFrames (data : Bytes) : List (Except FrameFault Frame) := iterFrom cobs data 0 data.zipIdx

/-- Every call but the last takes at least one read, so the number of reads bounds
the number of calls until the stream is exhausted. -/
def readAll (reads : List (Option UInt8)) : List (Except FrameFault Frame) :=
  readerResults cobs reads.length reads

end DongloraClient
