import DongloraClient.Events
import DongloraClient.Foundation.Dict
import DongloraClient.Frame

/-! One `Session` shared by any number of threads. Commands, the reader thread,
`close` calls and `next_rx` consumers advance one atomic step at a time: a locked
section that touches only the table or the tag counter, one attribute access, one
operation on an event or a queue. The two sections that sweep the table hold the
lock over several such steps. -/

namespace DongloraClient
open Wire

/-- The commands of the public API with their arguments. -/
inductive Request where
  | ping
  | getInfo
  | setConfig (modulation : Modulation)
  | transmit (data : Bytes) (skipCad : Bool)
  | rxStart
  | rxStop
  deriving DecidableEq, Repr

namespace Request

def typeId : Request → Nat
  | ping => typePing
  | getInfo => typeGetInfo
  | setConfig _ => typeSetConfig
  | transmit _ _ => typeTx
  | rxStart => typeRxStart
  | rxStop => typeRxStop

def payload : Request → Except Exc Bytes
  | ping => return encodePingPayload
  | getInfo => return encodeGetInfoPayload
  | setConfig modulation => encodeSetConfigPayload modulation
  | transmit data skipCad => encodeTxPayload data skipCad
  | rxStart => return encodeRxStartPayload
  | rxStop => return encodeRxStopPayload

/-- `_send_and_wait` takes its payload as an argument, so that encoding fails
before it is entered; `_send_tx` encodes inside its `try`. -/
def rejected : Request → Option Exc
  | transmit _ _ => none
  | request => match request.payload with
    | .error exc => some exc
    | .ok _ => none

end Request

/-- `_Pending`: an outstanding command awaiting a response. -/
structure Pending where
  tag : Nat := 0
  cmdType : Nat := 0
  event : Bool := false
  okPayload : OkValue := .none
  err : Option Exc := none
  txDone : Option TxDone := none
  deriving DecidableEq, Repr

inductive Returned where
  | ok (value : OkValue)
  | txDone (done : TxDone)
  deriving DecidableEq, Repr

abbrev Outcome := Except Exc Returned

/-- Where a caller stands in `_send_and_wait` or `_send_tx`: the step it takes
next, or the outcome it carries through the `finally` clause. -/
inductive Pc where
  | idle
  | entered
  | allocated
  | registered
  | waiting
  | woken
  | unfailed
  | leaving (outcome : Outcome)
  | finished (outcome : Outcome)
  deriving DecidableEq, Repr

/-- One command with its local variables. `slot` is the `_Pending` object it
registers. -/
structure Call where
  request : Request := .ping
  timed : Bool := true
  pc : Pc := .idle
  tag : Nat := 0
  slot : Pending := {}
  deriving DecidableEq, Repr

/-- The two families of steps that act on shared state for others. -/
inductive Agent where
  | reader
  | closer (id : Nat)
  deriving DecidableEq, Repr

/-- Single statements of `_dispatch`, `close` and the reader's shutdown section.
Slots are named by the command that registered them. -/
inductive Action where
  | setErr (call : Nat) (exc : Exc)
  | setErrIfUnset (call : Nat) (exc : Exc)
  | setOk (call : Nat) (value : OkValue)
  | setTxDone (call : Nat) (done : TxDone)
  | signal (call : Nat)
  | putRx (event : RxEvent)
  | putError (exc : Exc)
  | clear
  | setDead
  | putSentinel
  | closeTransport
  deriving DecidableEq, Repr

inductive RxItem where
  | event (event : RxEvent)
  | sentinel
  deriving DecidableEq, Repr

/-- Where the reader thread stands; statements it has still to execute are its
to-do list. -/
inductive Reader where
  | looping
  | reading
  | dispatching (frame : Frame)
  | finishing
  | ending
  deriving DecidableEq, Repr

inductive Closer where
  | idle
  | flagged
  | closing
  deriving DecidableEq, Repr

/-- A `next_rx` call. -/
inductive Consumer where
  | idle
  | getting (timed : Bool)
  | reposting
  | returned (event : Option RxEvent)
  deriving DecidableEq, Repr

structure Session where
  nextTag : Nat := 1
  pending : AList (fun _ : Nat => Nat) := ∅
  lock : Option Agent := none
  rxQueue : List RxItem := []
  asyncErrors : List Exc := []
  closed : Bool := false
  readerDead : Bool := false
  transportClosed : Bool := false
  calls : Nat → Call := fun _ => {}
  reader : Reader := .looping
  closers : Nat → Closer := fun _ => .idle
  consumers : Nat → Consumer := fun _ => .idle
  todo : Agent → List Action := fun _ => []

namespace Session

def isAlive (session : Session) : Bool := !session.readerDead && !session.closed

def setCall (session : Session) (id : Nat) (call : Call) : Session :=
  { session with calls := Function.update session.calls id call }

def setPc (session : Session) (id : Nat) (pc : Pc) : Session :=
  session.setCall id { session.calls id with pc }

def setSlot (session : Session) (id : Nat) (slot : Pending) : Session :=
  session.setCall id { session.calls id with slot }

def setTodo (session : Session) (agent : Agent) (actions : List Action) : Session :=
  { session with todo := Function.update session.todo agent actions }

/-- The new value of `_next_tag` in `_alloc_tag`. -/
def advanceTag (tag : Nat) : Nat :=
  let next := (tag + 1) &&& 0xFFFF
  if next = 0 then 1 else next

def allocTag (session : Session) : Nat × Session :=
  (session.nextTag, { session with nextTag := advanceTag session.nextTag })

def registerPending (session : Session) (id tag cmdType : Nat) : Session :=
  { session.setSlot id { tag, cmdType } with pending := Dict.assign tag id session.pending }

def forgetPending (session : Session) (tag : Nat) : Session :=
  { session with pending := session.pending.erase tag }

/-- `self._pending.get(tag)`: the command that owns the slot, and its type. Tag 0
is never looked up. -/
def getPending (session : Session) (tag : Nat) : Option (Nat × Nat) :=
  if tag = 0 then none
  else (session.pending.lookup tag).map fun id => (id, (session.calls id).slot.cmdType)

/-- `self._pending.values()`: the oldest entry first. A tag that is registered again keeps
its place, with the new slot. -/
def values (session : Session) : List Nat := Dict.values session.pending

example : ((({ : Session}.registerPending 0 1 typePing).registerPending 1 2 typePing).registerPending 2 1 typePing).values =
    [2, 1] := by decide

/-- The statements `_dispatch` executes for a frame, given what it finds in the
table, or the exception it raises before any of them. -/
def reaction (frame : Frame) (pending : Option (Nat × Nat)) : Except Exc (List Action) :=
  if frame.tag = 0 then
    if frame.typeId = typeRx then
      match RxEvent.decode frame.payload with
      | .ok rx => .ok [.putRx rx]
      | .error (.valueError text) => .ok [.putError (.frameError s!"bad RX payload: {text}")]
      | .error exc => .error exc
    else if frame.typeId = typeErr then
      match decodeErrPayload frame.payload with
      | .ok code => .ok [.putError (deviceError code (some 0))]
      | .error exc => .error exc
    else .ok []
  else match pending with
  | none => .ok []
  | some (id, cmdType) =>
    if frame.typeId = typeOk then
      match parseOkPayload cmdType frame.payload with
      | .ok ok => .ok (if cmdType = typeTx then [.setOk id ok] else [.setOk id ok, .signal id])
      | .error (.valueError text) | .error (.keyError text) =>
        .ok [.setErr id (.dongloraError s!"bad OK payload: {text}"), .signal id]
      | .error exc => .error exc
    else if frame.typeId = typeErr then
      match decodeErrPayload frame.payload with
      | .ok code => .ok [.setErr id (deviceError code (some frame.tag)), .signal id]
      | .error exc => .error exc
    else if frame.typeId = typeTxDone then
      match TxDone.decode frame.payload with
      | .ok done =>
        if done.result = .channelBusy then .ok [.setErr id .channelBusy, .signal id]
        else if done.result = .cancelled then .ok [.setErr id .cancelled, .signal id]
        else .ok [.setTxDone id done, .signal id]
      | .error (.valueError text) =>
        .ok [.setErr id (.dongloraError s!"bad TX_DONE payload: {text}"), .signal id]
      | .error exc => .error exc
    else .ok []

/-- The locked section of `close`, and what follows it. -/
def closing (session : Session) : List Action :=
  session.values.flatMap (fun id => [.setErr id (.dongloraError "session closed"), .signal id])
    ++ [.clear, .closeTransport]

/-- The `finally` section of `_reader_loop`. -/
def shuttingDown (session : Session) : List Action :=
  session.values.flatMap (fun id => [.setErrIfUnset id (.dongloraError "transport closed"), .signal id])
    ++ [.clear, .setDead, .putSentinel]

/-- One statement. Leaving the `with` block at `clear` releases the lock. -/
def apply (session : Session) : Action → Session
  | .setErr id exc => session.setSlot id { (session.calls id).slot with err := some exc }
  | .setErrIfUnset id exc =>
    if (session.calls id).slot.err = none ∧ (session.calls id).slot.txDone = none then
      session.setSlot id { (session.calls id).slot with err := some exc }
    else session
  | .setOk id value => session.setSlot id { (session.calls id).slot with okPayload := value }
  | .setTxDone id done => session.setSlot id { (session.calls id).slot with txDone := some done }
  | .signal id => session.setSlot id { (session.calls id).slot with event := true }
  | .putRx event => { session with rxQueue := session.rxQueue ++ [.event event] }
  | .putError exc => { session with asyncErrors := session.asyncErrors ++ [exc] }
  | .clear => { session with pending := ∅, lock := none }
  | .setDead => { session with readerDead := true }
  | .putSentinel => { session with rxQueue := session.rxQueue ++ [.sentinel] }
  | .closeTransport => { session with transportClosed := true }

/-- `_dispatch` without interruption. -/
def dispatch (session : Session) (frame : Frame) : Except Exc Session :=
  return (← reaction frame (session.getPending frame.tag)).foldl apply session

end Session

/-- How a caller that found no error in its slot ends: `_send_tx` looks at
`tx_done`, `_send_and_wait` returns `ok_payload`. -/
def Call.result (call : Call) : Outcome :=
  if call.request.typeId = typeTx then
    match call.slot.txDone with
    | none => .error (.dongloraError "TX completed without TX_DONE (internal error)")
    | some done => .ok (.txDone done)
  else .ok (.ok call.slot.okPayload)

/-- The text of `TimeoutError_`. -/
def Call.timeoutText (call : Call) : String :=
  if call.request.typeId = typeTx then s!"TX tag={call.tag} timed out waiting for TX_DONE"
  else
    let shown := hexText 2 call.request.typeId
    s!"command 0x{shown} tag={call.tag} timed out"

/-- The atomic steps. A step names the thread that takes it and carries what its
surroundings contribute: the frame that arrives, the failure of a write. -/
inductive Step where
  | begin (call : Nat) (request : Request) (timed : Bool)
  | alloc (call : Nat)
  | register (call : Nat)
  | write (call : Nat) (failure : Option String)
  | wake (call : Nat)
  | expire (call : Nat)
  | readErr (call : Nat)
  | readResult (call : Nat)
  | forget (call : Nat)
  | poll
  | receive (frame : Frame)
  | corrupt (fault : FrameFault)
  | idle
  | hangup
  | dispatch (frame : Frame) (found : Option Nat)
  | shutdown
  | close (closer : Nat)
  | sweep (closer : Nat)
  | act (agent : Agent)
  | next (consumer : Nat) (timed : Bool)
  | take (consumer : Nat)
  | giveUp (consumer : Nat)
  | repost (consumer : Nat)
  | drain
  deriving DecidableEq, Repr

namespace Session

variable (cobs : Cobs.Codec)

/-- The bytes `_write_frame` hands to the transport for a command. -/
def wire (call : Call) : Except Exc Bytes := do
  encodeFrame cobs call.request.typeId call.tag (← call.request.payload)

def step (session : Session) : Step → Option Session
  | .begin id request timed =>
    if (session.calls id).pc = .idle then
      match request.rejected with
      | some exc => some (session.setCall id { request, timed, pc := .finished (.error exc) })
      | none => some (session.setCall id { request, timed, pc := .entered })
    else none
  | .alloc id =>
    if (session.calls id).pc = .entered then
      let (tag, session) := session.allocTag
      some (session.setCall id { session.calls id with pc := .allocated, tag })
    else none
  | .register id =>
    let call := session.calls id
    if call.pc = .allocated ∧ session.lock = none then
      some ((session.registerPending id call.tag call.request.typeId).setPc id .registered)
    else none
  | .write id failure =>
    if (session.calls id).pc = .registered then
      match wire cobs (session.calls id), failure with
      | .error exc, _ => some (session.setPc id (.leaving (.error exc)))
      | .ok _, some text => some (session.setPc id (.leaving (.error (.osError text))))
      | .ok _, none => some (session.setPc id .waiting)
    else none
  | .wake id =>
    if (session.calls id).pc = .waiting ∧ (session.calls id).slot.event = true then
      some (session.setPc id .woken)
    else none
  | .expire id =>
    let call := session.calls id
    if call.pc = .waiting ∧ call.timed = true ∧ call.slot.event = false then
      some (session.setPc id (.leaving (.error (.timeoutError call.timeoutText))))
    else none
  | .readErr id =>
    if (session.calls id).pc = .woken then
      match (session.calls id).slot.err with
      | some exc => some (session.setPc id (.leaving (.error exc)))
      | none => some (session.setPc id .unfailed)
    else none
  | .readResult id =>
    if (session.calls id).pc = .unfailed then
      some (session.setPc id (.leaving (session.calls id).result))
    else none
  | .forget id =>
    match (session.calls id).pc with
    | .leaving outcome =>
      if session.lock = none then
        some ((session.forgetPending (session.calls id).tag).setPc id (.finished outcome))
      else none
    | _ => none
  | .poll =>
    if session.reader = .looping ∧ session.todo .reader = [] then
      some { session with reader := if session.closed then .finishing else .reading }
    else none
  | .receive frame =>
    if session.reader = .reading then some { session with reader := .dispatching frame } else none
  | .corrupt fault =>
    if session.reader = .reading then
      some ({ session with reader := .looping }.setTodo .reader [.putError (.frameError fault.message)])
    else none
  | .idle => if session.reader = .reading then some { session with reader := .looping } else none
  | .hangup => if session.reader = .reading then some { session with reader := .finishing } else none
  | .dispatch frame found =>
    -- An exception out of `_dispatch` is logged, and the loop goes on.
    if session.reader = .dispatching frame ∧ (frame.tag = 0 ∨ session.lock = none) ∧
        found = (session.getPending frame.tag).map Prod.fst then
      match reaction frame (session.getPending frame.tag) with
      | .ok actions => some ({ session with reader := .looping }.setTodo .reader actions)
      | .error _ => some { session with reader := .looping }
    else none
  | .shutdown =>
    if session.reader = .finishing ∧ session.lock = none then
      some ({ session with reader := .ending, lock := some .reader }.setTodo .reader session.shuttingDown)
    else none
  | .close id =>
    if session.closers id = .idle then
      some { session with closed := true, closers := Function.update session.closers id .flagged }
    else none
  | .sweep id =>
    if session.closers id = .flagged ∧ session.lock = none then
      some ({ session with
        lock := some (.closer id)
        closers := Function.update session.closers id .closing }.setTodo (.closer id) session.closing)
    else none
  | .act agent =>
    match session.todo agent with
    | action :: rest => some ((session.apply action).setTodo agent rest)
    | [] => none
  | .next id timed =>
    if session.consumers id = .idle then
      some { session with consumers := Function.update session.consumers id (.getting timed) }
    else none
  | .take id =>
    match session.consumers id, session.rxQueue with
    | .getting _, .event event :: rest =>
      some { session with
        rxQueue := rest
        consumers := Function.update session.consumers id (.returned (some event)) }
    | .getting _, .sentinel :: rest =>
      some { session with rxQueue := rest, consumers := Function.update session.consumers id .reposting }
    | _, _ => none
  | .giveUp id =>
    if session.consumers id = .getting true ∧ session.rxQueue = [] then
      some { session with consumers := Function.update session.consumers id (.returned none) }
    else none
  | .repost id =>
    if session.consumers id = .reposting then
      some { session with
        rxQueue := session.rxQueue ++ [.sentinel]
        consumers := Function.update session.consumers id (.returned none) }
    else none
  | .drain =>
    -- One `get_nowait` of `drain_async_errors`.
    match session.asyncErrors with
    | _ :: rest => some { session with asyncErrors := rest }
    | [] => none

/-- What the body of `_reader_loop` makes of a result of `read_frame` while no other
thread runs. An exception out of `_dispatch` is logged. -/
def takeResult (session : Session) : Except FrameFault Frame → Session
  | .ok frame => match session.dispatch frame with
    | .ok after => after
    | .error _ => session
  | .error fault => session.apply (.putError (.frameError fault.message))

/-- `_reader_loop` over the reads of its transport while no other thread runs, for
at most `calls` calls of `read_frame`. At the end of the reads it is left waiting. -/
def readerLoop : Nat → List (Option UInt8) → Session → Session
  | 0, _, session => session
  | calls + 1, reads, session =>
    if session.closed then session.shuttingDown.foldl apply session
    else match readFrame cobs reads with
      | (.frame frame, rest) => readerLoop calls rest (session.takeResult (.ok frame))
      | (.fault fault, rest) => readerLoop calls rest (session.takeResult (.error fault))
      | (.none, rest) => readerLoop calls rest session
      | (.starved, _) => session

end Session
end DongloraClient
