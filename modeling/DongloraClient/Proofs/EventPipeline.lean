import DongloraClient.Proofs.Dispatch
import DongloraClient.Proofs.FrameSegments
import DongloraClient.Proofs.PayloadCodecs

/-! Asynchronous messages from the device's encoder to the queues of the session. -/

namespace DongloraClient.Proofs.EventPipeline
open Wire Session SessionSteps Raising FrameCodec FrameSegments PayloadCodecs

inductive DeviceMessage where
  | received (event : RxEvent)
  | failed (code : DeviceCode)

namespace DeviceMessage

def typeId : DeviceMessage → Nat
  | received _ => typeRx
  | failed _ => typeErr

def payload : DeviceMessage → Except Exc Bytes
  | received event => event.encode
  | failed code => encodeErrPayload code

def event : DeviceMessage → List RxItem
  | received event => [.event event]
  | failed _ => []

def error : DeviceMessage → List Exc
  | received _ => []
  | failed code => [deviceError (ErrorCode.fromU16 code.value) (some 0)]

/-- Levels in whole tenths, fields in range, a packet of legal size; any 16-bit code. -/
def Sendable : DeviceMessage → Prop
  | received event => Encodable event ∧ event.data.length ≤ maxOtaPayload
  | failed code => code.value < 2 ^ 16

end DeviceMessage

theorem fromU16_value (raw : Nat) : (ErrorCode.fromU16 raw).value = raw := by
  unfold ErrorCode.fromU16
  split
  next code found =>
    have same : code.value = raw := by simpa using List.find?_some found
    exact same
  next => rfl

open DeviceMessage
open Dispatch (acts_run dispatch_run)

section Stream
variable (cobs : Cobs.Codec)

def encodeMessages : List DeviceMessage → Except Exc Bytes
  | [] => return []
  | message :: messages => do
    let payload ← message.payload
    return (← encodeFrame cobs message.typeId 0 payload) ++ (← encodeMessages messages)

/-- The frame of a message: it is accepted by `encode_frame`, and `_dispatch` puts the
message back into its queue. -/
structure Framed (message : DeviceMessage) (frame : Frame) : Prop where
  payload : message.payload = .ok frame.payload
  typeId : frame.typeId = message.typeId
  tag : frame.tag = 0
  valid : Valid frame
  dispatched : ∀ session : Session, session.takeResult (.ok frame) = { session with
    rxQueue := session.rxQueue ++ message.event
    asyncErrors := session.asyncErrors ++ message.error }

theorem framed {message : DeviceMessage} (sendable : message.Sendable) : ∃ frame, Framed message frame := by
  cases message with
  | received packet =>
    obtain ⟨encodable, size⟩ := sendable
    obtain ⟨payload, written⟩ := rxEvent_encodes encodable
    have read := rxEvent_written encodable written
    have length := rxEvent_length written
    have fits : payload.length ≤ maxPayloadField := by
      rw [length, RxEvent.metadataSize, maxPayloadField]
      omega
    have valid : Valid { typeId := typeRx, tag := 0, payload } := ⟨show typeRx ≤ 0xFF by decide, Nat.zero_le _, fits⟩
    refine ⟨{ typeId := typeRx, tag := 0, payload }, written, rfl, rfl, valid, fun session => ?_⟩
    simp [takeResult, dispatch, reaction, read, apply, event, error]
  | failed code =>
    obtain ⟨payload, written, length, read⟩ := errPayload_encodes sendable
    have fits : payload.length ≤ maxPayloadField := by
      rw [length]
      decide
    have valid : Valid { typeId := typeErr, tag := 0, payload } := ⟨show typeErr ≤ 0xFF by decide, Nat.zero_le _, fits⟩
    refine ⟨{ typeId := typeErr, tag := 0, payload }, written, rfl, rfl, valid, fun session => ?_⟩
    simp [takeResult, dispatch, reaction, read, apply, event, error, typeErr, typeRx]

theorem framed_all {messages : List DeviceMessage} (sendable : ∀ message ∈ messages, message.Sendable) :
    ∃ frames, List.Forall₂ Framed messages frames ∧ ∀ frame ∈ frames, Valid frame := by
  induction messages with
  | nil => exact ⟨[], .nil, by simp⟩
  | cons message messages ih =>
    obtain ⟨frame, first⟩ := framed (sendable message List.mem_cons_self)
    obtain ⟨frames, rest, valid⟩ := ih fun message member => sendable message (List.mem_cons_of_mem _ member)
    exact ⟨frame :: frames, .cons first rest, List.forall_mem_cons.mpr ⟨first.valid, valid⟩⟩

theorem encodeMessages_framed {messages : List DeviceMessage} {frames : List Frame}
    (framed : List.Forall₂ Framed messages frames) :
    encodeMessages cobs messages = .ok (frames.flatMap (wire cobs)) := by
  induction framed with
  | nil => rfl
  | @cons message frame messages frames first rest ih =>
    have encoded := encodeFrame_valid cobs first.valid
    rw [first.typeId, first.tag] at encoded
    simp only [encodeMessages, first.payload, ih]
    exact congrArg (fun bytes => bytes >>= fun bytes => Except.ok (bytes ++ frames.flatMap (wire cobs))) encoded

theorem takeResults_framed {messages : List DeviceMessage} {frames : List Frame}
    (framed : List.Forall₂ Framed messages frames) (session : Session) :
    (frames.map .ok).foldl takeResult session = { session with
      rxQueue := session.rxQueue ++ messages.flatMap event
      asyncErrors := session.asyncErrors ++ messages.flatMap error } := by
  induction framed generalizing session with
  | nil => simp
  | cons first rest ih => simp [first.dispatched, ih]

end Stream

section Loop
variable {cobs : Cobs.Codec}

/-- The reader between two calls of `read_frame`, the session open and nobody else at work. -/
structure Waiting (session : Session) : Prop where
  looping : session.reader = .looping
  free : session.lock = none
  done : session.todo .reader = []
  opened : session.closed = false

theorem Waiting.apply {session : Session} (waiting : Waiting session) (action : Action) :
    Waiting (session.apply action) where
  looping := by rw [apply_reader, waiting.looping]
  free := by
    by_cases cleared : action = .clear
    · rw [cleared]
      rfl
    · rw [(apply_table session action cleared).2, waiting.free]
  done := by rw [apply_todo, waiting.done]
  opened := by rw [apply_closed, waiting.opened]

theorem Waiting.foldl {session : Session} (waiting : Waiting session) (actions : List Action) :
    Waiting (actions.foldl Session.apply session) := by
  induction actions generalizing session with
  | nil => exact waiting
  | cons action actions ih => exact ih (waiting.apply action)

theorem dispatch_ok {session after : Session} {frame : Frame} (returned : session.dispatch frame = .ok after) :
    ∃ actions, reaction frame (session.getPending frame.tag) = .ok actions ∧ actions.foldl Session.apply session = after := by
  obtain ⟨actions, ran, same⟩ := bind_ok.mp returned
  exact ⟨actions, ran, pure_ok.mp same⟩

theorem Waiting.takeResult {session : Session} (waiting : Waiting session) (result : Except FrameFault Frame) :
    Waiting (session.takeResult result) := by
  cases result with
  | error fault => exact waiting.apply (.putError (.frameError fault.message))
  | ok frame =>
    simp only [Session.takeResult]
    split
    next returned =>
      obtain ⟨actions, _, rfl⟩ := dispatch_ok returned
      exact waiting.foldl actions
    next => exact waiting

theorem readerLoop_results {calls : Nat} {reads : List (Option UInt8)} {session : Session} (waiting : Waiting session) :
    readerLoop cobs calls reads session = (readerResults cobs calls reads).foldl takeResult session := by
  induction calls generalizing reads session with
  | zero => rfl
  | succ calls ih =>
    simp only [readerLoop, readerResults, waiting.opened]
    cases readFrame cobs reads with
    | mk result rest =>
      cases result with
      | frame frame => exact ih (waiting.takeResult (.ok frame))
      | fault fault => exact ih (waiting.takeResult (.error fault))
      | none => exact ih waiting
      | starved => rfl

theorem takeResult_run (cobs : Cobs.Codec) {session : Session} (waiting : Waiting session) (result : Except FrameFault Frame) :
    ∃ events, Transition.Run (Transition.Steps (step cobs)) session events (session.takeResult result) := by
  have polled : Transition.Steps (step cobs) session .poll { session with reader := .reading } := by
    simp [Transition.Steps, step, waiting.looping, waiting.done, waiting.opened]
  have settled {after : Session} (kept : Waiting after) : after.setTodo .reader [] = after := by
    simp only [setTodo, ← kept.done, Function.update_eq_self]
  have back : ({ session with reader := .looping } : Session) = session := by rw [← waiting.looping]
  cases result with
  | error fault =>
    have corrupted : Transition.Steps (step cobs) { session with reader := .reading } (.corrupt fault)
        (session.setTodo .reader [.putError (.frameError fault.message)]) :=
      congrArg (fun session => some (setTodo session .reader [.putError (.frameError fault.message)])) back
    have acted : Transition.Run (Transition.Steps (step cobs)) _ _ _ :=
      acts_run [.putError (.frameError fault.message)] session
    rw [List.foldl_cons, List.foldl_nil, settled (waiting.apply _)] at acted
    exact ⟨_, (Transition.Run.single polled).append ((Transition.Run.single corrupted).append acted)⟩
  | ok frame =>
    have received : Transition.Steps (step cobs) { session with reader := .reading } (.receive frame)
        { session with reader := .dispatching frame } := rfl
    have started := (Transition.Run.single polled).append (.single received)
    have kept := waiting.takeResult (.ok frame)
    simp only [Session.takeResult] at kept ⊢
    split
    next after returned =>
      have ran : ∃ events, Transition.Run (Transition.Steps (step cobs)) { session with reader := .dispatching frame }
          events (after.setTodo .reader []) := dispatch_run waiting.looping waiting.free returned
      obtain ⟨events, dispatched⟩ := ran
      rw [returned] at kept
      rw [settled kept] at dispatched
      exact ⟨_, started.append dispatched⟩
    next exc raised =>
      have logged : Transition.Steps (step cobs) { session with reader := .dispatching frame }
          (.dispatch frame ((session.getPending frame.tag).map Prod.fst)) session := by
        have refused : reaction frame (session.getPending frame.tag) = .error exc := by
          simp only [dispatch] at raised
          cases ran : reaction frame (session.getPending frame.tag) with
          | ok actions =>
            rw [ran] at raised
            cases raised
          | error other =>
            rw [ran] at raised
            cases raised
            rfl
        have found : ({ session with reader := .dispatching frame } : Session).getPending frame.tag =
            session.getPending frame.tag := rfl
        apply (if_pos ⟨rfl, Or.inr waiting.free, rfl⟩).trans
        rw [found, refused]
        exact congrArg some back
      exact ⟨_, started.append (.single logged)⟩

theorem readerLoop_run (cobs : Cobs.Codec) (calls : Nat) (reads : List (Option UInt8)) {session : Session} (waiting : Waiting session) :
    ∃ events, Transition.Run (Transition.Steps (step cobs)) session events (readerLoop cobs calls reads session) := by
  rw [readerLoop_results waiting]
  generalize readerResults cobs calls reads = results
  induction results generalizing session with
  | nil => exact ⟨[], .nil⟩
  | cons result results ih =>
    obtain ⟨first, taken⟩ := takeResult_run cobs waiting result
    obtain ⟨rest, others⟩ := ih (waiting.takeResult result)
    exact ⟨first ++ rest, taken.append others⟩

end Loop

/-- Whatever the device sends arrives in its queue, in order and nothing besides. -/
theorem events_delivered (cobs : Cobs.StandardCodec) (messages : List DeviceMessage)
    (sendable : ∀ message ∈ messages, message.Sendable) :
    ∃ bytes events after, encodeMessages cobs.toCodec messages = .ok bytes ∧
      readerLoop cobs.toCodec bytes.length (bytes.map some) {} = after ∧
      Transition.Run (Transition.Steps (step cobs.toCodec)) {} events after ∧
      after.rxQueue = messages.flatMap event ∧ after.asyncErrors = messages.flatMap error ∧
      ∀ raw, (ErrorCode.fromU16 raw).value = raw := by
  obtain ⟨frames, framed, valid⟩ := framed_all sendable
  have fresh : Waiting {} := ⟨rfl, rfl, rfl, rfl⟩
  let bytes := frames.flatMap (FrameCodec.wire cobs.toCodec)
  have results : readerResults cobs.toCodec bytes.length (bytes.map some) = frames.map .ok := by
    have whole := streamResults_frames cobs valid
    rwa [streamResults, readAll, List.length_map] at whole
  obtain ⟨events, run⟩ := readerLoop_run cobs.toCodec bytes.length (bytes.map some) fresh
  refine ⟨bytes, events, _, encodeMessages_framed cobs.toCodec framed, rfl, run, ?_⟩
  rw [readerLoop_results fresh, results, takeResults_framed framed]
  exact ⟨rfl, rfl, fromU16_value⟩

/-- A packet of full size, and a radio fault. -/
theorem events_delivered_two :
    let packet : RxEvent := {
      rssiDbm := -973 / 10, snrDb := 95 / 10, freqErrHz := -1200, timestampUs := 1700000
      crcValid := true, packetsDropped := 2, origin := .ota, data := List.replicate 255 0 }
    ∃ bytes events after, encodeMessages Cobs.standard [.received packet, .failed (.named .eradio)] = .ok bytes ∧
      readerLoop Cobs.standard bytes.length (bytes.map some) {} = after ∧
      Transition.Run (Transition.Steps (step Cobs.standard)) {} events after ∧
      after.rxQueue = [.event packet] ∧
      after.asyncErrors = [.deviceError .radioError (.named .eradio) (some 0)] ∧
      ∀ raw, (ErrorCode.fromU16 raw).value = raw := by
  intro packet
  have encodable : Encodable packet := by
    refine ⟨⟨-973, ?_, by decide⟩, ⟨95, ?_, by decide⟩, by decide, by decide, by decide⟩
    · norm_num [packet]
    · norm_num [packet]
  refine events_delivered Cobs.standardCodec _ ?_
  intro message member
  rcases List.mem_pair.mp member with rfl | rfl
  · exact ⟨encodable, Nat.le_of_eq (List.length_replicate ..)⟩
  · show ErrorCode.value .eradio < 2 ^ 16
    decide

end DongloraClient.Proofs.EventPipeline
