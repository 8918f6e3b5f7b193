import DongloraClient.Proofs.EventPipeline
import DongloraClient.Proofs.InfoCodec
import DongloraClient.Proofs.SessionTags

/-! Replies from the device's encoder to the callers that wait for them, among whatever
else the device sends. -/

namespace DongloraClient.Proofs.ReplyPipeline
open Wire Session SessionSteps SessionTable SessionTags Raising FrameCodec FrameSegments PayloadCodecs EventPipeline

/-- What a device answers to a command. -/
inductive DeviceReply where
  | empty
  | info (info : Info)
  | setConfig (result : SetConfigResult)
  | txDone (done : TxDone)
  | refused (code : DeviceCode)

namespace DeviceReply

def typeId : DeviceReply → Nat
  | empty | info _ | setConfig _ => typeOk
  | txDone _ => typeTxDone
  | refused _ => typeErr

def payload : DeviceReply → Except Exc Bytes
  | empty => return []
  | info contents => contents.encode
  | setConfig result => result.encode
  | txDone done => done.encode
  | refused code => encodeErrPayload code

def Suits (cmdType : Nat) : DeviceReply → Prop
  | empty => cmdType ∈ [typePing, typeTx, typeRxStart, typeRxStop]
  | info contents => cmdType = typeGetInfo ∧ InfoCodec.Fits contents ∧ contents.mcuUid.length ≤ maxMcuUidLen ∧
      contents.radioUid.length ≤ maxRadioUidLen
  | setConfig result => cmdType = typeSetConfig ∧ ∃ data, result.encode = .ok data
  | txDone done => cmdType = typeTx ∧ done.airtimeUs < 2 ^ 32
  | refused code => code.value < 2 ^ 16

def outcome (tag : Nat) : DeviceReply → Outcome
  | empty => .ok (.ok .none)
  | info contents => .ok (.ok (.info contents))
  | setConfig result => .ok (.ok (.setConfig result))
  | txDone done => match done.result with
    | .transmitted => .ok (.txDone done)
    | .channelBusy => .error .channelBusy
    | .cancelled => .error .cancelled
  | refused code => .error (deviceError (ErrorCode.fromU16 code.value) (some tag))

/-- What it leaves in the slot of the command. An `OK` to a `TX` does not signal it. -/
def fill (call : Call) : DeviceReply → Pending
  | empty =>
    if call.request.typeId = typeTx then { call.slot with okPayload := .none }
    else { call.slot with okPayload := .none, event := true }
  | info contents => { call.slot with okPayload := .info contents, event := true }
  | setConfig result => { call.slot with okPayload := .setConfig result, event := true }
  | txDone done => match done.result with
    | .transmitted => { call.slot with txDone := some done, event := true }
    | .channelBusy => { call.slot with err := some .channelBusy, event := true }
    | .cancelled => { call.slot with err := some .cancelled, event := true }
  | refused code =>
    { call.slot with err := some (deviceError (ErrorCode.fromU16 code.value) (some call.tag)), event := true }

def Says (payload : Bytes) : DeviceReply → Prop
  | empty => payload = []
  | info contents => Info.decode payload = .ok contents
  | setConfig result => SetConfigResult.decode payload = .ok result
  | txDone done => TxDone.decode payload = .ok done
  | refused code => decodeErrPayload payload = .ok (ErrorCode.fromU16 code.value)

end DeviceReply

section Payloads

instance : IntEnum.Lawful TxResult := ⟨by intro member; cases member <;> decide, by decide⟩

theorem txDone_written {done : TxDone} {data : Bytes} (written : done.encode = .ok data) :
    data.length = 5 ∧ TxDone.decode data = .ok done := by
  simp only [TxDone.encode, bind_ok, pure_ok, byteOf_ok, packUnsigned_ok, Nat.cast_inj] at written
  obtain ⟨_, ⟨b0, rfl, result⟩, airtime, ⟨width, value⟩, rfl⟩ := written
  match airtime, width with
  | [b1, b2, b3, b4], _ =>
    refine ⟨rfl, reject_ok.mpr ⟨by simp, ?_⟩⟩
    simp [bind_ok, byteAt, unpackUnsigned, slice, IntEnum.ofValue_ok, -bind_pure_comp]
    exact ⟨_, result, by rw [← value]; rfl⟩

theorem txDone_encodes {done : TxDone} (small : done.airtimeUs < 2 ^ 32) : ∃ payload, done.encode = .ok payload := by
  have result : byteOf (IntEnum.value done.result) = .ok [UInt8.ofNat (IntEnum.value done.result)] := by
    cases done.result <;> rfl
  have fits : FitsUnsigned 4 done.airtimeUs := ⟨by omega, by exact_mod_cast small⟩
  simp only [TxDone.encode, result, packUnsigned_fits fits]
  exact ⟨_, rfl⟩

theorem fsk_short {config : FskConfig} {data : Bytes} (written : config.encode = .ok data) : data.length ≤ 24 := by
  obtain ⟨short, written⟩ := reject_ok.mp written
  simp only [bind_ok, pure_ok, packUnsigned_ok, byteOf_ok] at written
  obtain ⟨freqHz, ⟨freqWidth, _⟩, bitrateBps, ⟨bitrateWidth, _⟩, freqDevHz, ⟨devWidth, _⟩, _, ⟨b12, rfl, _⟩,
    preambleLen, ⟨preambleWidth, _⟩, _, ⟨b15, rfl, _⟩, rfl⟩ := written
  simp only [List.length_append, List.length_singleton, freqWidth, bitrateWidth, devWidth, preambleWidth]
  omega

theorem modulation_short {modulation : Modulation} {data : Bytes} (written : encodeModulation modulation = .ok data) :
    data.length ≤ 25 := by
  cases modulation with
  | lora config =>
    obtain ⟨params, encoded, same⟩ := bind_ok.mp written
    cases same
    have length := not_not.mp (reject_ok.mp (lora_written encoded)).1
    simp [length]
  | fsk config =>
    obtain ⟨params, encoded, same⟩ := bind_ok.mp written
    cases same
    have length := fsk_short encoded
    simp only [List.length_append, leBytes_length]
    omega
  | lrFhss config =>
    obtain ⟨params, encoded, same⟩ := bind_ok.mp written
    cases same
    have length := not_not.mp (reject_ok.mp (lrFhss_written encoded)).1
    simp [length]
  | flrc config =>
    obtain ⟨params, encoded, same⟩ := bind_ok.mp written
    cases same
    have length := not_not.mp (reject_ok.mp (flrc_written encoded)).1
    simp [length]

theorem setConfigResult_short {result : SetConfigResult} {data : Bytes} (written : result.encode = .ok data) :
    data.length ≤ 27 := by
  simp only [SetConfigResult.encode, bind_ok, pure_ok, byteOf_ok] at written
  obtain ⟨_, ⟨b0, rfl, _⟩, _, ⟨b1, rfl, _⟩, current, encoded, rfl⟩ := written
  have short := modulation_short encoded
  simp only [List.length_append, List.length_singleton]
  omega

theorem info_short {info : Info} (mcu : info.mcuUid.length ≤ maxMcuUidLen) (radio : info.radioUid.length ≤ maxRadioUidLen) :
    (InfoCodec.wire info []).length ≤ 85 := by
  have tail : (InfoCodec.wire info []).length = 36 + (info.mcuUid.length + (1 + info.radioUid.length)) := by
    simp [InfoCodec.wire, InfoCodec.header_length]
  rw [tail]
  simp only [maxMcuUidLen, maxRadioUidLen] at mcu radio
  omega

/-- The payload of a reply fits into a frame and says what was meant. -/
theorem reply_encodes {reply : DeviceReply} {cmdType : Nat} (suits : reply.Suits cmdType) :
    ∃ payload, reply.payload = .ok payload ∧ payload.length ≤ maxPayloadField ∧ reply.Says payload := by
  have cap : 85 ≤ maxPayloadField := by decide
  cases reply with
  | empty => exact ⟨[], rfl, Nat.zero_le _, rfl⟩
  | info contents =>
    obtain ⟨_, fits, mcu, radio⟩ := suits
    exact ⟨_, InfoCodec.encode_wire fits mcu radio, (info_short mcu radio).trans cap, InfoCodec.decode_wire fits mcu radio []⟩
  | setConfig result =>
    obtain ⟨_, payload, written⟩ := suits
    exact ⟨payload, written, (setConfigResult_short written).trans (by omega), setConfigResult_written written⟩
  | txDone done =>
    obtain ⟨payload, written⟩ := txDone_encodes suits.2
    obtain ⟨length, read⟩ := txDone_written written
    exact ⟨payload, written, by omega, read⟩
  | refused code =>
    obtain ⟨payload, written, length, read⟩ := errPayload_encodes suits
    exact ⟨payload, written, by omega, read⟩

end Payloads

/-- What a device sends: news of its own, or a reply to a command. -/
inductive Sent where
  | news (message : DeviceMessage)
  | answer (id : Nat) (reply : DeviceReply)

namespace Sent

def typeId : Sent → Nat
  | news message => message.typeId
  | answer _ reply => reply.typeId

def tag (session : Session) : Sent → Nat
  | news _ => 0
  | answer id _ => (session.calls id).tag

def payload : Sent → Except Exc Bytes
  | news message => message.payload
  | answer _ reply => reply.payload

def event : Sent → List RxItem
  | news message => message.event
  | answer _ _ => []

def error : Sent → List Exc
  | news message => message.error
  | answer _ _ => []

def replyTo (id : Nat) : Sent → Option DeviceReply
  | news _ => none
  | answer owner reply => if owner = id then some reply else none

end Sent

structure Pends (session : Session) (id : Nat) : Prop where
  listed : session.pending.lookup (session.calls id).tag = some id
  nonzero : (session.calls id).tag ≠ 0
  small : (session.calls id).tag ≤ 0xFFFF
  cmdType : (session.calls id).slot.cmdType = (session.calls id).request.typeId

def Sendable (session : Session) : Sent → Prop
  | .news message => message.Sendable
  | .answer id reply => Pends session id ∧ reply.Suits (session.calls id).request.typeId

def answered (call : Call) (reply : DeviceReply) : Call := { call with slot := reply.fill call }

def deliver (session : Session) : Sent → Session
  | .news message => { session with
    rxQueue := session.rxQueue ++ message.event
    asyncErrors := session.asyncErrors ++ message.error }
  | .answer id reply => session.setCall id (answered (session.calls id) reply)

def encodeSent (cobs : Cobs.Codec) (session : Session) : List Sent → Except Exc Bytes
  | [] => return []
  | sent :: rest => do
    let payload ← sent.payload
    return (← encodeFrame cobs sent.typeId (sent.tag session) payload) ++ (← encodeSent cobs session rest)

section Delivery
variable {session later : Session} {id : Nat}

/-- Nothing has happened to the commands but to what their slots hold. -/
structure Onward (session later : Session) : Prop where
  tag : ∀ id, (later.calls id).tag = (session.calls id).tag
  request : ∀ id, (later.calls id).request = (session.calls id).request
  pends : ∀ id, Pends session id → Pends later id

theorem fill_cmdType (call : Call) (reply : DeviceReply) : (reply.fill call).cmdType = call.slot.cmdType := by
  cases reply with
  | empty =>
    simp only [DeviceReply.fill]
    split <;> rfl
  | txDone done =>
    simp only [DeviceReply.fill]
    split <;> rfl
  | info | setConfig | refused => rfl

theorem deliver_calls (sent : Sent) : (deliver session sent).calls id = (sent.replyTo id).elim (session.calls id) (answered (session.calls id)) := by
  cases sent with
  | news => rfl
  | answer owner reply =>
    simp only [deliver, setCall_calls, Sent.replyTo]
    by_cases same : id = owner
    · subst same
      simp
    · rw [if_neg same, if_neg (Ne.symm same)]
      rfl

theorem onward_deliver (sent : Sent) (onward : Onward session later) : Onward session (deliver later sent) := by
  have calls (id : Nat) : ((deliver later sent).calls id).tag = (later.calls id).tag ∧
      ((deliver later sent).calls id).request = (later.calls id).request ∧
      ((deliver later sent).calls id).slot.cmdType = (later.calls id).slot.cmdType := by
    rw [deliver_calls]
    cases sent.replyTo id with
    | none => exact ⟨rfl, rfl, rfl⟩
    | some reply => exact ⟨rfl, rfl, fill_cmdType _ reply⟩
  have table : (deliver later sent).pending = later.pending := by cases sent <;> rfl
  refine ⟨fun id => (calls id).1.trans (onward.tag id), fun id => (calls id).2.1.trans (onward.request id), fun id pends => ?_⟩
  obtain ⟨tag, request, cmdType⟩ := calls id
  obtain ⟨listed, nonzero, small, same⟩ := onward.pends id pends
  exact ⟨by rw [table, tag, listed], tag ▸ nonzero, tag ▸ small, by rw [cmdType, request, same]⟩

theorem signal_setSlot (slot : Pending) :
    (session.setSlot id slot).apply (.signal id) = session.setSlot id { slot with event := true } := by
  simp only [Session.apply, setSlot, setCall, Function.update_self, Function.update_idem]

theorem parse_empty {cmdType : Nat} (plain : cmdType ∈ [typePing, typeTx, typeRxStart, typeRxStop]) :
    parseOkPayload cmdType [] = .ok .none := by
  rw [parseOkPayload, if_pos plain, if_neg (not_not.mpr rfl)]
  rfl

theorem takeResult_reaction {frame : Frame} {actions : List Action}
    (ran : reaction frame (session.getPending frame.tag) = .ok actions) :
    session.takeResult (.ok frame) = actions.foldl Session.apply session := by
  simp only [takeResult, dispatch, ran]
  rfl

theorem looks_up (pends : Pends session id) :
    session.getPending (session.calls id).tag = some (id, (session.calls id).request.typeId) := by
  rw [getPending, if_neg pends.nonzero, pends.listed, Option.map_some, pends.cmdType]

theorem takeResult_ok {payload : Bytes} {value : OkValue} (pends : Pends session id)
    (single : (session.calls id).request.typeId ≠ typeTx)
    (parsed : parseOkPayload (session.calls id).request.typeId payload = .ok value) :
    session.takeResult (.ok { typeId := typeOk, tag := (session.calls id).tag, payload }) =
      session.setSlot id { (session.calls id).slot with okPayload := value, event := true } := by
  have ran : reaction { typeId := typeOk, tag := (session.calls id).tag, payload }
      (session.getPending (session.calls id).tag) = .ok [.setOk id value, .signal id] := by
    simp [reaction, pends.nonzero, looks_up pends, parsed, single]
  rw [takeResult_reaction ran]
  exact signal_setSlot _

theorem takeResult_error {frame : Frame} (id : Nat) {exc : Exc}
    (ran : reaction frame (session.getPending frame.tag) = .ok [.setErr id exc, .signal id]) :
    session.takeResult (.ok frame) = session.setSlot id { (session.calls id).slot with err := some exc, event := true } := by
  rw [takeResult_reaction ran]
  exact signal_setSlot _

theorem takeResult_answer {reply : DeviceReply} {payload : Bytes} (pends : Pends session id)
    (suits : reply.Suits (session.calls id).request.typeId) (meant : reply.Says payload) :
    session.takeResult (.ok { typeId := reply.typeId, tag := (session.calls id).tag, payload }) =
      deliver session (.answer id reply) := by
  cases reply with
  | empty =>
    cases meant
    by_cases tx : (session.calls id).request.typeId = typeTx
    · have parsed : parseOkPayload typeTx [] = .ok .none := parse_empty (by decide)
      have ran : reaction { typeId := typeOk, tag := (session.calls id).tag, payload := [] }
          (session.getPending (session.calls id).tag) = .ok [.setOk id .none] := by
        simp [reaction, pends.nonzero, looks_up pends, tx, parsed]
      rw [deliver, answered, DeviceReply.fill, if_pos tx]
      exact takeResult_reaction ran
    · rw [deliver, answered, DeviceReply.fill, if_neg tx]
      exact takeResult_ok pends tx (parse_empty suits)
  | info contents =>
    have single : (session.calls id).request.typeId ≠ typeTx := by
      rw [suits.1]
      decide
    refine takeResult_ok pends single ?_
    rw [suits.1]
    change (do return OkValue.info (← Info.decode payload)) = _
    rw [meant]
    rfl
  | setConfig result =>
    have single : (session.calls id).request.typeId ≠ typeTx := by
      rw [suits.1]
      decide
    refine takeResult_ok pends single ?_
    rw [suits.1]
    change (do return OkValue.setConfig (← SetConfigResult.decode payload)) = _
    rw [meant]
    rfl
  | txDone done =>
    have read : TxDone.decode payload = .ok done := meant
    obtain ⟨result, airtimeUs⟩ := done
    cases result with
    | transmitted =>
      have ran : reaction { typeId := typeTxDone, tag := (session.calls id).tag, payload }
          (session.getPending (session.calls id).tag) = .ok [.setTxDone id ⟨.transmitted, airtimeUs⟩, .signal id] := by
        simp [reaction, pends.nonzero, looks_up pends, read, typeTxDone, typeOk, typeErr]
      refine (takeResult_reaction ran).trans ?_
      exact signal_setSlot _
    | channelBusy =>
      refine takeResult_error id ?_
      simp [reaction, pends.nonzero, looks_up pends, read, DeviceReply.typeId, typeTxDone, typeOk, typeErr]
    | cancelled =>
      refine takeResult_error id ?_
      simp [reaction, pends.nonzero, looks_up pends, read, DeviceReply.typeId, typeTxDone, typeOk, typeErr]
  | refused code =>
    have read : decodeErrPayload payload = .ok (ErrorCode.fromU16 code.value) := meant
    refine takeResult_error id ?_
    simp [reaction, pends.nonzero, looks_up pends, read, DeviceReply.typeId, typeOk, typeErr]

/-- The frame of a message: it is accepted by `encode_frame`, and the reader makes of it what
was meant, whatever it has handled in between. -/
structure Arrives (session : Session) (sent : Sent) (frame : Frame) : Prop where
  payload : sent.payload = .ok frame.payload
  typeId : frame.typeId = sent.typeId
  tag : frame.tag = sent.tag session
  valid : Valid frame
  taken : ∀ later, Onward session later → later.takeResult (.ok frame) = deliver later sent

theorem arrives {sent : Sent} (sendable : Sendable session sent) : ∃ frame, Arrives session sent frame := by
  cases sent with
  | news message =>
    obtain ⟨frame, framed⟩ := framed sendable
    exact ⟨frame, framed.payload, framed.typeId, framed.tag, framed.valid, fun later _ => framed.dispatched later⟩
  | answer id reply =>
    obtain ⟨pends, suits⟩ := sendable
    obtain ⟨payload, written, short, meant⟩ := reply_encodes suits
    have byte : reply.typeId ≤ 0xFF := by cases reply <;> simp [DeviceReply.typeId, typeOk, typeErr, typeTxDone]
    refine ⟨{ typeId := reply.typeId, tag := (session.calls id).tag, payload }, written, rfl, rfl,
      ⟨byte, pends.small, short⟩, fun later onward => ?_⟩
    rw [← onward.tag id]
    refine takeResult_answer (onward.pends id pends) ?_ meant
    rw [onward.request id]
    exact suits

theorem arrive_all {messages : List Sent} (sendable : ∀ sent ∈ messages, Sendable session sent) :
    ∃ frames, List.Forall₂ (Arrives session) messages frames ∧ ∀ frame ∈ frames, Valid frame := by
  induction messages with
  | nil => exact ⟨[], .nil, by simp⟩
  | cons sent messages ih =>
    obtain ⟨frame, first⟩ := arrives (sendable sent List.mem_cons_self)
    obtain ⟨frames, rest, valid⟩ := ih fun sent member => sendable sent (List.mem_cons_of_mem _ member)
    exact ⟨frame :: frames, .cons first rest, List.forall_mem_cons.mpr ⟨first.valid, valid⟩⟩

theorem encodeSent_arrives (cobs : Cobs.Codec) {messages : List Sent} {frames : List Frame}
    (arriving : List.Forall₂ (Arrives session) messages frames) :
    encodeSent cobs session messages = .ok (frames.flatMap (wire cobs)) := by
  induction arriving with
  | nil => rfl
  | @cons sent frame messages frames first rest ih =>
    have encoded := encodeFrame_valid cobs first.valid
    rw [first.typeId, first.tag] at encoded
    simp only [encodeSent, first.payload, ih]
    exact congrArg (fun bytes => bytes >>= fun bytes => Except.ok (bytes ++ frames.flatMap (wire cobs))) encoded

theorem takeResults_arrive {messages : List Sent} {frames : List Frame}
    (arriving : List.Forall₂ (Arrives session) messages frames) (onward : Onward session later) :
    (frames.map .ok).foldl takeResult later = messages.foldl deliver later := by
  induction arriving generalizing later with
  | nil => rfl
  | cons first rest ih =>
    rw [List.map_cons, List.foldl_cons, List.foldl_cons, first.taken later onward]
    exact ih (onward_deliver _ onward)

/-- What becomes of the session, apart from its slots. -/
theorem deliver_queues (session : Session) (messages : List Sent) :
    (messages.foldl deliver session).rxQueue = session.rxQueue ++ messages.flatMap Sent.event ∧
      (messages.foldl deliver session).asyncErrors = session.asyncErrors ++ messages.flatMap Sent.error ∧
      (messages.foldl deliver session).lock = session.lock := by
  induction messages generalizing session with
  | nil => simp
  | cons sent messages ih =>
    obtain ⟨queue, errors, lock⟩ := ih (deliver session sent)
    rw [List.foldl_cons, List.flatMap_cons, List.flatMap_cons, queue, errors, lock]
    cases sent <;> simp [deliver, setCall, Sent.event, Sent.error]

theorem delivered_calls (messages : List Sent) (id : Nat) :
    (messages.foldl deliver session).calls id = (messages.filterMap (Sent.replyTo id)).foldl answered (session.calls id) := by
  induction messages generalizing session with
  | nil => rfl
  | cons sent messages ih =>
    rw [List.foldl_cons, ih, deliver_calls, List.filterMap_cons]
    cases sent.replyTo id <;> rfl

structure Unanswered (call : Call) : Prop where
  waiting : call.pc = .waiting
  slot : call.slot = { tag := call.tag, cmdType := call.request.typeId }

/-- The replies a command gets in all: the one that ends it, and before it any number of
acknowledgements of a `TX`. -/
structure Answers (call : Call) (replies : List DeviceReply) (reply : DeviceReply) : Prop where
  suits : reply.Suits call.request.typeId
  ends : reply = .empty → call.request.typeId ≠ typeTx
  replies : ∃ earlier, replies = earlier ++ [reply] ∧ ∀ ack ∈ earlier, ack = .empty ∧ call.request.typeId = typeTx

theorem answered_acks {call : Call} (unanswered : Unanswered call) {acks : List DeviceReply}
    (enqueued : ∀ ack ∈ acks, ack = .empty ∧ call.request.typeId = typeTx) : acks.foldl answered call = call := by
  induction acks with
  | nil => rfl
  | cons ack acks ih =>
    obtain ⟨rfl, tx⟩ := enqueued ack List.mem_cons_self
    have same : answered call .empty = call := by
      rw [answered, DeviceReply.fill, if_pos tx, unanswered.slot]
      rw [← unanswered.slot]
    rw [List.foldl_cons, same]
    exact ih fun ack member => enqueued ack (List.mem_cons_of_mem _ member)

/-- A command that has been signalled goes on to its end. -/
theorem caller_ends (cobs : Cobs.Codec) (waiting : (session.calls id).pc = .waiting)
    (signalled : (session.calls id).slot.event = true) (unlocked : session.lock = none) :
    ∃ events last, Transition.Run (Transition.Steps (step cobs)) session events last ∧
      (last.calls id).pc = .finished ((session.calls id).slot.err.elim (session.calls id).result .error) := by
  have woken : Transition.Steps (step cobs) session (.wake id) (session.setPc id .woken) := if_pos ⟨waiting, signalled⟩
  have forgotten {outcome : Outcome} {state : Session} (leaving : (state.calls id).pc = .leaving outcome)
      (free : state.lock = none) : ∃ last, Transition.Steps (step cobs) state (.forget id) last ∧
        (last.calls id).pc = .finished outcome := by
    refine ⟨(state.forgetPending (state.calls id).tag).setPc id (.finished outcome), ?_, by simp⟩
    simp [Transition.Steps, step, leaving, free]
  cases raised : (session.calls id).slot.err with
  | some exc =>
    have failed : Transition.Steps (step cobs) (session.setPc id .woken) (.readErr id)
        ((session.setPc id .woken).setPc id (.leaving (.error exc))) := by
      simp [Transition.Steps, step, raised]
    let leaving := (session.setPc id .woken).setPc id (.leaving (.error exc))
    have place : (leaving.calls id).pc = .leaving (.error exc) := by simp [leaving]
    obtain ⟨last, left, finished⟩ := forgotten place unlocked
    exact ⟨_, last, (((Transition.Run.single woken).snoc failed).snoc left), finished⟩
  | none =>
    have clear : Transition.Steps (step cobs) (session.setPc id .woken) (.readErr id)
        ((session.setPc id .woken).setPc id .unfailed) := by
      simp [Transition.Steps, step, raised]
    let unfailed := (session.setPc id .woken).setPc id .unfailed
    have same : (unfailed.calls id).result = (session.calls id).result := by
      simp only [unfailed, setPc_calls, if_true]
      rfl
    have returned : Transition.Steps (step cobs) unfailed (.readResult id)
        (unfailed.setPc id (.leaving (session.calls id).result)) := by
      rw [← same]
      exact if_pos (by simp [unfailed])
    let leaving := unfailed.setPc id (.leaving (session.calls id).result)
    have place : (leaving.calls id).pc = .leaving (session.calls id).result := by simp [leaving]
    obtain ⟨last, left, finished⟩ := forgotten place unlocked
    exact ⟨_, last, ((((Transition.Run.single woken).snoc clear).snoc returned).snoc left), finished⟩

/-- What the slot says is what the reply meant. -/
theorem answered_outcome {call : Call} {reply : DeviceReply} (unanswered : Unanswered call)
    (suits : reply.Suits call.request.typeId) (ends : reply = .empty → call.request.typeId ≠ typeTx) :
    (answered call reply).slot.event = true ∧
      (answered call reply).slot.err.elim (answered call reply).result .error = reply.outcome call.tag := by
  have blank : call.slot.err = none := by rw [unanswered.slot]
  have single (value : OkValue) (other : call.request.typeId ≠ typeTx) :
      let filled := { call with slot := { call.slot with okPayload := value, event := true } }
      filled.slot.event = true ∧ filled.slot.err.elim filled.result .error = .ok (.ok value) := by
    refine ⟨rfl, ?_⟩
    simp only [blank, Option.elim]
    exact if_neg other
  cases reply with
  | empty =>
    rw [answered, DeviceReply.fill, if_neg (ends rfl)]
    exact single _ (ends rfl)
  | info contents =>
    refine single _ ?_
    rw [suits.1]
    decide
  | setConfig result =>
    refine single _ ?_
    rw [suits.1]
    decide
  | txDone done =>
    obtain ⟨result, airtimeUs⟩ := done
    cases result with
    | transmitted =>
      refine ⟨rfl, ?_⟩
      simp [answered, DeviceReply.fill, blank, Call.result, suits.1, DeviceReply.outcome]
    | channelBusy | cancelled => exact ⟨rfl, rfl⟩
  | refused => exact ⟨rfl, rfl⟩

end Delivery

/-- Whatever the device sends, in whatever order, a command that it answers returns or
raises exactly what the answer says, and its news arrives in the queues. -/
theorem replies_delivered (cobs : Cobs.StandardCodec) {events : List Step} {session : Session}
    (run : Transition.Run (Transition.Steps (step cobs.toCodec)) {} events session) (waiting : Waiting session) (messages : List Sent)
    (sendable : ∀ sent ∈ messages, Sendable session sent) :
    ∃ bytes more after, encodeSent cobs.toCodec session messages = .ok bytes ∧
      readerLoop cobs.toCodec bytes.length (bytes.map some) session = after ∧
      Transition.Run (Transition.Steps (step cobs.toCodec)) {} (events ++ more) after ∧
      after.rxQueue = session.rxQueue ++ messages.flatMap Sent.event ∧
      after.asyncErrors = session.asyncErrors ++ messages.flatMap Sent.error ∧
      ∀ id reply, Unanswered (session.calls id) →
        Answers (session.calls id) (messages.filterMap (Sent.replyTo id)) reply →
        ∃ steps last, Transition.Run (Transition.Steps (step cobs.toCodec)) after steps last ∧
          (last.calls id).pc = .finished (reply.outcome (session.calls id).tag) := by
  obtain ⟨frames, arriving, valid⟩ := arrive_all sendable
  let bytes := frames.flatMap (FrameCodec.wire cobs.toCodec)
  have results : readerResults cobs.toCodec bytes.length (bytes.map some) = frames.map .ok := by
    have whole := streamResults_frames cobs valid
    rwa [streamResults, readAll, List.length_map] at whole
  obtain ⟨more, rest⟩ := readerLoop_run cobs.toCodec bytes.length (bytes.map some) waiting
  have looped : readerLoop cobs.toCodec bytes.length (bytes.map some) session = messages.foldl deliver session := by
    rw [readerLoop_results waiting, results]
    exact takeResults_arrive arriving ⟨fun _ => rfl, fun _ => rfl, fun _ pends => pends⟩
  obtain ⟨queue, errors, lock⟩ := deliver_queues session messages
  refine ⟨bytes, more, _, encodeSent_arrives cobs.toCodec arriving, rfl, run.append rest, looped ▸ queue, looped ▸ errors, ?_⟩
  intro id reply unanswered answers
  obtain ⟨earlier, replies, acks⟩ := answers.replies
  have ended : (messages.foldl deliver session).calls id = answered (session.calls id) reply := by
    rw [delivered_calls, replies, List.foldl_append, answered_acks unanswered acks]
    rfl
  obtain ⟨signalled, outcome⟩ := answered_outcome unanswered answers.suits answers.ends
  rw [looped, ← outcome, ← ended]
  refine caller_ends cobs.toCodec ?_ ?_ (lock.trans waiting.free)
  · rw [ended]
    exact unanswered.waiting
  · rw [ended]
    exact signalled

def twoWaiting : List Step :=
  [.begin 0 .getInfo true, .begin 1 (.transmit [0x48, 0x69] false) true, .alloc 0, .alloc 1, .register 0, .register 1,
    .write 1 none, .write 0 none]

/-- The replies to both, out of order and with a fault of the radio between them. -/
def mingled : List Sent :=
  [.answer 1 .empty, .answer 0 (.info InfoCodec.sampleInfo), .news (.failed (.named .eradio)),
    .answer 1 (.txDone { result := .transmitted, airtimeUs := 10000 })]

theorem replies_delivered_mingled : ∃ session bytes after,
    Transition.Run (Transition.Steps (step Cobs.standard)) {} twoWaiting session ∧
      encodeSent Cobs.standard session mingled = .ok bytes ∧
      readerLoop Cobs.standard bytes.length (bytes.map some) session = after ∧
      (∃ steps last, Transition.Run (Transition.Steps (step Cobs.standard)) after steps last ∧
        (last.calls 0).pc = .finished (.ok (.ok (.info InfoCodec.sampleInfo)))) ∧
      ∃ steps last, Transition.Run (Transition.Steps (step Cobs.standard)) after steps last ∧
        (last.calls 1).pc = .finished (.ok (.txDone { result := .transmitted, airtimeUs := 10000 })) := by
  let info : Call := { request := .getInfo, pc := .waiting, tag := 1, slot := { tag := 1, cmdType := typeGetInfo } }
  let tx : Call := {
    request := .transmit [0x48, 0x69] false, pc := .waiting, tag := 2, slot := { tag := 2, cmdType := typeTx } }
  have reads : (Transition.execute (step Cobs.standard) {} twoWaiting).map (fun session =>
      (session.reader, session.lock, session.todo .reader, session.closed)) = some (.looping, none, [], false) := by
    decide +kernel
  have waits : (Transition.execute (step Cobs.standard) {} twoWaiting).map (fun session =>
      [(session.calls 0, session.getPending 1), (session.calls 1, session.getPending 2)]) =
      some [(info, some (0, typeGetInfo)), (tx, some (1, typeTx))] := by decide +kernel
  obtain ⟨session, executed, quiet⟩ := Option.map_eq_some_iff.mp reads
  rw [executed] at waits
  have run := Transition.execute_run executed
  simp only [Option.map_some, Option.some.injEq, List.cons.injEq, Prod.mk.injEq, and_true] at waits quiet
  obtain ⟨⟨first, one⟩, second, two⟩ := waits
  have waiting : Waiting session := ⟨quiet.1, quiet.2.1, quiet.2.2.1, quiet.2.2.2⟩
  have sound := Sound.reachable run
  have pendsInfo : Pends session 0 := by
    constructor <;> rw [first] <;> first | exact (sound.found one).2.1 | decide
  have pendsTx : Pends session 1 := by
    constructor <;> rw [second] <;> first | exact (sound.found two).2.1 | decide
  have suitsInfo : (DeviceReply.info InfoCodec.sampleInfo).Suits (session.calls 0).request.typeId := by
    rw [first]
    exact ⟨rfl, by constructor <;> decide, by decide, by decide⟩
  have suitsTx : (DeviceReply.txDone { result := .transmitted, airtimeUs := 10000 }).Suits (session.calls 1).request.typeId := by
    rw [second]
    exact ⟨rfl, by decide⟩
  have suitsAck : DeviceReply.empty.Suits (session.calls 1).request.typeId := by
    rw [second]
    change typeTx ∈ [typePing, typeTx, typeRxStart, typeRxStop]
    decide
  have small : DeviceMessage.Sendable (.failed (.named .eradio)) := by
    show ErrorCode.value .eradio < 2 ^ 16
    decide
  have sendable : ∀ sent ∈ mingled, Sendable session sent := by
    simp only [mingled, List.forall_mem_cons]
    exact ⟨⟨pendsTx, suitsAck⟩, ⟨pendsInfo, suitsInfo⟩, small, ⟨pendsTx, suitsTx⟩, List.forall_mem_nil _⟩
  obtain ⟨bytes, more, after, encoded, looped, _, _, _, ends⟩ :=
    replies_delivered Cobs.standardCodec run waiting mingled sendable
  refine ⟨session, bytes, after, run, encoded, looped, ?_, ?_⟩
  · refine ends 0 _ ⟨by rw [first], by rw [first]; rfl⟩ ⟨suitsInfo, nofun, [], rfl, List.forall_mem_nil _⟩
  · refine ends 1 _ ⟨by rw [second], by rw [second]; rfl⟩ ⟨suitsTx, nofun, [.empty], rfl, ?_⟩
    rw [second]
    simp [tx, Request.typeId]

end DongloraClient.Proofs.ReplyPipeline
