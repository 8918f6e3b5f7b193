import DongloraClient.Proofs.Decoding
import DongloraClient.Proofs.SessionTable

/-! What `_dispatch` makes of a frame: which statements it executes, when it raises
instead, and what has become of the frame afterwards. -/

namespace DongloraClient.Proofs.Dispatch
open Session SessionSteps Decoding

/-- The errors a frame can leave in the slot it names. -/
inductive Refusal (frame : Frame) : Exc → Prop where
  | badOk (text : String) : frame.typeId = typeOk → Refusal frame (.dongloraError text)
  | device (code : DeviceCode) : frame.typeId = typeErr → decodeErrPayload frame.payload = .ok code →
      Refusal frame (deviceError code (some frame.tag))
  | badDone (text : String) : frame.typeId = typeTxDone → Refusal frame (.dongloraError text)
  | busy (done : TxDone) : frame.typeId = typeTxDone → TxDone.decode frame.payload = .ok done →
      done.result = .channelBusy → Refusal frame .channelBusy
  | cancelled (done : TxDone) : frame.typeId = typeTxDone → TxDone.decode frame.payload = .ok done →
      done.result = .cancelled → Refusal frame .cancelled

theorem Refusal.donglora {frame : Frame} {exc : Exc} (refusal : Refusal frame exc) : exc.isDonglora = true := by
  cases refusal <;> rfl

inductive Reacted (frame : Frame) (pending : Option (Nat × Nat)) : List Action → Prop where
  | unknown : frame.tag = 0 → frame.typeId ≠ typeRx → frame.typeId ≠ typeErr → Reacted frame pending []
  | event {rx : RxEvent} : frame.tag = 0 → frame.typeId = typeRx → RxEvent.decode frame.payload = .ok rx →
      Reacted frame pending [.putRx rx]
  | report {exc : Exc} : frame.tag = 0 → frame.typeId = typeRx ∨ frame.typeId = typeErr →
      Reacted frame pending [.putError exc]
  | unclaimed : frame.tag ≠ 0 → pending = none → Reacted frame pending []
  | unexpected {id cmdType : Nat} : frame.tag ≠ 0 → pending = some (id, cmdType) →
      frame.typeId ≠ typeOk → frame.typeId ≠ typeErr → frame.typeId ≠ typeTxDone → Reacted frame pending []
  | enqueued {id : Nat} {ok : OkValue} : frame.tag ≠ 0 → pending = some (id, typeTx) → frame.typeId = typeOk →
      parseOkPayload typeTx frame.payload = .ok ok → Reacted frame pending [.setOk id ok]
  | answered {id cmdType : Nat} {ok : OkValue} : frame.tag ≠ 0 → pending = some (id, cmdType) → cmdType ≠ typeTx →
      frame.typeId = typeOk → parseOkPayload cmdType frame.payload = .ok ok →
      Reacted frame pending [.setOk id ok, .signal id]
  | refused {id cmdType : Nat} {exc : Exc} : frame.tag ≠ 0 → pending = some (id, cmdType) → Refusal frame exc →
      Reacted frame pending [.setErr id exc, .signal id]
  | transmitted {id cmdType : Nat} {done : TxDone} : frame.tag ≠ 0 → pending = some (id, cmdType) →
      frame.typeId = typeTxDone → TxDone.decode frame.payload = .ok done → done.result = .transmitted →
      Reacted frame pending [.setTxDone id done, .signal id]

/-- An `ERR` frame whose payload is not two bytes long, where `_dispatch` decodes it. -/
def MalformedErr (frame : Frame) (pending : Option (Nat × Nat)) : Prop :=
  frame.typeId = typeErr ∧ frame.payload.length ≠ 2 ∧ (frame.tag = 0 ∨ pending.isSome = true)

private theorem onlyValue {result : Except Exc α} (only : OnlyValueError result) {exc : Exc}
    (raised : result = .error exc) : ∃ text, exc = .valueError text := only exc raised

private theorem malformed {frame : Frame} {exc : Exc} (raised : decodeErrPayload frame.payload = .error exc) :
    frame.payload.length ≠ 2 := by
  intro size
  obtain ⟨code, decoded⟩ := (decodeErrPayload_ok frame.payload).mpr size
  rw [decoded] at raised
  cases raised

def Handled (frame : Frame) (pending : Option (Nat × Nat)) : Prop :=
  (∃ actions, reaction frame pending = .ok actions ∧ Reacted frame pending actions ∧ ¬ MalformedErr frame pending) ∨
    (∃ exc, reaction frame pending = .error exc ∧ MalformedErr frame pending)

section Reactions
variable {frame : Frame} {pending : Option (Nat × Nat)} {actions : List Action} {id cmdType : Nat}

theorem Handled.other (ran : reaction frame pending = .ok actions) (reacted : Reacted frame pending actions)
    (notErr : frame.typeId ≠ typeErr) : Handled frame pending :=
  Or.inl ⟨actions, ran, reacted, fun bad => notErr bad.1⟩

theorem Handled.err (errType : frame.typeId = typeErr) (claimed : frame.tag = 0 ∨ pending.isSome = true)
    (raises : ∀ exc, decodeErrPayload frame.payload = .error exc → reaction frame pending = .error exc)
    (reacts : ∀ code, decodeErrPayload frame.payload = .ok code →
      ∃ actions, reaction frame pending = .ok actions ∧ Reacted frame pending actions) : Handled frame pending := by
  cases decoded : decodeErrPayload frame.payload with
  | ok code =>
    obtain ⟨actions, ran, reacted⟩ := reacts code decoded
    have size : frame.payload.length = 2 := (decodeErrPayload_ok frame.payload).mp ⟨code, decoded⟩
    exact Or.inl ⟨actions, ran, reacted, fun bad => bad.2.1 size⟩
  | error exc => exact Or.inr ⟨exc, raises exc decoded, errType, malformed decoded, claimed⟩

theorem handled_async (async : frame.tag = 0) : Handled frame pending := by
  by_cases rxType : frame.typeId = typeRx
  · have notErr : frame.typeId ≠ typeErr := by rw [rxType]; decide
    cases decoded : RxEvent.decode frame.payload with
    | ok rx => exact .other (by simp [reaction, async, rxType, decoded]) (.event async rxType decoded) notErr
    | error exc =>
      obtain ⟨text, rfl⟩ := onlyValue (rxEvent_raises _) decoded
      have ran : reaction frame pending = .ok [.putError (.frameError s!"bad RX payload: {text}")] := by
        simp only [reaction, if_pos async, if_pos rxType, decoded]
      exact .other ran (.report async (Or.inl rxType)) notErr
  by_cases errType : frame.typeId = typeErr
  · refine .err errType (Or.inl async) (fun exc raised => ?_) fun code decoded => ?_
    · simp only [reaction, if_pos async, if_neg rxType, if_pos errType, raised]
    · have ran : reaction frame pending = .ok [.putError (deviceError code (some 0))] := by
        simp only [reaction, if_pos async, if_neg rxType, if_pos errType, decoded]
      exact ⟨_, ran, .report async (Or.inr errType)⟩
  · exact .other (by simp [reaction, async, rxType, errType]) (.unknown async rxType errType) errType

theorem handled_ok (tagged : frame.tag ≠ 0) (found : pending = some (id, cmdType)) (okType : frame.typeId = typeOk) :
    Handled frame pending := by
  subst found
  have notErr : frame.typeId ≠ typeErr := by rw [okType]; decide
  cases parsed : parseOkPayload cmdType frame.payload with
  | ok value =>
    by_cases tx : cmdType = typeTx
    · subst tx
      exact .other (by simp [reaction, tagged, okType, parsed]) (.enqueued tagged rfl okType parsed) notErr
    · exact .other (by simp [reaction, tagged, okType, parsed, tx]) (.answered tagged rfl tx okType parsed) notErr
  | error exc =>
    obtain ⟨text, rfl⟩ := onlyValue (parseOkPayload_raises _ _) parsed
    have ran : reaction frame (some (id, cmdType)) =
        .ok [.setErr id (.dongloraError s!"bad OK payload: {text}"), .signal id] := by
      simp only [reaction, if_neg tagged, if_pos okType, parsed]
    exact .other ran (.refused tagged rfl (.badOk _ okType)) notErr

theorem handled_done (tagged : frame.tag ≠ 0) (found : pending = some (id, cmdType))
    (doneType : frame.typeId = typeTxDone) : Handled frame pending := by
  subst found
  have notOk : frame.typeId ≠ typeOk := by rw [doneType]; decide
  have notErr : frame.typeId ≠ typeErr := by rw [doneType]; decide
  cases decoded : TxDone.decode frame.payload with
  | ok done =>
    have ran : reaction frame (some (id, cmdType)) = .ok
        (if done.result = .channelBusy then [.setErr id .channelBusy, .signal id]
          else if done.result = .cancelled then [.setErr id .cancelled, .signal id]
          else [.setTxDone id done, .signal id]) := by
      simp only [reaction, if_neg tagged, if_neg notOk, if_neg notErr, if_pos doneType, decoded]
      split
      · rfl
      · split <;> rfl
    cases result : done.result with
    | transmitted =>
      exact .other (by simpa [result] using ran) (.transmitted tagged rfl doneType decoded result) notErr
    | channelBusy =>
      exact .other (by simpa [result] using ran) (.refused tagged rfl (.busy done doneType decoded result)) notErr
    | cancelled =>
      exact .other (by simpa [result] using ran) (.refused tagged rfl (.cancelled done doneType decoded result)) notErr
  | error exc =>
    obtain ⟨text, rfl⟩ := onlyValue (txDone_raises _) decoded
    have ran : reaction frame (some (id, cmdType)) =
        .ok [.setErr id (.dongloraError s!"bad TX_DONE payload: {text}"), .signal id] := by
      simp only [reaction, if_neg tagged, if_neg notOk, if_neg notErr, if_pos doneType, decoded]
    exact .other ran (.refused tagged rfl (.badDone _ doneType)) notErr

theorem reaction_cases (frame : Frame) (pending : Option (Nat × Nat)) : Handled frame pending := by
  by_cases async : frame.tag = 0
  · exact handled_async async
  cases found : pending with
  | none =>
    refine Or.inl ⟨[], by simp [reaction, async], .unclaimed async rfl, ?_⟩
    intro bad
    rcases bad.2.2 with zero | claimed
    · exact async zero
    · cases claimed
  | some entry =>
    obtain ⟨id, cmdType⟩ := entry
    by_cases okType : frame.typeId = typeOk
    · exact handled_ok async rfl okType
    by_cases errType : frame.typeId = typeErr
    · refine .err errType (Or.inr rfl) (fun exc raised => ?_) fun code decoded =>
        ⟨_, ?_, .refused async rfl (.device code errType decoded)⟩
      · simp only [reaction, if_neg async, if_neg okType, if_pos errType, raised]
      · simp only [reaction, if_neg async, if_neg okType, if_pos errType, decoded]
    by_cases doneType : frame.typeId = typeTxDone
    · exact handled_done async rfl doneType
    · refine .other ?_ (.unexpected async rfl okType errType doneType) errType
      simp only [reaction, if_neg async, if_neg okType, if_neg errType, if_neg doneType]

end Reactions

theorem reacted {frame : Frame} {pending : Option (Nat × Nat)} {actions : List Action}
    (ran : reaction frame pending = .ok actions) : Reacted frame pending actions := by
  rcases reaction_cases frame pending with ⟨_, same, holds, _⟩ | ⟨_, raised, _⟩
  · rw [ran] at same
    cases same
    exact holds
  · rw [ran] at raised
    cases raised

/-- The event is set, and the frame has left a result or an error of the client in
the slot. -/
def Settled (frame : Frame) (cmdType : Nat) (slot : Pending) : Prop :=
  slot.event = true ∧
    ((∃ exc, slot.err = some exc ∧ exc.isDonglora = true) ∨
      (frame.typeId = typeOk ∧ parseOkPayload cmdType frame.payload = .ok slot.okPayload) ∨
      (frame.typeId = typeTxDone ∧ ∃ done, TxDone.decode frame.payload = .ok done ∧ slot.txDone = some done))

/-- No frame that somebody waits for, and no asynchronous one, is dropped. -/
structure Lossless (session : Session) (frame : Frame) (after : Session) : Prop where
  settled : ∀ id cmdType, session.getPending frame.tag = some (id, cmdType) →
    frame.typeId ∈ [typeOk, typeErr, typeTxDone] →
    Settled frame cmdType (after.calls id).slot ∨
      (cmdType = typeTx ∧ frame.typeId = typeOk ∧ frame.payload = [])
  queued : frame.tag = 0 → frame.typeId ∈ [typeRx, typeErr] →
    (∃ event, after.rxQueue = session.rxQueue ++ [.event event] ∧ after.asyncErrors = session.asyncErrors) ∨
      (∃ exc, after.rxQueue = session.rxQueue ∧ after.asyncErrors = session.asyncErrors ++ [exc])

theorem Reacted.lossless {session : Session} {frame : Frame} {actions : List Action}
    (ran : Reacted frame (session.getPending frame.tag) actions) :
    Lossless session frame (actions.foldl apply session) := by
  have untagged {found : Nat × Nat} (zero : frame.tag = 0) (looked : session.getPending frame.tag = some found) :
      False := by
    simp only [zero, getPending, if_true] at looked
    cases looked
  constructor
  · intro id cmdType looked kind
    cases ran with
    | unknown zero | event zero | report zero => exact False.elim (untagged zero looked)
    | unclaimed _ missing =>
      rw [missing] at looked
      cases looked
    | unexpected _ _ notOk notErr notDone => simp [notOk, notErr, notDone] at kind
    | enqueued _ found okType parsed =>
      cases found.symm.trans looked
      exact Or.inr ⟨rfl, okType, ((parseOkPayload_tx _).mp parsed).1⟩
    | answered _ found _ okType parsed =>
      cases found.symm.trans looked
      refine Or.inl ⟨?_, Or.inr (Or.inl ⟨okType, ?_⟩)⟩
      · simp [List.foldl, apply_calls, effect]
      · simp [List.foldl, apply_calls, effect, parsed]
    | refused _ found refusal =>
      cases found.symm.trans looked
      refine Or.inl ⟨?_, Or.inl ⟨_, ?_, refusal.donglora⟩⟩
      · simp [List.foldl, apply_calls, effect]
      · simp [List.foldl, apply_calls, effect]
    | transmitted _ found doneType decoded =>
      cases found.symm.trans looked
      refine Or.inl ⟨?_, Or.inr (Or.inr ⟨doneType, _, decoded, ?_⟩)⟩
      · simp [List.foldl, apply_calls, effect]
      · simp [List.foldl, apply_calls, effect]
  · intro zero kind
    cases ran with
    | unknown _ notRx notErr => simp [notRx, notErr] at kind
    | event => exact Or.inl ⟨_, rfl, rfl⟩
    | report => exact Or.inr ⟨_, rfl, rfl⟩
    | unclaimed tagged | unexpected tagged | enqueued tagged | answered tagged | refused tagged
    | transmitted tagged => exact False.elim (tagged zero)

/-- `_dispatch` returns and keeps the frame, except for an `ERR` payload of the wrong
size: its decoder is the only one called outside a `try`. -/
theorem dispatch_lossless_iff (session : Session) (frame : Frame) :
    (∃ after, dispatch session frame = .ok after ∧ Lossless session frame after) ↔
      ¬ MalformedErr frame (session.getPending frame.tag) := by
  rcases reaction_cases frame (session.getPending frame.tag) with
    ⟨actions, ran, holds, decodable⟩ | ⟨exc, raised, bad⟩
  · refine iff_of_true ⟨actions.foldl apply session, ?_, holds.lossless⟩ decodable
    simp only [dispatch, ran]
    rfl
  · refine iff_of_false ?_ (not_not_intro bad)
    rintro ⟨after, returned, _⟩
    simp only [dispatch, raised] at returned
    cases returned

/-- A `PING` waits under tag 1 and an `ERR` of one byte answers it. -/
theorem dispatch_raises_on_short_err :
    let session := ({ : Session}.setCall 0 { pc := .waiting, tag := 1 }).registerPending 0 1 typePing
    let frame : Frame := { typeId := typeErr, tag := 1, payload := [6] }
    dispatch session frame = .error (.valueError "ERR payload must be 2 bytes, got 1") ∧
      ¬ ∃ after, dispatch session frame = .ok after ∧ Lossless session frame after := by
  refine ⟨rfl, ?_⟩
  rintro ⟨after, returned, _⟩
  cases returned

variable {cobs : Cobs.Codec}

private theorem setTodo_apply (session : Session) (agent : Agent) (actions rest : List Action) (action : Action) :
    ((session.setTodo agent actions).apply action).setTodo agent rest = (session.apply action).setTodo agent rest := by
  cases action with
  | setErrIfUnset call exc =>
    change (if (session.calls call).slot.err = none ∧ (session.calls call).slot.txDone = none then
      (session.setTodo agent actions).setSlot call { (session.calls call).slot with err := some exc }
      else session.setTodo agent actions).setTodo agent rest = _
    simp only [apply]
    split <;> simp [setTodo, setSlot, setCall]
  | _ => simp [apply, setTodo, setSlot, setCall]

/-- The statements on the reader's list, taken without interruption. -/
theorem acts_run (actions : List Action) (session : Session) :
    Transition.Run (Transition.Steps (step cobs)) (session.setTodo .reader actions)
      (actions.map fun _ => .act .reader) ((actions.foldl apply session).setTodo .reader []) := by
  induction actions generalizing session with
  | nil => exact .nil
  | cons action rest ih =>
    have first : Transition.Steps (step cobs) (session.setTodo .reader (action :: rest)) (.act .reader)
        ((session.apply action).setTodo .reader rest) := by
      simp only [Transition.Steps, step, setTodo_todo, if_true, setTodo_apply]
    exact (Transition.Run.single first).append (ih (session.apply action))

theorem dispatch_run {session after : Session} {frame : Frame}
    (looping : session.reader = .looping) (free : session.lock = none)
    (returned : dispatch session frame = .ok after) :
    ∃ events, Transition.Run (Transition.Steps (step cobs)) { session with reader := .dispatching frame } events
      (after.setTodo .reader []) := by
  obtain ⟨actions, ran, same⟩ : ∃ actions, reaction frame (session.getPending frame.tag) = .ok actions ∧
      actions.foldl apply session = after := by
    simp only [dispatch] at returned
    cases ran : reaction frame (session.getPending frame.tag) with
    | ok actions =>
      rw [ran] at returned
      cases returned
      exact ⟨actions, rfl, rfl⟩
    | error exc =>
      rw [ran] at returned
      cases returned
  have first : Transition.Steps (step cobs) { session with reader := .dispatching frame }
      (.dispatch frame ((session.getPending frame.tag).map Prod.fst)) (session.setTodo .reader actions) := by
    have back : ({ session with reader := .looping } : Session) = session := by rw [← looping]
    have found : ({ session with reader := .dispatching frame } : Session).getPending frame.tag =
        session.getPending frame.tag := rfl
    apply (if_pos ⟨rfl, Or.inr free, rfl⟩).trans
    rw [found, ran]
    exact congrArg (fun session => some (setTodo session .reader actions)) back
  exact ⟨_, (Transition.Run.single first).append (same ▸ acts_run actions session)⟩

end DongloraClient.Proofs.Dispatch
