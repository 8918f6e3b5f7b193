import DongloraClient.Proofs.Dispatch

/-! Where the outcome of a command comes from. Every field of a slot, and every
outcome, is traced back to the frames that found the slot in the table. -/

namespace DongloraClient.Proofs.SessionReplies
open Session SessionSteps SessionTable Dispatch Transition

variable {cobs : Cobs.Codec} {session next : Session} {label : Step} {events : List Step} {id : Nat}

def Found (events : List Step) (id : Nat) (frame : Frame) : Prop := .dispatch frame (some id) ∈ events

theorem Found.later {frame : Frame} (found : Found events id frame) (label : Step) : Found (events ++ [label]) id frame :=
  List.mem_append_left _ found

def OkSeen (events : List Step) (id cmdType : Nat) (value : OkValue) : Prop :=
  ∃ frame, Found events id frame ∧ frame.typeId = typeOk ∧ parseOkPayload cmdType frame.payload = .ok value

def DoneSeen (events : List Step) (id : Nat) (done : TxDone) : Prop :=
  ∃ frame, Found events id frame ∧ frame.typeId = typeTxDone ∧ TxDone.decode frame.payload = .ok done

def ErrSeen (events : List Step) (id : Nat) (exc : Exc) : Prop :=
  (∃ frame, Found events id frame ∧ Refusal frame exc) ∨ exc = .dongloraError "session closed" ∨
    exc = .dongloraError "transport closed"

theorem OkSeen.later {cmdType : Nat} {value : OkValue} (seen : OkSeen events id cmdType value) (label : Step) :
    OkSeen (events ++ [label]) id cmdType value := by
  obtain ⟨frame, found, rest⟩ := seen
  exact ⟨frame, found.later label, rest⟩

theorem DoneSeen.later {done : TxDone} (seen : DoneSeen events id done) (label : Step) :
    DoneSeen (events ++ [label]) id done := by
  obtain ⟨frame, found, rest⟩ := seen
  exact ⟨frame, found.later label, rest⟩

theorem ErrSeen.later {exc : Exc} (seen : ErrSeen events id exc) (label : Step) : ErrSeen (events ++ [label]) id exc := by
  rcases seen with ⟨frame, found, refusal⟩ | swept
  · exact Or.inl ⟨frame, found.later label, refusal⟩
  · exact Or.inr swept

/-- What entitles an agent to a statement. -/
def Justified (events : List Step) (session : Session) : Action → Prop
  | .setErr id exc | .setErrIfUnset id exc => ErrSeen events id exc
  | .setOk id value => OkSeen events id (session.calls id).request.typeId value
  | .setTxDone id done => done.result = .transmitted ∧ DoneSeen events id done
  | _ => True

theorem reaction_justified (sound : Sound session) {frame : Frame} {actions : List Action}
    (seen : ∀ id cmdType, session.getPending frame.tag = some (id, cmdType) → Found events id frame)
    (ran : reaction frame (session.getPending frame.tag) = .ok actions) :
    ∀ action ∈ actions, Justified events session action := by
  have cmdType {id cmdType : Nat} (looked : session.getPending frame.tag = some (id, cmdType)) :
      cmdType = (session.calls id).request.typeId := (sound.found looked).2.2.2.2
  cases reacted ran with
  | unknown | unclaimed | unexpected => simp
  | event | report => simp [Justified]
  | enqueued _ looked okType parsed =>
    simp only [List.mem_singleton, forall_eq, Justified]
    exact ⟨frame, seen _ _ looked, okType, cmdType looked ▸ parsed⟩
  | answered _ looked _ okType parsed =>
    simp only [List.mem_cons, List.not_mem_nil, or_false, forall_eq_or_imp, forall_eq, Justified, and_true]
    exact ⟨frame, seen _ _ looked, okType, cmdType looked ▸ parsed⟩
  | refused _ looked refusal =>
    simp only [List.mem_cons, List.not_mem_nil, or_false, forall_eq_or_imp, forall_eq, Justified, and_true]
    exact Or.inl ⟨frame, seen _ _ looked, refusal⟩
  | transmitted _ looked doneType decoded result =>
    simp only [List.mem_cons, List.not_mem_nil, or_false, forall_eq_or_imp, forall_eq, Justified, and_true]
    exact ⟨result, frame, seen _ _ looked, doneType, decoded⟩

theorem closing_justified : ∀ action ∈ session.closing, Justified events session action := by
  intro action member
  simp only [closing, List.mem_append, List.mem_flatMap, List.mem_cons, List.not_mem_nil, or_false] at member
  rcases member with ⟨id, _, rfl | rfl⟩ | rfl | rfl <;> first | exact Or.inr (Or.inl rfl) | trivial

theorem shuttingDown_justified : ∀ action ∈ session.shuttingDown, Justified events session action := by
  intro action member
  simp only [shuttingDown, List.mem_append, List.mem_flatMap, List.mem_cons, List.not_mem_nil, or_false] at member
  rcases member with ⟨id, _, rfl | rfl⟩ | rfl | rfl | rfl <;> first | exact Or.inr (Or.inr rfl) | trivial

theorem sweep_targets {action : Action} (member : action ∈ session.closing ∨ action ∈ session.shuttingDown)
    (targeted : target action = some id) : id ∈ session.values := by
  simp only [closing, shuttingDown, List.mem_append, List.mem_flatMap, List.mem_cons, List.not_mem_nil, or_false]
    at member
  rcases member with (⟨other, listed, rfl | rfl⟩ | rfl | rfl) | ⟨other, listed, rfl | rfl⟩ | rfl | rfl | rfl <;>
    cases targeted <;> exact listed

theorem reaction_targets {frame : Frame} {pending : Option (Nat × Nat)} {actions : List Action}
    (ran : reaction frame pending = .ok actions) {action : Action} (member : action ∈ actions)
    (targeted : target action = some id) : ∃ cmdType, pending = some (id, cmdType) := by
  cases reacted ran with
  | unknown | unclaimed | unexpected => cases member
  | event | report =>
    cases List.mem_singleton.mp member
    cases targeted
  | enqueued _ looked =>
    cases List.mem_singleton.mp member
    cases targeted
    exact ⟨_, looked⟩
  | answered _ looked | refused _ looked | transmitted _ looked =>
    simp only [List.mem_cons, List.not_mem_nil, or_false] at member
    rcases member with rfl | rfl <;> cases targeted <;> exact ⟨_, looked⟩

theorem Justified.later {action : Action} (just : Justified events session action) (label : Step) :
    Justified (events ++ [label]) session action := by
  cases action with
  | setErr | setErrIfUnset => exact ErrSeen.later just label
  | setOk => exact OkSeen.later just label
  | setTxDone => exact ⟨just.1, just.2.later label⟩
  | _ => trivial

theorem Justified.moved {action : Action} (just : Justified events session action)
    (same : ∀ id, target action = some id → (next.calls id).request = (session.calls id).request) :
    Justified events next action := by
  cases action with
  | setOk id value => simpa only [Justified, same id rfl] using just
  | _ => exact just

theorem dispatch_found {frame : Frame} {found : Option Nat}
    (taken : step cobs session (.dispatch frame found) = some next) :
    found = (session.getPending frame.tag).map Prod.fst := by
  cases stepped taken with
  | dispatched _ _ found | raised _ _ found => exact found
  | moved move => cases move

theorem looked_up (found : (session.getPending tag).map Prod.fst = some id) :
    ∃ cmdType, session.getPending tag = some (id, cmdType) := by
  obtain ⟨⟨owner, cmdType⟩, looked, rfl⟩ := Option.map_eq_some_iff.mp found
  exact ⟨cmdType, looked⟩

/-- Statements wait only for commands that are registered, and each is justified; so
is everything they have written. -/
structure Traced (events : List Step) (session : Session) : Prop where
  found : ∀ frame id, Found events id frame → Registered (session.calls id) ∧ (session.calls id).tag = frame.tag
  targets : ∀ agent action id, action ∈ session.todo agent → target action = some id → Registered (session.calls id)
  todo : ∀ agent, ∀ action ∈ session.todo agent, Justified events session action
  err : ∀ id exc, (session.calls id).slot.err = some exc → ErrSeen events id exc
  txDone : ∀ id done, (session.calls id).slot.txDone = some done → done.result = .transmitted ∧ DoneSeen events id done
  okPayload : ∀ id, (session.calls id).slot.okPayload = .none ∨
    OkSeen events id (session.calls id).request.typeId (session.calls id).slot.okPayload

theorem Traced.initial : Traced [] {} where
  found frame id found := by cases found
  targets agent action id member := by cases member
  todo agent action member := by cases member
  err id exc set := by cases set
  txDone id done set := by cases set
  okPayload id := Or.inl rfl

namespace Traced

/-- A statement on a list after a step is for a command that was registered before it. -/
theorem targets_before (traced : Traced events session) (sound : Sound session)
    (taken : step cobs session label = some next) (agent : Agent) (action : Action) (id : Nat)
    (member : action ∈ next.todo agent) (targeted : target action = some id) : Registered (session.calls id) := by
  have swept {id : Nat} (listed : id ∈ session.values) : Registered (session.calls id) := by
    obtain ⟨tag, found⟩ := mem_values.mp listed
    exact (sound.owned tag id found).1.registered
  generalize same : next.todo agent = actions at member
  cases same ▸ step_todo taken agent with
  | same => exact traced.targets agent action id member targeted
  | executed found => exact traced.targets agent action id (found ▸ List.mem_cons_of_mem _ member) targeted
  | dispatched _ _ _ _ ran =>
    obtain ⟨cmdType, looked⟩ := reaction_targets ran member targeted
    exact (sound.found looked).2.2.1.registered
  | corrupted =>
    cases List.mem_singleton.mp member
    cases targeted
  | shutdown => exact swept (sweep_targets (Or.inr member) targeted)
  | sweep => exact swept (sweep_targets (Or.inl member) targeted)

theorem found_kept (traced : Traced events session) (sound : Sound session)
    (taken : step cobs session label = some next) {frame : Frame} (found : Found (events ++ [label]) id frame) :
    Registered (next.calls id) ∧ (next.calls id).tag = frame.tag := by
  suffices past : Registered (session.calls id) ∧ (session.calls id).tag = frame.tag by
    obtain ⟨registered, tag, _⟩ := registered_fixed taken past.1
    exact ⟨registered, tag.trans past.2⟩
  rcases List.mem_append.mp found with earlier | now
  · exact traced.found frame id earlier
  · cases List.mem_singleton.mp now
    obtain ⟨cmdType, looked⟩ := looked_up (dispatch_found taken).symm
    obtain ⟨_, _, flying, same, _⟩ := sound.found looked
    exact ⟨flying.registered, same⟩

theorem todo_kept (traced : Traced events session) (sound : Sound session)
    (taken : step cobs session label = some next) (agent : Agent) (action : Action)
    (member : action ∈ next.todo agent) : Justified (events ++ [label]) next action := by
  have fixed (id : Nat) (aimed : target action = some id) : (next.calls id).request = (session.calls id).request :=
    (registered_fixed taken (traced.targets_before sound taken agent action id member aimed)).2.2
  refine Justified.moved ?_ fixed
  generalize same : next.todo agent = actions at member
  cases same ▸ step_todo taken agent with
  | same => exact (traced.todo agent action member).later _
  | executed found => exact (traced.todo agent action (found ▸ List.mem_cons_of_mem _ member)).later _
  | @dispatched frame found _ _ _ _ looked ran =>
    refine reaction_justified sound (fun id cmdType pending => ?_) ran action member
    have owner : found = some id := by rw [looked, pending, Option.map_some]
    exact List.mem_append_right _ (by rw [owner, List.mem_singleton])
  | corrupted =>
    cases List.mem_singleton.mp member
    trivial
  | shutdown => exact shuttingDown_justified action member
  | sweep => exact closing_justified action member

theorem err_kept (traced : Traced events session) (taken : step cobs session label = some next) {exc : Exc}
    (set : (next.calls id).slot.err = some exc) : ErrSeen (events ++ [label]) id exc := by
  generalize same : next.calls id = call at set
  cases same ▸ step_calls taken id with
  | same | moved | forgotten | allocated => exact (traced.err id exc set).later _
  | rejected | entered | registered => cases set
  | @written agent action rest found =>
    have source : ErrSeen events id exc := by
      rcases effect_err set with before | rfl | rfl
      · exact traced.err id exc before
      · exact traced.todo agent (.setErr id exc) (found ▸ List.mem_cons_self)
      · exact traced.todo agent (.setErrIfUnset id exc) (found ▸ List.mem_cons_self)
    exact source.later _

theorem txDone_kept (traced : Traced events session) (taken : step cobs session label = some next) {done : TxDone}
    (set : (next.calls id).slot.txDone = some done) :
    done.result = .transmitted ∧ DoneSeen (events ++ [label]) id done := by
  generalize same : next.calls id = call at set
  cases same ▸ step_calls taken id with
  | same | moved | forgotten | allocated =>
    obtain ⟨result, seen⟩ := traced.txDone id done set
    exact ⟨result, seen.later _⟩
  | rejected | entered | registered => cases set
  | @written agent action rest found =>
    have source : done.result = .transmitted ∧ DoneSeen events id done := by
      rcases effect_txDone set with before | rfl
      · exact traced.txDone id done before
      · exact traced.todo agent (.setTxDone id done) (found ▸ List.mem_cons_self)
    exact ⟨source.1, source.2.later _⟩

theorem okPayload_kept (traced : Traced events session) (taken : step cobs session label = some next) (id : Nat) :
    (next.calls id).slot.okPayload = .none ∨
      OkSeen (events ++ [label]) id (next.calls id).request.typeId (next.calls id).slot.okPayload := by
  generalize same : next.calls id = call
  cases same ▸ step_calls taken id with
  | same | moved | forgotten | allocated => exact (traced.okPayload id).imp_right fun seen => seen.later _
  | rejected | entered | registered => exact Or.inl rfl
  | @written agent action rest found =>
    rcases effect_okPayload id (session.calls id).slot action with kept | written
    · rw [kept]
      exact (traced.okPayload id).imp_right fun seen => seen.later _
    · have just := traced.todo agent action (found ▸ List.mem_cons_self)
      rw [written] at just
      exact Or.inr (OkSeen.later just _)

theorem preserved (traced : Traced events session) (sound : Sound session)
    (taken : step cobs session label = some next) : Traced (events ++ [label]) next where
  found _ _ := traced.found_kept sound taken
  targets agent action id member aimed :=
    (registered_fixed taken (traced.targets_before sound taken agent action id member aimed)).1
  todo := traced.todo_kept sound taken
  err _ _ := traced.err_kept taken
  txDone _ _ := traced.txDone_kept taken
  okPayload := traced.okPayload_kept taken

theorem reachable (run : Run (Steps (step cobs)) {} events session) : Traced events session := by
  induction run with
  | nil => exact .initial
  | snoc before taken ih => exact ih.preserved (Sound.reachable before) taken

end Traced

def Ends (call : Call) (outcome : Outcome) : Prop := call.pc = .leaving outcome ∨ call.pc = .finished outcome

/-- Where an outcome can have come from. -/
def Sourced (events : List Step) (id : Nat) (call : Call) : Outcome → Prop
  | .ok (.txDone done) => call.request.typeId = typeTx ∧ done.result = .transmitted ∧ DoneSeen events id done
  | .ok (.ok value) => call.request.typeId ≠ typeTx ∧
      (value = .none ∨ OkSeen events id call.request.typeId value)
  | .error exc => exc.isDonglora = false ∨ (∃ text, exc = .timeoutError text) ∨
      exc = .dongloraError "TX completed without TX_DONE (internal error)" ∨ ErrSeen events id exc

theorem Sourced.later {call : Call} {outcome : Outcome} (sourced : Sourced events id call outcome) (label : Step) :
    Sourced (events ++ [label]) id call outcome := by
  match outcome, sourced with
  | .ok (.txDone _), ⟨tx, result, seen⟩ => exact ⟨tx, result, seen.later label⟩
  | .ok (.ok _), ⟨other, seen⟩ => exact ⟨other, seen.imp_right fun seen => seen.later label⟩
  | .error _, Or.inl foreign => exact Or.inl foreign
  | .error _, Or.inr (Or.inl timeout) => exact Or.inr (Or.inl timeout)
  | .error _, Or.inr (Or.inr (Or.inl missing)) => exact Or.inr (Or.inr (Or.inl missing))
  | .error _, Or.inr (Or.inr (Or.inr seen)) => exact Or.inr (Or.inr (Or.inr (seen.later label)))

theorem rejected_foreign {request : Request} {exc : Exc} (rejected : request.rejected = some exc) :
    exc.isDonglora = false := by
  have foreign := Decoding.payload_foreign request
  cases request with
  | transmit => cases rejected
  | ping | getInfo | setConfig | rxStart | rxStop =>
    simp only [Request.rejected] at rejected
    split at rejected <;> cases rejected
    next raised => exact foreign exc raised

theorem outcome_sourced (run : Run (Steps (step cobs)) {} events session) {outcome : Outcome}
    (ends : Ends (session.calls id) outcome) : Sourced events id (session.calls id) outcome := by
  induction run with
  | nil => rcases ends with ends | ends <;> cases ends
  | @snoc events state after label before taken ih =>
    refine Sourced.later ?_ label
    generalize same : after.calls id = call at ends ⊢
    cases same ▸ step_calls taken id with
    | same => exact ih ends
    | rejected _ rejected =>
      rcases ends with ends | ends <;> cases ends
      exact Or.inl (rejected_foreign rejected)
    | entered | allocated | registered => rcases ends with ends | ends <;> cases ends
    | forgotten leaving =>
      rcases ends with ends | ends <;> cases ends
      have prior := ih (Or.inl leaving)
      exact prior
    | written =>
      have prior := ih ends
      exact prior
    | moved move =>
      cases move with
      | sent | woken | unfailed => rcases ends with ends | ends <;> cases ends
      | unsent _ failed =>
        rcases ends with ends | ends <;> cases ends
        rcases failed with raised | ⟨text, _, rfl⟩
        · exact Or.inl (Decoding.wire_foreign cobs _ _ raised)
        · exact Or.inl rfl
      | expired =>
        rcases ends with ends | ends <;> cases ends
        exact Or.inr (Or.inl ⟨_, rfl⟩)
      | failed _ set =>
        rcases ends with ends | ends <;> cases ends
        exact Or.inr (Or.inr (Or.inr ((Traced.reachable before).err id _ set)))
      | returned =>
        rcases ends with ends | ends <;> cases ends
        simp only [Call.result]
        split
        next tx =>
          split
          next => exact Or.inr (Or.inr (Or.inl rfl))
          next done set =>
            obtain ⟨result, seen⟩ := (Traced.reachable before).txDone id done set
            exact ⟨tx, result, seen⟩
        next other => exact ⟨other, (Traced.reachable before).okPayload id⟩

/-- Something other than an empty acknowledgement has come for the command, or a
sweep has gone through the table. -/
def Stirred (events : List Step) (id : Nat) : Prop :=
  (∃ frame, Found events id frame ∧ ¬ (frame.typeId = typeOk ∧ frame.payload = [])) ∨ ¬ Unswept events

theorem Stirred.later (stirred : Stirred events id) (label : Step) : Stirred (events ++ [label]) id := by
  rcases stirred with ⟨frame, found, other⟩ | swept
  · exact Or.inl ⟨frame, found.later label, other⟩
  · exact Or.inr fun unswept => swept fun label member => unswept label (List.mem_append_left _ member)

theorem reaction_enqueued {frame : Frame} (looked : session.getPending frame.tag = some (id, typeTx))
    (okType : frame.typeId = typeOk) (empty : frame.payload = []) :
    reaction frame (session.getPending frame.tag) = .ok [.setOk id .none] := by
  have tagged : frame.tag ≠ 0 := by
    intro zero
    simp [zero, getPending] at looked
  have parsed : parseOkPayload typeTx frame.payload = .ok .none := (Decoding.parseOkPayload_tx _).mpr ⟨empty, rfl⟩
  simp [reaction, tagged, looked, okType, parsed]

theorem signal_stirred (run : Run (Steps (step cobs)) {} events session)
    (tx : (session.calls id).request.typeId = typeTx) :
    (∀ agent, .signal id ∈ session.todo agent → Stirred events id) ∧
      ((session.calls id).slot.event = true → Stirred events id) := by
  induction run with
  | nil => exact ⟨fun _ => nofun, nofun⟩
  | @snoc events state after label before taken ih =>
    have traced := Traced.reachable before
    have sound := Sound.reachable before
    -- Slots and statements exist only for registered commands, whose request stays.
    have fixed (past : Registered (state.calls id)) : (state.calls id).request.typeId = typeTx := by
      rw [← (registered_fixed taken past).2.2]
      exact tx
    constructor
    · intro agent member
      generalize same : after.todo agent = actions at member
      cases same ▸ step_todo taken agent with
      | same => exact ((ih (fixed (traced.targets agent _ id member rfl))).1 agent member).later _
      | executed found =>
        have earlier : .signal id ∈ state.todo agent := found ▸ List.mem_cons_of_mem _ member
        exact ((ih (fixed (traced.targets agent _ id earlier rfl))).1 agent earlier).later _
      | @dispatched frame found _ _ _ _ looked ran =>
        obtain ⟨cmdType, pending⟩ := reaction_targets ran member rfl
        obtain ⟨_, _, flying, _, sameType⟩ := sound.found pending
        have owner : found = some id := by rw [looked, pending, Option.map_some]
        refine Or.inl ⟨frame, List.mem_append_right _ (by rw [owner, List.mem_singleton]), fun ⟨okType, empty⟩ => ?_⟩
        rw [sameType, fixed flying.registered] at pending
        rw [reaction_enqueued pending okType empty] at ran
        cases ran
        simp at member
      | corrupted => simp at member
      | shutdown => exact Or.inr fun unswept => (unswept .shutdown (by simp)).1 rfl
      | @sweep closer => exact Or.inr fun unswept => (unswept (.sweep closer) (by simp)).2 closer rfl
    · intro set
      generalize same : after.calls id = call at set tx
      cases same ▸ step_calls taken id with
      | same | allocated | moved | forgotten => exact ((ih tx).2 set).later _
      | rejected | entered | registered => cases set
      | @written agent action rest found =>
        rcases effect_signal set with earlier | rfl
        · exact ((ih tx).2 earlier).later _
        · exact ((ih tx).1 agent (found ▸ List.mem_cons_self)).later _

/-- A `TX_DONE` frame with the command's tag was dispatched while its slot was in the
table. -/
def Reported (events : List Step) (session : Session) (id : Nat) (done : TxDone) : Prop :=
  ∃ frame, .dispatch frame (some id) ∈ events ∧ frame.tag = (session.calls id).tag ∧
    frame.typeId = typeTxDone ∧ TxDone.decode frame.payload = .ok done

theorem DoneSeen.reported (traced : Traced events session) {done : TxDone} (seen : DoneSeen events id done) :
    Reported events session id done := by
  obtain ⟨frame, found, doneType, decoded⟩ := seen
  exact ⟨frame, found, (traced.found frame id found).2.symm, doneType, decoded⟩

/-- What `transmit` returns or raises about the transmission is what a `TX_DONE` of its
own said, and empty acknowledgements alone never wake it. -/
structure TransmitSound (events : List Step) (session : Session) (id : Nat) : Prop where
  returned : ∀ value, (session.calls id).pc = .finished (.ok value) →
    ∃ done, value = .txDone done ∧ done.result = .transmitted ∧ Reported events session id done
  channelBusy : (session.calls id).pc = .finished (.error .channelBusy) →
    ∃ done, done.result = .channelBusy ∧ Reported events session id done
  cancelled : (session.calls id).pc = .finished (.error .cancelled) →
    ∃ done, done.result = .cancelled ∧ Reported events session id done
  enqueued : (∀ frame, .dispatch frame (some id) ∈ events → frame.typeId = typeOk ∧ frame.payload = []) →
    (∀ value, (session.calls id).pc ≠ .finished (.ok value)) ∧
      (Unswept events → (session.calls id).slot.event = false)

theorem transmit_sound (run : Run (Steps (step cobs)) {} events session)
    (tx : (session.calls id).request.typeId = typeTx) : TransmitSound events session id := by
  have traced := Traced.reachable run
  have refused {exc : Exc} (raised : (session.calls id).pc = .finished (.error exc)) (own : exc.isDonglora = true)
      (notTimeout : ∀ text, exc ≠ .timeoutError text) (notPlain : ∀ text, exc ≠ .dongloraError text) :
      ∃ frame, Found events id frame ∧ Refusal frame exc := by
    rcases outcome_sourced run (Or.inr raised) with foreign | ⟨text, timeout⟩ | missing | seen | closed | closed
    · rw [own] at foreign
      cases foreign
    · exact absurd timeout (notTimeout text)
    · exact absurd missing (notPlain _)
    · exact seen
    · exact absurd closed (notPlain _)
    · exact absurd closed (notPlain _)
  have returned (value : Returned) (ended : (session.calls id).pc = .finished (.ok value)) :
      ∃ done, value = .txDone done ∧ done.result = .transmitted ∧ Reported events session id done := by
    have sourced := outcome_sourced run (Or.inr ended)
    cases value with
    | ok value => exact absurd tx sourced.1
    | txDone done => exact ⟨done, rfl, sourced.2.1, sourced.2.2.reported traced⟩
  constructor
  · exact returned
  · intro raised
    obtain ⟨frame, found, refusal⟩ := refused raised rfl nofun nofun
    cases refusal with
    | busy done doneType decoded result => exact ⟨done, result, DoneSeen.reported traced ⟨frame, found, doneType, decoded⟩⟩
  · intro raised
    obtain ⟨frame, found, refusal⟩ := refused raised rfl nofun nofun
    cases refusal with
    | cancelled done doneType decoded result =>
      exact ⟨done, result, DoneSeen.reported traced ⟨frame, found, doneType, decoded⟩⟩
  · intro only
    constructor
    · intro value ended
      obtain ⟨done, _, _, frame, found, _, doneType, _⟩ := returned value ended
      have okType := (only frame found).1
      rw [doneType] at okType
      cases okType
    · intro unswept
      by_contra set
      rcases (signal_stirred run tx).2 (Bool.eq_true_of_not_eq_false set) with ⟨frame, found, other⟩ | swept
      · exact other (only frame found)
      · exact swept unswept

def transmitted : List Step :=
  let ok : Frame := { typeId := typeOk, tag := 1, payload := [] }
  let done : Frame := { typeId := typeTxDone, tag := 1, payload := [0, 0x10, 0x27, 0, 0] }
  [.begin 0 (.transmit [0x48, 0x69] false) true, .alloc 0, .register 0, .write 0 none, .poll, .receive ok,
    .dispatch ok (some 0), .act .reader, .poll, .receive done, .dispatch done (some 0), .act .reader, .act .reader,
    .wake 0, .readErr 0, .readResult 0, .forget 0]

theorem transmit_sound_transmitted :
    ∃ session, Run (Steps (step Cobs.standard)) {} transmitted session ∧
      (session.calls 0).pc = .finished (.ok (.txDone { result := .transmitted, airtimeUs := 10000 })) ∧
      TransmitSound transmitted session 0 := by
  have computed : (execute (step Cobs.standard) {} transmitted).map (fun session =>
      ((session.calls 0).pc, (session.calls 0).request.typeId)) =
        some (.finished (.ok (.txDone { result := .transmitted, airtimeUs := 10000 })), typeTx) := by decide +kernel
  obtain ⟨session, run, same⟩ := execute_summary computed
  obtain ⟨ended, tx⟩ := Prod.mk.inj same
  exact ⟨session, run, ended, transmit_sound run tx⟩

end DongloraClient.Proofs.SessionReplies
