import DongloraClient.Proofs.SessionReplies

/-! Commands with one reply. They return what an acknowledgement of their own said,
unless a report about a transmission is taken for one. -/

namespace DongloraClient.Proofs.SessionAnswers
open Session SessionSteps SessionTable SessionReplies Dispatch Transition

variable {cobs : Cobs.Codec} {session next : Session} {label : Step} {events : List Step} {id : Nat}

/-- A report of a completed transmission reaches a slot only if a `TX` owns it. -/
def OwnReport (session : Session) (label : Step) : Prop :=
  ∀ frame id, label = .dispatch frame (some id) → frame.typeId = typeTxDone →
    (∃ done, TxDone.decode frame.payload = .ok done ∧ done.result = .transmitted) →
    (session.calls id).request.typeId = typeTx

def Acked (events : List Step) (id : Nat) (call : Call) : Prop :=
  call.slot.err ≠ none ∨ OkSeen events id call.request.typeId call.slot.okPayload

def Fills (id : Nat) : Action → Prop
  | .setErr call _ | .setErrIfUnset call _ | .setOk call _ => call = id
  | _ => False

/-- Nothing on the list signals the command before its slot is filled. -/
def Primed (filled : Prop) (id : Nat) : List Action → Prop
  | [] => True
  | action :: rest => (action = .signal id → filled) ∧ Primed (filled ∨ Fills id action) id rest

theorem Primed.mono {filled later : Prop} {actions : List Action} (primed : Primed filled id actions)
    (implies : filled → later) : Primed later id actions := by
  induction actions generalizing filled later with
  | nil => trivial
  | cons action rest ih =>
    exact ⟨fun signals => implies (primed.1 signals), ih primed.2 (Or.imp_left implies)⟩

theorem primed_unsignalled {filled : Prop} {actions : List Action} (absent : .signal id ∉ actions) :
    Primed filled id actions := by
  induction actions generalizing filled with
  | nil => trivial
  | cons action rest ih =>
    simp only [List.mem_cons, not_or] at absent
    exact ⟨fun signals => absurd signals.symm absent.1, ih absent.2⟩

theorem primed_sweep {filled : Prop} (values : List Nat) (write : Nat → Action) (fills : ∀ id, Fills id (write id))
    (silent : ∀ id other, write id ≠ .signal other) {rest : List Action} (absent : .signal id ∉ rest) :
    Primed filled id (values.flatMap (fun id => [write id, .signal id]) ++ rest) := by
  induction values generalizing filled with
  | nil => exact primed_unsignalled absent
  | cons value values ih =>
    refine ⟨fun signals => absurd signals (silent _ _), fun signals => ?_, ih⟩
    cases signals
    exact Or.inr (fills id)

/-- What stands behind a command with one reply at each point of its life. -/
structure Backed (events : List Step) (session : Session) (id : Nat) : Prop where
  unreported : (session.calls id).slot.txDone = none
  unsent : ∀ agent done, .setTxDone id done ∉ session.todo agent
  primed : ∀ agent, Primed (Acked events id (session.calls id)) id (session.todo agent)
  event : (session.calls id).slot.event = true → Acked events id (session.calls id)
  unfailed : (session.calls id).pc = .unfailed →
    OkSeen events id (session.calls id).request.typeId (session.calls id).slot.okPayload
  ended : ∀ value, Ends (session.calls id) (.ok (.ok value)) →
    OkSeen events id (session.calls id).request.typeId value

/-- The value of a slot changes only to that of another acknowledgement. -/
theorem okSeen_kept (traced : Traced events session) {agent : Agent} {action : Action} {rest : List Action}
    (found : session.todo agent = action :: rest)
    (seen : OkSeen events id (session.calls id).request.typeId (session.calls id).slot.okPayload) :
    OkSeen events id (session.calls id).request.typeId (effect id (session.calls id).slot action).okPayload := by
  rcases effect_okPayload id (session.calls id).slot action with same | written
  · rw [same]
    exact seen
  · have just := traced.todo agent action (found ▸ List.mem_cons_self)
    rw [written] at just
    exact just

theorem acked_kept (traced : Traced events session) {agent : Agent} {action : Action} {rest : List Action}
    (found : session.todo agent = action :: rest) (acked : Acked events id (session.calls id)) :
    Acked events id { session.calls id with slot := effect id (session.calls id).slot action } := by
  rcases acked with failed | seen
  · exact Or.inl (effect_err_kept id action failed)
  · exact Or.inr (okSeen_kept traced found seen)

theorem Acked.later {call : Call} (acked : Acked events id call) (label : Step) : Acked (events ++ [label]) id call :=
  acked.imp_right fun seen => seen.later label

theorem Backed.initial : Backed [] {} id where
  unreported := rfl
  unsent _ _ := List.not_mem_nil
  primed _ := trivial
  event set := by cases set
  unfailed place := by cases place
  ended value ends := by rcases ends with ends | ends <;> cases ends

theorem acked_step (traced : Traced events session) (taken : step cobs session label = some next)
    (past : Registered (session.calls id)) (acked : Acked events id (session.calls id)) :
    Acked (events ++ [label]) id (next.calls id) := by
  generalize same : next.calls id = call
  cases same ▸ step_calls taken id with
  | same | moved | forgotten => exact acked.later _
  | written found => exact (acked_kept traced found acked).later _
  | rejected before | entered before => exact absurd before past.1
  | allocated before => exact absurd before past.2.1
  | registered before => exact absurd before past.2.2

theorem filled_step (traced : Traced events session) {agent : Agent} {action : Action} {rest : List Action}
    (found : session.todo agent = action :: rest) (unreported : (session.calls id).slot.txDone = none)
    (fills : Fills id action) :
    Acked events id { session.calls id with slot := effect id (session.calls id).slot action } := by
  cases action with
  | setErr call exc =>
    cases fills
    exact Or.inl (by simp [effect])
  | setErrIfUnset call exc =>
    cases fills
    apply Or.inl
    by_cases unset : (session.calls id).slot.err = none
    · simp [effect, unset, unreported]
    · exact effect_err_kept id _ unset
  | setOk call value =>
    cases fills
    apply Or.inr
    simpa [effect, Justified] using traced.todo agent (.setOk id value) (found ▸ List.mem_cons_self)
  | _ => cases fills

theorem unsent_step (taken : step cobs session label = some next) (own : OwnReport session label)
    (single : (session.calls id).request.typeId ≠ typeTx)
    (unsent : ∀ agent done, .setTxDone id done ∉ session.todo agent) (agent : Agent) (done : TxDone) :
    .setTxDone id done ∉ next.todo agent := by
  intro member
  generalize same : next.todo agent = actions at member
  cases same ▸ step_todo taken agent with
  | same => exact unsent agent done member
  | executed found => exact unsent agent done (found ▸ List.mem_cons_of_mem _ member)
  | dispatched _ _ _ looked ran =>
    cases reacted ran with
    | @transmitted other _ report _ pending doneType decoded result =>
      obtain rfl : id = other := by simp at member; exact member.1
      refine single (own _ id ?_ doneType ⟨report, decoded, result⟩)
      rw [looked, pending, Option.map_some]
    | _ => simp at member
  | corrupted => simp at member
  | shutdown => simp [shuttingDown] at member
  | sweep => simp [closing] at member

theorem primed_step (traced : Traced events session) (taken : step cobs session label = some next)
    (own : OwnReport session label) (single : (session.calls id).request.typeId ≠ typeTx) (backed : Backed events session id)
    (past : Registered (session.calls id)) (agent : Agent) :
    Primed (Acked (events ++ [label]) id (next.calls id)) id (next.todo agent) := by
  have kept := acked_step traced taken past
  generalize same : next.todo agent = actions
  cases same ▸ step_todo taken agent with
  | same => exact (backed.primed agent).mono kept
  | @executed action rest found =>
    obtain ⟨_, _, todo, _, calls⟩ := act_todo taken
    obtain ⟨rfl, rfl⟩ := List.cons.inj (todo.symm.trans found)
    have primed := backed.primed agent
    rw [found] at primed
    apply primed.2.mono
    intro filled
    rcases filled with acked | fills
    · exact kept acked
    · rw [calls id]
      exact (filled_step traced found backed.unreported fills).later _
  | dispatched _ _ _ looked ran =>
    cases reacted ran with
    | unknown | unclaimed | unexpected => trivial
    | event | report | enqueued => exact primed_unsignalled (by simp)
    | answered | refused =>
      refine ⟨nofun, fun signals => ?_, trivial⟩
      cases signals
      exact Or.inr rfl
    | @transmitted other _ report _ pending doneType decoded result =>
      refine ⟨nofun, fun signals => ?_, trivial⟩
      cases signals
      refine absurd (own _ id ?_ doneType ⟨report, decoded, result⟩) single
      rw [looked, pending, Option.map_some]
  | corrupted => exact primed_unsignalled (by simp)
  | shutdown =>
    exact primed_sweep session.values (fun id => .setErrIfUnset id (.dongloraError "transport closed")) (fun _ => rfl)
      (fun _ _ => nofun) (by simp)
  | sweep =>
    exact primed_sweep session.values (fun id => .setErr id (.dongloraError "session closed")) (fun _ => rfl)
      (fun _ _ => nofun) (by simp)

namespace Backed

theorem unreported_kept (backed : Backed events session id) (taken : step cobs session label = some next) :
    (next.calls id).slot.txDone = none := by
  generalize same : next.calls id = call
  cases same ▸ step_calls taken id with
  | same | allocated | moved | forgotten => exact backed.unreported
  | rejected | entered | registered => rfl
  | @written agent action rest found =>
    cases set : (effect id (session.calls id).slot action).txDone with
    | none => rfl
    | some done =>
      rcases effect_txDone set with earlier | rfl
      · rw [backed.unreported] at earlier
        cases earlier
      · exact absurd (found ▸ List.mem_cons_self) (backed.unsent agent done)

theorem event_kept (backed : Backed events session id) (traced : Traced events session)
    (taken : step cobs session label = some next) (set : (next.calls id).slot.event = true) :
    Acked (events ++ [label]) id (next.calls id) := by
  generalize same : next.calls id = call at set ⊢
  cases same ▸ step_calls taken id with
  | same | allocated | moved | forgotten => exact (backed.event set).later _
  | rejected | entered | registered => cases set
  | @written agent action rest found =>
    refine (acked_kept traced found ?_).later _
    rcases effect_signal set with earlier | rfl
    · exact backed.event earlier
    · have primed := backed.primed agent
      rw [found] at primed
      exact primed.1 rfl

theorem unfailed_kept (backed : Backed events session id) (traced : Traced events session) (sound : Sound session)
    (taken : step cobs session label = some next) (place : (next.calls id).pc = .unfailed) :
    OkSeen (events ++ [label]) id (next.calls id).request.typeId (next.calls id).slot.okPayload := by
  generalize same : next.calls id = call at place ⊢
  cases same ▸ step_calls taken id with
  | same => exact (backed.unfailed place).later _
  | rejected | entered | allocated | registered | forgotten => cases place
  | moved move =>
    cases move with
    | unfailed woken clear =>
      -- A woken command without an error has been acknowledged.
      rcases backed.event (sound.woken id (Or.inl woken)) with failed | seen
      · exact absurd clear failed
      · exact seen.later _
    | sent | unsent | woken | expired | failed | returned => cases place
  | written found => exact (okSeen_kept traced found (backed.unfailed place)).later _

theorem ended_kept (backed : Backed events session id) (single : (session.calls id).request.typeId ≠ typeTx)
    (taken : step cobs session label = some next) {value : OkValue} (ends : Ends (next.calls id) (.ok (.ok value))) :
    OkSeen (events ++ [label]) id (next.calls id).request.typeId value := by
  generalize same : next.calls id = call at ends ⊢
  cases same ▸ step_calls taken id with
  | same | written => exact (backed.ended value ends).later _
  | rejected | entered | allocated | registered => rcases ends with ends | ends <;> cases ends
  | forgotten leaving =>
    rcases ends with ends | ends <;> cases ends
    exact (backed.ended value (Or.inl leaving)).later _
  | moved move =>
    cases move with
    | returned unfailed =>
      have result : (session.calls id).result = .ok (.ok (session.calls id).slot.okPayload) := if_neg single
      rcases ends with ends | ends
      · rw [result] at ends
        cases ends
        exact (backed.unfailed unfailed).later _
      · cases ends
    | sent | unsent | woken | expired | failed | unfailed => rcases ends with ends | ends <;> cases ends

theorem primed_kept (backed : Backed events session id) (traced : Traced events session) (sound : Sound session)
    (taken : step cobs session label = some next) (own : OwnReport session label)
    (single : (session.calls id).request.typeId ≠ typeTx) (agent : Agent) :
    Primed (Acked (events ++ [label]) id (next.calls id)) id (next.todo agent) := by
  by_cases past : Registered (session.calls id)
  · exact primed_step traced taken own single backed past agent
  · exact primed_unsignalled fun member => past (traced.targets_before sound taken agent _ id member rfl)

theorem begun (empty : (session.calls id).slot = {})
    (place : (session.calls id).pc = .entered ∨ ∃ exc, (session.calls id).pc = .finished (.error exc))
    (untouched : ∀ agent action, action ∈ session.todo agent → target action ≠ some id) :
    Backed events session id where
  unreported := by rw [empty]
  unsent agent _ member := untouched agent _ member rfl
  primed agent := primed_unsignalled fun member => untouched agent _ member rfl
  event set := by
    rw [empty] at set
    cases set
  unfailed unfailed := by rcases place with place | ⟨_, place⟩ <;> cases place.symm.trans unfailed
  ended _ ends := by
    rcases place with place | ⟨_, place⟩ <;> rcases ends with ends | ends <;> cases place.symm.trans ends

/-- Only `begin` gives a command its request. -/
theorem request_kept (taken : step cobs session label = some next) (id : Nat) :
    (next.calls id).request = (session.calls id).request ∨
      (session.calls id).pc = .idle ∧ (next.calls id).slot = {} ∧
        ((next.calls id).pc = .entered ∨ ∃ exc, (next.calls id).pc = .finished (.error exc)) := by
  generalize same : next.calls id = call
  cases same ▸ step_calls taken id with
  | same | allocated | registered | moved | forgotten | written => exact Or.inl rfl
  | entered idle => exact Or.inr ⟨idle, rfl, Or.inl rfl⟩
  | rejected idle => exact Or.inr ⟨idle, rfl, Or.inr ⟨_, rfl⟩⟩

theorem preserved (backed : (session.calls id).request.typeId ≠ typeTx → Backed events session id)
    (traced : Traced events session) (sound : Sound session) (taken : step cobs session label = some next)
    (own : OwnReport session label) (single : (next.calls id).request.typeId ≠ typeTx) :
    Backed (events ++ [label]) next id := by
  rcases request_kept taken id with same | ⟨idle, empty, place⟩
  · rw [same] at single
    have backed := backed single
    exact {
      unreported := backed.unreported_kept taken
      unsent := unsent_step taken own single backed.unsent
      primed := backed.primed_kept traced sound taken own single
      event := backed.event_kept traced taken
      unfailed := backed.unfailed_kept traced sound taken
      ended := fun _ => backed.ended_kept single taken }
  · refine .begun empty place ?_
    intro agent action member aimed
    exact (traced.targets_before sound taken agent action id member aimed).1 idle

theorem reachable (run : Run (Guarded (Steps (step cobs)) OwnReport) {} events session)
    (single : (session.calls id).request.typeId ≠ typeTx) : Backed events session id := by
  induction run with
  | nil => exact .initial
  | snoc before taken ih =>
    exact preserved ih (Traced.reachable before.unguarded) (Sound.reachable before.unguarded) taken.1 taken.2 single

end Backed

def Fits : Request → OkValue → Prop
  | .setConfig _, value => ∃ result, value = .setConfig result
  | .getInfo, value => ∃ info, value = .info info
  | _, value => value = .none

theorem parsed_fits {request : Request} {payload : Wire.Bytes} {value : OkValue} (single : request.typeId ≠ typeTx)
    (parsed : parseOkPayload request.typeId payload = .ok value) : Fits request value := by
  have empty {cmdType : Nat} (plain : cmdType ∈ [typePing, typeTx, typeRxStart, typeRxStop])
      (parsed : parseOkPayload cmdType payload = .ok value) : value = .none := by
    rw [parseOkPayload, if_pos plain] at parsed
    split at parsed <;> cases parsed
    rfl
  cases request with
  | ping | rxStart | rxStop => exact empty (by decide) parsed
  | transmit => exact absurd rfl single
  | getInfo =>
    change (do return OkValue.info (← Info.decode payload)) = _ at parsed
    cases decoded : Info.decode payload with
    | ok info =>
      rw [decoded] at parsed
      cases parsed
      exact ⟨info, rfl⟩
    | error exc =>
      rw [decoded] at parsed
      cases parsed
  | setConfig modulation =>
    change (do return OkValue.setConfig (← SetConfigResult.decode payload)) = _ at parsed
    cases decoded : SetConfigResult.decode payload with
    | ok result =>
      rw [decoded] at parsed
      cases parsed
      exact ⟨result, rfl⟩
    | error exc =>
      rw [decoded] at parsed
      cases parsed

/-- A command with one reply returns only what an `OK` of its own parses to. -/
theorem returned_acknowledged (run : Run (Guarded (Steps (step cobs)) OwnReport) {} events session)
    (single : (session.calls id).request.typeId ≠ typeTx) {value : Returned}
    (returned : (session.calls id).pc = .finished (.ok value)) :
    ∃ frame parsed, value = .ok parsed ∧ .dispatch frame (some id) ∈ events ∧ frame.tag = (session.calls id).tag ∧
      frame.typeId = typeOk ∧ parseOkPayload (session.calls id).request.typeId frame.payload = .ok parsed ∧
      Fits (session.calls id).request parsed := by
  cases value with
  | txDone done => exact absurd (outcome_sourced run.unguarded (Or.inr returned)).1 single
  | ok parsed =>
    obtain ⟨frame, found, okType, accepted⟩ := (Backed.reachable run single).ended parsed (Or.inr returned)
    have tag := ((Traced.reachable run.unguarded).found frame id found).2.symm
    exact ⟨frame, parsed, rfl, found, tag, okType, accepted, parsed_fits single accepted⟩

def acknowledged : List Step :=
  let ok : Frame := { typeId := typeOk, tag := 1, payload := [] }
  [.begin 0 .ping true, .alloc 0, .register 0, .write 0 none, .poll, .receive ok, .dispatch ok (some 0), .act .reader,
    .act .reader, .wake 0, .readErr 0, .readResult 0, .forget 0]

theorem returned_acknowledged_ping :
    ∃ session, Run (Guarded (Steps (step Cobs.standard)) OwnReport) {} acknowledged session ∧
      (session.calls 0).pc = .finished (.ok (.ok .none)) ∧
      ∃ frame parsed, Returned.ok .none = .ok parsed ∧ .dispatch frame (some 0) ∈ acknowledged ∧
        frame.tag = (session.calls 0).tag ∧ frame.typeId = typeOk ∧
        parseOkPayload (session.calls 0).request.typeId frame.payload = .ok parsed ∧
        Fits (session.calls 0).request parsed := by
  have computed : (execute (step Cobs.standard) {} acknowledged).map (fun session =>
      ((session.calls 0).pc, (session.calls 0).request)) = some (.finished (.ok (.ok .none)), .ping) := by decide +kernel
  obtain ⟨session, run, same⟩ := execute_summary computed
  obtain ⟨returned, ping⟩ := Prod.mk.inj same
  have own : Run (Guarded (Steps (step Cobs.standard)) OwnReport) {} acknowledged session := by
    apply run.guarded
    intro index label state found _ frame id dispatched doneType
    have member := List.mem_of_getElem? found
    subst dispatched
    simp only [acknowledged, List.mem_cons, reduceCtorEq, Step.dispatch.injEq, List.not_mem_nil, or_false, false_or]
      at member
    obtain ⟨rfl, _⟩ := member
    cases doneType
  have single : (session.calls 0).request.typeId ≠ typeTx := by rw [ping]; decide
  exact ⟨session, own, returned, returned_acknowledged own single returned⟩

/-- A `SET_CONFIG` answered by a report about a transmission. -/
def misreported : List Step :=
  let done : Frame := { typeId := typeTxDone, tag := 1, payload := [0, 0, 0, 0, 0] }
  [.begin 0 (.setConfig (.lora LoRaConfig.default)) true, .alloc 0, .register 0, .write 0 none, .poll, .receive done,
    .dispatch done (some 0), .act .reader, .act .reader, .wake 0, .readErr 0, .readResult 0, .forget 0]

/-- The `SET_CONFIG` returns normally, without an acknowledgement and without a result. -/
theorem report_acknowledges_setConfig :
    ∃ session, Run (Steps (step Cobs.standard)) {} misreported session ∧
      (session.calls 0).request = .setConfig (.lora LoRaConfig.default) ∧
      (session.calls 0).pc = .finished (.ok (.ok .none)) ∧
      ∀ frame found, .dispatch frame found ∈ misreported → frame.typeId ≠ typeOk := by
  have computed : (execute (step Cobs.standard) {} misreported).map (fun session =>
      ((session.calls 0).request, (session.calls 0).pc)) =
        some (.setConfig (.lora LoRaConfig.default), .finished (.ok (.ok .none))) := by decide +kernel
  obtain ⟨session, run, same⟩ := execute_summary computed
  obtain ⟨request, returned⟩ := Prod.mk.inj same
  refine ⟨session, run, request, returned, ?_⟩
  intro frame found member okType
  simp only [misreported, List.mem_cons, reduceCtorEq, Step.dispatch.injEq, List.not_mem_nil, or_false, false_or]
    at member
  obtain ⟨rfl, _⟩ := member
  cases okType

end DongloraClient.Proofs.SessionAnswers
