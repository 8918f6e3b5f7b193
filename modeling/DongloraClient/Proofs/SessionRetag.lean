import DongloraClient.Proofs.SessionPart

/-! The number of its tag does not decide how a command ends. It only shows in the
exceptions that name it. -/

namespace DongloraClient.Proofs.SessionPart
open Wire Session SessionSteps SessionTable

variable {cobs : Cobs.Codec} {id : Nat}

def untag : Exc → Exc
  | .timeoutError _ => .timeoutError ""
  | .deviceError cls code _ => .deviceError cls code none
  | exc => exc

/-- Two outcomes that differ at most in the tag that their exceptions name. -/
def untagged : Outcome → Outcome
  | .ok value => .ok value
  | .error exc => .error (untag exc)

def Observation.retag (tag : Nat) : Observation → Observation
  | .alloc _ => .alloc tag
  | observation => observation

namespace Part

def blurPc : Pc → Pc
  | .leaving outcome => .leaving (untagged outcome)
  | .finished outcome => .finished (untagged outcome)
  | pc => pc

def blurSlot (slot : Pending) : Pending := { slot with tag := 1, err := slot.err.map untag }

def blurAction : Action → Action
  | .setErr call exc => .setErr call (untag exc)
  | .setErrIfUnset call exc => .setErrIfUnset call (untag exc)
  | action => action

def blurCall (call : Call) : Call := { call with tag := 1, slot := blurSlot call.slot, pc := blurPc call.pc }

/-- The part as it would be under tag 1, with no tag in any exception. -/
def blurred (part : Part) : Part :=
  { call := blurCall part.call, listed := part.listed, todo := fun agent => (part.todo agent).map blurAction }

theorem untag_idem (exc : Exc) : untag (untag exc) = untag exc := by
  cases exc <;> rfl

theorem untagged_idem (outcome : Outcome) : untagged (untagged outcome) = untagged outcome := by
  cases outcome with
  | ok => rfl
  | error exc => exact congrArg Except.error (untag_idem exc)

theorem target_blur (action : Action) : target (blurAction action) = target action := by
  cases action <;> rfl

theorem blur_idem (action : Action) : blurAction (blurAction action) = blurAction action := by
  cases action <;> simp [blurAction, untag_idem]

theorem aimed_blur (actions : List Action) : (aimed id actions).map blurAction = aimed id (actions.map blurAction) := by
  simp only [aimed, List.filter_map, Function.comp_def, target_blur]

theorem effect_blur (id : Nat) (slot : Pending) (action : Action) :
    blurSlot (effect id (blurSlot slot) (blurAction action)) = blurSlot (effect id slot action) := by
  cases action with
  | setErrIfUnset call exc =>
    by_cases unset : call = id ∧ slot.err = none ∧ slot.txDone = none
    · simp [effect, blurAction, blurSlot, unset, untag_idem]
    · simp [effect, blurAction, blurSlot, unset, untag_idem, Function.comp_def]
  | setErr call | setOk call | setTxDone call | signal call =>
    by_cases own : call = id <;> simp [effect, blurAction, blurSlot, own, untag_idem, Function.comp_def]
  | putRx | putError | clear | setDead | putSentinel | closeTransport =>
    simp [effect, blurAction, blurSlot, untag_idem, Function.comp_def]

theorem wire_valid (call : Call) (valid : call.tag ≤ 0xFFFF) : wire cobs call = (call.request.payload >>= fun payload =>
    if payload.length > maxPayloadField then
      .error (.valueError s!"payload too large ({payload.length} > {maxPayloadField})")
    else .ok (FrameCodec.wire cobs { typeId := call.request.typeId, tag := call.tag, payload })) := by
  have small : call.request.typeId ≤ 0xFF := by
    cases call.request <;> exact Nat.le_of_ble_eq_true rfl
  have sent (payload : Bytes) : encodeFrame cobs call.request.typeId call.tag payload =
      if payload.length > maxPayloadField then
        .error (.valueError s!"payload too large ({payload.length} > {maxPayloadField})")
      else .ok (FrameCodec.wire cobs { typeId := call.request.typeId, tag := call.tag, payload }) := by
    let frame : Frame := { typeId := call.request.typeId, tag := call.tag, payload }
    split
    next long => exact FrameCodec.encodeFrame_long cobs (show frame.typeId ≤ 0xFF from small) valid long
    next fits =>
      have valid : FrameCodec.Valid frame := ⟨small, valid, Nat.le_of_not_lt fits⟩
      exact FrameCodec.encodeFrame_valid cobs valid
  simp only [wire, sent]

theorem wire_blur (cobs : Cobs.Codec) (call : Call) (valid : call.tag ≤ 0xFFFF) :
    (∃ exc, wire cobs call = .error exc ∧ wire cobs (blurCall call) = .error exc) ∨
      (∃ bytes sent, wire cobs call = .ok bytes ∧ wire cobs (blurCall call) = .ok sent) := by
  have unit : (blurCall call).tag ≤ 0xFFFF := show 1 ≤ 0xFFFF by decide
  have same : (blurCall call).request = call.request := rfl
  rw [wire_valid call valid, wire_valid (blurCall call) unit, same]
  cases call.request.payload with
  | error exc => exact Or.inl ⟨exc, rfl, rfl⟩
  | ok payload =>
    by_cases long : payload.length > maxPayloadField
    · exact Or.inl ⟨_, if_pos long, if_pos long⟩
    · exact Or.inr ⟨_, _, if_neg long, if_neg long⟩

theorem reaction_blur (typeId : Nat) (payload : Bytes) (found : Option (Nat × Nat)) {tag other : Nat}
    (tagged : tag ≠ 0) (named : other ≠ 0) :
    (reaction ⟨typeId, tag, payload⟩ found).map (List.map blurAction) =
      (reaction ⟨typeId, other, payload⟩ found).map (List.map blurAction) := by
  simp only [reaction, if_neg tagged, if_neg named]
  cases found with
  | none => rfl
  | some entry =>
    obtain ⟨id, cmdType⟩ := entry
    by_cases okType : typeId = typeOk
    · simp only [if_pos okType]
    · by_cases errType : typeId = typeErr
      · simp only [if_neg okType, if_pos errType]
        cases decodeErrPayload payload with
        | error => rfl
        | ok code => rfl
      · simp only [if_neg okType, if_neg errType]

theorem pc_idem (pc : Pc) : blurPc (blurPc pc) = blurPc pc := by
  cases pc <;> simp only [blurPc, untagged_idem]

theorem slot_idem (slot : Pending) : blurSlot (blurSlot slot) = blurSlot slot := by
  simp [blurSlot, untag_idem, Function.comp_def]

@[simp] theorem call_idem (call : Call) : blurCall (blurCall call) = blurCall call := by
  simp only [blurCall, pc_idem, slot_idem]

@[simp] theorem blurred_idem (part : Part) : part.blurred.blurred = part.blurred := by
  simp [blurred, blur_idem, Function.comp_def]

theorem setPc_blur (part : Part) {pc other : Pc} (same : blurPc pc = blurPc other) :
    (part.setPc pc).blurred = (part.blurred.setPc other).blurred := by
  have moved (part : Part) (pc : Pc) : (part.setPc pc).blurred = part.blurred.setPc (blurPc pc) := rfl
  rw [moved, moved, blurred_idem, same]

theorem blurred_setTodo (part : Part) (agent : Agent) (actions : List Action) :
    (part.setTodo agent actions).blurred = part.blurred.setTodo agent (actions.map blurAction) := by
  simp only [setTodo, blurred, Part.mk.injEq, true_and]
  funext worker
  simp only [Function.update_apply]
  split <;> rfl

theorem setTodo_blur (part : Part) (agent : Agent) {actions others : List Action}
    (same : actions.map blurAction = others.map blurAction) :
    (part.setTodo agent actions).blurred = (part.blurred.setTodo agent others).blurred := by
  rw [blurred_setTodo, blurred_setTodo, blurred_idem, same]

theorem act_blur (part : Part) (agent : Agent) : (part.act id agent).blurred = (part.blurred.act id agent).blurred := by
  have todo : part.blurred.todo agent = (part.todo agent).map blurAction := rfl
  simp only [act, todo]
  cases part.todo agent with
  | nil => exact (blurred_idem part).symm
  | cons action rest =>
    have written : ({ part with call := { part.call with slot := effect id part.call.slot action } } : Part).blurred =
        ({ part.blurred with call := { part.blurred.call with
          slot := effect id part.blurred.call.slot (blurAction action) } } : Part).blurred := by
      have slot : part.blurred.call.slot = blurSlot part.call.slot := rfl
      simp [blurred, blurCall, effect_blur, pc_idem, blur_idem, Function.comp_def]
    simp only [List.map_cons]
    rw [blurred_setTodo, blurred_setTodo, written, List.map_map]
    simp only [Function.comp_def, blur_idem]

/-- Nothing but exceptions depends on which tag it is. -/
theorem react_blur (part : Part) (observation : Observation)
    (valid : observation.Later → 0 < part.call.tag ∧ part.call.tag ≤ 0xFFFF) :
    (part.react cobs id observation).blurred = (part.blurred.react cobs id (observation.retag 1)).blurred := by
  have named : part.blurred.call = blurCall part.call := rfl
  cases observation with
  | begin => rfl
  | alloc => simp [react, Observation.retag, blurred, blurCall, slot_idem, blur_idem, Function.comp_def, blurPc]
  | register => simp [react, Observation.retag, blurred, blurCall, blurSlot, blur_idem, Function.comp_def]
  | write failure =>
    simp only [react, Observation.retag, named]
    rcases wire_blur cobs part.call (valid trivial).2 with ⟨exc, first, second⟩ | ⟨bytes, sent, first, second⟩
    · simp only [first, second]
      exact setPc_blur part rfl
    · simp only [first, second]
      cases failure <;> exact setPc_blur part rfl
  | wake => exact setPc_blur part rfl
  | expire => exact setPc_blur part rfl
  | readErr =>
    have err : part.blurred.call.slot.err = part.call.slot.err.map untag := rfl
    simp only [react, Observation.retag, err]
    cases part.call.slot.err with
    | none => exact setPc_blur part rfl
    | some exc =>
      apply setPc_blur part
      simp only [blurPc, untagged, untag_idem]
  | readResult => exact setPc_blur part rfl
  | forget =>
    have pc : part.blurred.call.pc = blurPc part.call.pc := rfl
    simp only [react, Observation.retag, pc]
    cases part.call.pc with
    | leaving outcome => simp [blurred, blurCall, blurPc, untagged_idem]
    | idle | entered | allocated | registered | waiting | woken | unfailed | finished =>
      exact (blurred_idem part).symm
  | frame typeId payload =>
    have listed : part.blurred.listed = part.listed := rfl
    have request : part.blurred.call.request = part.call.request := rfl
    have tag : part.blurred.call.tag = 1 := rfl
    simp only [react, Observation.retag, listed, request, tag]
    generalize (if part.listed then some (id, part.call.request.typeId) else none) = found
    have same := reaction_blur typeId payload found (Nat.ne_of_gt (valid trivial).1) Nat.one_ne_zero
    cases first : reaction ⟨typeId, part.call.tag, payload⟩ found with
    | ok actions =>
      cases second : reaction ⟨typeId, 1, payload⟩ found with
      | ok others =>
        rw [first, second] at same
        apply setTodo_blur
        rw [aimed_blur, aimed_blur, Except.ok.inj same]
      | error exc => simp [first, second, Except.map] at same
    | error exc =>
      cases second : reaction ⟨typeId, 1, payload⟩ found with
      | ok others => simp [first, second, Except.map] at same
      | error raised => exact (blurred_idem part).symm
  | sweep closer => exact setTodo_blur part _ rfl
  | shutdown => exact setTodo_blur part _ rfl
  | act agent => exact act_blur part agent
  | clear => simp [react, Observation.retag, blurred, blur_idem, Function.comp_def]

end Part
end DongloraClient.Proofs.SessionPart
