import DongloraClient.Session
import DongloraClient.Foundation.Transition

/-! What one step can do to each part of a session. Every invariant is proved from
these inversions, never from the step function itself. -/

namespace DongloraClient.Proofs.SessionSteps
open Session

def effect (id : Nat) (slot : Pending) : Action → Pending
  | .setErr call exc => if call = id then { slot with err := some exc } else slot
  | .setErrIfUnset call exc =>
    if call = id ∧ slot.err = none ∧ slot.txDone = none then { slot with err := some exc } else slot
  | .setOk call value => if call = id then { slot with okPayload := value } else slot
  | .setTxDone call done => if call = id then { slot with txDone := some done } else slot
  | .signal call => if call = id then { slot with event := true } else slot
  | _ => slot

def target : Action → Option Nat
  | .setErr call _ | .setErrIfUnset call _ | .setOk call _ | .setTxDone call _ | .signal call => some call
  | _ => none

section Effects
attribute [local simp] effect target

@[simp] theorem effect_tag (id : Nat) (slot : Pending) (action : Action) : (effect id slot action).tag = slot.tag := by
  cases action <;> simp only [effect] <;> split <;> rfl

@[simp] theorem effect_cmdType (id : Nat) (slot : Pending) (action : Action) :
    (effect id slot action).cmdType = slot.cmdType := by
  cases action <;> simp only [effect] <;> split <;> rfl

theorem effect_event (id : Nat) {slot : Pending} (action : Action) (set : slot.event = true) :
    (effect id slot action).event = true := by
  cases action <;> simp only [effect] <;> (try split) <;> first | exact set | rfl

theorem effect_untargeted {id : Nat} {slot : Pending} {action : Action} (other : target action ≠ some id) :
    effect id slot action = slot := by
  cases action <;> simp_all [effect, target]

theorem effect_err {id : Nat} {slot : Pending} {action : Action} {exc : Exc}
    (set : (effect id slot action).err = some exc) :
    slot.err = some exc ∨ action = .setErr id exc ∨ action = .setErrIfUnset id exc := by
  cases action <;> simp only [effect] at set <;> (try split at set) <;> simp_all

theorem effect_txDone {id : Nat} {slot : Pending} {action : Action} {done : TxDone}
    (set : (effect id slot action).txDone = some done) :
    slot.txDone = some done ∨ action = .setTxDone id done := by
  cases action <;> simp only [effect] at set <;> (try split at set) <;> simp_all

theorem effect_okPayload (id : Nat) (slot : Pending) (action : Action) :
    (effect id slot action).okPayload = slot.okPayload ∨ action = .setOk id (effect id slot action).okPayload := by
  cases action <;> simp only [effect] <;> (try split) <;> simp_all

theorem effect_signal {id : Nat} {slot : Pending} {action : Action} (set : (effect id slot action).event = true) :
    slot.event = true ∨ action = .signal id := by
  cases action <;> simp only [effect] at set <;> (try split at set) <;> simp_all

/-- An error is replaced, never taken back. -/
theorem effect_err_kept (id : Nat) {slot : Pending} (action : Action) (set : slot.err ≠ none) :
    (effect id slot action).err ≠ none := by
  cases action <;> simp only [effect] <;> (try split) <;> simp_all

end Effects

section Updates
attribute [local simp] Session.apply

variable (session : Session) (id other : Nat) (call : Call) (agent : Agent) (actions : List Action)

@[simp] theorem setCall_calls : (session.setCall id call).calls other = if other = id then call else session.calls other := by
  simp only [setCall, Function.update_apply]

@[simp] theorem setPc_calls (pc : Pc) : (session.setPc id pc).calls other =
    if other = id then { session.calls id with pc } else session.calls other := by
  simp only [setPc, setCall_calls]

@[simp] theorem setSlot_calls (slot : Pending) : (session.setSlot id slot).calls other =
    if other = id then { session.calls id with slot } else session.calls other := by
  simp only [setSlot, setCall_calls]

@[simp] theorem setTodo_calls : (session.setTodo agent actions).calls = session.calls := rfl

@[simp] theorem setTodo_todo (worker : Agent) : (session.setTodo agent actions).todo worker =
    if worker = agent then actions else session.todo worker := by
  simp only [setTodo, Function.update_apply]

@[simp] theorem registerPending_calls (tag cmdType : Nat) : (session.registerPending id tag cmdType).calls other =
    if other = id then { session.calls id with slot := { tag, cmdType } } else session.calls other :=
  setSlot_calls session id other { tag, cmdType }

theorem apply_calls (action : Action) : (session.apply action).calls id =
    { session.calls id with slot := effect id (session.calls id).slot action } := by
  have split_id (call : Nat) (slot : Pending) : (session.setSlot call slot).calls id =
      { session.calls id with slot := if call = id then slot else (session.calls id).slot } := by
    rw [setSlot_calls]
    by_cases same : id = call
    · subst same; simp
    · simp [same, Ne.symm same]
  cases action with
  | setErrIfUnset call exc =>
    simp only [Session.apply, effect]
    by_cases same : call = id
    · subst same
      split
      next unset => simp [unset]
      next set => simp only [true_and, if_neg set]
    · split <;> simp [same, Ne.symm same]
  | setErr call exc | setOk call value | setTxDone call done | signal call =>
    rw [Session.apply, split_id]
    by_cases same : call = id
    · subst same; simp [effect]
    · simp [effect, same]
  | _ => rfl

@[simp] theorem apply_todo (action : Action) : (session.apply action).todo = session.todo := by
  cases action <;> simp only [Session.apply] <;> (try split) <;> rfl

@[simp] theorem apply_nextTag (action : Action) : (session.apply action).nextTag = session.nextTag := by
  cases action <;> simp only [Session.apply] <;> (try split) <;> rfl

@[simp] theorem apply_reader (action : Action) : (session.apply action).reader = session.reader := by
  cases action <;> simp only [Session.apply] <;> (try split) <;> rfl

@[simp] theorem apply_closers (action : Action) : (session.apply action).closers = session.closers := by
  cases action <;> simp only [Session.apply] <;> (try split) <;> rfl

@[simp] theorem apply_closed (action : Action) : (session.apply action).closed = session.closed := by
  cases action <;> simp only [Session.apply] <;> (try split) <;> rfl

theorem apply_table (action : Action) (kept : action ≠ .clear) :
    (session.apply action).pending = session.pending ∧ (session.apply action).lock = session.lock := by
  cases action with
  | clear => exact False.elim (kept rfl)
  | setErrIfUnset call exc =>
    simp only [Session.apply]
    split <;> exact ⟨rfl, rfl⟩
  | _ => exact ⟨rfl, rfl⟩

end Updates

variable {cobs : Cobs.Codec} {session next : Session} {label : Step}

/-- The steps a caller takes on its own between registering and forgetting. -/
inductive PcMove (cobs : Cobs.Codec) (call : Call) (id : Nat) : Step → Pc → Prop where
  | sent : call.pc = .registered → PcMove cobs call id (.write id none) .waiting
  | unsent {failure : Option String} {exc : Exc} : call.pc = .registered →
      (wire cobs call = .error exc ∨ ∃ text, failure = some text ∧ exc = .osError text) →
      PcMove cobs call id (.write id failure) (.leaving (.error exc))
  | woken : call.pc = .waiting → call.slot.event = true → PcMove cobs call id (.wake id) .woken
  | expired : call.pc = .waiting → call.timed = true → call.slot.event = false →
      PcMove cobs call id (.expire id) (.leaving (.error (.timeoutError call.timeoutText)))
  | failed {exc : Exc} : call.pc = .woken → call.slot.err = some exc →
      PcMove cobs call id (.readErr id) (.leaving (.error exc))
  | unfailed : call.pc = .woken → call.slot.err = none → PcMove cobs call id (.readErr id) .unfailed
  | returned : call.pc = .unfailed → PcMove cobs call id (.readResult id) (.leaving call.result)

/-- Everything a step can do, with the guards under which it does it. -/
inductive Stepped (cobs : Cobs.Codec) (session : Session) : Step → Session → Prop where
  | rejected {id : Nat} {request : Request} {timed : Bool} {exc : Exc} : (session.calls id).pc = .idle →
      request.rejected = some exc → Stepped cobs session (.begin id request timed)
        (session.setCall id { request, timed, pc := .finished (.error exc) })
  | entered {id : Nat} {request : Request} {timed : Bool} : (session.calls id).pc = .idle →
      request.rejected = none → Stepped cobs session (.begin id request timed)
        (session.setCall id { request, timed, pc := .entered })
  | allocated {id : Nat} : (session.calls id).pc = .entered → Stepped cobs session (.alloc id)
      ({ session with nextTag := advanceTag session.nextTag }.setCall id
        { session.calls id with pc := .allocated, tag := session.nextTag })
  | registered {id : Nat} : (session.calls id).pc = .allocated → session.lock = none →
      Stepped cobs session (.register id)
        ((session.registerPending id (session.calls id).tag (session.calls id).request.typeId).setPc id .registered)
  | moved {label : Step} {id : Nat} {pc : Pc} : PcMove cobs (session.calls id) id label pc →
      Stepped cobs session label (session.setPc id pc)
  | forgotten {id : Nat} {outcome : Outcome} : (session.calls id).pc = .leaving outcome → session.lock = none →
      Stepped cobs session (.forget id)
        ((session.forgetPending (session.calls id).tag).setPc id (.finished outcome))
  | acted {agent : Agent} {action : Action} {rest : List Action} : session.todo agent = action :: rest →
      Stepped cobs session (.act agent) ((session.apply action).setTodo agent rest)
  | polled : session.reader = .looping → session.todo .reader = [] → Stepped cobs session .poll
      { session with reader := if session.closed then .finishing else .reading }
  | received {frame : Frame} : session.reader = .reading →
      Stepped cobs session (.receive frame) { session with reader := .dispatching frame }
  | corrupted {fault : FrameFault} : session.reader = .reading → Stepped cobs session (.corrupt fault)
      ({ session with reader := .looping }.setTodo .reader [.putError (.frameError fault.message)])
  | timedOut : session.reader = .reading → Stepped cobs session .idle { session with reader := .looping }
  | failed : session.reader = .reading → Stepped cobs session .hangup { session with reader := .finishing }
  | dispatched {frame : Frame} {found : Option Nat} {actions : List Action} :
      session.reader = .dispatching frame → (frame.tag = 0 ∨ session.lock = none) →
      found = (session.getPending frame.tag).map Prod.fst →
      reaction frame (session.getPending frame.tag) = .ok actions → Stepped cobs session (.dispatch frame found)
        ({ session with reader := .looping }.setTodo .reader actions)
  | raised {frame : Frame} {found : Option Nat} {exc : Exc} :
      session.reader = .dispatching frame → (frame.tag = 0 ∨ session.lock = none) →
      found = (session.getPending frame.tag).map Prod.fst →
      reaction frame (session.getPending frame.tag) = .error exc →
      Stepped cobs session (.dispatch frame found) { session with reader := .looping }
  | ended : session.reader = .finishing → session.lock = none → Stepped cobs session .shutdown
      ({ session with reader := .ending, lock := some .reader }.setTodo .reader session.shuttingDown)
  | flagged {id : Nat} : session.closers id = .idle → Stepped cobs session (.close id)
      { session with closed := true, closers := Function.update session.closers id .flagged }
  | swept {id : Nat} : session.closers id = .flagged → session.lock = none → Stepped cobs session (.sweep id)
      ({ session with
        lock := some (.closer id)
        closers := Function.update session.closers id .closing }.setTodo (.closer id) session.closing)
  | asked {id : Nat} {timed : Bool} : session.consumers id = .idle → Stepped cobs session (.next id timed)
      { session with consumers := Function.update session.consumers id (.getting timed) }
  | took {id : Nat} {timed : Bool} {event : RxEvent} {rest : List RxItem} :
      session.consumers id = .getting timed → session.rxQueue = .event event :: rest →
      Stepped cobs session (.take id) { session with
        rxQueue := rest
        consumers := Function.update session.consumers id (.returned (some event)) }
  | woke {id : Nat} {timed : Bool} {rest : List RxItem} :
      session.consumers id = .getting timed → session.rxQueue = .sentinel :: rest →
      Stepped cobs session (.take id) { session with
        rxQueue := rest
        consumers := Function.update session.consumers id .reposting }
  | gaveUp {id : Nat} : session.consumers id = .getting true → session.rxQueue = [] →
      Stepped cobs session (.giveUp id)
        { session with consumers := Function.update session.consumers id (.returned none) }
  | reposted {id : Nat} : session.consumers id = .reposting → Stepped cobs session (.repost id)
      { session with
        rxQueue := session.rxQueue ++ [.sentinel]
        consumers := Function.update session.consumers id (.returned none) }
  | drained {exc : Exc} {rest : List Exc} : session.asyncErrors = exc :: rest →
      Stepped cobs session .drain { session with asyncErrors := rest }

theorem stepped (taken : step cobs session label = some next) : Stepped cobs session label next := by
  cases label with
  | begin owner request timed =>
    simp only [step] at taken
    split at taken
    next idle =>
      split at taken <;> cases taken
      next failed => exact .rejected idle failed
      next accepted => exact .entered idle accepted
    next => cases taken
  | alloc owner =>
    simp only [step, allocTag] at taken
    split at taken <;> cases taken
    next entered => exact .allocated entered
  | register owner =>
    simp only [step] at taken
    split at taken <;> cases taken
    next ready => exact .registered ready.1 ready.2
  | write owner failure =>
    simp only [step] at taken
    split at taken
    next ready =>
      split at taken <;> cases taken
      next failed => exact .moved (.unsent ready (Or.inl failed))
      next => exact .moved (.unsent ready (Or.inr ⟨_, rfl, rfl⟩))
      next => exact .moved (.sent ready)
    next => cases taken
  | wake owner =>
    simp only [step] at taken
    split at taken <;> cases taken
    next ready => exact .moved (.woken ready.1 ready.2)
  | expire owner =>
    simp only [step] at taken
    split at taken <;> cases taken
    next ready => exact .moved (.expired ready.1 ready.2.1 ready.2.2)
  | readErr owner =>
    simp only [step] at taken
    split at taken
    next woken =>
      split at taken <;> cases taken
      next found => exact .moved (.failed woken found)
      next found => exact .moved (.unfailed woken found)
    next => cases taken
  | readResult owner =>
    simp only [step] at taken
    split at taken <;> cases taken
    next ready => exact .moved (.returned ready)
  | forget owner =>
    simp only [step] at taken
    split at taken
    next outcome leaving =>
      split at taken <;> cases taken
      next free => exact .forgotten leaving free
    next => cases taken
  | poll =>
    simp only [step] at taken
    split at taken <;> cases taken
    next ready => exact .polled ready.1 ready.2
  | receive frame =>
    simp only [step] at taken
    split at taken <;> cases taken
    next ready => exact .received ready
  | corrupt fault =>
    simp only [step] at taken
    split at taken <;> cases taken
    next ready => exact .corrupted ready
  | idle =>
    simp only [step] at taken
    split at taken <;> cases taken
    next ready => exact .timedOut ready
  | hangup =>
    simp only [step] at taken
    split at taken <;> cases taken
    next ready => exact .failed ready
  | dispatch frame found =>
    simp only [step] at taken
    split at taken
    next ready =>
      split at taken <;> cases taken
      next reacted => exact .dispatched ready.1 ready.2.1 ready.2.2 reacted
      next reacted => exact .raised ready.1 ready.2.1 ready.2.2 reacted
    next => cases taken
  | shutdown =>
    simp only [step] at taken
    split at taken <;> cases taken
    next ready => exact .ended ready.1 ready.2
  | close owner =>
    simp only [step] at taken
    split at taken <;> cases taken
    next ready => exact .flagged ready
  | sweep owner =>
    simp only [step] at taken
    split at taken <;> cases taken
    next ready => exact .swept ready.1 ready.2
  | act agent =>
    simp only [step] at taken
    split at taken <;> cases taken
    next found => exact .acted found
  | next consumer timed =>
    simp only [step] at taken
    split at taken <;> cases taken
    next ready => exact .asked ready
  | take consumer =>
    simp only [step] at taken
    split at taken <;> cases taken
    next getting queued => exact .took getting queued
    next getting queued => exact .woke getting queued
  | giveUp consumer =>
    simp only [step] at taken
    split at taken <;> cases taken
    next ready => exact .gaveUp ready.1 ready.2
  | repost consumer =>
    simp only [step] at taken
    split at taken <;> cases taken
    next ready => exact .reposted ready
  | drain =>
    simp only [step] at taken
    split at taken <;> cases taken
    next queued => exact .drained queued

inductive CallStep (cobs : Cobs.Codec) (session : Session) (id : Nat) : Step → Call → Prop where
  | same {label : Step} : CallStep cobs session id label (session.calls id)
  | rejected {request : Request} {timed : Bool} {exc : Exc} : (session.calls id).pc = .idle →
      request.rejected = some exc →
      CallStep cobs session id (.begin id request timed) { request, timed, pc := .finished (.error exc) }
  | entered {request : Request} {timed : Bool} : (session.calls id).pc = .idle →
      CallStep cobs session id (.begin id request timed) { request, timed, pc := .entered }
  | allocated : (session.calls id).pc = .entered →
      CallStep cobs session id (.alloc id) { session.calls id with pc := .allocated, tag := session.nextTag }
  | registered : (session.calls id).pc = .allocated → session.lock = none →
      CallStep cobs session id (.register id) { session.calls id with
        pc := .registered
        slot := { tag := (session.calls id).tag, cmdType := (session.calls id).request.typeId } }
  | moved {label : Step} {pc : Pc} : PcMove cobs (session.calls id) id label pc →
      CallStep cobs session id label { session.calls id with pc }
  | forgotten {outcome : Outcome} : (session.calls id).pc = .leaving outcome → session.lock = none →
      CallStep cobs session id (.forget id) { session.calls id with pc := .finished outcome }
  | written {agent : Agent} {action : Action} {rest : List Action} : session.todo agent = action :: rest →
      CallStep cobs session id (.act agent)
        { session.calls id with slot := effect id (session.calls id).slot action }

theorem step_calls (taken : step cobs session label = some next) (id : Nat) :
    CallStep cobs session id label (next.calls id) := by
  -- A step of another command leaves this one alone.
  have focus {owner : Nat} {call : Call} {label : Step}
      (own : id = owner → CallStep cobs session id label call) :
      CallStep cobs session id label (if id = owner then call else session.calls id) := by
    split
    next same => exact own same
    next => exact .same
  cases stepped taken with
  | rejected idle failed =>
    rw [setCall_calls]
    exact focus fun same => by subst same; exact .rejected idle failed
  | entered idle accepted =>
    rw [setCall_calls]
    exact focus fun same => by subst same; exact .entered idle
  | allocated entered =>
    rw [setCall_calls]
    exact focus fun same => by subst same; exact .allocated entered
  | @registered owner ready free =>
    rw [setPc_calls, registerPending_calls, registerPending_calls]
    by_cases same : id = owner
    · subst same
      simpa using CallStep.registered ready free
    · simpa [same] using CallStep.same
  | moved move =>
    rw [setPc_calls]
    exact focus fun same => by subst same; exact .moved move
  | forgotten leaving free =>
    rw [setPc_calls]
    exact focus fun same => by subst same; exact .forgotten leaving free
  | acted found =>
    rw [setTodo_calls, apply_calls]
    exact .written found
  | polled | received | corrupted | timedOut | failed | dispatched | raised | ended | flagged | swept | asked
  | took | woke | gaveUp | reposted | drained => exact .same

/-- What a step can do to the statements an agent has still to execute. -/
inductive TodoStep (session : Session) (agent : Agent) : Step → List Action → Prop where
  | same {label : Step} : TodoStep session agent label (session.todo agent)
  | executed {action : Action} {rest : List Action} : session.todo agent = action :: rest →
      TodoStep session agent (.act agent) rest
  | dispatched {frame : Frame} {found : Option Nat} {actions : List Action} : agent = .reader →
      session.reader = .dispatching frame → (frame.tag = 0 ∨ session.lock = none) →
      found = (session.getPending frame.tag).map Prod.fst →
      reaction frame (session.getPending frame.tag) = .ok actions →
      TodoStep session agent (.dispatch frame found) actions
  | corrupted {fault : FrameFault} : agent = .reader → session.reader = .reading →
      TodoStep session agent (.corrupt fault) [.putError (.frameError fault.message)]
  | shutdown : agent = .reader → session.reader = .finishing → session.lock = none →
      TodoStep session agent .shutdown session.shuttingDown
  | sweep {closer : Nat} : agent = .closer closer → session.closers closer = .flagged → session.lock = none →
      TodoStep session agent (.sweep closer) session.closing

theorem step_todo (taken : step cobs session label = some next) (agent : Agent) :
    TodoStep session agent label (next.todo agent) := by
  have focus {worker : Agent} {actions : List Action} {label : Step}
      (own : agent = worker → TodoStep session agent label actions) :
      TodoStep session agent label (if agent = worker then actions else session.todo agent) := by
    split
    next same => exact own same
    next => exact .same
  cases stepped taken with
  | dispatched dispatching free found reacted =>
    rw [setTodo_todo]
    exact focus fun same => .dispatched same dispatching free found reacted
  | corrupted reading =>
    rw [setTodo_todo]
    exact focus fun same => .corrupted same reading
  | ended finishing free =>
    rw [setTodo_todo]
    exact focus fun same => .shutdown same finishing free
  | swept flagged free =>
    rw [setTodo_todo]
    exact focus fun same => .sweep same flagged free
  | acted found =>
    rw [setTodo_todo, apply_todo]
    exact focus fun same => by subst same; exact .executed found
  | rejected | entered | allocated | registered | moved | forgotten | polled | received | timedOut | failed
  | raised | flagged | asked | took | woke | gaveUp | reposted | drained => exact .same

inductive TableStep (session : Session) : Step → AList (fun _ : Nat => Nat) → Option Agent → Prop where
  | same {label : Step} : (∀ id, label ≠ .register id ∧ label ≠ .forget id) →
      TableStep session label session.pending session.lock
  | registered {id : Nat} : (session.calls id).pc = .allocated → session.lock = none →
      TableStep session (.register id) (Dict.assign (session.calls id).tag id session.pending) session.lock
  | forgotten {id : Nat} {outcome : Outcome} : (session.calls id).pc = .leaving outcome → session.lock = none →
      TableStep session (.forget id) (session.pending.erase (session.calls id).tag) session.lock
  | shutdown : session.reader = .finishing → session.lock = none →
      TableStep session .shutdown session.pending (some .reader)
  | sweep {closer : Nat} : session.closers closer = .flagged → session.lock = none →
      TableStep session (.sweep closer) session.pending (some (.closer closer))
  | cleared {agent : Agent} {rest : List Action} : session.todo agent = .clear :: rest →
      TableStep session (.act agent) ∅ none

theorem step_table (taken : step cobs session label = some next) :
    TableStep session label next.pending next.lock := by
  cases stepped taken with
  | registered ready free => exact .registered ready free
  | forgotten leaving free => exact .forgotten leaving free
  | ended finishing free => exact .shutdown finishing free
  | swept flagged free => exact .sweep flagged free
  | moved move => exact .same fun _ => by cases move <;> exact ⟨nofun, nofun⟩
  | @acted agent action rest found =>
    by_cases clears : action = .clear
    · subst clears
      exact .cleared found
    · obtain ⟨table, lock⟩ := apply_table session action clears
      change TableStep session (.act agent) (session.apply action).pending (session.apply action).lock
      rw [table, lock]
      exact .same fun _ => ⟨nofun, nofun⟩
  | rejected | entered | allocated | polled | received | corrupted | timedOut | failed | dispatched
  | raised | flagged | asked | took | woke | gaveUp | reposted | drained => exact .same fun _ => ⟨nofun, nofun⟩

/-- The reader enters its shutdown section at `shutdown` and never leaves it. -/
theorem step_ending (taken : step cobs session label = some next) :
    next.reader = .ending ↔ session.reader = .ending ∨ label = .shutdown := by
  cases stepped taken with
  | ended => simp [setTodo]
  | acted found => simp [setTodo]
  | polled looping =>
    rw [looping]
    cases session.closed <;> simp
  | received reading | corrupted reading | timedOut reading | failed reading => simp [reading, setTodo]
  | dispatched dispatching | raised dispatching => simp [dispatching, setTodo]
  | moved move => cases move <;> simp [setPc, setCall]
  | rejected | entered | allocated | registered | forgotten | flagged | swept | asked | took | woke | gaveUp
  | reposted | drained => simp [setPc, setCall, setSlot, setTodo, registerPending, forgetPending]

/-- A `close` call enters its locked section at `sweep` and never leaves it. -/
theorem step_closing (taken : step cobs session label = some next) (id : Nat) :
    next.closers id = .closing ↔ session.closers id = .closing ∨ label = .sweep id := by
  cases stepped taken with
  | @flagged owner idle =>
    by_cases same : id = owner
    · subst same; simp [idle]
    · simp [same]
  | @swept owner flagged free =>
    change Function.update session.closers owner .closing id = .closing ↔ _
    by_cases same : id = owner
    · subst same; simp
    · simp [same, Ne.symm same]
  | acted found => simp [setTodo]
  | moved move => cases move <;> simp [setPc, setCall]
  | rejected | entered | allocated | registered | forgotten | polled | received | corrupted | timedOut | failed
  | dispatched | raised | ended | asked | took | woke | gaveUp | reposted | drained =>
    simp [setPc, setCall, setSlot, setTodo, registerPending, forgetPending]

theorem step_nextTag (taken : step cobs session label = some next) :
    (∃ id, label = .alloc id ∧ next.nextTag = advanceTag session.nextTag) ∨
      ((∀ id, label ≠ .alloc id) ∧ next.nextTag = session.nextTag) := by
  cases stepped taken with
  | allocated => exact Or.inl ⟨_, rfl, rfl⟩
  | acted found => exact Or.inr ⟨nofun, apply_nextTag session _⟩
  | moved move => exact Or.inr ⟨by cases move <;> exact nofun, rfl⟩
  | rejected | entered | registered | forgotten | polled | received | corrupted | timedOut | failed | dispatched
  | raised | ended | flagged | swept | asked | took | woke | gaveUp | reposted | drained =>
    exact Or.inr ⟨nofun, rfl⟩

end DongloraClient.Proofs.SessionSteps
