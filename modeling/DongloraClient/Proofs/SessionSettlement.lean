import DongloraClient.Proofs.SessionPairs

/-! First settlement. A slot stays in the table after its event is set, and its fields
can still be written; what its caller makes of them is fixed only as long as nobody does. -/

namespace DongloraClient.Proofs.SessionSettlement
open Wire Session SessionSteps SessionTable SessionShutdown SessionPairs Transition

variable {cobs : Cobs.Codec} {session next : Session} {label : Step} {events : List Step} {id : Nat}

/-- What a caller that looks at the slot now makes of it. -/
def verdict (call : Call) : Outcome :=
  match call.slot.err with
  | some exc => .error exc
  | none => call.result

def ReadsErr (call : Call) : Prop := call.pc = .registered ∨ call.pc = .waiting ∨ call.pc = .woken

/-- The caller has still to look at the result, and no error will keep it from that. -/
def ReadsResult (call : Call) : Prop := (ReadsErr call ∧ call.slot.err = none) ∨ call.pc = .unfailed

/-- A write that makes no difference to the caller: it reads the field no more, or the
statement leaves in it what is there. -/
def Late (call : Call) : Action → Prop
  | .setErr _ exc => ReadsErr call → call.slot.err = some exc
  | .setErrIfUnset _ _ => ReadsErr call → call.slot.err ≠ none ∨ call.slot.txDone ≠ none
  | .setOk _ value => ReadsResult call → call.request.typeId = typeTx ∨ call.slot.okPayload = value
  | .setTxDone _ done => ReadsResult call → call.request.typeId ≠ typeTx ∨ call.slot.txDone = some done
  | _ => True

theorem result_slot {call : Call} {slot : Pending}
    (ok : call.request.typeId ≠ typeTx → slot.okPayload = call.slot.okPayload)
    (done : call.request.typeId = typeTx → slot.txDone = call.slot.txDone) :
    { call with slot }.result = call.result := by
  by_cases tx : call.request.typeId = typeTx
  · simp only [Call.result, tx, if_true, done tx]
  · simp only [Call.result, tx, if_false, ok tx]

theorem verdict_slot {call : Call} {slot : Pending} (err : slot.err = call.slot.err)
    (ok : call.slot.err = none → call.request.typeId ≠ typeTx → slot.okPayload = call.slot.okPayload)
    (done : call.slot.err = none → call.request.typeId = typeTx → slot.txDone = call.slot.txDone) :
    verdict { call with slot } = verdict call := by
  unfold verdict
  rw [err]
  split
  next => rfl
  next clear => exact result_slot (ok clear) (done clear)

theorem Late.verdict {call : Call} {action : Action} (late : target action = some id → Late call action)
    (reads : ReadsErr call) : verdict { call with slot := effect id call.slot action } = verdict call := by
  have result (clear : call.slot.err = none) : ReadsResult call := Or.inl ⟨reads, clear⟩
  by_cases aimed : target action = some id
  · have late := late aimed
    cases action with
    | setErr call' exc =>
      cases aimed
      have held : call.slot.err = some exc := late reads
      exact verdict_slot (by simp [effect, held]) (by simp [held]) (by simp [held])
    | setErrIfUnset call' exc =>
      cases aimed
      have kept : ¬ (call.slot.err = none ∧ call.slot.txDone = none) := fun unset =>
        (late reads).elim (fun failed => failed unset.1) fun reported => reported unset.2
      simp only [effect, true_and, if_neg kept]
    | setOk call' value =>
      cases aimed
      refine verdict_slot (by simp [effect]) (fun clear single => ?_) (by simp [effect])
      have held := (late (result clear)).resolve_left single
      simp [effect, held]
    | setTxDone call' done =>
      cases aimed
      apply verdict_slot (by simp [effect]) (by simp [effect])
      intro clear tx
      have held := (late (result clear)).resolve_left (not_not_intro tx)
      simp [effect, held]
    | signal call' =>
      cases aimed
      exact verdict_slot (by simp [effect]) (by simp [effect]) (by simp [effect])
    | _ => cases aimed
  · rw [effect_untargeted aimed]

theorem Late.result {call : Call} {action : Action} (late : target action = some id → Late call action)
    (unfailed : call.pc = .unfailed) : { call with slot := effect id call.slot action }.result = call.result := by
  have reads : ReadsResult call := Or.inr unfailed
  by_cases aimed : target action = some id
  · have late := late aimed
    cases action with
    | setErr call' exc | signal call' =>
      cases aimed
      exact result_slot (by simp [effect]) (by simp [effect])
    | setErrIfUnset call' exc =>
      cases aimed
      refine result_slot (fun _ => ?_) (fun _ => ?_) <;> simp only [effect] <;> split <;> rfl
    | setOk call' value =>
      cases aimed
      refine result_slot (fun single => ?_) (by simp [effect])
      simpa [effect] using ((late reads).resolve_left single).symm
    | setTxDone call' done =>
      cases aimed
      apply result_slot (by simp [effect])
      intro tx
      simpa [effect] using ((late reads).resolve_left (not_not_intro tx)).symm
    | _ => cases aimed
  · rw [effect_untargeted aimed]

/-- Settled slots are written only where it makes no difference, nobody writes to a slot
between another's write and its signal, no event is set after its caller has given up, and
a command whose event is set already is sent. -/
structure Orderly (cobs : Cobs.Codec) (session : Session) (label : Step) : Prop where
  writes : ∀ agent action rest id, label = .act agent → session.todo agent = action :: rest →
    target action = some id → (session.calls id).slot.event = true → Late (session.calls id) action
  turns : ∀ agent other action rest later id, label = .act agent → session.todo agent = action :: rest →
    target action = some id → action ≠ .signal id → (session.calls id).slot.event = false → other ≠ agent →
    session.todo other = .signal id :: later → Enqueues session id action
  signals : ∀ agent rest id, label = .act agent → session.todo agent = .signal id :: rest →
    (session.calls id).slot.event = false → ∀ outcome, (session.calls id).pc ≠ .leaving outcome
  sends : ∀ id failure, label = .write id failure → (session.calls id).slot.event = true →
    failure = none ∧ ∃ bytes, wire cobs (session.calls id) = .ok bytes

/-- The outcome the command is bound to. -/
def Bound (outcome : Outcome) (call : Call) : Prop :=
  (ReadsErr call ∧ call.slot.event = true ∧ verdict call = outcome) ∨
    (call.pc = .unfailed ∧ call.slot.event = true ∧ call.result = outcome) ∨
      call.pc = .leaving outcome ∨ call.pc = .finished outcome

theorem Bound.preserved {outcome : Outcome} (bound : Bound outcome (session.calls id))
    (taken : step cobs session label = some next) (orderly : Orderly cobs session label) :
    Bound outcome (next.calls id) := by
  generalize same : next.calls id = call
  cases same ▸ step_calls taken id with
  | same => exact bound
  | rejected before | entered before | allocated before | registered before =>
    simp [Bound, ReadsErr, before] at bound
  | forgotten leaving =>
    simp only [Bound, ReadsErr, leaving, reduceCtorEq, or_self, false_and, false_or, or_false, Pc.leaving.injEq] at bound
    subst bound
    exact Or.inr (Or.inr (Or.inr rfl))
  | @written agent action rest found =>
    have late (set : (session.calls id).slot.event = true) (aimed : target action = some id) :
        Late (session.calls id) action := orderly.writes agent action rest id rfl found aimed set
    rcases bound with ⟨reads, set, outcome⟩ | ⟨unfailed, set, outcome⟩ | leaving | finished
    · exact Or.inl ⟨reads, effect_event id action set, (Late.verdict (late set) reads).trans outcome⟩
    · exact Or.inr (Or.inl ⟨unfailed, effect_event id action set, (Late.result (late set) unfailed).trans outcome⟩)
    · exact Or.inr (Or.inr (Or.inl leaving))
    · exact Or.inr (Or.inr (Or.inr finished))
  | moved move =>
    cases move with
    | sent before =>
      simp only [Bound, ReadsErr, before, reduceCtorEq, or_false, true_and, false_and] at bound
      exact Or.inl ⟨Or.inr (Or.inl rfl), bound⟩
    | @unsent failure exc before failed =>
      simp only [Bound, ReadsErr, before, reduceCtorEq, or_false, true_and, false_and] at bound
      obtain ⟨clean, bytes, encoded⟩ := orderly.sends id failure rfl bound.1
      rcases failed with raised | ⟨text, broken, _⟩
      · rw [encoded] at raised
        cases raised
      · rw [clean] at broken
        cases broken
    | woken before =>
      simp only [Bound, ReadsErr, before, reduceCtorEq, or_false, false_or, true_and, false_and] at bound
      exact Or.inl ⟨Or.inr (Or.inr rfl), bound⟩
    | expired before _ silent =>
      simp [Bound, ReadsErr, before, silent] at bound
    | failed before set =>
      simp only [Bound, ReadsErr, before, reduceCtorEq, or_false, false_or, true_and, false_and, verdict, set] at bound
      rw [← bound.2]
      exact Or.inr (Or.inr (Or.inl rfl))
    | unfailed before clear =>
      simp only [Bound, ReadsErr, before, reduceCtorEq, or_false, false_or, true_and, false_and, verdict, clear] at bound
      exact Or.inr (Or.inl ⟨rfl, bound⟩)
    | returned before =>
      simp only [Bound, ReadsErr, before, reduceCtorEq, or_false, or_self, false_or, true_and, false_and] at bound
      rw [← bound.2]
      exact Or.inr (Or.inr (Or.inl rfl))

theorem Bound.run {outcome : Outcome} (bound : Bound outcome (session.calls id))
    (run : Run (Guarded (Steps (step cobs)) (Orderly cobs)) session events next) : Bound outcome (next.calls id) := by
  induction run with
  | nil => exact bound
  | snoc _ taken ih => exact ih.preserved taken.1 taken.2

/-- What a caller makes of a slot in which there is nothing but that write. -/
def settlement (request : Request) (id : Nat) (write : Action) : Outcome :=
  verdict { request, slot := effect id {} write }

/-- In the last statement it has executed, the agent has written to the slot, and in the
next it sets the event. -/
def Wrote (cobs : Cobs.Codec) (events : List Step) (agent : Agent) (id : Nat) (write : Action) : Prop :=
  ∃ prior later session rest, events = prior ++ .act agent :: later ∧ .act agent ∉ later ∧
    Run (Steps (step cobs)) {} prior session ∧ session.todo agent = write :: .signal id :: rest ∧ target write = some id

theorem Wrote.later {agent : Agent} {write : Action} (wrote : Wrote cobs events agent id write)
    (other : label ≠ .act agent) : Wrote cobs (events ++ [label]) agent id write := by
  obtain ⟨prior, later, session, rest, split, still, run, found, aimed⟩ := wrote
  refine ⟨prior, later ++ [label], session, rest, by simp [split], ?_, run, found, aimed⟩
  simpa using ⟨still, Ne.symm other⟩

/-- Nothing that decides what the caller makes of the slot has been written. -/
structure Clean (call : Call) : Prop where
  err : call.slot.err = none
  txDone : call.slot.txDone = none
  okPayload : call.request.typeId ≠ typeTx → call.slot.okPayload = .none

/-- A write makes the same of two slots that are the same to the caller. -/
theorem effect_agrees (id : Nat) {first second : Pending} {single : Prop} (err : first.err = second.err)
    (txDone : first.txDone = second.txDone) (okPayload : single → first.okPayload = second.okPayload) (write : Action) :
    (effect id first write).err = (effect id second write).err ∧
      (effect id first write).txDone = (effect id second write).txDone ∧
      (single → (effect id first write).okPayload = (effect id second write).okPayload) := by
  cases write with
  | setErrIfUnset call exc =>
    simp only [effect, err, txDone]
    split <;> simp_all
  | setErr call | setOk call | setTxDone call | signal call =>
    simp only [effect]
    split <;> simp_all
  | putRx | putError | clear | setDead | putSentinel | closeTransport => exact ⟨err, txDone, okPayload⟩

theorem Clean.settled {call : Call} (clean : Clean call) (write : Action) :
    verdict { call with slot := effect id call.slot write } = settlement call.request id write := by
  let alone : Call := { request := call.request, slot := effect id {} write }
  have empty : call.slot.err = ({} : Pending).err := clean.err
  obtain ⟨err, txDone, okPayload⟩ := effect_agrees id empty clean.txDone clean.okPayload write
  have same : verdict { alone with slot := effect id call.slot write } = verdict alone :=
    verdict_slot err (fun _ => okPayload) fun _ _ => txDone
  exact same

/-- A slot whose event is not set is clean, or somebody has written to it and is about to
set the event. -/
structure Settling (cobs : Cobs.Codec) (events : List Step) (session : Session) : Prop where
  clean : ∀ id, InFlight (session.calls id) → (session.calls id).slot.event = false →
    (∃ agent rest, session.todo agent = .signal id :: rest) ∨ Clean (session.calls id)
  wrote : ∀ agent id rest, session.todo agent = .signal id :: rest → InFlight (session.calls id) →
    (session.calls id).slot.event = false → ∃ write, Wrote cobs events agent id write ∧
      verdict (session.calls id) = settlement (session.calls id).request id write

namespace Settling

theorem initial : Settling cobs [] {} where
  clean id flying := by cases flying
  wrote agent id rest found := by cases found

theorem quiet_call (taken : step cobs session label = some next) (quiet : ∀ agent, label ≠ .act agent)
    (flying : InFlight (next.calls id)) : (InFlight (session.calls id) ∧ (next.calls id).slot = (session.calls id).slot ∧
      (next.calls id).request = (session.calls id).request) ∨ (label = .register id ∧ Clean (next.calls id)) := by
  generalize same : next.calls id = call at flying
  cases same ▸ step_calls taken id with
  | same => exact Or.inl ⟨flying, rfl, rfl⟩
  | moved move => exact Or.inl ⟨(PcMove.inFlight move).1, rfl, rfl⟩
  | registered => exact Or.inr ⟨rfl, rfl, rfl, fun _ => rfl⟩
  | written => exact absurd rfl (quiet _)
  | rejected | entered | allocated | forgotten => exact flying.elim

theorem quiet_step (settling : Settling cobs events session) (run : Run (Steps (step cobs)) {} events session)
    (taken : step cobs session label = some next) (quiet : ∀ agent, label ≠ .act agent) :
    Settling cobs (events ++ [label]) next := by
  have heads (agent : Agent) (id : Nat) (rest : List Action) :
      next.todo agent = .signal id :: rest ↔ session.todo agent = .signal id :: rest := by
    rcases quiet_todo run taken (quiet agent) with same | ⟨idle, paired⟩
    · rw [same]
    · rw [idle]
      exact ⟨fun found => (found ▸ paired).head.elim, nofun⟩
  constructor
  · intro id flying silent
    rcases quiet_call taken quiet flying with ⟨flew, slot, request⟩ | ⟨_, clean⟩
    · simp only [heads]
      refine (settling.clean id flew (slot ▸ silent)).imp_right fun clean => ?_
      exact ⟨slot ▸ clean.err, slot ▸ clean.txDone, fun single => slot ▸ clean.okPayload (request ▸ single)⟩
    · exact Or.inr clean
  · intro agent id rest found flying silent
    have found := (heads agent id rest).mp found
    rcases quiet_call taken quiet flying with ⟨flew, slot, request⟩ | ⟨rfl, _⟩
    · obtain ⟨write, wrote, settled⟩ := settling.wrote agent id rest found flew (slot ▸ silent)
      refine ⟨write, wrote.later (quiet agent), ?_⟩
      rw [request, ← settled]
      simp only [verdict, Call.result, slot, request]
    · have registered := (SessionReplies.Traced.reachable run).targets agent (.signal id) id (found ▸ List.mem_cons_self) rfl
      exact absurd (register_call taken).1 registered.2.2

theorem act_others {agent other : Agent} (taken : step cobs session (.act agent) = some next) (apart : other ≠ agent) :
    next.todo other = session.todo other := by
  cases stepped taken with
  | acted found => simp [apart]
  | moved move => cases move

theorem clean_alone (settling : Settling cobs events session) (flying : InFlight (session.calls id))
    (silent : (session.calls id).slot.event = false) {agent : Agent} {action : Action} {rest : List Action}
    (found : session.todo agent = action :: rest) (other : action ≠ .signal id)
    (alone : ∀ worker later, worker ≠ agent → session.todo worker ≠ .signal id :: later) : Clean (session.calls id) := by
  apply (settling.clean id flying silent).resolve_left
  intro ⟨worker, later, waiting⟩
  by_cases own : worker = agent
  · subst own
    cases found.symm.trans waiting
    exact other rfl
  · exact alone worker later own waiting

theorem enqueues_clean {action : Action} (enqueues : Enqueues session id action) (clean : Clean (session.calls id)) :
    Clean { session.calls id with slot := effect id (session.calls id).slot action } := by
  obtain ⟨⟨value, rfl⟩, tx⟩ := enqueues
  exact ⟨by simpa [effect] using clean.err, by simpa [effect] using clean.txDone, fun single => absurd tx single⟩

theorem enqueues_verdict {action : Action} (enqueues : Enqueues session id action) :
    verdict { session.calls id with slot := effect id (session.calls id).slot action } = verdict (session.calls id) := by
  obtain ⟨⟨value, rfl⟩, tx⟩ := enqueues
  exact verdict_slot (by simp [effect]) (fun _ single => absurd tx single) fun _ _ => by simp [effect]

theorem before_effect {slot : Pending} {action : Action} (silent : (effect id slot action).event = false) :
    slot.event = false ∧ action ≠ .signal id := by
  constructor
  · by_contra set
    cases silent.symm.trans (effect_event id action (by simpa using set))
  · intro signals
    simp [effect, signals] at silent

section Acting

variable {agent : Agent} {action : Action} {rest : List Action} (settling : Settling cobs events session)
  (run : Run (Steps (step cobs)) {} events session) (found : session.todo agent = action :: rest)
  (remaining : next.todo agent = rest) (others : ∀ other, other ≠ agent → next.todo other = session.todo other)
  (flying : InFlight (session.calls id)) (silent : (effect id (session.calls id).slot action).event = false)
include settling run found remaining others flying silent

theorem acted_clean : (∃ worker later, next.todo worker = .signal id :: later) ∨
    Clean { session.calls id with slot := effect id (session.calls id).slot action } := by
  obtain ⟨quiet, other⟩ := before_effect silent
  by_cases between : ∃ worker later, worker ≠ agent ∧ session.todo worker = .signal id :: later
  · obtain ⟨worker, later, apart, waiting⟩ := between
    exact Or.inl ⟨worker, later, (others worker apart).trans waiting⟩
  · have clean := settling.clean_alone flying quiet found other fun worker later apart waiting =>
      between ⟨worker, later, apart, waiting⟩
    by_cases aimed : target action = some id
    · have order : Standing session (action :: rest) := found ▸ standing run agent
      cases order with
      | between paired =>
        cases paired with
        | settle written =>
          cases aimed.symm.trans written
          exact Or.inl ⟨agent, _, remaining⟩
        | single _ enqueues => exact Or.inr (enqueues_clean (enqueues id aimed) clean)
      | within =>
        cases aimed
        exact absurd rfl other
    · rw [effect_untargeted aimed]
      exact Or.inr clean

/-- Nobody comes between another's write and its signal. -/
theorem acted_wrote (orderly : Orderly cobs session (.act agent)) {worker : Agent} {later : List Action}
    (waiting : next.todo worker = .signal id :: later) : ∃ write, Wrote cobs (events ++ [.act agent]) worker id write ∧
      verdict { session.calls id with slot := effect id (session.calls id).slot action } =
        settlement (session.calls id).request id write := by
  obtain ⟨quiet, other⟩ := before_effect silent
  by_cases own : worker = agent
  · subst own
    obtain rfl := remaining.symm.trans waiting
    have order : Standing session (action :: .signal id :: later) := found ▸ standing run worker
    obtain ⟨aimed, _, settles⟩ := order.head
    have clean := settling.clean_alone flying quiet found other fun worker later apart waiting =>
      settles (orderly.turns _ worker action _ later id rfl found aimed other quiet apart waiting)
    exact ⟨action, ⟨events, [], session, later, by simp, by simp, run, found, aimed⟩, clean.settled action⟩
  · have waited : session.todo worker = .signal id :: later := (others worker own).symm.trans waiting
    obtain ⟨write, wrote, settled⟩ := settling.wrote worker id later waited flying quiet
    refine ⟨write, wrote.later fun same => own (Step.act.inj same).symm, ?_⟩
    by_cases aimed : target action = some id
    · have enqueues := orderly.turns agent worker action rest later id rfl found aimed other quiet own waited
      exact (enqueues_verdict enqueues).trans settled
    · rw [effect_untargeted aimed]
      exact settled

end Acting

theorem act_step (settling : Settling cobs events session) (run : Run (Steps (step cobs)) {} events session)
    {agent : Agent} (taken : step cobs session (.act agent) = some next) (orderly : Orderly cobs session (.act agent)) :
    Settling cobs (events ++ [.act agent]) next := by
  obtain ⟨action, rest, found, remaining, calls⟩ := act_todo taken
  have others (other : Agent) (apart : other ≠ agent) : next.todo other = session.todo other := act_others taken apart
  constructor
  · intro id flying silent
    rw [calls] at flying silent ⊢
    exact settling.acted_clean run found remaining others flying silent
  · intro worker id later waiting flying silent
    rw [calls] at flying silent ⊢
    exact settling.acted_wrote run found remaining others flying silent orderly waiting

theorem reachable (run : Run (Guarded (Steps (step cobs)) (Orderly cobs)) {} events session) :
    Settling cobs events session := by
  induction run with
  | nil => exact initial
  | @snoc events state after label before taken ih =>
    by_cases acting : ∃ agent, label = .act agent
    · obtain ⟨agent, rfl⟩ := acting
      exact ih.act_step before.unguarded taken.1 taken.2
    · exact ih.quiet_step before.unguarded taken.1 fun agent same => acting ⟨agent, same⟩

end Settling

/-- In an orderly run the first step to set a command's event decides its outcome: it is
what the same agent's write just before makes of the slot, and nothing else. -/
theorem first_settlement_wins {settled final : Session} {later : List Step} {outcome : Outcome}
    (before : Run (Guarded (Steps (step cobs)) (Orderly cobs)) {} events session)
    (flying : InFlight (session.calls id)) (silent : (session.calls id).slot.event = false)
    (settles : Guarded (Steps (step cobs)) (Orderly cobs) session label settled)
    (set : (settled.calls id).slot.event = true)
    (after : Run (Guarded (Steps (step cobs)) (Orderly cobs)) settled later final)
    (finished : (final.calls id).pc = .finished outcome) : outcome = verdict (settled.calls id) ∧
      ∃ agent write, label = .act agent ∧ Wrote cobs events agent id write ∧
        outcome = settlement (session.calls id).request id write := by
  have signals : ∃ agent rest, label = .act agent ∧ session.todo agent = .signal id :: rest ∧
      settled.calls id = { session.calls id with slot := effect id (session.calls id).slot (.signal id) } := by
    generalize same : settled.calls id = call at set ⊢
    cases same ▸ step_calls settles.1 id with
    | same | moved | forgotten =>
      rw [silent] at set
      cases set
    | rejected | entered | registered => cases set
    | allocated entered => simp only [InFlight, entered] at flying
    | @written agent action rest found =>
      rcases effect_signal set with earlier | rfl
      · rw [silent] at earlier
        cases earlier
      · exact ⟨agent, rest, rfl, found, rfl⟩
  obtain ⟨agent, rest, rfl, found, call⟩ := signals
  have bound : Bound (verdict (settled.calls id)) (settled.calls id) := by
    have patient := settles.2.signals agent rest id rfl found silent
    have woken := (Sound.reachable before.unguarded).woken id
    have place : (session.calls id).pc = .registered ∨ (session.calls id).pc = .waiting := by
      cases stage : (session.calls id).pc with
      | registered => exact Or.inl rfl
      | waiting => exact Or.inr rfl
      | woken => cases silent.symm.trans (woken (Or.inl stage))
      | unfailed => cases silent.symm.trans (woken (Or.inr stage))
      | leaving outcome => exact absurd stage (patient outcome)
      | idle | entered | allocated | finished => simp only [InFlight, stage] at flying
    refine Or.inl ⟨?_, set, rfl⟩
    rw [call]
    exact place.imp_right Or.inl
  have kept := bound.run after
  simp only [Bound, ReadsErr, finished, reduceCtorEq, or_self, false_and, false_or, Pc.finished.injEq] at kept
  obtain ⟨write, wrote, decided⟩ := (Settling.reachable before).wrote agent id rest found flying silent
  have signalled : verdict (settled.calls id) = verdict (session.calls id) := by
    rw [call]
    exact verdict_slot (by simp [effect]) (by simp [effect]) (by simp [effect])
  exact ⟨kept, agent, write, rfl, wrote, kept.trans (signalled.trans decided)⟩

def answered : List Step :=
  let ok : Frame := { typeId := typeOk, tag := 1, payload := [] }
  [.begin 0 .ping true, .alloc 0, .register 0, .write 0 none, .poll, .receive ok, .dispatch ok (some 0), .act .reader]

def returning : List Step := [.wake 0, .readErr 0, .readResult 0, .forget 0]

/-- `close` goes on first. -/
def closedBefore : List Step :=
  [.close 0, .sweep 0, .act (.closer 0), .act (.closer 0), .act (.closer 0), .wake 0, .readErr 0, .forget 0]

theorem orderly_of (quiet : ∀ agent, label ≠ .act agent) (unsent : ∀ id failure, label ≠ .write id failure) :
    Orderly cobs session label where
  writes agent _ _ _ same := absurd same (quiet agent)
  turns agent _ _ _ _ _ same := absurd same (quiet agent)
  signals agent _ _ same := absurd same (quiet agent)
  sends id failure same := absurd same (unsent id failure)

/-- The reader is in nobody's way while it serves a command that waits. -/
theorem orderly_reader {action : Action} {rest : List Action} (found : session.todo .reader = action :: rest)
    (alone : ∀ other, other ≠ .reader → session.todo other = [])
    (waits : ∀ id, target action = some id → (session.calls id).slot.event = false ∧
      ∀ outcome, (session.calls id).pc ≠ .leaving outcome) : Orderly cobs session (.act .reader) where
  writes agent action rest id same listed aimed set := by
    cases same
    cases found.symm.trans listed
    cases (waits id aimed).1.symm.trans set
  turns agent other action rest later id same _ _ _ _ apart waiting := by
    cases same
    cases (alone other apart).symm.trans waiting
  signals agent rest id same listed silent outcome := by
    cases same
    cases found.symm.trans listed
    exact (waits id rfl).2 outcome
  sends id failure same := by cases same

theorem closers_idle (run : Run (Steps (step cobs)) {} events session) (unswept : ∀ closer, .sweep closer ∉ events) :
    ∀ other, other ≠ .reader → session.todo other = [] := by
  intro other apart
  cases other with
  | reader => exact absurd rfl apart
  | closer closer =>
    by_contra busy
    have sweeping : Sweeping session (.closer closer) := (SessionLock.Locked.reachable run).closing closer busy
    exact unswept closer (sweeping_entered run sweeping)

theorem answered_orderly {last : Session} (run : Run (Steps (step Cobs.standard)) {} answered last) :
    Run (Guarded (Steps (step Cobs.standard)) (Orderly Cobs.standard)) {} answered last := by
  -- Only the write and the first statement of the reader have anything to meet.
  have written : (execute (step Cobs.standard) {} (answered.take 3)).map (fun session =>
      (session.calls 0).slot.event) = some false := by decide +kernel
  have stored : (execute (step Cobs.standard) {} (answered.take 7)).map (fun session =>
      (session.todo .reader, (session.calls 0).slot.event, (session.calls 0).pc)) =
        some ([.setOk 0 .none, .signal 0], false, .waiting) := by decide +kernel
  apply run.guarded
  intro index label state found before
  have executed := run_execute before
  by_cases acting : label = .act .reader
  · subst acting
    obtain rfl : index = 7 := by
      have bound : index < 8 := (List.getElem?_eq_some_iff.mp found).1
      interval_cases index <;> simp_all [answered]
    rw [executed] at stored
    simp only [Option.map_some, Option.some.injEq, Prod.mk.injEq] at stored
    obtain ⟨todo, silent, waiting⟩ := stored
    apply orderly_reader todo (closers_idle before (by simp [answered]))
    intro id aimed
    cases aimed
    exact ⟨silent, fun outcome => by simp [waiting]⟩
  by_cases writing : label = .write 0 none
  · subst writing
    obtain rfl : index = 3 := by
      have bound : index < 8 := (List.getElem?_eq_some_iff.mp found).1
      interval_cases index <;> simp_all [answered]
    rw [executed] at written
    refine ⟨fun _ _ _ _ same => ?_, fun _ _ _ _ _ _ same => ?_, fun _ _ _ same => ?_, fun id failure same set => ?_⟩
    · cases same
    · cases same
    · cases same
    · cases same
      cases (Option.some.inj written).symm.trans set
  · have member := List.mem_of_getElem? found
    apply orderly_of
    · intro agent same
      simp_all [answered]
    · intro id failure same
      simp_all [answered]

theorem first_settlement_wins_ping :
    ∃ session settled final, Run (Guarded (Steps (step Cobs.standard)) (Orderly Cobs.standard)) {} answered session ∧
      Guarded (Steps (step Cobs.standard)) (Orderly Cobs.standard) session (.act .reader) settled ∧
      Run (Guarded (Steps (step Cobs.standard)) (Orderly Cobs.standard)) settled returning final ∧
      (final.calls 0).pc = .finished (.ok (.ok .none)) ∧ ∃ agent write, .act .reader = Step.act agent ∧
        Wrote Cobs.standard answered agent 0 write ∧ .ok (.ok .none) = settlement (session.calls 0).request 0 write := by
  have computed : ((execute (step Cobs.standard) {} answered).bind fun session =>
      (step Cobs.standard session (.act .reader)).bind fun settled =>
        (execute (step Cobs.standard) settled returning).map fun final =>
          ((session.calls 0).pc, session.todo .reader, (session.calls 0).slot.event, (settled.calls 0).slot.event,
            (final.calls 0).pc)) =
      some (.waiting, [.signal 0], false, true, .finished (.ok (.ok .none))) := by decide +kernel
  obtain ⟨session, executed, computed⟩ := Option.bind_eq_some_iff.mp computed
  obtain ⟨settled, taken, computed⟩ := Option.bind_eq_some_iff.mp computed
  obtain ⟨final, continued, same⟩ := Option.map_eq_some_iff.mp computed
  simp only [Prod.mk.injEq] at same
  obtain ⟨waiting, todo, silent, set, finished⟩ := same
  have run := answered_orderly (execute_run executed)
  have flying : InFlight (session.calls 0) := by simp only [InFlight, waiting]
  have settles : Orderly Cobs.standard session (.act .reader) := by
    apply orderly_reader todo (closers_idle run.unguarded (by simp [answered]))
    intro id aimed
    cases aimed
    exact ⟨silent, fun outcome => by simp [waiting]⟩
  have rest : Run (Guarded (Steps (step Cobs.standard)) (Orderly Cobs.standard)) settled returning final := by
    apply (execute_run continued).guarded
    intro index label state found _
    have member := List.mem_of_getElem? found
    apply orderly_of
    · intro agent same
      simp [returning, same] at member
    · intro id failure same
      simp [returning, same] at member
  obtain ⟨_, decided⟩ := first_settlement_wins run flying silent ⟨taken, settles⟩ set rest finished
  exact ⟨session, settled, final, run, ⟨taken, settles⟩, rest, finished, decided⟩

/-- The acknowledged `PING` raises what `close` wrote afterwards. -/
theorem close_overturns_success :
    ∃ session settled final, Run (Steps (step Cobs.standard)) {} answered session ∧
      InFlight (session.calls 0) ∧ (session.calls 0).slot.event = false ∧
      Steps (step Cobs.standard) session (.act .reader) settled ∧ (settled.calls 0).slot.event = true ∧
      verdict (settled.calls 0) = .ok (.ok .none) ∧ Run (Steps (step Cobs.standard)) settled closedBefore final ∧
      (final.calls 0).pc = .finished (.error (.dongloraError "session closed")) := by
  have computed : ((execute (step Cobs.standard) {} answered).bind fun session =>
      (step Cobs.standard session (.act .reader)).bind fun settled =>
        (execute (step Cobs.standard) settled closedBefore).map fun final =>
          ((session.calls 0).pc, (session.calls 0).slot.event, (settled.calls 0).slot.event,
            verdict (settled.calls 0), (final.calls 0).pc)) =
      some (.waiting, false, true, .ok (.ok .none), .finished (.error (.dongloraError "session closed"))) := by
    decide +kernel
  obtain ⟨session, executed, computed⟩ := Option.bind_eq_some_iff.mp computed
  obtain ⟨settled, taken, computed⟩ := Option.bind_eq_some_iff.mp computed
  obtain ⟨final, continued, same⟩ := Option.map_eq_some_iff.mp computed
  simp only [Prod.mk.injEq] at same
  obtain ⟨waiting, silent, set, decided, finished⟩ := same
  have flying : InFlight (session.calls 0) := by simp only [InFlight, waiting]
  exact ⟨session, settled, final, execute_run executed, flying, silent, taken, set, decided, execute_run continued,
    finished⟩

end DongloraClient.Proofs.SessionSettlement
