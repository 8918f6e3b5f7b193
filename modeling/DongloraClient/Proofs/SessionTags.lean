import DongloraClient.Proofs.FrameCodec
import DongloraClient.Proofs.SessionReader
import DongloraClient.Proofs.SessionReplies

/-! Tags of commands in flight. The counter wraps after 65535 allocations and never
looks at the table, so that two commands share a tag exactly when one is still in
flight a whole round later. -/

namespace DongloraClient.Proofs.SessionTags
open Session SessionSteps SessionTable SessionReader SessionReplies Dispatch Transition

variable {cobs : Cobs.Codec} {session next : Session} {label : Step} {events : List Step} {id : Nat}

def allocated (events : List Step) : List Nat :=
  events.filterMap fun | .alloc id => some id | _ => none

@[simp] theorem allocated_alloc (events : List Step) (id : Nat) :
    allocated (events ++ [.alloc id]) = allocated events ++ [id] :=
  filterMap_snoc _ _ _

theorem allocated_other (events : List Step) (other : ∀ id, label ≠ .alloc id) :
    allocated (events ++ [label]) = allocated events := by
  rw [allocated, filterMap_snoc]
  cases label with
  | alloc id => exact absurd rfl (other id)
  | _ => exact List.append_nil _

def nthTag (index : Nat) : Nat := index % 65535 + 1

theorem advanceTag_nthTag (index : Nat) : advanceTag (nthTag index) = nthTag (index + 1) := by
  have masked : (nthTag index + 1) &&& 0xFFFF = (nthTag index + 1) % 65536 :=
    Nat.and_two_pow_sub_one_eq_mod (nthTag index + 1) 16
  change (if (nthTag index + 1) &&& 0xFFFF = 0 then 1 else (nthTag index + 1) &&& 0xFFFF) = nthTag (index + 1)
  rw [masked]
  by_cases wraps : (nthTag index + 1) % 65536 = 0
  · rw [if_pos wraps]
    simp only [nthTag] at wraps ⊢
    omega
  · rw [if_neg wraps]
    simp only [nthTag] at wraps ⊢
    omega

theorem nthTag_injective {first second : Nat} (same : nthTag first = nthTag second)
    (near : first < second + 65535) (far : second < first + 65535) : first = second := by
  simp only [nthTag] at same
  omega

theorem alloc_call (taken : step cobs session (.alloc id) = some next) :
    (session.calls id).pc = .entered ∧
      next.calls id = { session.calls id with pc := .allocated, tag := session.nextTag } := by
  cases stepped taken with
  | allocated entered => exact ⟨entered, by simp⟩
  | moved move => cases move

theorem tag_kept (taken : step cobs session label = some next)
    (given : (session.calls id).pc ≠ .idle ∧ (session.calls id).pc ≠ .entered) :
    (next.calls id).tag = (session.calls id).tag ∧
      (next.calls id).pc ≠ .idle ∧ (next.calls id).pc ≠ .entered := by
  generalize same : next.calls id = call
  cases same ▸ step_calls taken id with
  | same | written => exact ⟨rfl, given⟩
  | moved move =>
    refine ⟨rfl, ?_⟩
    cases move <;> exact ⟨nofun, nofun⟩
  | registered | forgotten => exact ⟨rfl, nofun, nofun⟩
  | rejected before | entered before => exact False.elim (given.1 before)
  | allocated before => exact False.elim (given.2 before)

theorem tagged_before (taken : step cobs session label = some next) (other : label ≠ .alloc id)
    (tagged : (next.calls id).pc = .allocated ∨ InFlight (next.calls id)) :
    (session.calls id).pc = .allocated ∨ InFlight (session.calls id) := by
  generalize same : next.calls id = call at tagged
  cases same ▸ step_calls taken id with
  | same | written => exact tagged
  | moved move => exact Or.inr (PcMove.inFlight move).1
  | registered before => exact Or.inl before
  | allocated => exact absurd rfl other
  | rejected | entered | forgotten => rcases tagged with tagged | tagged <;> cases tagged

/-- The counter and every tag are determined by the order of the allocations. -/
structure Numbered (events : List Step) (session : Session) : Prop where
  counter : session.nextTag = nthTag (allocated events).length
  given : ∀ index id, (allocated events)[index]? = some id →
    (session.calls id).tag = nthTag index ∧ (session.calls id).pc ≠ .idle ∧ (session.calls id).pc ≠ .entered
  listed : ∀ id, (session.calls id).pc = .allocated ∨ InFlight (session.calls id) → id ∈ allocated events

theorem Numbered.initial : Numbered [] {} where
  counter := rfl
  given index id found := by cases found
  listed id tagged := by rcases tagged with tagged | tagged <;> cases tagged

theorem Numbered.preserved (numbered : Numbered events session) (taken : step cobs session label = some next) :
    Numbered (events ++ [label]) next := by
  have kept (index id : Nat) (found : (allocated events)[index]? = some id) :
      (next.calls id).tag = nthTag index ∧ (next.calls id).pc ≠ .idle ∧ (next.calls id).pc ≠ .entered := by
    obtain ⟨tag, reached⟩ := numbered.given index id found
    obtain ⟨same, later⟩ := tag_kept taken reached
    exact ⟨same.trans tag, later⟩
  rcases step_nextTag taken with ⟨owner, rfl, counter⟩ | ⟨other, counter⟩
  · constructor
    · rw [counter, numbered.counter, advanceTag_nthTag, allocated_alloc, List.length_append, List.length_singleton]
    · intro index id found
      simp only [allocated_alloc, List.getElem?_append] at found
      split at found
      · exact kept index id found
      next beyond =>
        obtain ⟨last, rfl⟩ : index - (allocated events).length = 0 ∧ owner = id := by
          simpa [List.getElem?_singleton] using found
        have same : index = (allocated events).length := by omega
        rw [(alloc_call taken).2, same]
        exact ⟨numbered.counter, nofun, nofun⟩
    · intro id tagged
      rw [allocated_alloc, List.mem_append, List.mem_singleton]
      by_cases own : id = owner
      · exact Or.inr own
      · have before := tagged_before taken (fun same => own (Step.alloc.inj same).symm) tagged
        exact Or.inl (numbered.listed id before)
  · constructor
    · rw [counter, allocated_other events other]
      exact numbered.counter
    · rw [allocated_other events other]
      exact kept
    · intro id tagged
      rw [allocated_other events other]
      exact numbered.listed id (tagged_before taken (other id) tagged)

theorem Numbered.reachable (run : Run (Steps (step cobs)) {} events session) : Numbered events session :=
  run.invariant Numbered.initial fun _ _ _ _ numbered taken => numbered.preserved taken

/-- Fewer than 65535 tags have been given out after the tag of any command in flight. -/
def Windowed (events : List Step) (session : Session) : Prop :=
  ∀ index id, (allocated events)[index]? = some id → InFlight (session.calls id) →
    (allocated events).length ≤ index + 65535

def Distinct (session : Session) : Prop :=
  ∀ first second, InFlight (session.calls first) → InFlight (session.calls second) →
    (session.calls first).tag = (session.calls second).tag → first = second

theorem Numbered.distinct (numbered : Numbered events session) (windowed : Windowed events session) :
    Distinct session := by
  intro first second flying other same
  obtain ⟨early, found⟩ := List.getElem?_of_mem (numbered.listed first (Or.inr flying))
  obtain ⟨late, listed⟩ := List.getElem?_of_mem (numbered.listed second (Or.inr other))
  have inside : early < (allocated events).length := (List.getElem?_eq_some_iff.mp found).1
  have within : late < (allocated events).length := (List.getElem?_eq_some_iff.mp listed).1
  have bound := windowed early first found flying
  have limit := windowed late second listed other
  rw [(numbered.given early first found).1, (numbered.given late second listed).1] at same
  have together : early = late := nthTag_injective same (by omega) (by omega)
  subst together
  exact Option.some.inj (found.symm.trans listed)

theorem clear_swept (run : Run (Steps (step cobs)) {} events session) (unswept : Unswept events) (agent : Agent) :
    .clear ∉ session.todo agent := by
  induction run with
  | nil => exact List.not_mem_nil
  | @snoc events state after label before taken ih =>
    have earlier := ih fun label member => unswept label (List.mem_append_left _ member)
    obtain ⟨notShutdown, notSweep⟩ := unswept label (by simp)
    generalize same : after.todo agent = actions
    cases same ▸ step_todo taken agent with
    | same => exact earlier
    | executed found =>
      rw [found] at earlier
      exact fun member => earlier (List.mem_cons_of_mem _ member)
    | dispatched _ _ _ _ ran => cases Dispatch.reacted ran <;> simp
    | corrupted => simp
    | shutdown => exact absurd rfl notShutdown
    | sweep => exact absurd rfl (notSweep _)

/-- Until a sweep, every command in flight is the one its tag leads to. -/
theorem present (whole : Throughout (Steps (step cobs)) Windowed {} events session) (unswept : Unswept events) :
    Listed session := by
  induction whole with
  | nil =>
    intro id flying
    cases flying
  | @snoc events state after label shorter taken windowed ih =>
    have earlier : Unswept events := fun label member => unswept label (List.mem_append_left _ member)
    have distinct : Distinct after := (Numbered.reachable (shorter.run.snoc taken)).distinct windowed
    refine (ih earlier).preserved taken ?_ (clear_swept shorter.run earlier)
    -- Both would be in flight after the registration, under one tag.
    rintro owner rfl id flying same
    obtain ⟨unregistered, call⟩ := register_call taken
    have still : InFlight (after.calls id) := (inFlight_kept taken flying).resolve_right nofun
    have entered : InFlight (after.calls owner) ∧ (after.calls owner).tag = (state.calls owner).tag := by
      rw [call]
      exact ⟨trivial, rfl⟩
    have shared := (inFlight_fixed taken flying).1.trans (same.trans entered.2.symm)
    obtain rfl := distinct id owner still entered.1 shared
    simp only [InFlight, unregistered] at flying

/-- A frame's tag leads to the one command in flight under it, and to no other. Until a
sweep, a reply settles that command; a `TX` keeps the `OK` that queues it and waits on. -/
structure Routed (cobs : Cobs.Codec) (events : List Step) (session : Session) : Prop where
  distinct : Distinct session
  owner : ∀ tag id cmdType, session.getPending tag = some (id, cmdType) →
    InFlight (session.calls id) ∧ (session.calls id).tag = tag ∧
      ∀ other, InFlight (session.calls other) → (session.calls other).tag = tag → other = id
  reached : Unswept events → ∀ id, InFlight (session.calls id) →
    (session.getPending (session.calls id).tag).map Prod.fst = some id
  confined : ∀ frame found next, step cobs session (.dispatch frame found) = some next →
    next.calls = session.calls ∧ ∀ action ∈ next.todo .reader, ∀ id, target action = some id →
      found = some id ∧ InFlight (session.calls id) ∧ (session.calls id).tag = frame.tag
  answered : Unswept events → ∀ frame found next, step cobs session (.dispatch frame found) = some next →
    ∀ id, InFlight (session.calls id) → (session.calls id).tag = frame.tag → found = some id ∧
      (frame.typeId ∈ [typeOk, typeErr, typeTxDone] → ¬ MalformedErr frame (session.getPending frame.tag) →
        Settled frame (session.calls id).request.typeId (((next.todo .reader).foldl apply next).calls id).slot ∨
          ((session.calls id).request.typeId = typeTx ∧ frame.typeId = typeOk ∧ frame.payload = []))
  kept : ∀ id next, step cobs session (.forget id) = some next → ∀ tag other, other ≠ id →
    session.pending.lookup tag = some other → next.pending.lookup tag = some other

/-- Nothing that is done about a frame concerns a command without its tag. -/
theorem dispatch_confined (sound : Sound session) (paced : Paced session) {frame : Frame} {found : Option Nat}
    (taken : step cobs session (.dispatch frame found) = some next) {action : Action}
    (member : action ∈ next.todo .reader) (targeted : target action = some id) :
    found = some id ∧ InFlight (session.calls id) ∧ (session.calls id).tag = frame.tag := by
  cases stepped taken with
  | dispatched _ _ looked ran =>
    rw [setTodo_todo, if_pos rfl] at member
    obtain ⟨cmdType, named⟩ := reaction_targets ran member targeted
    obtain ⟨_, _, flying, same, _⟩ := sound.found named
    rw [named] at looked
    exact ⟨looked, flying, same⟩
  | raised dispatching =>
    have idle : session.todo .reader = [] := paced.busy (by simp [dispatching]) (by simp [dispatching])
    change action ∈ session.todo .reader at member
    rw [idle] at member
    cases member
  | moved move => cases move

theorem foldl_calls (actions : List Action) (session : Session) (id : Nat) : (actions.foldl apply session).calls id =
    { session.calls id with slot := actions.foldl (effect id) (session.calls id).slot } := by
  induction actions generalizing session with
  | nil => rfl
  | cons action rest ih => rw [List.foldl_cons, List.foldl_cons, ih, apply_calls]

theorem dispatch_settles {frame : Frame} {found : Option Nat} {cmdType : Nat}
    (taken : step cobs session (.dispatch frame found) = some next)
    (named : session.getPending frame.tag = some (id, cmdType)) (reply : frame.typeId ∈ [typeOk, typeErr, typeTxDone])
    (whole : ¬ MalformedErr frame (session.getPending frame.tag)) :
    Settled frame cmdType (((next.todo .reader).foldl apply next).calls id).slot ∨
      (cmdType = typeTx ∧ frame.typeId = typeOk ∧ frame.payload = []) := by
  cases stepped taken with
  | @dispatched _ _ actions _ _ _ ran =>
    have kept := (reacted ran).lossless.settled id cmdType named reply
    rw [setTodo_todo, if_pos rfl, foldl_calls]
    rwa [foldl_calls] at kept
  | raised _ _ _ raised =>
    rcases reaction_cases frame (session.getPending frame.tag) with ⟨actions, ran, _⟩ | ⟨_, _, bad⟩
    · cases raised.symm.trans ran
    · exact absurd bad whole
  | moved move => cases move

/-- As long as no command stays in flight for a whole round of the counter, tags
identify commands. -/
theorem windowed_routed (whole : Throughout (Steps (step cobs)) Windowed {} events session) :
    Routed cobs events session := by
  have sound := Sound.reachable whole.run
  have paced := Paced.reachable whole.run
  have numbered := Numbered.reachable whole.run
  have distinct := numbered.distinct whole.last
  have reached (unswept : Unswept events) {id : Nat} (flying : InFlight (session.calls id)) :
      session.getPending (session.calls id).tag = some (id, (session.calls id).request.typeId) := by
    obtain ⟨index, listed⟩ := List.getElem?_of_mem (numbered.listed id (Or.inr flying))
    have nonzero : (session.calls id).tag ≠ 0 := by
      rw [(numbered.given index id listed).1]
      exact Nat.succ_ne_zero _
    rw [getPending, if_neg nonzero, present whole unswept id flying, Option.map_some, (sound.slot id flying).2]
  constructor
  · exact distinct
  · intro tag id cmdType found
    obtain ⟨_, _, flying, same, _⟩ := sound.found found
    exact ⟨flying, same, fun other flew equal => distinct other id flew flying (equal.trans same.symm)⟩
  · intro unswept id flying
    rw [reached unswept flying]
    rfl
  · intro frame found next taken
    refine ⟨?_, fun action member id targeted => dispatch_confined sound paced taken member targeted⟩
    cases stepped taken with
    | dispatched | raised => rfl
    | moved move => cases move
  · intro unswept frame found next taken id flying same
    have named := reached unswept flying
    rw [same] at named
    refine ⟨?_, dispatch_settles taken named⟩
    rw [dispatch_found taken, named]
    rfl
  · intro id next taken tag other apart found
    obtain ⟨outcome, leaving, _⟩ := forget_call taken
    have flying : InFlight (session.calls id) := by simp only [InFlight, leaving]
    obtain ⟨flew, same⟩ := sound.owned tag other found
    have differs : tag ≠ (session.calls id).tag :=
      fun equal => apart (distinct other id flew flying (same.trans equal))
    have table : next.pending = session.pending.erase (session.calls id).tag := by
      cases stepped taken with
      | forgotten => rfl
      | moved move => cases move
    rw [table, AList.lookup_erase_ne differs, found]

theorem windowed_short (few : (allocated events).length ≤ 65535) : Windowed events session :=
  fun index _ _ _ => few.trans (Nat.le_add_left _ index)

theorem windowed_run (run : Run (Steps (step cobs)) {} events session) (short : events.length ≤ 65535) :
    Throughout (Steps (step cobs)) Windowed {} events session := by
  apply Throughout.of_run run
  intro prior state early _
  apply windowed_short
  calc
    _ ≤ prior.length := List.length_filterMap_le _ _
    _ ≤ events.length := early.length_le
    _ ≤ 65535 := short

/-- Two commands in flight at once, and the answer to one of them. -/
def twoCommands : List Step :=
  [.begin 0 .ping true, .begin 1 .getInfo true, .alloc 0, .alloc 1, .register 1, .register 0, .write 0 none, .poll,
    .receive { typeId := typeOk, tag := 1, payload := [] }]

theorem windowed_routed_two :
    ∃ session, Run (Steps (step Cobs.standard)) {} twoCommands session ∧
      session.reader = .dispatching { typeId := typeOk, tag := 1, payload := [] } ∧
      Routed Cobs.standard twoCommands session := by
  have computed : (execute (step Cobs.standard) {} twoCommands).map Session.reader =
      some (.dispatching { typeId := typeOk, tag := 1, payload := [] }) := by decide +kernel
  obtain ⟨session, run, place⟩ := execute_summary computed
  exact ⟨session, run, place, windowed_routed (windowed_run run (by decide))⟩

def unanswered (id : Nat) : List Step :=
  [.begin id .ping true, .alloc id, .register id, .write id none, .expire id, .forget id]

/-- A state in which command 0 waits under tag 1 and every other command is over or
has not begun. -/
structure Stalled (session : Session) (index : Nat) : Prop where
  counter : session.nextTag = nthTag index
  unlocked : session.lock = none
  first : (session.calls 0).pc = .waiting ∧ (session.calls 0).tag = nthTag 0
  fresh : ∀ id, index ≤ id → (session.calls id).pc = .idle

theorem ping_wire {call : Call} (ping : call.request = .ping) (small : call.tag ≤ 0xFFFF) :
    ∃ bytes, wire cobs call = .ok bytes := by
  let frame : Frame := { typeId := typePing, tag := call.tag, payload := [] }
  have valid : FrameCodec.Valid frame := ⟨show typePing ≤ 0xFF by decide, small, Nat.zero_le _⟩
  refine ⟨FrameCodec.wire cobs frame, ?_⟩
  have encoded := FrameCodec.encodeFrame_valid cobs valid
  simp only [wire, ping]
  exact encoded

def timedOut (tag : Nat) : Call :=
  let call : Call := { tag, slot := { tag, cmdType := typePing } }
  { call with pc := .finished (.error (.timeoutError call.timeoutText)) }

theorem unanswered_run {id : Nat} (fresh : (session.calls id).pc = .idle) (unlocked : session.lock = none)
    (small : session.nextTag ≤ 0xFFFF) :
    execute (step cobs) session (unanswered id) = some { session with
      nextTag := advanceTag session.nextTag
      pending := (Dict.assign session.nextTag id session.pending).erase session.nextTag
      calls := Function.update session.calls id (timedOut session.nextTag) } := by
  have sent (call : Call) (ping : call.request = .ping) (tag : call.tag = session.nextTag) :
      ∃ bytes, wire cobs call = .ok bytes := ping_wire ping (tag ▸ small)
  let registered : Call :=
    { pc := .registered, tag := session.nextTag, slot := { tag := session.nextTag, cmdType := typePing } }
  obtain ⟨bytes, sent⟩ := sent registered rfl rfl
  simp only [registered] at sent
  simp [execute, unanswered, step, fresh, unlocked, Request.rejected, Request.payload, pure, Except.pure, allocTag,
    setCall, setPc, registerPending, setSlot, forgetPending, sent, Request.typeId, timedOut]
  rfl

theorem Stalled.unanswered (cobs : Cobs.Codec) {index : Nat} (stalled : Stalled session index) (later : 0 < index) :
    ∃ next, Run (Steps (step cobs)) session (unanswered index) next ∧ Stalled next (index + 1) := by
  have small : session.nextTag ≤ 0xFFFF := by
    rw [stalled.counter, nthTag]
    omega
  refine ⟨_, execute_run (unanswered_run (stalled.fresh index (Nat.le_refl _)) stalled.unlocked small), ?_⟩
  constructor
  · change advanceTag session.nextTag = _
    rw [stalled.counter, advanceTag_nthTag]
  · exact stalled.unlocked
  · change (Function.update session.calls index _ 0).pc = .waiting ∧ (Function.update session.calls index _ 0).tag = _
    rw [Function.update_of_ne (by omega)]
    exact stalled.first
  · intro id beyond
    change (Function.update session.calls index _ id).pc = .idle
    rw [Function.update_of_ne (by omega)]
    exact stalled.fresh id (by omega)

theorem Stalled.many (cobs : Cobs.Codec) {index last : Nat} (stalled : Stalled session index) (later : 0 < index)
    (beyond : index ≤ last) : ∃ events next, Run (Steps (step cobs)) session events next ∧ Stalled next last := by
  induction last, beyond using Nat.le_induction with
  | base => exact ⟨[], session, .nil, stalled⟩
  | succ last beyond ih =>
    obtain ⟨events, middle, run, stalled⟩ := ih
    obtain ⟨next, rest, after⟩ := stalled.unanswered cobs (by omega)
    exact ⟨_, next, run.append rest, after⟩

theorem Stalled.joined (cobs : Cobs.Codec) {index : Nat} (stalled : Stalled session index) (later : 0 < index) :
    ∃ next, Run (Steps (step cobs)) session [.begin index .ping true, .alloc index, .register index] next ∧
      next.calls 0 = session.calls 0 ∧ (next.calls index).pc = .registered ∧
      (next.calls index).tag = nthTag index := by
  have fresh := stalled.fresh index (Nat.le_refl _)
  have apart : (0 : Nat) ≠ index := by omega
  have executed : execute (step cobs) session [.begin index .ping true, .alloc index, .register index] =
      some { session with
        nextTag := advanceTag session.nextTag
        pending := Dict.assign session.nextTag index session.pending
        calls := Function.update session.calls index {
          pc := .registered, tag := session.nextTag, slot := { tag := session.nextTag, cmdType := typePing } } } := by
    simp [execute, step, fresh, stalled.unlocked, Request.rejected, Request.payload, pure, Except.pure, allocTag,
      setCall, setPc, registerPending, setSlot, Request.typeId]
  refine ⟨_, execute_run executed, ?_, ?_, ?_⟩
  · exact Function.update_of_ne apart _ _
  · simp
  · simpa using stalled.counter

theorem unbegun (run : Run (Steps (step cobs)) {} events session)
    (never : ∀ request timed, .begin id request timed ∉ events) : (session.calls id).pc = .idle := by
  induction run with
  | nil => rfl
  | @snoc events state after label before taken ih =>
    have earlier := ih fun request timed member => never request timed (List.mem_append_left _ member)
    have other (request : Request) (timed : Bool) : label ≠ .begin id request timed := by
      intro same
      subst same
      exact never request timed (by simp)
    generalize same : after.calls id = call
    cases same ▸ step_calls taken id with
    | same | written => exact earlier
    | rejected | entered => exact absurd rfl (other _ _)
    | allocated before | registered before | forgotten before =>
      rw [earlier] at before
      cases before
    | moved move =>
      have flying := (PcMove.inFlight move).1
      simp only [InFlight, earlier] at flying

def patientTx : List Step := [.begin 0 (.transmit [0] false) false, .alloc 0, .register 0, .write 0 none]

/-- A patient `TX` outlives 65534 unanswered `PING`s, and the next command gets its tag. -/
theorem tag_reused :
    ∃ events session, Run (Steps (step Cobs.standard)) {} events session ∧
      InFlight (session.calls 0) ∧ InFlight (session.calls 65535) ∧
      (session.calls 0).tag = (session.calls 65535).tag ∧ ¬ Distinct session := by
  have computed : (execute (step Cobs.standard) {} patientTx).map (fun session =>
      (session.nextTag, session.lock, (session.calls 0).pc, (session.calls 0).tag)) =
        some (nthTag 1, none, .waiting, nthTag 0) := by decide +kernel
  obtain ⟨first, begun, same⟩ := execute_summary computed
  simp only [Prod.mk.injEq] at same
  obtain ⟨counter, unlocked, waiting⟩ := same
  have fresh (id : Nat) (beyond : 1 ≤ id) : (first.calls id).pc = .idle := by
    apply unbegun begun
    intro request timed member
    simp only [patientTx, List.mem_cons, Step.begin.injEq, reduceCtorEq, List.not_mem_nil, or_false] at member
    omega
  obtain ⟨events, middle, pings, stalled⟩ :=
    Stalled.many Cobs.standard ⟨counter, unlocked, waiting, fresh⟩ Nat.one_pos (by decide : 1 ≤ 65535)
  obtain ⟨last, joined, same, registered, tag⟩ := stalled.joined Cobs.standard (by decide)
  have flying : InFlight (last.calls 0) := by simp only [InFlight, same, stalled.first.1]
  have flew : InFlight (last.calls 65535) := by simp only [InFlight, registered]
  have shared : (last.calls 0).tag = (last.calls 65535).tag := by
    rw [same, stalled.first.2, tag]
    rfl
  refine ⟨_, last, (begun.append pings).append joined, flying, flew, shared, ?_⟩
  intro distinct
  exact absurd (distinct 0 65535 flying flew shared) (by decide)

end DongloraClient.Proofs.SessionTags
