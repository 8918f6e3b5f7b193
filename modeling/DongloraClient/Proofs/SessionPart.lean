import DongloraClient.Proofs.SessionReader
import DongloraClient.Proofs.SessionReplies
import DongloraClient.Proofs.SessionTags

/-! The part of a session that decides the outcome of one command. A step changes it
only if it is the command's own, a frame with its tag, a sweep, or a statement for its slot. -/

namespace DongloraClient.Proofs.SessionPart
open Wire Session SessionSteps SessionTable SessionTags SessionReplies SessionReader Transition

variable {cobs : Cobs.Codec} {session next : Session} {label : Step} {events : List Step} {id : Nat}

/-- What happens in a run as far as one command is concerned. -/
inductive Observation where
  | begin (request : Request) (timed : Bool)
  | alloc (tag : Nat)
  | register
  | write (failure : Option String)
  | wake
  | expire
  | readErr
  | readResult
  | forget
  | frame (typeId : Nat) (payload : Bytes)
  | sweep (closer : Nat)
  | shutdown
  | act (agent : Agent)
  | clear
  deriving DecidableEq, Repr

/-- The command's own steps at any time and, while it is pending, the frames that carry
its tag, the two sweeps, and the moments at which somebody writes to its slot or clears
the table. -/
def observe (id : Nat) (session : Session) : Step → Option Observation
  | .begin call request timed => if call = id then some (.begin request timed) else none
  | .alloc call => if call = id then some (.alloc session.nextTag) else none
  | .register call => if call = id then some .register else none
  | .write call failure => if call = id then some (.write failure) else none
  | .wake call => if call = id then some .wake else none
  | .expire call => if call = id then some .expire else none
  | .readErr call => if call = id then some .readErr else none
  | .readResult call => if call = id then some .readResult else none
  | .forget call => if call = id then some .forget else none
  | .dispatch frame _ =>
    if InFlight (session.calls id) ∧ frame.tag = (session.calls id).tag then some (.frame frame.typeId frame.payload)
    else none
  | .sweep closer => if InFlight (session.calls id) then some (.sweep closer) else none
  | .shutdown => if InFlight (session.calls id) then some .shutdown else none
  | .act agent =>
    if InFlight (session.calls id) then
      match session.todo agent with
      | .clear :: _ => some .clear
      | action :: _ => if target action = some id then some (.act agent) else none
      | [] => none
    else none
  | _ => none

/-- The part of a session that the outcome of a command depends on: the command, its
entry in the table, and the statements that will write to its slot. -/
@[ext] structure Part where
  call : Call := {}
  listed : Bool := false
  todo : Agent → List Action := fun _ => []

def aimed (id : Nat) (actions : List Action) : List Action := actions.filter fun action => target action = some id

/-- Outside its flight a command has no entry, and nobody reads its slot. -/
def part (id : Nat) (session : Session) : Part :=
  if InFlight (session.calls id) then
    { call := session.calls id
      listed := session.pending.lookup (session.calls id).tag == some id
      todo := fun agent => aimed id (session.todo agent) }
  else { call := { session.calls id with slot := {} } }

namespace Part

def setPc (part : Part) (pc : Pc) : Part := { part with call := { part.call with pc } }

def setTodo (part : Part) (agent : Agent) (actions : List Action) : Part :=
  { part with todo := Function.update part.todo agent actions }

def act (id : Nat) (agent : Agent) (part : Part) : Part :=
  match part.todo agent with
  | action :: rest =>
    { part with call := { part.call with slot := effect id part.call.slot action } }.setTodo agent rest
  | [] => part

def react (cobs : Cobs.Codec) (id : Nat) (part : Part) : Observation → Part
  | .begin request timed =>
    match request.rejected with
    | some exc => { call := { request, timed, pc := .finished (.error exc) } }
    | none => { call := { request, timed, pc := .entered } }
  | .alloc tag => { part with call := { part.call with pc := .allocated, tag } }
  | .register => { part with
      call := { part.call with
        pc := .registered
        slot := { tag := part.call.tag, cmdType := part.call.request.typeId } }
      listed := true }
  | .write failure =>
    match wire cobs part.call, failure with
    | .error exc, _ => part.setPc (.leaving (.error exc))
    | .ok _, some text => part.setPc (.leaving (.error (.osError text)))
    | .ok _, none => part.setPc .waiting
  | .wake => part.setPc .woken
  | .expire => part.setPc (.leaving (.error (.timeoutError part.call.timeoutText)))
  | .readErr =>
    match part.call.slot.err with
    | some exc => part.setPc (.leaving (.error exc))
    | none => part.setPc .unfailed
  | .readResult => part.setPc (.leaving part.call.result)
  | .forget =>
    match part.call.pc with
    | .leaving outcome => { call := { part.call with pc := .finished outcome, slot := {} } }
    | _ => part
  | .frame typeId payload =>
    let found := if part.listed then some (id, part.call.request.typeId) else none
    match reaction { typeId, tag := part.call.tag, payload } found with
    | .ok actions => part.setTodo .reader (aimed id actions)
    | .error _ => part
  | .sweep closer => part.setTodo (.closer closer)
      (if part.listed then [.setErr id (.dongloraError "session closed"), .signal id] else [])
  | .shutdown => part.setTodo .reader
      (if part.listed then [.setErrIfUnset id (.dongloraError "transport closed"), .signal id] else [])
  | .act agent => part.act id agent
  | .clear => { part with listed := false }

end Part

theorem part_flying (flying : InFlight (session.calls id)) : part id session =
    { call := session.calls id
      listed := session.pending.lookup (session.calls id).tag == some id
      todo := fun agent => aimed id (session.todo agent) } := if_pos flying

theorem part_landed (landed : ¬ InFlight (session.calls id)) :
    part id session = { call := { session.calls id with slot := {} } } := if_neg landed

theorem part_tag (session : Session) (id : Nat) : (part id session).call.tag = (session.calls id).tag := by
  unfold part
  split <;> rfl

theorem part_pc (session : Session) (id : Nat) : (part id session).call.pc = (session.calls id).pc := by
  unfold part
  split <;> rfl

/-- The part is left alone by a step that changes neither the command nor, in flight,
its entry or the statements for it. -/
theorem part_same (call : next.calls id = session.calls id)
    (entry : InFlight (session.calls id) → (next.pending.lookup (session.calls id).tag = some id ↔
      session.pending.lookup (session.calls id).tag = some id))
    (todo : InFlight (session.calls id) → ∀ agent, aimed id (next.todo agent) = aimed id (session.todo agent)) :
    part id next = part id session := by
  by_cases flying : InFlight (session.calls id)
  · have listed : (next.pending.lookup (session.calls id).tag == some id) =
        (session.pending.lookup (session.calls id).tag == some id) := Bool.eq_iff_iff.mpr (by simpa using entry flying)
    rw [part_flying flying, part_flying (call ▸ flying), call, listed]
    simp only [todo flying]
  · rw [part_landed flying, part_landed (call ▸ flying), call]

theorem aimed_cons (action : Action) (rest : List Action) : aimed id (action :: rest) =
    if target action = some id then action :: aimed id rest else aimed id rest := by
  simp only [aimed, List.filter_cons, decide_eq_true_eq]

theorem aimed_none {actions : List Action} (none : ∀ action ∈ actions, target action ≠ some id) :
    aimed id actions = [] := by
  simp only [aimed, List.filter_eq_nil_iff, decide_eq_true_eq]
  exact none

theorem found_once {entries : List (Sigma fun _ : Nat => Nat)} {tag : Nat} (nodup : entries.NodupKeys)
    (only : ∀ entry ∈ entries, entry.2 = id → entry.1 = tag) :
    (entries.map Sigma.snd).filter (· = id) = if entries.dlookup tag = some id then [id] else [] := by
  have absent {rest : List (Sigma fun _ : Nat => Nat)} (missing : tag ∉ rest.keys)
      (only : ∀ entry ∈ rest, entry.2 = id → entry.1 = tag) : (rest.map Sigma.snd).filter (· = id) = [] := by
    simp only [List.filter_eq_nil_iff, List.mem_map, decide_eq_true_eq]
    intro owner ⟨entry, member, snd⟩ same
    exact missing (only entry member (snd.trans same) ▸ List.mem_map_of_mem member)
  induction entries with
  | nil => rfl
  | cons entry rest ih =>
    obtain ⟨fresh, distinct⟩ := List.nodupKeys_cons.mp nodup
    have later : ∀ entry ∈ rest, entry.2 = id → entry.1 = tag := fun entry member =>
      only entry (List.mem_cons_of_mem _ member)
    obtain ⟨key, owner⟩ := entry
    by_cases here : key = tag
    · subst here
      rw [List.map_cons, List.filter_cons, List.dlookup_cons_eq, absent fresh later]
      by_cases own : owner = id <;> simp [own]
    · have other : owner ≠ id := fun same => here (only ⟨key, owner⟩ List.mem_cons_self same)
      rw [List.map_cons, List.filter_cons_of_neg (by simpa using other), ih distinct later,
        List.dlookup_cons_ne _ _ (Ne.symm here)]

theorem values_filter (sound : Sound session) : session.values.filter (· = id) =
    if session.pending.lookup (session.calls id).tag = some id then [id] else [] := by
  have only : ∀ entry ∈ session.pending.entries, entry.2 = id → entry.1 = (session.calls id).tag := by
    intro ⟨tag, owner⟩ entry same
    have found : session.pending.lookup tag = some id := same ▸ AList.mem_lookup_iff.mpr entry
    exact (sound.owned tag id found).2.symm
  rw [values, Dict.values, List.filter_reverse, found_once session.pending.nodupKeys only, AList.lookup]
  split <;> rfl

/-- What a sweep does to the slot of a command: nothing, or what it does to every slot. -/
theorem swept_aimed (sound : Sound session) (write : Nat → Action) (writes : ∀ call, target (write call) = some call)
    (rest : List Action) (foreign : ∀ action ∈ rest, target action ≠ some id) :
    aimed id (session.values.flatMap (fun call => [write call, .signal call]) ++ rest) =
      if session.pending.lookup (session.calls id).tag = some id then [write id, .signal id] else [] := by
  have each (calls : List Nat) : aimed id (calls.flatMap fun call => [write call, .signal call]) =
      (calls.filter (· = id)).flatMap fun call => [write call, .signal call] := by
    induction calls with
    | nil => rfl
    | cons call rest ih =>
      rw [List.flatMap_cons, aimed, List.filter_append, ← aimed, ← aimed, ih, aimed_cons, aimed_cons, writes]
      by_cases own : call = id
      · simp [own, target, aimed]
      · simp [own, target, aimed]
  rw [aimed, List.filter_append, ← aimed, ← aimed, aimed_none foreign, List.append_nil, each, values_filter sound]
  split <;> rfl

/-- The step changes the part by what is seen of it, and by nothing else. -/
def Seen (cobs : Cobs.Codec) (id : Nat) (session : Session) (label : Step) (next : Session) : Prop :=
  part id next = (observe id session label).toList.foldl (Part.react cobs id) (part id session)

theorem Seen.unobserved (silent : observe id session label = none) (same : part id next = part id session) :
    Seen cobs id session label next := by
  rw [Seen, silent]
  exact same

theorem Seen.observed {observation : Observation} (noticed : observe id session label = some observation)
    (reacts : part id next = (part id session).react cobs id observation) : Seen cobs id session label next := by
  rw [Seen, noticed]
  exact reacts

theorem begin_seen {request : Request} {timed : Bool}
    (taken : step cobs session (.begin id request timed) = some next) :
    Seen cobs id session (.begin id request timed) next := by
  have noticed : observe id session (.begin id request timed) = some (.begin request timed) := if_pos rfl
  apply Seen.observed noticed
  cases stepped taken with
  | rejected _ failed | entered _ failed =>
    rw [part_landed (by simp [InFlight])]
    simp [Part.react, failed]
  | moved move => cases move

theorem alloc_seen (taken : step cobs session (.alloc id) = some next) : Seen cobs id session (.alloc id) next := by
  have noticed : observe id session (.alloc id) = some (.alloc session.nextTag) := if_pos rfl
  obtain ⟨entered, call⟩ := alloc_call taken
  apply Seen.observed noticed
  rw [part_landed (by simp [InFlight, call]), part_landed (by simp [InFlight, entered]), call]
  rfl

theorem register_seen (traced : Traced events session) (taken : step cobs session (.register id) = some next) :
    Seen cobs id session (.register id) next := by
  have noticed : observe id session (.register id) = some .register := if_pos rfl
  obtain ⟨ready, call⟩ := register_call taken
  have todo (agent : Agent) : aimed id (session.todo agent) = [] := by
    apply aimed_none
    intro action member targeted
    exact (traced.targets agent action id member targeted).2.2 ready
  apply Seen.observed noticed
  rw [part_flying (by rw [call]; trivial), part_landed (by simp [InFlight, ready]), call]
  cases stepped taken with
  | registered => simp [Part.react, todo, setPc, setCall, registerPending, setSlot]
  | moved move => cases move

theorem forget_seen (taken : step cobs session (.forget id) = some next) : Seen cobs id session (.forget id) next := by
  have noticed : observe id session (.forget id) = some .forget := if_pos rfl
  obtain ⟨outcome, leaving, call⟩ := forget_call taken
  apply Seen.observed noticed
  rw [part_landed (by simp [InFlight, call]), part_flying (by simp [InFlight, leaving]), call]
  simp [Part.react, leaving]

/-- A command in flight that moves on takes its entry and the statements for it along. -/
theorem part_moved {pc : Pc} (flying : InFlight (session.calls id)) (still : InFlight { session.calls id with pc }) :
    part id (session.setPc id pc) = (part id session).setPc pc := by
  have own : (session.setPc id pc).calls id = { session.calls id with pc } := by simp
  rw [part_flying flying, part_flying (own ▸ still), own]
  rfl

theorem write_seen {failure : Option String} (taken : step cobs session (.write id failure) = some next) :
    Seen cobs id session (.write id failure) next := by
  have noticed : observe id session (.write id failure) = some (.write failure) := if_pos rfl
  apply Seen.observed noticed
  simp only [step] at taken
  split at taken
  next ready =>
    have flying : InFlight (session.calls id) := by simp only [InFlight, ready]
    have call : (part id session).call = session.calls id := by rw [part_flying flying]
    split at taken <;> cases taken
    next failed => exact (part_moved flying (by trivial)).trans (by simp only [Part.react, call, failed])
    next sent => exact (part_moved flying (by trivial)).trans (by simp only [Part.react, call, sent])
    next sent => exact (part_moved flying (by trivial)).trans (by simp only [Part.react, call, sent])
  next => cases taken

theorem move_seen {pc : Pc} (move : PcMove cobs (session.calls id) id label pc)
    (taken : step cobs session label = some (session.setPc id pc)) :
    Seen cobs id session label (session.setPc id pc) := by
  obtain ⟨before, after⟩ := PcMove.inFlight move
  have changed := part_moved before after
  have call : (part id session).call = session.calls id := by rw [part_flying before]
  cases move with
  | sent | unsent => exact write_seen taken
  | woken =>
    have noticed : observe id session (.wake id) = some .wake := if_pos rfl
    exact .observed noticed changed
  | expired =>
    have noticed : observe id session (.expire id) = some .expire := if_pos rfl
    exact .observed noticed (by rw [changed, Part.react, call])
  | failed _ set =>
    have noticed : observe id session (.readErr id) = some .readErr := if_pos rfl
    exact .observed noticed (by simp only [changed, Part.react, call, set])
  | unfailed _ unset =>
    have noticed : observe id session (.readErr id) = some .readErr := if_pos rfl
    exact .observed noticed (by simp only [changed, Part.react, call, unset])
  | returned =>
    have noticed : observe id session (.readResult id) = some .readResult := if_pos rfl
    exact .observed noticed (by rw [changed, Part.react, call])

theorem target_none {action : Action} {rest : List Action} (foreign : target action ≠ some id) :
    aimed id (action :: rest) = aimed id rest := by
  rw [aimed_cons, if_neg foreign]

theorem foreign_act {agent : Agent} {action : Action} {rest : List Action} (found : session.todo agent = action :: rest)
    (kept : action ≠ .clear) (foreign : target action ≠ some id) :
    part id ((session.apply action).setTodo agent rest) = part id session := by
  have call : ((session.apply action).setTodo agent rest).calls id = session.calls id := by
    rw [setTodo_calls, apply_calls, effect_untargeted foreign]
  apply part_same call
  · intro flying
    change (session.apply action).pending.lookup _ = _ ↔ _
    rw [(apply_table session action kept).1]
  · intro flying worker
    rw [setTodo_todo, apply_todo]
    split
    next own => rw [own, found, target_none foreign]
    next => rfl

theorem part_acted {agent : Agent} {action : Action} {rest : List Action} (flying : InFlight (session.calls id)) :
    part id ((session.apply action).setTodo agent rest) =
      { call := { session.calls id with slot := effect id (session.calls id).slot action }
        listed := (session.apply action).pending.lookup (session.calls id).tag == some id
        todo := Function.update (part id session).todo agent (aimed id rest) } := by
  have call : ((session.apply action).setTodo agent rest).calls id =
      { session.calls id with slot := effect id (session.calls id).slot action } := by
    rw [setTodo_calls, apply_calls]
  rw [part_flying flying, part_flying (call ▸ flying), call]
  congr 1
  funext worker
  simp only [setTodo_todo, apply_todo, Function.update_apply]
  split <;> rfl

theorem act_seen {agent : Agent} {action : Action} {rest : List Action} (found : session.todo agent = action :: rest) :
    Seen cobs id session (.act agent) ((session.apply action).setTodo agent rest) := by
  by_cases flying : InFlight (session.calls id)
  · by_cases clears : action = .clear
    · subst clears
      have noticed : observe id session (.act agent) = some .clear := by simp only [observe, if_pos flying, found]
      apply Seen.observed noticed
      have shorter : aimed id rest = aimed id (session.todo agent) := by rw [found, target_none (by simp [target])]
      rw [part_acted flying, part_flying flying, shorter, Function.update_eq_self]
      rfl
    · by_cases own : target action = some id
      · have noticed : observe id session (.act agent) = some (.act agent) := by
          simp only [observe, if_pos flying, found]
          cases action <;> exact if_pos own
        have first : aimed id (session.todo agent) = action :: aimed id rest := by rw [found, aimed_cons, if_pos own]
        apply Seen.observed noticed
        rw [part_acted flying, (apply_table session action clears).1]
        simp only [Part.react, Part.act, part_flying flying, first, Part.setTodo]
      · have silent : observe id session (.act agent) = none := by
          simp only [observe, if_pos flying, found]
          cases action <;> exact if_neg own
        exact .unobserved silent (foreign_act found clears own)
  · have silent : observe id session (.act agent) = none := if_neg flying
    apply Seen.unobserved silent
    have call : ((session.apply action).setTodo agent rest).calls id =
        { session.calls id with slot := effect id (session.calls id).slot action } := by
      rw [setTodo_calls, apply_calls]
    rw [part_landed flying, part_landed (call ▸ flying), call]

/-- An agent of which only the statements for the command matter is given new ones. -/
theorem part_given {agent : Agent} {actions : List Action} (flying : InFlight (session.calls id))
    (calls : next.calls = session.calls) (pending : next.pending = session.pending)
    (todo : next.todo = Function.update session.todo agent actions) :
    part id next = (part id session).setTodo agent (aimed id actions) := by
  rw [part_flying flying, part_flying (calls ▸ flying), calls, pending, todo]
  simp only [Part.setTodo, Part.mk.injEq, true_and]
  funext worker
  simp only [Function.update_apply]
  split <;> rfl

/-- Frames that carry another tag belong to other commands. -/
theorem foreign_reaction (sound : Sound session) {frame : Frame} {actions : List Action}
    (ran : reaction frame (session.getPending frame.tag) = .ok actions) (other : frame.tag ≠ (session.calls id).tag) :
    aimed id actions = [] := by
  apply aimed_none
  intro action member targeted
  obtain ⟨cmdType, looked⟩ := reaction_targets ran member targeted
  exact other (sound.found looked).2.2.2.1.symm

/-- What `_dispatch` finds under the tag of a command in flight: that command, unless
the table has been cleared. -/
theorem own_pending (sound : Sound session) (distinct : Distinct session) (flying : InFlight (session.calls id))
    (tagged : (session.calls id).tag ≠ 0) : session.getPending (session.calls id).tag =
      if session.pending.lookup (session.calls id).tag == some id then
        some (id, (session.calls id).request.typeId) else none := by
  rw [getPending, if_neg tagged]
  cases found : session.pending.lookup (session.calls id).tag with
  | none => rfl
  | some owner =>
    obtain ⟨flew, same⟩ := sound.owned _ _ found
    obtain rfl : owner = id := distinct owner id flew flying same
    rw [if_pos (by simp), Option.map_some, (sound.slot owner flying).2]

theorem dispatch_seen (sound : Sound session) (paced : Paced session) (distinct : Distinct session)
    (tagged : InFlight (session.calls id) → (session.calls id).tag ≠ 0) {frame : Frame} {found : Option Nat}
    (taken : step cobs session (.dispatch frame found) = some next) :
    Seen cobs id session (.dispatch frame found) next := by
  obtain ⟨typeId, tag, payload⟩ := frame
  obtain ⟨dispatching, ran⟩ : session.reader = .dispatching ⟨typeId, tag, payload⟩ ∧
      next = match reaction ⟨typeId, tag, payload⟩ (session.getPending tag) with
        | .ok actions => { session with reader := .looping }.setTodo .reader actions
        | .error _ => { session with reader := .looping } := by
    cases stepped taken with
    | dispatched dispatching _ _ ran | raised dispatching _ _ ran => exact ⟨dispatching, by rw [ran]⟩
    | moved move => cases move
  have idle : session.todo .reader = [] := paced.busy (by simp [dispatching]) (by simp [dispatching])
  by_cases own : InFlight (session.calls id) ∧ tag = (session.calls id).tag
  · have noticed : observe id session (.dispatch ⟨typeId, tag, payload⟩ found) = some (.frame typeId payload) :=
      if_pos own
    obtain ⟨flying, rfl⟩ := own
    apply Seen.observed noticed
    rw [own_pending sound distinct flying (tagged flying)] at ran
    rw [ran]
    split
    next actions ran =>
      refine (part_given flying (by rfl) (by rfl) (by rfl)).trans ?_
      rw [part_flying flying]
      simp only [Part.react, ran]
    next exc ran =>
      have same : part id { session with reader := .looping } = part id session := rfl
      rw [same, part_flying flying]
      simp only [Part.react, ran]
  · have silent : observe id session (.dispatch ⟨typeId, tag, payload⟩ found) = none := if_neg own
    apply Seen.unobserved silent
    subst ran
    split
    next actions ran =>
      refine part_same rfl (fun _ => Iff.rfl) ?_
      intro flying agent
      rw [setTodo_todo]
      split
      next reader =>
        rw [reader, idle]
        exact foreign_reaction sound ran fun same => own ⟨flying, same⟩
      next => rfl
    next => rfl

theorem shutdown_seen (sound : Sound session) (taken : step cobs session .shutdown = some next) :
    Seen cobs id session .shutdown next := by
  cases stepped taken with
  | moved move => cases move
  | ended =>
    by_cases flying : InFlight (session.calls id)
    · have noticed : observe id session .shutdown = some .shutdown := if_pos flying
      have swept : aimed id session.shuttingDown = _ := swept_aimed sound _ (fun _ => rfl) _ (by simp [target])
      apply Seen.observed noticed
      refine (part_given flying (by rfl) (by rfl) (by rfl)).trans ?_
      rw [swept, part_flying flying]
      simp only [Part.react, beq_iff_eq]
    · have silent : observe id session .shutdown = none := if_neg flying
      apply Seen.unobserved silent
      exact part_same rfl (fun flew => absurd flew flying) fun flew => absurd flew flying

theorem sweep_seen (sound : Sound session) {closer : Nat} (taken : step cobs session (.sweep closer) = some next) :
    Seen cobs id session (.sweep closer) next := by
  cases stepped taken with
  | moved move => cases move
  | swept =>
    by_cases flying : InFlight (session.calls id)
    · have noticed : observe id session (.sweep closer) = some (.sweep closer) := if_pos flying
      have swept : aimed id session.closing = _ := swept_aimed sound _ (fun _ => rfl) _ (by simp [target])
      apply Seen.observed noticed
      refine (part_given flying (by rfl) (by rfl) (by rfl)).trans ?_
      rw [swept, part_flying flying]
      simp only [Part.react, beq_iff_eq]
    · have silent : observe id session (.sweep closer) = none := if_neg flying
      apply Seen.unobserved silent
      exact part_same rfl (fun flew => absurd flew flying) fun flew => absurd flew flying

theorem register_foreign {owner : Nat} (other : id ≠ owner) (taken : step cobs session (.register owner) = some next)
    (distinct : Distinct next) : part id next = part id session := by
  have entered := (register_call taken).2
  have call : next.calls id = session.calls id := by
    cases stepped taken with
    | registered => simp [other]
    | moved move => cases move
  apply part_same call
  · intro flying
    have apart : (session.calls id).tag ≠ (session.calls owner).tag := by
      intro same
      apply other
      apply distinct id owner
      · rw [call]
        exact flying
      · rw [entered]
        trivial
      · rw [call, entered, same]
    have table : next.pending = Dict.assign (session.calls owner).tag owner session.pending := by
      cases stepped taken with
      | registered => rfl
      | moved move => cases move
    rw [table, Dict.lookup_assign_ne apart]
  · intro flying agent
    cases stepped taken with
    | registered => rfl
    | moved move => cases move

theorem forget_foreign {owner : Nat} (other : id ≠ owner) (taken : step cobs session (.forget owner) = some next)
    (distinct : Distinct session) : part id next = part id session := by
  obtain ⟨outcome, leaving, _⟩ := forget_call taken
  cases stepped taken with
  | moved move => cases move
  | forgotten =>
    refine part_same (by simp [forgetPending, other]) ?_ (fun _ _ => rfl)
    intro flying
    have apart : (session.calls id).tag ≠ (session.calls owner).tag := by
      intro same
      exact other (distinct id owner flying (by simp only [InFlight, leaving]) same)
    change (session.pending.erase _).lookup _ = _ ↔ _
    rw [AList.lookup_erase_ne apart]

theorem owner_seen (owner : Nat) (own : id = owner → Seen cobs id session label next)
    (silent : owner ≠ id → observe id session label = none) (foreign : id ≠ owner → part id next = part id session) :
    Seen cobs id session label next := by
  by_cases mine : id = owner
  · exact own mine
  · exact .unobserved (silent (Ne.symm mine)) (foreign mine)

theorem moved_foreign {owner : Nat} (other : id ≠ owner) (call : Call) :
    part id (session.setCall owner call) = part id session :=
  part_same (by simp [other]) (fun _ => Iff.rfl) fun _ _ => rfl

theorem step_seen (traced : Traced events session) (sound : Sound session) (paced : Paced session)
    (distinct : Distinct session) (after : Distinct next)
    (tagged : InFlight (session.calls id) → (session.calls id).tag ≠ 0) (taken : step cobs session label = some next) :
    Seen cobs id session label next := by
  cases stepped taken with
  | @rejected owner | @entered owner =>
    refine owner_seen owner ?_ (fun other => if_neg other) fun other => moved_foreign other _
    intro own
    subst own
    exact begin_seen taken
  | @allocated owner =>
    refine owner_seen owner ?_ (fun other => if_neg other) fun other => (moved_foreign other _).trans rfl
    intro own
    subst own
    exact alloc_seen taken
  | @registered owner =>
    refine owner_seen owner ?_ (fun other => if_neg other) fun other => register_foreign other taken after
    intro own
    subst own
    exact register_seen traced taken
  | @forgotten owner =>
    refine owner_seen owner ?_ (fun other => if_neg other) fun other => forget_foreign other taken distinct
    intro own
    subst own
    exact forget_seen taken
  | @moved label owner pc move =>
    refine owner_seen owner ?_ ?_ fun other => moved_foreign other _
    · intro own
      subst own
      exact move_seen move taken
    · intro other
      cases move <;> exact if_neg other
  | acted found => exact act_seen found
  | dispatched | raised => exact dispatch_seen sound paced distinct tagged taken
  | ended => exact shutdown_seen sound taken
  | swept => exact sweep_seen sound taken
  | corrupted reading =>
    have idle : session.todo .reader = [] := paced.busy (by simp [reading]) (by simp [reading])
    apply Seen.unobserved rfl
    refine part_same rfl (fun _ => Iff.rfl) ?_
    intro flying agent
    rw [setTodo_todo]
    split
    next reader => rw [reader, idle, target_none (by simp [target])]
    next => rfl
  | polled | received | timedOut | failed | flagged | asked | took | woke | gaveUp | reposted | drained =>
    exact .unobserved rfl rfl

theorem tag_valid (numbered : Numbered events session)
    (given : (session.calls id).pc = .allocated ∨ InFlight (session.calls id)) :
    0 < (session.calls id).tag ∧ (session.calls id).tag ≤ 0xFFFF := by
  obtain ⟨index, listed⟩ := List.getElem?_of_mem (numbered.listed id given)
  rw [(numbered.given index id listed).1]
  simp only [nthTag]
  omega

theorem whole_step (whole : Throughout (Steps (step cobs)) Windowed {} events session)
    (taken : step cobs session label = some next) (windowed : Windowed (events ++ [label]) next) :
    Seen cobs id session label next := by
  have numbered := Numbered.reachable whole.run
  have after := (Numbered.reachable (whole.run.snoc taken)).distinct windowed
  refine step_seen (Traced.reachable whole.run) (Sound.reachable whole.run) (Paced.reachable whole.run)
    (numbered.distinct whole.last) after ?_ taken
  intro flying
  exact Nat.ne_of_gt (tag_valid numbered (Or.inr flying)).1

/-- Whether an observation comes after the allocation of the tag. -/
def Observation.Later : Observation → Prop
  | .begin _ _ | .alloc _ => False
  | _ => True

/-- What is seen after the allocation of its tag, a command sees while it has one. -/
theorem observed_tagged {observation : Observation} (taken : step cobs session label = some next)
    (noticed : observe id session label = some observation) (later : observation.Later) :
    (session.calls id).pc = .allocated ∨ InFlight (session.calls id) := by
  -- What is seen only in flight, and what is seen of one's own steps.
  have flying {kind : Prop} [Decidable kind] {shown : Option Observation} (implies : kind → InFlight (session.calls id))
      (noticed : (if kind then shown else none) = some observation) : InFlight (session.calls id) := by
    split at noticed
    next holds => exact implies holds
    next => cases noticed
  have own {owner : Nat} {shown : Observation} (noticed : (if owner = id then some shown else none) = some observation) :
      owner = id ∧ shown = observation := by
    split at noticed
    next same => exact ⟨same, Option.some.inj noticed⟩
    next => cases noticed
  cases stepped taken with
  | rejected | entered | allocated =>
    obtain ⟨_, rfl⟩ := own noticed
    exact later.elim
  | registered ready =>
    obtain ⟨rfl, _⟩ := own noticed
    exact Or.inl ready
  | forgotten leaving =>
    obtain ⟨rfl, _⟩ := own noticed
    exact Or.inr (by simp only [InFlight, leaving])
  | moved move =>
    have before := (PcMove.inFlight move).1
    cases move with
    | sent | unsent | woken | expired | failed | unfailed | returned =>
      obtain ⟨rfl, _⟩ := own noticed
      exact Or.inr before
  | acted | ended | swept => exact Or.inr (flying (fun holds => holds) noticed)
  | dispatched | raised => exact Or.inr (flying And.left noticed)
  | polled | received | corrupted | timedOut | failed | flagged | asked | took | woke | gaveUp | reposted
  | drained => cases noticed

end DongloraClient.Proofs.SessionPart
