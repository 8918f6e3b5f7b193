import DongloraClient.Foundation.Isolation
import DongloraClient.Proofs.SessionLock
import DongloraClient.Proofs.SessionRetag

/-! Commands do not interfere. The outcome of one is computed from the frames that carry
its tag, the placement of its own steps, `close` and the reader's exit, so that traffic of
any other kind cannot change it. -/

namespace DongloraClient.Proofs.SessionPart
open Wire Session SessionSteps SessionTable Transition

variable {cobs : Cobs.Codec} {session : Session} {id : Nat}

/-- What two runs have to share for a command: its own steps, which are not told what they
come to (a wait that ends says nothing of its event), the frames that carry its tag while it
is pending, and where `close` and the reader's exit begin and end. -/
inductive Glimpse where
  | begin (request : Request) (timed : Bool)
  | alloc (tag : Nat)
  | write (failure : Option String)
  | move
  | frame (typeId : Nat) (payload : Bytes)
  | sweep (closer : Nat)
  | shutdown
  | clear
  | cross (closer : Nat)
  deriving DecidableEq, Repr

def left (id : Nat) (session : Session) (agent : Agent) : Nat := ((part id session).todo agent).length

/-- A frame counts by its tag, whatever is found under it. Statements are not told, but for
the one of a `close` that comes between the reader's. -/
def glimpse (id : Nat) (session : Session) : Step → Option Glimpse
  | .begin call request timed => if call = id then some (.begin request timed) else none
  | .alloc call => if call = id then some (.alloc session.nextTag) else none
  | .write call failure => if call = id then some (.write failure) else none
  | .register call | .wake call | .expire call | .readErr call | .readResult call | .forget call =>
    if call = id then some .move else none
  | .dispatch frame _ =>
    if InFlight (session.calls id) ∧ frame.tag = (session.calls id).tag then some (.frame frame.typeId frame.payload)
    else none
  | .sweep closer => if InFlight (session.calls id) then some (.sweep closer) else none
  | .shutdown => if InFlight (session.calls id) then some .shutdown else none
  | .act agent =>
    if InFlight (session.calls id) then
      match session.todo agent, agent with
      | .clear :: _, _ => some .clear
      | action :: _, .closer closer =>
        if target action = some id ∧ left id session .reader ≠ 0 then some (.cross closer) else none
      | _, _ => none
    else none
  | _ => none

/-- How far the `close` that has the lock is. -/
def sweeper (id : Nat) (session : Session) : Option (Nat × Nat) :=
  if InFlight (session.calls id) then
    match session.lock with
    | some (.closer closer) => some (closer, left id session (.closer closer))
    | _ => none
  else none

/-- A glimpse with the moment at which it is had: how far the reader and `close` are with
the command's slot. -/
structure Sight where
  glimpse : Glimpse
  reader : Nat
  closer : Option (Nat × Nat)
  deriving DecidableEq, Repr

def sight (id : Nat) (session : Session) (label : Step) : Option Sight :=
  (glimpse id session label).map fun glimpse =>
    { glimpse, reader := left id session .reader, closer := sweeper id session }

def sights (cobs : Cobs.Codec) (id : Nat) (events : List Step) : List Sight :=
  observed (step cobs) (sight id) {} events

def Glimpse.retag (tag : Nat) : Glimpse → Glimpse
  | .alloc _ => .alloc tag
  | glimpse => glimpse

def Sight.retag (tag : Nat) (sight : Sight) : Sight := { sight with glimpse := sight.glimpse.retag tag }

namespace Part

def advance (id : Nat) (agent : Agent) (left : Nat) (part : Part) : Part :=
  (act id agent)^[(part.todo agent).length - left] part

def catchUp (id reader : Nat) (closer : Option (Nat × Nat)) (part : Part) : Part :=
  match closer with
  | some (closer, left) => (part.advance id .reader reader).advance id (.closer closer) left
  | none => part.advance id .reader reader

def move (part : Part) : Observation :=
  match part.call.pc with
  | .allocated => .register
  | .waiting => if part.call.slot.event then .wake else .expire
  | .woken => .readErr
  | .unfailed => .readResult
  | _ => .forget

def interpret (part : Part) : Glimpse → Observation
  | .begin request timed => .begin request timed
  | .alloc tag => .alloc tag
  | .write failure => .write failure
  | .move => part.move
  | .frame typeId payload => .frame typeId payload
  | .sweep closer => .sweep closer
  | .shutdown => .shutdown
  | .clear => .clear
  | .cross closer => .act (.closer closer)

def notice (cobs : Cobs.Codec) (id : Nat) (view : Part) (sight : Sight) : Part :=
  let part := view.catchUp id sight.reader sight.closer
  part.react cobs id (part.interpret sight.glimpse)

def glance (cobs : Cobs.Codec) (id : Nat) (view : Part) (sight : Sight) : Part :=
  let part := (view.catchUp id sight.reader sight.closer).blurred
  (part.react cobs id (part.interpret sight.glimpse)).blurred

theorem act_call (part : Part) (agent : Agent) :
    (part.act id agent).call.pc = part.call.pc ∧ (part.act id agent).call.tag = part.call.tag := by
  unfold act
  split <;> exact ⟨rfl, rfl⟩

theorem act_own {part : Part} {agent : Agent} : (part.act id agent).todo agent = (part.todo agent).tail := by
  unfold act
  split
  next first => simp [setTodo, first]
  next none => rw [none, List.tail_nil]

theorem act_other {part : Part} {agent other : Agent} (apart : other ≠ agent) :
    (part.act id agent).todo other = part.todo other := by
  unfold act
  split
  · simp [setTodo, apart]
  · rfl

theorem acts_own (agent : Agent) (count : Nat) (part : Part) :
    ((act id agent)^[count] part).todo agent = (part.todo agent).drop count := by
  induction count generalizing part with
  | zero => rfl
  | succ count ih => rw [Function.iterate_succ_apply, ih, act_own, List.drop_tail]

theorem advance_other {part : Part} {agent other : Agent} (apart : other ≠ agent) (left : Nat) :
    (part.advance id agent left).todo other = part.todo other := by
  unfold advance
  generalize (part.todo agent).length - left = count
  induction count generalizing part with
  | zero => rfl
  | succ count ih => rw [Function.iterate_succ_apply, ih, act_other apart]

theorem advance_call (id : Nat) (part : Part) (agent : Agent) (left : Nat) :
    (part.advance id agent left).call.pc = part.call.pc ∧ (part.advance id agent left).call.tag = part.call.tag := by
  unfold advance
  generalize (part.todo agent).length - left = count
  induction count generalizing part with
  | zero => exact ⟨rfl, rfl⟩
  | succ count ih =>
    obtain ⟨pc, tag⟩ := ih (part.act id agent)
    rw [Function.iterate_succ_apply, pc, tag]
    exact act_call part agent

theorem catchUp_call (id : Nat) (view : Part) (reader : Nat) (closer : Option (Nat × Nat)) :
    (view.catchUp id reader closer).call.pc = view.call.pc ∧ (view.catchUp id reader closer).call.tag = view.call.tag := by
  obtain ⟨pc, tag⟩ := advance_call id view .reader reader
  cases closer with
  | none => exact ⟨pc, tag⟩
  | some entry =>
    obtain ⟨later, same⟩ := advance_call id (view.advance id .reader reader) (.closer entry.1) entry.2
    exact ⟨later.trans pc, same.trans tag⟩

theorem advance_all {part : Part} {agent : Agent} {left : Nat} (few : (part.todo agent).length ≤ left) :
    part.advance id agent left = part := by
  rw [advance, Nat.sub_eq_zero_of_le few]
  rfl

/-- One statement less to do is one statement done. -/
theorem advance_next {part reached : Part} {agent : Agent} {left : Nat} (come : part.advance id agent (left + 1) = reached)
    (remaining : (reached.todo agent).length = left + 1) : part.advance id agent left = reached.act id agent := by
  have enough : left < (part.todo agent).length := by
    rw [← come, advance, acts_own, List.length_drop] at remaining
    omega
  have count : (part.todo agent).length - left = (part.todo agent).length - (left + 1) + 1 := by omega
  rw [advance, count, Function.iterate_succ_apply', ← come]
  rfl

theorem sweeper_left {closer remaining : Nat} (swept : sweeper id session = some (closer, remaining)) :
    remaining = left id session (.closer closer) := by
  unfold sweeper at swept
  split at swept
  · split at swept <;> cases swept
    rfl
  · cases swept

/-- The reader alone goes on where the `close` has come as far as it should. -/
theorem catchUp_reader {view : Part} {reader : Nat} {closer : Option (Nat × Nat)} (few : ∀ owner remaining,
    closer = some (owner, remaining) → (view.todo (.closer owner)).length ≤ remaining) :
    view.catchUp id reader closer = view.advance id .reader reader := by
  unfold catchUp
  split
  next owner remaining =>
    have other : Agent.closer owner ≠ .reader := nofun
    apply advance_all
    rw [advance_other other]
    exact few owner remaining rfl
  next => rfl

theorem catchUp_self (session : Session) : (part id session).catchUp id (left id session .reader) (sweeper id session) =
    part id session := by
  rw [catchUp_reader fun _ _ swept => Nat.le_of_eq (sweeper_left swept).symm]
  exact advance_all (Nat.le_refl _)

theorem advance_blur (part : Part) (agent : Agent) (left : Nat) :
    (part.advance id agent left).blurred = (part.blurred.advance id agent left).blurred := by
  have length : (part.blurred.todo agent).length = (part.todo agent).length := List.length_map _
  rw [advance, advance, length]
  generalize (part.todo agent).length - left = count
  induction count with
  | zero => exact (blurred_idem part).symm
  | succ count ih =>
    rw [Function.iterate_succ_apply', Function.iterate_succ_apply', act_blur, ih, ← act_blur]

theorem catchUp_blur (view : Part) (reader : Nat) (closer : Option (Nat × Nat)) :
    (view.catchUp id reader closer).blurred = (view.blurred.catchUp id reader closer).blurred := by
  cases closer with
  | none => exact advance_blur view .reader reader
  | some entry =>
    simp only [catchUp]
    rw [advance_blur, advance_blur view, ← advance_blur]

theorem interpret_blur (part : Part) (glimpse : Glimpse) :
    (part.interpret glimpse).retag 1 = part.blurred.interpret (glimpse.retag 1) := by
  cases glimpse with
  | move =>
    have pc : part.blurred.call.pc = blurPc part.call.pc := rfl
    have event : part.blurred.call.slot.event = part.call.slot.event := rfl
    simp only [interpret, move, Glimpse.retag, pc, event]
    cases part.call.pc with
    | waiting => cases part.call.slot.event <;> rfl
    | _ => rfl
  | _ => rfl

theorem notice_blur (view : Part) (sight : Sight)
    (valid : ((view.catchUp id sight.reader sight.closer).interpret sight.glimpse).Later →
      0 < view.call.tag ∧ view.call.tag ≤ 0xFFFF) :
    (view.notice cobs id sight).blurred = view.blurred.glance cobs id (sight.retag 1) := by
  have tag := (catchUp_call id view sight.reader sight.closer).2
  have same : (view.blurred.catchUp id sight.reader sight.closer).blurred =
      (view.catchUp id sight.reader sight.closer).blurred := (catchUp_blur view _ _).symm
  simp only [notice, glance, Sight.retag, same]
  rw [react_blur _ _ (by rwa [tag]), interpret_blur]

end Part

end DongloraClient.Proofs.SessionPart

namespace DongloraClient.Proofs.SessionIsolation
open Wire Session SessionSteps SessionTable SessionTags SessionLock SessionPart Transition

variable {cobs : Cobs.Codec} {session next : Session} {label : Step} {events : List Step} {id : Nat}

/-- A step is seen for what it is, or does not concern the command, or is a statement for
its slot that can be made up for later. -/
inductive Told (id : Nat) (session : Session) (label : Step) : Prop where
  | shown {glimpsed : Glimpse} : glimpse id session label = some glimpsed →
      observe id session label = some ((part id session).interpret glimpsed) → Told id session label
  | silent : glimpse id session label = none → observe id session label = none → Told id session label
  | hidden {agent : Agent} {action : Action} {rest : List Action} : label = .act agent → InFlight (session.calls id) →
      session.todo agent = action :: rest → target action = some id → glimpse id session label = none →
      observe id session label = some (.act agent) → (agent = .reader ∨ left id session .reader = 0) →
      Told id session label

theorem act_told {agent : Agent} {action : Action} {rest : List Action} (found : session.todo agent = action :: rest) :
    Told id session (.act agent) := by
  by_cases flying : InFlight (session.calls id)
  · by_cases own : target action = some id
    · have noticed : observe id session (.act agent) = some (.act agent) := by
        simp only [observe, if_pos flying, found]
        cases action <;> exact if_pos own
      cases agent with
      | reader =>
        refine .hidden rfl flying found own ?_ noticed (Or.inl rfl)
        simp only [glimpse, if_pos flying, found]
        cases action <;> first | rfl | cases own
      | closer closer =>
        by_cases crossed : left id session .reader = 0
        · refine .hidden rfl flying found own ?_ noticed (Or.inr crossed)
          simp only [glimpse, if_pos flying, found]
          cases action <;> first | exact if_neg fun both => both.2 crossed | cases own
        · have seen : glimpse id session (.act (.closer closer)) = some (.cross closer) := by
            simp only [glimpse, if_pos flying, found]
            cases action <;> first | exact if_pos ⟨own, crossed⟩ | cases own
          exact .shown seen noticed
    · by_cases clears : action = .clear
      · subst clears
        have seen : glimpse id session (.act agent) = some .clear := by
          simp only [glimpse, if_pos flying, found]
        apply Told.shown seen
        simp only [observe, if_pos flying, found, Part.interpret]
      · apply Told.silent
        · simp only [glimpse, if_pos flying, found]
          cases agent <;> cases action <;>
            first | rfl | exact absurd rfl clears | exact if_neg fun both => own both.1
        · simp only [observe, if_pos flying, found]
          cases action <;> exact if_neg own
  · exact .silent (if_neg flying) (if_neg flying)

theorem told (taken : step cobs session label = some next) : Told id session label := by
  -- A step of a command is seen by that command and by no other.
  have owned {owner : Nat} {glimpsed : Glimpse} {observation : Observation}
      (shown : glimpse id session label = if owner = id then some glimpsed else none)
      (seen : observe id session label = if owner = id then some observation else none)
      (same : owner = id → (part id session).interpret glimpsed = observation) : Told id session label := by
    by_cases own : owner = id
    · exact .shown (shown.trans (if_pos own)) (seen.trans ((if_pos own).trans (congrArg some (same own).symm)))
    · exact .silent (shown.trans (if_neg own)) (seen.trans (if_neg own))
  -- What concerns a command only in flight.
  have pending {kind : Prop} [Decidable kind] {glimpsed : Glimpse} {observation : Observation}
      (shown : glimpse id session label = if kind then some glimpsed else none)
      (seen : observe id session label = if kind then some observation else none)
      (same : (part id session).interpret glimpsed = observation) : Told id session label := by
    by_cases holds : kind
    · exact .shown (shown.trans (if_pos holds)) (seen.trans ((if_pos holds).trans (congrArg some same.symm)))
    · exact .silent (shown.trans (if_neg holds)) (seen.trans (if_neg holds))
  -- Of such a step it is not said which it is.
  have moves {owner : Nat} {observation : Observation}
      (shown : glimpse id session label = if owner = id then some .move else none)
      (seen : observe id session label = if owner = id then some observation else none)
      (same : (part owner session).move = observation) : Told id session label := by
    apply owned shown seen
    intro own
    subst own
    exact same
  cases stepped taken with
  | rejected | entered | allocated => exact owned rfl rfl fun _ => rfl
  | registered ready => exact moves rfl rfl (by simp only [Part.move, part_pc, ready])
  | forgotten leaving => exact moves rfl rfl (by simp only [Part.move, part_pc, leaving])
  | moved move =>
    have flying := (PcMove.inFlight move).1
    cases move with
    | sent | unsent => exact owned rfl rfl fun _ => rfl
    | woken waiting set => exact moves rfl rfl (by simp [Part.move, part_flying flying, waiting, set])
    | expired waiting _ unset => exact moves rfl rfl (by simp [Part.move, part_flying flying, waiting, unset])
    | failed woken | unfailed woken => exact moves rfl rfl (by simp only [Part.move, part_pc, woken])
    | returned unfailed => exact moves rfl rfl (by simp only [Part.move, part_pc, unfailed])
  | acted found => exact act_told found
  | dispatched | raised | ended | swept => exact pending rfl rfl rfl
  | polled | received | corrupted | timedOut | failed | flagged | asked | took | woke | gaveUp | reposted | drained =>
    exact .silent rfl rfl

/-- The view is behind by statements that have been executed since, the reader's first. -/
structure Follows (id : Nat) (view : Part) (session : Session) : Prop where
  caught : view.catchUp id (left id session .reader) (sweeper id session) = part id session
  apart : left id session .reader ≠ 0 → ∀ closer, view.todo (.closer closer) = (part id session).todo (.closer closer)
  landed : ¬ InFlight (session.calls id) → view = part id session

namespace Follows

variable {view : Part}

theorem exact (session : Session) : Follows id (part id session) session :=
  ⟨Part.catchUp_self session, fun _ _ => rfl, fun _ => rfl⟩

theorem pc (follows : Follows id view session) : view.call.pc = (session.calls id).pc := by
  rw [← part_pc session id, ← follows.caught]
  exact (Part.catchUp_call id view _ _).1.symm

theorem unseen_lock (taken : step cobs session label = some next) (flying : InFlight (session.calls id))
    (silent : observe id session label = none) : next.lock = session.lock := by
  generalize table : next.pending = pending
  generalize held : next.lock = lock
  cases table ▸ held ▸ step_table taken with
  | same | registered | forgotten => rfl
  | shutdown | sweep => cases (if_pos flying).symm.trans silent
  | cleared found => simp [observe, flying, found] at silent

theorem silent (follows : Follows id view session) (taken : step cobs session label = some next)
    (seen : Seen cobs id session label next) (silent : observe id session label = none) : Follows id view next := by
  have same : part id next = part id session := by
    rw [Seen, silent] at seen
    exact seen
  by_cases flying : InFlight (session.calls id)
  · have still : InFlight (next.calls id) := by
      apply (inFlight_kept taken flying).resolve_right
      intro forgets
      subst forgets
      cases (if_pos rfl).symm.trans silent
    have left_same (agent : Agent) : left id next agent = left id session agent := by rw [left, left, same]
    have sweeper_same : sweeper id next = sweeper id session := by
      simp only [sweeper, if_pos flying, if_pos still, unseen_lock taken flying silent, left_same]
    refine ⟨?_, ?_, fun landed => absurd still landed⟩
    · rw [left_same, sweeper_same, same]
      exact follows.caught
    · rw [left_same, same]
      exact follows.apart
  · rw [follows.landed flying, ← same]
    exact exact next

theorem reader_acts (follows : Follows id view session) (flying : InFlight (session.calls id))
    (still : InFlight (next.calls id)) (held : next.lock = session.lock) (busy : left id session .reader ≠ 0)
    (seen : part id next = (part id session).act id .reader) : Follows id view next := by
  have closers (closer : Nat) : (part id next).todo (.closer closer) = (part id session).todo (.closer closer) := by
    have other : Agent.closer closer ≠ .reader := nofun
    rw [seen, Part.act_other other]
  have left_same (closer : Nat) : left id next (.closer closer) = left id session (.closer closer) := by
    rw [left, left, closers]
  have sweeper_same : sweeper id next = sweeper id session := by
    simp only [sweeper, if_pos flying, if_pos still, held, left_same]
  have count : left id session .reader = left id next .reader + 1 := by
    have shorter : left id next .reader = left id session .reader - 1 := by
      rw [left, seen, Part.act_own, List.length_tail, left]
    omega
  have few (closer remaining : Nat) (swept : sweeper id session = some (closer, remaining)) :
      (view.todo (.closer closer)).length ≤ remaining := by
    rw [follows.apart busy closer, Part.sweeper_left swept, left]
  have caught : view.advance id .reader (left id next .reader + 1) = part id session := by
    rw [← count, ← Part.catchUp_reader few]
    exact follows.caught
  refine ⟨?_, ?_, fun landed => absurd still landed⟩
  · rw [sweeper_same, Part.catchUp_reader few, seen]
    exact Part.advance_next caught count
  · intro _ closer
    rw [closers]
    exact follows.apart busy closer

theorem closer_acts (follows : Follows id view session) {closer : Nat}
    (flying : InFlight (session.calls id)) (still : InFlight (next.calls id)) (held : next.lock = session.lock)
    (holds : session.lock = some (.closer closer)) (busy : left id session (.closer closer) ≠ 0)
    (idle : left id session .reader = 0) (seen : part id next = (part id session).act id (.closer closer)) :
    Follows id view next := by
  have caught := follows.caught
  have count : left id session (.closer closer) = left id next (.closer closer) + 1 := by
    have shorter : left id next (.closer closer) = left id session (.closer closer) - 1 := by
      rw [left, seen, Part.act_own, List.length_tail, left]
    omega
  have quiet : left id next .reader = 0 := by
    have other : Agent.reader ≠ .closer closer := nofun
    rw [left, seen, Part.act_other other]
    exact idle
  have before : sweeper id session = some (closer, left id next (.closer closer) + 1) := by
    simp only [sweeper, if_pos flying, holds, count]
  have after : sweeper id next = some (closer, left id next (.closer closer)) := by
    simp only [sweeper, if_pos still, held, holds]
  refine ⟨?_, fun reading => absurd quiet reading, fun landed => absurd still landed⟩
  rw [idle, before] at caught
  rw [quiet, after, seen]
  exact Part.advance_next caught count

theorem preserved (follows : Follows id view session) (run : Run (Steps (step cobs)) {} events session)
    (taken : step cobs session label = some next) (seen : Seen cobs id session label next) :
    Follows id ((sight id session label).toList.foldl (Part.notice cobs id) view) next := by
  cases told taken with
  | @shown glimpsed shown noticed =>
    have reacts : part id next = view.notice cobs id
        { glimpse := glimpsed, reader := left id session .reader, closer := sweeper id session } := by
      rw [Seen, noticed] at seen
      rw [Part.notice, follows.caught]
      exact seen
    rw [sight, shown]
    change Follows id (view.notice cobs id _) next
    rw [← reacts]
    exact exact next
  | silent unseen silent =>
    rw [sight, unseen]
    exact follows.silent taken seen silent
  | @hidden agent action rest same flying found own unseen noticed order =>
    subst same
    rw [sight, unseen]
    have acts : part id next = (part id session).act id agent := by
      rw [Seen, noticed] at seen
      exact seen
    have busy : left id session agent ≠ 0 := by
      rw [left, part_flying flying]
      simp [found, aimed_cons, own]
    have still : InFlight (next.calls id) := (inFlight_kept taken flying).resolve_right (by simp)
    have held : next.lock = session.lock := by
      have plain : action ≠ .clear := by
        intro clears
        subst clears
        cases own
      cases stepped taken with
      | acted head =>
        cases found.symm.trans head
        exact (apply_table session action plain).2
      | moved move => cases move
    cases agent with
    | reader => exact follows.reader_acts flying still held busy acts
    | closer closer =>
      have holds := closer_holds run (found ▸ List.mem_cons_self) own
      exact follows.closer_acts flying still held holds busy (order.resolve_left (by simp)) acts

/-- What is seen of a run decides the command's part of the session. -/
theorem reachable (whole : Throughout (Steps (step cobs)) Windowed {} events session) :
    Follows id ((sights cobs id events).foldl (Part.notice cobs id) {}) session := by
  have start : Follows id {} ({} : Session) := exact {}
  refine whole.followed start fun view events state event next before taken windowed follows => ?_
  exact follows.preserved before.run taken (whole_step before taken windowed)

end Follows

/-- What follows the session up to the number of the command's tag. -/
def Resembles (id : Nat) (blurred : Part) (session : Session) : Prop :=
  ∃ view, Follows id view session ∧ view.blurred = blurred

theorem Resembles.preserved {blurred : Part} (resembles : Resembles id blurred session)
    (whole : Throughout (Steps (step cobs)) Windowed {} events session) (taken : step cobs session label = some next)
    (windowed : Windowed (events ++ [label]) next) :
    Resembles id ((sight id session label).toList.foldl
      (fun view sight => Part.glance cobs id view (sight.retag 1)) blurred) next := by
  obtain ⟨view, follows, rfl⟩ := resembles
  refine ⟨_, follows.preserved whole.run taken (whole_step whole taken windowed), ?_⟩
  cases seen : sight id session label with
  | none => rfl
  | some sight =>
    apply Part.notice_blur
    intro later
    obtain ⟨glimpsed, shown, rfl⟩ := Option.map_eq_some_iff.mp seen
    have noticed : observe id session label = some ((part id session).interpret glimpsed) := by
      cases told taken with
      | shown glimpsing noticed =>
        cases shown.symm.trans glimpsing
        exact noticed
      | silent unseen | hidden _ _ _ _ unseen => cases shown.symm.trans unseen
    rw [follows.caught] at later
    have tag : view.call.tag = (session.calls id).tag := by
      rw [← part_tag session id, ← follows.caught]
      exact (Part.catchUp_call id view _ _).2.symm
    rw [tag]
    exact tag_valid (Numbered.reachable whole.run) (observed_tagged taken noticed later)

theorem Resembles.reachable (whole : Throughout (Steps (step cobs)) Windowed {} events session) :
    Resembles id (((sights cobs id events).map (Sight.retag 1)).foldl (Part.glance cobs id) (Part.blurred {})) session := by
  have start : Resembles id (Part.blurred {}) {} := ⟨{}, Follows.exact {}, rfl⟩
  rw [List.foldl_map]
  exact whole.followed start fun _ _ _ _ _ before taken windowed resembles => resembles.preserved before taken windowed

theorem glimpse_alloc {tag : Nat} (seen : glimpse id session label = some (.alloc tag)) :
    label = .alloc id ∧ session.nextTag = tag := by
  cases label with
  | alloc owner =>
    simp only [glimpse] at seen
    split at seen <;> cases seen
    next same => exact ⟨congrArg Step.alloc same, rfl⟩
  | _ =>
    simp only [glimpse] at seen
    repeat' split at seen
    all_goals cases seen

theorem sights_tag (run : Run (Steps (step cobs)) {} events session) {sight : Sight} {tag : Nat}
    (member : sight ∈ sights cobs id events) (alloc : sight.glimpse = .alloc tag) : (session.calls id).tag = tag ∧
      (session.calls id).pc ≠ .idle ∧ (session.calls id).pc ≠ .entered := by
  induction run with
  | nil => cases member
  | @snoc events state after label before taken ih =>
    rw [sights, observed_snoc before taken, List.mem_append] at member
    rcases member with earlier | now
    · obtain ⟨same, given⟩ := ih earlier
      obtain ⟨kept, later⟩ := tag_kept taken given
      exact ⟨kept.trans same, later⟩
    · obtain ⟨glimpsed, shown, rfl⟩ := Option.map_eq_some_iff.mp (Option.mem_toList.mp now)
      obtain ⟨rfl, rfl⟩ := glimpse_alloc (shown.trans (congrArg some alloc))
      rw [(alloc_call taken).2]
      exact ⟨rfl, nofun, nofun⟩

theorem sights_retag (run : Run (Steps (step cobs)) {} events session) :
    sights cobs id events = ((sights cobs id events).map (Sight.retag 1)).map (Sight.retag (session.calls id).tag) := by
  rw [List.map_map]
  refine (List.map_id _).symm.trans (List.map_congr_left fun sight member => ?_)
  obtain ⟨glimpse, reader, closer⟩ := sight
  cases glimpse with
  | alloc tag => simp only [Function.comp_apply, Sight.retag, Glimpse.retag, (sights_tag run member rfl).1, id_eq]
  | _ => rfl

theorem closed_by (run : Run (Steps (step cobs)) {} events session) (closed : session.closed = true) :
    ∃ closer, .close closer ∈ events := by
  induction run with
  | nil => cases closed
  | @snoc events state after label before taken ih =>
    by_cases earlier : state.closed = true
    · obtain ⟨closer, member⟩ := ih earlier
      exact ⟨closer, List.mem_append_left _ member⟩
    · cases stepped taken with
      | @flagged closer => exact ⟨closer, by simp⟩
      | acted => exact absurd ((apply_closed state _).symm.trans closed) earlier
      | rejected | entered | allocated | registered | moved | forgotten | polled | received | corrupted | timedOut
      | failed | dispatched | raised | ended | swept | asked | took | woke | gaveUp | reposted | drained =>
        exact absurd closed earlier

/-- The reader leaves its loop for no frame, however malformed. -/
theorem reader_leaves (run : Run (Steps (step cobs)) {} events session)
    (gone : session.reader = .finishing ∨ session.reader = .ending) :
    .hangup ∈ events ∨ ∃ closer, .close closer ∈ events := by
  induction run with
  | nil => rcases gone with gone | gone <;> cases gone
  | @snoc events state after label before taken ih =>
    have sooner (gone : state.reader = .finishing ∨ state.reader = .ending) :
        .hangup ∈ events ++ [label] ∨ ∃ closer, .close closer ∈ events ++ [label] :=
      (ih gone).imp (List.mem_append_left _) fun ⟨closer, member⟩ => ⟨closer, List.mem_append_left _ member⟩
    cases stepped taken with
    | polled =>
      cases closed : state.closed with
      | true =>
        obtain ⟨closer, member⟩ := closed_by before closed
        exact Or.inr ⟨closer, List.mem_append_left _ member⟩
      | false => simp [closed] at gone
    | failed => exact Or.inl (by simp)
    | ended finishing => exact sooner (Or.inl finishing)
    | acted => exact sooner ((apply_reader state _) ▸ gone)
    | received | corrupted | timedOut | dispatched | raised => rcases gone with gone | gone <;> cases gone
    | rejected | entered | allocated | registered | moved | forgotten | flagged | swept | asked | took | woke | gaveUp
    | reposted | drained => exact sooner gone

theorem exit_excused (run : Run (Steps (step cobs)) {} events session) (exits : .shutdown ∈ events) :
    .hangup ∈ events ∨ ∃ closer, .close closer ∈ events := by
  have ending : session.reader = .ending := by
    induction run with
    | nil => cases exits
    | snoc before taken ih =>
      apply (step_ending taken).mpr
      rcases List.mem_append.mp exits with earlier | now
      · exact Or.inl (ih earlier)
      · exact Or.inr (List.mem_singleton.mp now).symm
  exact reader_leaves run (Or.inr ending)

/-- Two runs that look the same to a command, up to the number of its tag, end it the
same way: exceptions may differ in the tag they name, and if the tags are the same they
do not differ at all. What is seen of the reader's exit is due to `close` or a failed read. -/
theorem commands_isolated {first second : Session} {others : List Step}
    (whole : Throughout (Steps (step cobs)) Windowed {} events first)
    (other : Throughout (Steps (step cobs)) Windowed {} others second)
    (same : (sights cobs id events).map (Sight.retag 1) = (sights cobs id others).map (Sight.retag 1))
    {outcome : Outcome} (ended : (first.calls id).pc = .finished outcome) :
    (∃ result, (second.calls id).pc = .finished result ∧ untagged result = untagged outcome ∧
      ((first.calls id).tag = (second.calls id).tag → result = outcome)) ∧
    (.shutdown ∈ events → .hangup ∈ events ∨ ∃ closer, .close closer ∈ events) := by
  obtain ⟨view, follows, blurred⟩ : Resembles id _ first := .reachable whole
  obtain ⟨otherView, otherFollows, otherBlurred⟩ : Resembles id _ second := .reachable other
  have place : Part.blurPc (second.calls id).pc = .finished (untagged outcome) := by
    have views : view.blurred = otherView.blurred := by
      rw [blurred, otherBlurred, same]
    have pcs : Part.blurPc view.call.pc = Part.blurPc otherView.call.pc := congrArg (fun part => part.call.pc) views
    rw [follows.pc, otherFollows.pc, ended] at pcs
    exact pcs.symm
  obtain ⟨result, finished, alike⟩ : ∃ result, (second.calls id).pc = .finished result ∧
      untagged result = untagged outcome := by
    cases reached : (second.calls id).pc with
    | finished result =>
      rw [reached] at place
      exact ⟨result, rfl, Pc.finished.inj place⟩
    | idle | entered | allocated | registered | waiting | woken | unfailed | leaving =>
      rw [reached] at place
      cases place
  refine ⟨⟨result, finished, alike, fun tags => ?_⟩, ?_⟩
  · have seen : sights cobs id events = sights cobs id others := by
      rw [sights_retag whole.run, sights_retag other.run, same, tags]
    have pcs : (first.calls id).pc = (second.calls id).pc := by
      rw [← (Follows.reachable whole).pc, ← (Follows.reachable other).pc, seen]
    rw [ended, finished] at pcs
    exact (Pc.finished.inj pcs).symm
  · exact exit_excused whole.run

/-- A `PING` that the device refuses, on its own. -/
def alone : List Step :=
  let err : Frame := { typeId := typeErr, tag := 1, payload := [6, 0] }
  [.begin 0 .ping true, .alloc 0, .register 0, .write 0 none, .poll, .receive err, .dispatch err (some 0), .act .reader,
    .act .reader, .wake 0, .readErr 0, .forget 0]

/-- The same in the middle of a command that times out, its late reply, a corrupted frame
and one that does not decode. -/
def crowded : List Step :=
  let err : Frame := { typeId := typeErr, tag := 2, payload := [6, 0] }
  let late : Frame := { typeId := typeOk, tag := 1, payload := [] }
  let short : Frame := { typeId := typeErr, tag := 0, payload := [6] }
  [.begin 1 .getInfo true, .alloc 1, .register 1, .begin 0 .ping true, .alloc 0, .register 0, .write 1 none, .poll,
    .corrupt (.crc "CRC mismatch"), .act .reader, .write 0 none, .poll, .receive short, .dispatch short none,
    .expire 1, .forget 1, .poll, .receive late, .dispatch late none, .poll, .receive err, .dispatch err (some 0),
    .act .reader, .act .reader, .wake 0, .readErr 0, .forget 0]

theorem commands_isolated_crowded : ∃ first second : Session,
    Run (Steps (step Cobs.standard)) {} alone first ∧ Run (Steps (step Cobs.standard)) {} crowded second ∧
      ∃ outcome result, (first.calls 0).pc = .finished outcome ∧ (second.calls 0).pc = .finished result ∧
        untagged result = untagged outcome := by
  let refused : Outcome := .error (.deviceError .busyError (.named .ebusy) (some 1))
  have computed : (execute (step Cobs.standard) {} alone).map (fun session => (session.calls 0).pc) =
      some (.finished refused) := by decide +kernel
  obtain ⟨first, run, ended⟩ := execute_summary computed
  obtain ⟨second, executed⟩ : ∃ second, execute (step Cobs.standard) {} crowded = some second :=
    Option.isSome_iff_exists.mp (by decide +kernel)
  have other := execute_run executed
  have same : (sights Cobs.standard 0 alone).map (Sight.retag 1) = (sights Cobs.standard 0 crowded).map (Sight.retag 1) := by
    decide +kernel
  obtain ⟨⟨result, finished, alike, _⟩, _⟩ :=
    commands_isolated (windowed_run run (by decide)) (windowed_run other (by decide)) same ended
  exact ⟨first, second, run, other, refused, result, ended, finished, alike⟩

end DongloraClient.Proofs.SessionIsolation
