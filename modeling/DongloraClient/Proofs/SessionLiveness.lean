import DongloraClient.Foundation.Fairness
import DongloraClient.Proofs.SessionLock
import DongloraClient.Proofs.SessionQueue

/-! What must happen in a session. The lock is always given back, and so a scheduler that is
fair to every thread brings each method to its end. -/

namespace DongloraClient.Proofs.SessionLiveness
open Session SessionSteps SessionTable SessionReader SessionShutdown SessionLock SessionQueue Transition Filter

variable {cobs : Cobs.Codec} {session next : Session} {label : Step} {events : List Step} {id : Nat} {agent : Agent}

inductive Worker where
  | command (id : Nat)
  | consumer (id : Nat)
  | agent (agent : Agent)
  deriving DecidableEq, Repr

def worker : Step → Option Worker
  | .alloc id | .register id | .write id _ | .wake id | .expire id | .readErr id | .readResult id | .forget id =>
    some (.command id)
  | .take id | .giveUp id | .repost id => some (.consumer id)
  | .act agent => some (.agent agent)
  | .sweep id => some (.agent (.closer id))
  | .poll | .receive _ | .corrupt _ | .idle | .hangup | .dispatch _ _ | .shutdown => some (.agent .reader)
  | .begin _ _ _ | .close _ | .next _ _ | .drain => none

abbrev Ready (cobs : Cobs.Codec) (session : Session) (thread : Worker) : Prop :=
  Enabled (Steps (step cobs)) (fun label => worker label = some thread) session

/-- A step brings the thread nearer, or is another's and leaves it where it was. -/
abbrev Nearer (rank : Session → Nat) (thread : Worker) : Session → Step → Session → Prop :=
  Nears rank fun label => worker label = some thread

theorem ready {thread : Worker} (label : Step) (own : worker label = some thread)
    (can : (step cobs session label).isSome = true) : Ready cobs session thread := by
  obtain ⟨next, taken⟩ := Option.isSome_iff_exists.mp can
  exact ⟨label, next, own, taken⟩

theorem move_worker {call : Call} {pc : Pc} (move : PcMove cobs call id label pc) : worker label = some (.command id) := by
  cases move <;> rfl

section Agents

theorem todo_foreign (taken : step cobs session label = some next) (foreign : worker label ≠ some (.agent agent)) :
    next.todo agent = session.todo agent := by
  generalize same : next.todo agent = actions
  cases same ▸ step_todo taken agent with
  | same => rfl
  | executed => exact absurd rfl foreign
  | dispatched own | corrupted own | shutdown own | sweep own =>
    subst own
    exact absurd rfl foreign

/-- An agent that sweeps, or that has something to do, does that first. -/
theorem own_act (locked : Locked session) (paced : Paced session) (taken : step cobs session label = some next)
    (own : worker label = some (.agent agent)) (busy : session.todo agent ≠ [] ∨ Sweeping session agent) :
    label = .act agent := by
  have reader (place : session.reader ≠ .ending) (empty : session.todo .reader = []) (own : Agent.reader = agent) :
      label = .act agent := by
    subst own
    exact (busy.elim (fun full => full empty) place).elim
  cases stepped taken with
  | acted =>
    cases own
    rfl
  | swept flagged =>
    cases own
    have place : session.closers _ = .closing := busy.elim (locked.closing _) id
    cases flagged.symm.trans place
  | polled looping empty =>
    cases own
    exact reader (by simp [looping]) empty rfl
  | received place | corrupted place | timedOut place | failed place | dispatched place | raised place | ended place =>
    cases own
    exact reader (by simp [place]) (paced.busy (by simp [place]) (by simp [place])) rfl
  | moved move => cases (move_worker move).symm.trans own
  | rejected | entered | allocated | registered | forgotten | flagged | asked | took | woke | gaveUp | reposted
  | drained => cases own

theorem shrinks (locked : Locked session) (paced : Paced session) (taken : step cobs session label = some next)
    (busy : session.todo agent ≠ [] ∨ Sweeping session agent) :
    Nearer (fun session => (session.todo agent).length) (.agent agent) session label next := by
  by_cases own : worker label = some (.agent agent)
  · obtain rfl := own_act locked paced taken own busy
    obtain ⟨action, rest, found, remaining, _⟩ := act_todo taken
    exact Or.inl (by simp [found, remaining])
  · exact Or.inr ⟨congrArg List.length (todo_foreign taken own), own⟩

theorem acts (busy : session.todo agent ≠ []) :
    Ready cobs session (.agent agent) := by
  obtain ⟨action, rest, found⟩ := List.exists_cons_of_ne_nil busy
  exact ready (.act agent) rfl (by simp [step, found])

end Agents

section Commands

def Done (call : Call) : Prop := ∃ outcome, call.pc = .finished outcome

/-- A command that has begun and does not wait for ever: it has a timeout or its event is set. -/
structure Bounded (call : Call) : Prop where
  begun : call.pc ≠ .idle
  ends : call.timed = true ∨ InFlight call ∧ call.slot.event = true

def remaining : Pc → Nat
  | .entered => 7
  | .allocated => 6
  | .registered => 5
  | .waiting => 4
  | .woken => 3
  | .unfailed => 2
  | .leaving _ => 1
  | .idle | .finished _ => 0

theorem command_foreign (taken : step cobs session label = some next) (foreign : worker label ≠ some (.command id))
    (begun : (session.calls id).pc ≠ .idle) : (next.calls id).pc = (session.calls id).pc := by
  generalize same : next.calls id = call
  cases same ▸ step_calls taken id with
  | same | written => rfl
  | rejected idle | entered idle => exact absurd idle begun
  | moved move => exact absurd (move_worker move) foreign
  | allocated | registered | forgotten => exact absurd rfl foreign

theorem command_own (taken : step cobs session label = some next) (own : worker label = some (.command id)) :
    remaining (next.calls id).pc < remaining (session.calls id).pc := by
  cases stepped taken with
  | allocated entered =>
    cases own
    simp [entered, remaining]
  | registered ready =>
    cases own
    simp [ready, remaining]
  | moved move =>
    cases (move_worker move).symm.trans own
    rw [setPc_calls, if_pos rfl]
    cases move with
    | sent place | unsent place | woken place | expired place | failed place | unfailed place | returned place =>
      rw [place]
      simp [remaining]
  | forgotten leaving =>
    cases own
    simp [leaving, remaining]
  | rejected | entered | acted | polled | received | corrupted | timedOut | failed | dispatched | raised | ended
  | flagged | swept | asked | took | woke | gaveUp | reposted | drained => cases own

theorem bounded_kept (taken : step cobs session label = some next) (bounded : Bounded (session.calls id)) :
    Done (next.calls id) ∨ Bounded (next.calls id) := by
  obtain ⟨begun, ends⟩ := bounded
  generalize same : next.calls id = call
  have timed (place : ¬ InFlight (session.calls id)) : (session.calls id).timed = true :=
    ends.resolve_right fun flying => place flying.1
  cases same ▸ step_calls taken id with
  | same => exact Or.inr ⟨begun, ends⟩
  | rejected idle | entered idle => exact absurd idle begun
  | allocated place | registered place =>
    exact Or.inr ⟨by simp, Or.inl (timed (by simp only [InFlight, place, not_false_eq_true]))⟩
  | moved move =>
    have flying := (PcMove.inFlight move).2
    exact Or.inr ⟨flying.registered.1, ends.imp_right fun set => ⟨flying, set.2⟩⟩
  | forgotten => exact Or.inl ⟨_, rfl⟩
  | written => exact Or.inr ⟨begun, ends.imp_right fun set => ⟨set.1, effect_event _ _ set.2⟩⟩

theorem command_ready (bounded : Bounded (session.calls id)) (unfinished : ¬ Done (session.calls id))
    (free : session.lock = none) : Ready cobs session (.command id) := by
  cases place : (session.calls id).pc with
  | idle => exact absurd place bounded.begun
  | entered => exact ready (.alloc id) rfl (by simp [step, place])
  | allocated => exact ready (.register id) rfl (by simp [step, place, free])
  | registered =>
    refine ready (.write id none) rfl ?_
    simp only [step, place, if_true]
    cases wire cobs (session.calls id) <;> rfl
  | waiting =>
    cases set : (session.calls id).slot.event with
    | true => exact ready (.wake id) rfl (by simp [step, place, set])
    | false =>
      have timed : (session.calls id).timed = true := bounded.ends.resolve_right fun flying => by simp [set] at flying
      exact ready (.expire id) rfl (by simp [step, place, set, timed])
  | woken =>
    refine ready (.readErr id) rfl ?_
    simp only [step, place, if_true]
    cases (session.calls id).slot.err <;> rfl
  | unfailed => exact ready (.readResult id) rfl (by simp [step, place])
  | leaving outcome => exact ready (.forget id) rfl (by simp [step, place, free])
  | finished outcome => exact absurd ⟨outcome, place⟩ unfinished

end Commands

section Consumers

def Returned (session : Session) (id : Nat) : Prop := ∃ event, session.consumers id = .returned event

def Asking (session : Session) (id : Nat) (timed : Bool) : Prop :=
  session.consumers id = .getting timed ∨ session.consumers id = .reposting

def steps : Consumer → Nat
  | .getting _ => 2
  | .reposting => 1
  | .idle | .returned _ => 0

theorem consumer_foreign (taken : step cobs session label = some next) (foreign : worker label ≠ some (.consumer id))
    (begun : session.consumers id ≠ .idle) : next.consumers id = session.consumers id := by
  have apart {owner : Nat} {after : Consumer} (other : owner ≠ id) :
      Function.update session.consumers owner after id = session.consumers id := Function.update_of_ne other.symm ..
  generalize queue : next.rxQueue = rxQueue
  generalize same : next.consumers = consumers
  cases queue ▸ same ▸ step_queue taken with
  | same | posted => rfl
  | asked idle => exact apart fun own => begun (own ▸ idle)
  | took | woke | gaveUp | reposted => exact apart fun own => foreign (own ▸ rfl)

inductive ConsumerMove (session next : Session) (id : Nat) : Prop where
  | returned {timed : Bool} : session.consumers id = .getting timed → Returned next id → ConsumerMove session next id
  | woken {timed : Bool} : session.consumers id = .getting timed → next.consumers id = .reposting → ConsumerMove session next id
  | reposted : session.consumers id = .reposting → Returned next id → next.rxQueue = session.rxQueue ++ [.sentinel] →
      ConsumerMove session next id

theorem consumer_own (taken : step cobs session label = some next) (own : worker label = some (.consumer id)) :
    ConsumerMove session next id := by
  cases stepped taken with
  | took getting | gaveUp getting =>
    cases own
    exact .returned getting ⟨_, Function.update_self ..⟩
  | woke getting =>
    cases own
    exact .woken getting (Function.update_self ..)
  | reposted reposting =>
    cases own
    exact .reposted reposting ⟨_, Function.update_self ..⟩ rfl
  | moved move => cases (move_worker move).symm.trans own
  | rejected | entered | allocated | registered | forgotten | acted | polled | received | corrupted | timedOut | failed
  | dispatched | raised | ended | flagged | swept | asked | drained => cases own

theorem consumer_moves {timed : Bool} (taken : step cobs session label = some next) (asking : Asking session id timed) :
    Returned next id ∨ Asking next id timed ∧
      Nearer (fun session => steps (session.consumers id)) (.consumer id) session label next := by
  by_cases own : worker label = some (.consumer id)
  · cases consumer_own taken own with
    | returned _ returned | reposted _ returned => exact Or.inl returned
    | woken getting reposting => exact Or.inr ⟨Or.inr reposting, Or.inl (by simp [getting, reposting, steps])⟩
  · have same := consumer_foreign taken own (by rcases asking with place | place <;> simp [place])
    exact Or.inr ⟨by rwa [Asking, same], Or.inr ⟨congrArg steps same, own⟩⟩

end Consumers

section Reader

inductive Serving (session : Session) : Prop where
  | dispatching {frame : Frame} : session.reader = .dispatching frame → Serving session
  | looping : session.reader = .looping → session.todo .reader ≠ [] → Serving session

/-- The reader has executed everything and looks at the flag next. -/
def Polling (session : Session) : Prop := session.reader = .looping ∧ session.todo .reader = []

def distance (session : Session) : Nat :=
  match session.reader with
  | .reading => 4
  | .dispatching _ => 3
  | .looping => (session.todo .reader).length
  | .finishing | .ending => 0

theorem reaction_short {frame : Frame} {pending : Option (Nat × Nat)} {actions : List Action}
    (ran : reaction frame pending = .ok actions) : actions.length ≤ 2 := by
  cases Dispatch.reacted ran <;> simp

theorem reader_foreign (taken : step cobs session label = some next) (foreign : worker label ≠ some (.agent .reader)) :
    next.reader = session.reader := by
  cases stepped taken with
  | acted => exact apply_reader ..
  | polled | received | corrupted | timedOut | failed | dispatched | raised | ended => exact absurd rfl foreign
  | rejected | entered | allocated | registered | moved | forgotten | flagged | swept | asked | took | woke | gaveUp
  | reposted | drained => rfl

inductive ReaderMove (session next : Session) : Prop where
  | polled : Polling session → next.reader = (if session.closed then .finishing else .reading) → ReaderMove session next
  | acted {action : Action} : (session.reader = .looping ∨ session.reader = .ending) → next.reader = session.reader →
      session.todo .reader = action :: next.todo .reader → ReaderMove session next
  | received {frame : Frame} : session.reader = .reading → next.reader = .dispatching frame → ReaderMove session next
  | missed : session.reader = .reading → next.reader = .looping → (next.todo .reader).length ≤ 1 → ReaderMove session next
  | failed : session.reader = .reading → next.reader = .finishing → ReaderMove session next
  | dispatched {frame : Frame} : session.reader = .dispatching frame → next.reader = .looping →
      (next.todo .reader).length ≤ 2 → ReaderMove session next
  | ended : session.reader = .finishing → next.reader = .ending → ReaderMove session next

theorem reader_own (paced : Paced session) (taken : step cobs session label = some next)
    (own : worker label = some (.agent .reader)) : ReaderMove session next := by
  have empty (notLooping : session.reader ≠ .looping) (notEnding : session.reader ≠ .ending) : session.todo .reader = [] :=
    paced.busy notLooping notEnding
  cases stepped taken with
  | acted found =>
    cases own
    refine .acted ?_ (apply_reader ..) (by simpa using found)
    by_contra place
    obtain ⟨notLooping, notEnding⟩ := not_or.mp place
    cases (empty notLooping notEnding).symm.trans found
  | polled looping done => exact .polled ⟨looping, done⟩ rfl
  | received reading => exact .received reading rfl
  | corrupted reading => exact .missed reading rfl (by simp)
  | timedOut reading =>
    have done := empty (by simp [reading]) (by simp [reading])
    exact .missed reading rfl (by simp [done])
  | failed reading => exact .failed reading rfl
  | dispatched dispatching _ _ reacted => exact .dispatched dispatching rfl (by simpa using reaction_short reacted)
  | raised dispatching =>
    have done := empty (by simp [dispatching]) (by simp [dispatching])
    exact .dispatched dispatching rfl (by simp [done])
  | ended finishing => exact .ended finishing rfl
  | moved move => cases (move_worker move).symm.trans own
  | swept | rejected | entered | allocated | registered | forgotten | flagged | asked | took | woke | gaveUp | reposted
  | drained => cases own

theorem distance_foreign (taken : step cobs session label = some next) (foreign : worker label ≠ some (.agent .reader)) :
    distance next = distance session := by
  simp only [distance, reader_foreign taken foreign, todo_foreign taken foreign]

theorem serving_own (move : ReaderMove session next) (serving : Serving session) :
    next.reader = .looping ∧ distance next < distance session := by
  cases serving with
  | dispatching dispatching =>
    cases move with
    | dispatched _ looping short => exact ⟨looping, by simpa [distance, dispatching, looping] using Nat.lt_succ_of_le short⟩
    | polled polling => cases dispatching.symm.trans polling.1
    | acted place => rcases place with place | place <;> cases dispatching.symm.trans place
    | received place | missed place | failed place | ended place => cases dispatching.symm.trans place
  | looping looping busy =>
    cases move with
    | acted _ kept found => exact ⟨kept.trans looping, by simp [distance, looping, kept, found]⟩
    | polled polling => exact absurd polling.2 busy
    | received place | missed place | failed place | dispatched place | ended place => cases looping.symm.trans place

theorem serving_moves (paced : Paced session) (taken : step cobs session label = some next) (serving : Serving session) :
    Polling next ∨ Serving next ∧ Nearer distance (.agent .reader) session label next := by
  by_cases own : worker label = some (.agent .reader)
  · obtain ⟨looping, nearer⟩ := serving_own (reader_own paced taken own) serving
    by_cases done : next.todo .reader = []
    · exact Or.inl ⟨looping, done⟩
    · exact Or.inr ⟨.looping looping done, Or.inl nearer⟩
  · have reader := reader_foreign taken own
    refine Or.inr ⟨?_, Or.inr ⟨distance_foreign taken own, own⟩⟩
    cases serving with
    | dispatching place => exact .dispatching (reader.trans place)
    | looping place busy => exact .looping (reader.trans place) (by rwa [todo_foreign taken own])

def Exiting (session : Session) : Prop := session.reader = .finishing ∨ session.reader = .ending

theorem closed_moves (paced : Paced session) (taken : step cobs session label = some next) (closed : session.closed = true)
    (inside : ¬ Exiting session) :
    Exiting next ∨ next.closed = true ∧ Nearer distance (.agent .reader) session label next := by
  have still := (flags_kept taken).2 closed
  by_cases own : worker label = some (.agent .reader)
  · have nearer (nearer : distance next < distance session) :
        Exiting next ∨ next.closed = true ∧ Nearer distance (.agent .reader) session label next :=
      Or.inr ⟨still, Or.inl nearer⟩
    cases reader_own paced taken own with
    | polled _ left =>
      rw [if_pos closed] at left
      exact Or.inl (Or.inl left)
    | acted place kept found =>
      have looping := place.resolve_right fun ending => inside (Or.inr ending)
      exact nearer (by simp [distance, kept, looping, found])
    | received reading dispatching => exact nearer (by simp [distance, reading, dispatching])
    | missed reading looping short => exact nearer (by simpa [distance, reading, looping] using short.trans_lt (by decide))
    | failed _ left => exact Or.inl (Or.inl left)
    | dispatched dispatching looping short =>
      exact nearer (by simpa [distance, dispatching, looping] using Nat.lt_succ_of_le short)
    | ended finishing => exact absurd (Or.inl finishing) inside
  · exact Or.inr ⟨still, Or.inr ⟨distance_foreign taken own, own⟩⟩

theorem dispatch_ready {frame : Frame} (dispatching : session.reader = .dispatching frame) (free : session.lock = none) :
    Ready cobs session (.agent .reader) := by
  refine ready (.dispatch frame ((session.getPending frame.tag).map Prod.fst)) rfl ?_
  simp only [step, dispatching, free, or_true, and_self, if_true]
  cases reaction frame (session.getPending frame.tag) <;> rfl

theorem serving_ready (serving : Serving session) (free : session.lock = none) :
    Ready cobs session (.agent .reader) := by
  cases serving with
  | dispatching place => exact dispatch_ready place free
  | looping _ busy => exact acts busy

theorem inside_ready (inside : ¬ Exiting session) (free : session.lock = none) :
    Ready cobs session (.agent .reader) := by
  cases place : session.reader with
  | reading => exact ready .idle rfl (by simp [step, place])
  | dispatching frame => exact dispatch_ready place free
  | looping =>
    by_cases done : session.todo .reader = []
    · exact ready .poll rfl (by simp [step, place, done])
    · exact acts done
  | finishing => exact absurd (Or.inl place) inside
  | ending => exact absurd (Or.inr place) inside

end Reader

section Sweeps

theorem lock_moves (taken : step cobs session label = some next) (held : session.lock = some agent) :
    next.lock = none ∨ next.lock = some agent := by
  generalize table : next.pending = pending
  generalize lock : next.lock = owner
  cases table ▸ lock ▸ step_table taken with
  | same | registered | forgotten => exact Or.inr held
  | shutdown _ free | sweep _ free => cases held.symm.trans free
  | cleared => exact Or.inl rfl

/-- An agent comes to its sweep when it gets the lock. -/
def Due (session : Session) : Agent → Prop
  | .reader => session.reader = .finishing
  | .closer id => session.closers id = .flagged

theorem due_moves (locked : Locked session) (paced : Paced session) (taken : step cobs session label = some next)
    (due : Due session agent) : Sweeping next agent ∨ Due next agent ∧ worker label ≠ some (.agent agent) := by
  cases agent with
  | reader =>
    by_cases own : worker label = some (.agent .reader)
    · have place : session.reader = .finishing := due
      cases reader_own paced taken own with
      | ended _ ending => exact Or.inl ending
      | polled polling => cases place.symm.trans polling.1
      | acted other => rcases other with other | other <;> cases place.symm.trans other
      | received other | missed other | failed other | dispatched other => cases place.symm.trans other
    · exact Or.inr ⟨(reader_foreign taken own).trans due, own⟩
  | closer id =>
    have flagged : session.closers id = .flagged := due
    have apart {owner : Nat} {after : Closer} (other : id ≠ owner) : Function.update session.closers owner after id = .flagged :=
      (Function.update_of_ne other ..).trans flagged
    cases stepped taken with
    | @flagged owner idle =>
      refine Or.inr ⟨apart ?_, nofun⟩
      rintro rfl
      cases flagged.symm.trans idle
    | @swept owner =>
      by_cases same : id = owner
      · subst same
        exact Or.inl (Function.update_self ..)
      · exact Or.inr ⟨apart same, fun own => by cases own; exact same rfl⟩
    | acted found =>
      refine Or.inr ⟨(congrFun (apply_closers ..) id).trans flagged, fun own => ?_⟩
      cases own
      cases flagged.symm.trans (locked.closing id (found ▸ List.cons_ne_nil _ _))
    | moved move => exact Or.inr ⟨flagged, fun own => nomatch (move_worker move).symm.trans own⟩
    | rejected | entered | allocated | registered | forgotten | polled | received | corrupted | timedOut | failed
    | dispatched | raised | ended | asked | took | woke | gaveUp | reposted | drained =>
      exact Or.inr ⟨flagged, nofun⟩

theorem due_ready (due : Due session agent) (free : session.lock = none) :
    Ready cobs session (.agent agent) := by
  cases agent with
  | reader => exact ⟨.shutdown, _, rfl, if_pos ⟨due, free⟩⟩
  | closer id => exact ⟨.sweep id, _, rfl, if_pos ⟨due, free⟩⟩

end Sweeps

section Executions

variable {execution : Execution (Steps (step cobs)) {}}

/-- A scheduler that passes nobody over for good. -/
def FairToAll (execution : Execution (Steps (step cobs)) {}) : Prop :=
  ∀ thread, execution.Fair fun label => worker label = some thread

structure Known (session : Session) : Prop where
  paced : Paced session
  locked : Locked session
  tail : Tail session

theorem known (execution : Execution (Steps (step cobs)) {}) (moment : Nat) : Known (execution.state moment) := by
  obtain ⟨events, run⟩ := execution.reached moment
  exact ⟨Paced.reachable run, Locked.reachable run, Tail.reachable run⟩

/-- Sooner or later, and again and again, the lock is free. -/
theorem released (fair : FairToAll execution) : ∃ᶠ moment in atTop, (execution.state moment).lock = none := by
  have held (agent : Agent) :
      execution.LeadsTo (fun session => session.lock = some agent) fun session => session.lock = none := by
    refine (fair (.agent agent)).leads (fun session => (session.todo agent).length) (known execution) ?_ ?_
    · exact fun session known held _ => acts (List.ne_nil_of_mem ((known.locked.owner agent).mpr held))
    · intro session label next known held _ taken
      have busy := List.ne_nil_of_mem ((known.locked.owner agent).mpr held)
      exact (lock_moves taken held).imp_right fun still => ⟨still, shrinks known.locked known.paced taken (Or.inl busy)⟩
  refine frequently_atTop.mpr fun moment => ?_
  cases owner : (execution.state moment).lock with
  | none => exact ⟨moment, Nat.le_refl _, owner⟩
  | some agent => exact held agent moment owner

theorem commands_end (fair : FairToAll execution) (id : Nat) :
    execution.LeadsTo (fun session => Bounded (session.calls id)) fun session => Done (session.calls id) := by
  refine (fair (.command id)).leadsTo (fun session => remaining (session.calls id).pc) (fun session => session.lock = none)
    (known execution) (released fair) ?_ ?_
  · exact fun session _ bounded unfinished free => command_ready bounded unfinished free
  · intro session label next _ bounded _ taken
    refine (bounded_kept taken bounded).imp_right fun still => ⟨still, ?_⟩
    by_cases own : worker label = some (.command id)
    · exact Or.inl (command_own taken own)
    · exact Or.inr ⟨congrArg remaining (command_foreign taken own bounded.begun), own⟩

theorem sweeps_end (fair : FairToAll execution) (agent : Agent) :
    execution.LeadsTo (fun session => Sweeping session agent) fun session => Finished session agent := by
  refine (fair (.agent agent)).leads (fun session => (session.todo agent).length) (known execution) ?_ ?_
  · exact fun session _ sweeping unfinished => acts fun done => unfinished ⟨sweeping, done⟩
  · intro session label next known sweeping _ taken
    have still := (step_sweeping taken agent).mpr (Or.inl sweeping)
    exact Or.inr ⟨still, shrinks known.locked known.paced taken (Or.inr sweeping)⟩

theorem dues_sweep (fair : FairToAll execution) (agent : Agent) :
    execution.LeadsTo (fun session => Due session agent) fun session => Sweeping session agent := by
  refine (fair (.agent agent)).leadsTo (fun _ => 0) (fun session => session.lock = none) (known execution) (released fair) ?_ ?_
  · exact fun session _ due _ free => due_ready due free
  · intro session label next known due _ taken
    exact (due_moves known.locked known.paced taken due).imp_right fun foreign => ⟨foreign.1, Or.inr ⟨rfl, foreign.2⟩⟩

/-- Whatever brings an agent to its sweep brings it to the end of the sweep. -/
theorem reaches_end (fair : FairToAll execution) {before : Session → Prop} {agent : Agent}
    (leads : execution.LeadsTo before fun session => Due session agent ∨ Sweeping session agent) :
    execution.LeadsTo before fun session => Finished session agent := by
  intro moment start
  obtain ⟨later, order, place⟩ := leads moment start
  rcases place with due | sweeping
  · obtain ⟨last, further, ended⟩ := ((dues_sweep fair agent).trans (sweeps_end fair agent)) later due
    exact ⟨last, order.trans further, ended⟩
  · obtain ⟨last, further, ended⟩ := sweeps_end fair agent later sweeping
    exact ⟨last, order.trans further, ended⟩

theorem closes_end (fair : FairToAll execution) (id : Nat) :
    execution.LeadsTo (fun session => session.closers id ≠ .idle) fun session => Finished session (.closer id) := by
  refine reaches_end fair fun moment begun => ⟨moment, Nat.le_refl _, ?_⟩
  cases place : (execution.state moment).closers id with
  | idle => exact absurd place begun
  | flagged => exact Or.inl place
  | closing => exact Or.inr place

theorem serves (fair : FairToAll execution) : execution.LeadsTo Serving Polling :=
  (fair (.agent .reader)).leadsTo distance (fun session => session.lock = none) (known execution) (released fair)
    (fun _ _ serving _ free => serving_ready serving free)
    fun _ _ _ known serving _ taken => serving_moves known.paced taken serving

theorem reader_exits (fair : FairToAll execution) :
    execution.LeadsTo (fun session => session.closed = true ∨ Exiting session) fun session => Finished session .reader := by
  have leaves : execution.LeadsTo (fun session => session.closed = true) Exiting :=
    (fair (.agent .reader)).leadsTo distance (fun session => session.lock = none) (known execution) (released fair)
      (fun _ _ _ inside free => inside_ready inside free)
      fun _ _ _ known closed inside taken => closed_moves known.paced taken closed inside
  refine reaches_end fair fun moment start => ?_
  rcases start with closed | exiting
  · exact leaves moment closed
  · exact ⟨moment, Nat.le_refl _, exiting⟩

/-- A `next_rx` call that is called to the queue again and again returns. -/
theorem consumer_returns (fair : FairToAll execution) {timed : Bool} (free : Session → Prop)
    (recurs : ∃ᶠ moment in atTop, free (execution.state moment))
    (served : ∀ session, free session → timed = true ∨ session.rxQueue ≠ []) :
    execution.LeadsTo (fun session => Asking session id timed) fun session => Returned session id := by
  refine (fair (.consumer id)).leadsTo (fun session => steps (session.consumers id)) free (known execution) recurs ?_ ?_
  · intro session _ asking _ free
    rcases asking with getting | reposting
    · cases queue : session.rxQueue with
      | nil =>
        obtain rfl : timed = true := (served session free).resolve_right fun full => full queue
        exact ready (.giveUp id) rfl (by simp [step, getting, queue])
      | cons item rest =>
        refine ready (.take id) rfl ?_
        cases item <;> simp [step, getting, queue]
    · exact ready (.repost id) rfl (by simp [step, reposting])
  · exact fun session label next _ asking _ taken => consumer_moves taken asking

/-- After the reader's exit the sentinel comes back to the queue again and again. -/
theorem sentinel_recurs (fair : FairToAll execution) {moment : Nat} (finished : Finished (execution.state moment) .reader) :
    ∃ᶠ moment in atTop, (execution.state moment).rxQueue ≠ [] := by
  have reposts (id : Nat) :
      execution.LeadsTo (fun session => session.consumers id = .reposting) fun session => session.rxQueue ≠ [] := by
    refine (fair (.consumer id)).leads (fun _ => 0) (known execution) ?_ ?_
    · exact fun session _ reposting _ => ready (.repost id) rfl (by simp [step, reposting])
    · intro session label next _ reposting _ taken
      by_cases own : worker label = some (.consumer id)
      · cases consumer_own taken own with
        | reposted _ _ posted => exact Or.inl (by simp [posted])
        | returned getting | woken getting => cases reposting.symm.trans getting
      · have same := consumer_foreign taken own (by simp [reposting])
        exact Or.inr ⟨same.trans reposting, Or.inr ⟨rfl, own⟩⟩
  refine frequently_atTop.mpr fun bound => ?_
  have still : Finished (execution.state (max moment bound)) .reader :=
    Execution.persists (Finished · .reader) finished (Nat.le_max_left ..) fun _ _ finished happens =>
      finished_kept (Execution.taken happens) finished
  rcases (known execution _).tail.ended still with ⟨events, order, _⟩ | ⟨_, id, reposting⟩
  · exact ⟨max moment bound, Nat.le_max_right .., by simp [order]⟩
  · obtain ⟨later, further, full⟩ := reposts id _ reposting
    exact ⟨later, (Nat.le_max_right ..).trans further, full⟩

theorem consumers_wake (fair : FairToAll execution) (id : Nat) (timed : Bool) :
    execution.LeadsTo (fun session => (session.closed = true ∨ Exiting session) ∧ Asking session id timed)
      fun session => Returned session id := by
  intro moment start
  obtain ⟨later, _, finished⟩ := reader_exits fair moment start.1
  exact consumer_returns fair (fun session => session.rxQueue ≠ []) (sentinel_recurs fair finished)
    (fun _ full => Or.inr full) moment start.2

/-- Nobody stays in a session for good. -/
structure Returning (execution : Execution (Steps (step cobs)) {}) : Prop where
  free : ∃ᶠ moment in atTop, (execution.state moment).lock = none
  command : ∀ id, execution.LeadsTo (fun session => Bounded (session.calls id)) fun session => Done (session.calls id)
  close : ∀ id, execution.LeadsTo (fun session => session.closers id ≠ .idle) fun session => Finished session (.closer id)
  served : execution.LeadsTo Serving Polling
  exit : execution.LeadsTo (fun session => session.closed = true ∨ Exiting session) fun session => Finished session .reader
  timed : ∀ id, execution.LeadsTo (fun session => Asking session id true) fun session => Returned session id
  woken : ∀ id timed, execution.LeadsTo (fun session => (session.closed = true ∨ Exiting session) ∧ Asking session id timed)
    fun session => Returned session id

/-- If no thread is passed over for good, the lock is free again and again, each command that
has a timeout or an answer ends, each `close` returns, each frame read is dispatched, and after
`close` or a failed read the reader exits and each `next_rx` returns. -/
theorem methods_return (fair : FairToAll execution) : Returning execution where
  free := released fair
  command := commands_end fair
  close := closes_end fair
  served := serves fair
  exit := reader_exits fair
  timed _ := consumer_returns fair (fun _ => True) (.of_forall fun _ => trivial) fun _ _ => Or.inl rfl
  woken := consumers_wake fair

/-- A session in which nobody has anything left to do. -/
structure Deserted (session : Session) : Prop where
  call : ∀ id, remaining (session.calls id).pc = 0
  consumer : ∀ id, steps (session.consumers id) = 0
  closer : ∀ id, session.closers id ≠ .flagged
  reader : session.reader = .ending
  todo : ∀ agent, session.todo agent = []

theorem Deserted.stuck (deserted : Deserted session) (paced : Paced session) (thread : Worker) :
    ¬ Ready cobs session thread := by
  rintro ⟨label, next, own, taken⟩
  cases thread with
  | command id =>
    have nearer := command_own taken own
    rw [deserted.call id] at nearer
    cases nearer
  | consumer id =>
    have nothing := deserted.consumer id
    cases consumer_own taken own with
    | returned place | woken place | reposted place => simp [place, steps] at nothing
  | agent agent =>
    cases agent with
    | reader =>
      have empty := deserted.todo .reader
      cases reader_own paced taken own with
      | acted _ _ found => cases empty.symm.trans found
      | polled polling => cases deserted.reader.symm.trans polling.1
      | received place | missed place | failed place | dispatched place | ended place =>
        cases deserted.reader.symm.trans place
    | closer id =>
      cases stepped taken with
      | acted found =>
        cases own
        cases (deserted.todo (.closer id)).symm.trans found
      | swept flagged =>
        cases own
        exact deserted.closer id flagged
      | moved move => cases (move_worker move).symm.trans own
      | rejected | entered | allocated | registered | forgotten | polled | received | corrupted | timedOut | failed
      | dispatched | raised | ended | flagged | asked | took | woke | gaveUp | reposted | drained => cases own

theorem uncalled (run : Run (Steps (step cobs)) {} events session)
    (never : ∀ label ∈ events, (∀ request timed, label ≠ .begin id request timed) ∧ label ≠ .close id ∧
      ∀ timed, label ≠ .next id timed) :
    (session.calls id).pc = .idle ∧ session.closers id = .idle ∧ session.consumers id = .idle := by
  induction run with
  | nil => exact ⟨rfl, rfl, rfl⟩
  | @snoc events session next label before taken ih =>
    obtain ⟨noCall, noCloser, noConsumer⟩ := ih fun label member => never label (List.mem_append_left _ member)
    obtain ⟨notBegun, notClosed, notAsked⟩ := never label (List.mem_append_right _ (List.mem_singleton_self _))
    refine ⟨?_, ?_, ?_⟩
    · generalize same : next.calls id = call
      cases same ▸ step_calls taken id with
      | same | written => exact noCall
      | rejected | entered => exact absurd rfl (notBegun _ _)
      | moved move =>
        have flying := (PcMove.inFlight move).1
        simp only [InFlight, noCall] at flying
      | allocated place | registered place | forgotten place => cases noCall.symm.trans place
    · have apart {owner : Nat} {after : Closer} (other : id ≠ owner) : Function.update session.closers owner after id = .idle :=
        (Function.update_of_ne other ..).trans noCloser
      cases stepped taken with
      | flagged =>
        refine apart ?_
        rintro rfl
        exact notClosed rfl
      | swept flagged =>
        refine apart ?_
        rintro rfl
        cases noCloser.symm.trans flagged
      | acted => exact (congrFun (apply_closers ..) id).trans noCloser
      | rejected | entered | allocated | registered | moved | forgotten | polled | received | corrupted | timedOut | failed
      | dispatched | raised | ended | asked | took | woke | gaveUp | reposted | drained => exact noCloser
    · have apart {owner : Nat} {after : Consumer} (other : id ≠ owner) :
          Function.update session.consumers owner after id = .idle := (Function.update_of_ne other ..).trans noConsumer
      generalize queue : next.rxQueue = rxQueue
      generalize same : next.consumers = consumers
      cases queue ▸ same ▸ step_queue taken with
      | same | posted => exact noConsumer
      | asked =>
        refine apart ?_
        rintro rfl
        exact notAsked _ rfl
      | took place | woke place | gaveUp place | reposted place =>
        refine apart ?_
        rintro rfl
        cases noConsumer.symm.trans place

/-- A `PING` and a `next_rx` call wait without a timeout, and the session is closed. -/
def closedAround : List Step :=
  [.begin 0 .ping false, .alloc 0, .register 0, .write 0 none, .next 0 false, .close 0, .sweep 0, .act (.closer 0),
    .act (.closer 0), .act (.closer 0), .act (.closer 0), .poll, .shutdown, .act .reader, .act .reader, .act .reader,
    .take 0, .repost 0, .wake 0, .readErr 0, .forget 0]

theorem closedAround_deserted : ∃ session, Run (Steps (step Cobs.standard)) {} closedAround session ∧ Deserted session := by
  have computed : (execute (step Cobs.standard) {} closedAround).map (fun session =>
      (remaining (session.calls 0).pc + steps (session.consumers 0), session.closers 0, session.reader,
        session.todo (.closer 0) ++ session.todo .reader)) = some (0, .closing, .ending, []) := by
    decide +kernel
  obtain ⟨session, run, same⟩ := execute_summary computed
  simp only [Prod.mk.injEq, Nat.add_eq_zero_iff, List.append_eq_nil_iff] at same
  obtain ⟨⟨call, consumer⟩, closer, reader, closing, exit⟩ := same
  have others {id : Nat} (other : id ≠ 0) : (session.calls id).pc = .idle ∧ session.closers id = .idle ∧
      session.consumers id = .idle := uncalled run (by simp [closedAround, other.symm])
  refine ⟨session, run, ?_, ?_, ?_, reader, ?_⟩
  · intro id
    by_cases own : id = 0
    · exact own ▸ call
    · rw [(others own).1, remaining]
  · intro id
    by_cases own : id = 0
    · exact own ▸ consumer
    · rw [(others own).2.2, steps]
  · intro id
    by_cases own : id = 0
    · simp [own, closer]
    · simp [(others own).2.1]
  · intro agent
    cases agent with
    | reader => exact exit
    | closer id =>
      by_cases own : id = 0
      · exact own ▸ closing
      · by_contra busy
        cases (others own).2.1.symm.trans ((Locked.reachable run).closing id busy)

theorem methods_return_closed : ∃ execution : Execution (Steps (step Cobs.standard)) {}, FairToAll execution ∧
    Deserted (execution.state closedAround.length) ∧ Returning execution := by
  obtain ⟨session, run, deserted⟩ := closedAround_deserted
  obtain ⟨execution, rests⟩ := Execution.resting run
  have fair : FairToAll execution := fun thread =>
    Execution.fair_resting (fun later order => (rests later order).1) (deserted.stuck (Paced.reachable run) thread)
  exact ⟨execution, fair, (rests _ (Nat.le_refl _)).1 ▸ deserted, methods_return fair⟩

end Executions

end DongloraClient.Proofs.SessionLiveness
