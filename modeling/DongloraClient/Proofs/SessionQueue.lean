import DongloraClient.Proofs.SessionReader
import DongloraClient.Proofs.SessionShutdown

/-! The RX queue of a session: what `_dispatch` puts on it against what `next_rx`
takes off, and the sentinel behind the last event. -/

namespace DongloraClient.Proofs.SessionQueue
open Session SessionSteps SessionReader SessionShutdown Transition

variable {cobs : Cobs.Codec} {session next : Session} {label : Step} {events : List Step} {id : Nat}

def rxEvent (frame : Frame) : Option RxEvent :=
  if frame.tag = 0 ∧ frame.typeId = typeRx then (RxEvent.decode frame.payload).toOption else none

def dispatched (events : List Step) : List RxEvent :=
  events.filterMap fun | .dispatch frame _ => rxEvent frame | _ => none

def takes (events : List Step) : List Nat := events.filterMap fun | .take id => some id | _ => none

/-- What a `next_rx` call has returned, other than `None`. -/
def gained : Consumer → Option RxEvent
  | .returned event => event
  | .idle | .getting _ | .reposting => none

def delivered (events : List Step) (session : Session) : List RxEvent :=
  (takes events).filterMap fun id => gained (session.consumers id)

def carried : RxItem → Option RxEvent
  | .event event => some event
  | .sentinel => none

def queued (session : Session) : List RxEvent := session.rxQueue.filterMap carried

def posts : Action → Option RxEvent
  | .putRx event => some event
  | _ => none

def underway (session : Session) : List RxEvent := (session.todo .reader).filterMap posts

section Traces

theorem dispatched_other (other : ∀ frame found, label ≠ .dispatch frame found) :
    dispatched (events ++ [label]) = dispatched events := by
  rw [dispatched, filterMap_snoc]
  cases label with
  | dispatch frame found => exact absurd rfl (other frame found)
  | _ => exact List.append_nil _

theorem dispatched_dispatch (frame : Frame) (found : Option Nat) :
    dispatched (events ++ [.dispatch frame found]) = dispatched events ++ (rxEvent frame).toList :=
  filterMap_snoc _ _ _

theorem takes_other (other : ∀ id, label ≠ .take id) : takes (events ++ [label]) = takes events := by
  rw [takes, filterMap_snoc]
  cases label with
  | take id => exact absurd rfl (other id)
  | _ => exact List.append_nil _

@[simp] theorem takes_take (id : Nat) : takes (events ++ [.take id]) = takes events ++ [id] :=
  filterMap_snoc _ _ _

end Traces

structure Consumed (events : List Step) (session : Session) : Prop where
  once : (takes events).Nodup
  past : ∀ id ∈ takes events, session.consumers id ≠ .idle ∧ ∀ timed, session.consumers id ≠ .getting timed
  counted : ∀ id event, session.consumers id = .returned (some event) → id ∈ takes events

def Conserved (events : List Step) (session : Session) : Prop :=
  dispatched events = delivered events session ++ queued session ++ underway session

/-- What one step does to the queue and to the `next_rx` calls. -/
inductive QueueStep (session : Session) : Step → List RxItem → (Nat → Consumer) → Prop where
  | same {label : Step} : (∀ id, label ≠ .take id) → (∀ agent, label ≠ .act agent) →
      QueueStep session label session.rxQueue session.consumers
  | posted {agent : Agent} {action : Action} {rest : List Action} : session.todo agent = action :: rest →
      QueueStep session (.act agent) (session.apply action).rxQueue session.consumers
  | asked {id : Nat} {timed : Bool} : session.consumers id = .idle →
      QueueStep session (.next id timed) session.rxQueue (Function.update session.consumers id (.getting timed))
  | took {id : Nat} {timed : Bool} {event : RxEvent} {rest : List RxItem} :
      session.consumers id = .getting timed → session.rxQueue = .event event :: rest →
      QueueStep session (.take id) rest (Function.update session.consumers id (.returned (some event)))
  | woke {id : Nat} {timed : Bool} {rest : List RxItem} :
      session.consumers id = .getting timed → session.rxQueue = .sentinel :: rest →
      QueueStep session (.take id) rest (Function.update session.consumers id .reposting)
  | gaveUp {id : Nat} : session.consumers id = .getting true → session.rxQueue = [] →
      QueueStep session (.giveUp id) session.rxQueue (Function.update session.consumers id (.returned none))
  | reposted {id : Nat} : session.consumers id = .reposting →
      QueueStep session (.repost id) (session.rxQueue ++ [.sentinel])
        (Function.update session.consumers id (.returned none))

theorem apply_consumers (action : Action) : (session.apply action).consumers = session.consumers := by
  cases action <;> simp only [apply] <;> (try split) <;> rfl

theorem step_queue (taken : step cobs session label = some next) :
    QueueStep session label next.rxQueue next.consumers := by
  cases stepped taken with
  | @acted agent action rest found =>
    change QueueStep session (.act agent) (session.apply action).rxQueue (session.apply action).consumers
    rw [apply_consumers]
    exact .posted found
  | asked idle => exact .asked idle
  | took getting queue => exact .took getting queue
  | woke getting queue => exact .woke getting queue
  | gaveUp getting queue => exact .gaveUp getting queue
  | reposted reposting => exact .reposted reposting
  | moved move => exact .same (by cases move <;> simp) (by cases move <;> simp)
  | rejected | entered | allocated | registered | forgotten | polled | received | corrupted | timedOut | failed
  | dispatched | raised | ended | flagged | swept | drained => exact .same (fun _ => nofun) fun _ => nofun

theorem apply_queue (action : Action) : (session.apply action).rxQueue =
    session.rxQueue ++ match action with
      | .putRx event => [.event event]
      | .putSentinel => [.sentinel]
      | _ => [] := by
  cases action with
  | setErrIfUnset call exc =>
    simp only [apply]
    split <;> simp [setSlot, setCall]
  | setErr | setOk | setTxDone | signal | putRx | putError | clear | setDead | putSentinel | closeTransport =>
    simp [apply, setSlot, setCall]

theorem update_kept {consumers : Nat → Consumer} {after place : Consumer} {other : Nat}
    (stands : Function.update consumers id after other = place) (passed : after ≠ place) : consumers other = place := by
  by_cases own : other = id
  · subst own
    exact absurd ((Function.update_self ..).symm.trans stands) passed
  · rwa [Function.update_of_ne own] at stands

namespace Consumed

theorem initial : Consumed [] {} where
  once := .nil
  past id member := by cases member
  counted id event returned := by cases returned

theorem undisturbed (consumed : Consumed events session) (other : ∀ id, label ≠ .take id)
    (kept : ∀ id ∈ takes events, next.consumers id ≠ .idle ∧ ∀ timed, next.consumers id ≠ .getting timed)
    (before : ∀ id event, next.consumers id = .returned (some event) →
      session.consumers id = .returned (some event)) : Consumed (events ++ [label]) next := by
  constructor
  · rw [takes_other other]
    exact consumed.once
  · rw [takes_other other]
    exact kept
  · intro id event returned
    rw [takes_other other]
    exact consumed.counted id event (before id event returned)

theorem taking {timed : Bool} {after : Consumer} (consumed : Consumed events session)
    (getting : session.consumers id = .getting timed) (consumers : next.consumers = Function.update session.consumers id after)
    (passed : after ≠ .idle ∧ ∀ timed, after ≠ .getting timed) : Consumed (events ++ [.take id]) next := by
  have fresh : id ∉ takes events := fun member => (consumed.past id member).2 timed getting
  constructor
  · rw [takes_take]
    exact consumed.once.append (List.nodup_singleton id) (by simpa using fresh)
  · intro other member
    rw [consumers]
    by_cases own : other = id
    · subst own
      simpa using passed
    · rw [Function.update_of_ne own]
      apply consumed.past other
      simpa [own] using member
  · intro other event returned
    rw [takes_take]
    by_cases own : other = id
    · simp [own]
    · rw [consumers, Function.update_of_ne own] at returned
      exact List.mem_append_left _ (consumed.counted other event returned)

theorem preserved (consumed : Consumed events session) (taken : step cobs session label = some next) :
    Consumed (events ++ [label]) next := by
  generalize queue : next.rxQueue = rxQueue
  generalize same : next.consumers = consumers
  -- A call that comes to stand elsewhere without taking anything.
  have moved {id : Nat} {after : Consumer} (other : ∀ id, label ≠ .take id)
      (update : next.consumers = Function.update session.consumers id after)
      (outside : id ∈ takes events → after ≠ .idle ∧ ∀ timed, after ≠ .getting timed)
      (nothing : ∀ event, after ≠ .returned (some event)) : Consumed (events ++ [label]) next := by
    apply consumed.undisturbed other
    · intro call member
      rw [update]
      by_cases own : call = id
      · subst own
        simpa using outside member
      · rw [Function.update_of_ne own]
        exact consumed.past call member
    · intro call event returned
      rw [update] at returned
      exact update_kept returned (nothing event)
  cases queue ▸ same ▸ step_queue taken with
  | same other => exact consumed.undisturbed other (same ▸ consumed.past) fun id event returned => by rwa [same] at returned
  | posted => exact consumed.undisturbed (fun _ => nofun) (same ▸ consumed.past) fun id event returned => by rwa [same] at returned
  | asked idle => exact moved (fun _ => nofun) same (fun member => absurd idle (consumed.past _ member).1) fun _ => nofun
  | took getting => exact consumed.taking getting same ⟨nofun, fun _ => nofun⟩
  | woke getting => exact consumed.taking getting same ⟨nofun, fun _ => nofun⟩
  | gaveUp | reposted => exact moved (fun _ => nofun) same (fun _ => ⟨nofun, fun _ => nofun⟩) fun _ => nofun

theorem reachable (run : Run (Steps (step cobs)) {} events session) : Consumed events session :=
  run.invariant initial fun _ _ _ _ consumed taken => consumed.preserved taken

end Consumed

section Conservation

private theorem filterMap_head {α β : Type} (pick : α → Option β) (head : α) (rest : List α) :
    (head :: rest).filterMap pick = (pick head).toList ++ rest.filterMap pick := by
  cases picked : pick head <;> simp [picked]

theorem apply_queued (action : Action) : queued (session.apply action) = queued session ++ (posts action).toList := by
  rw [queued, apply_queue, List.filterMap_append]
  cases action <;> rfl

theorem Conserved.undisturbed (conserved : Conserved events session) (quiet : ∀ frame found, label ≠ .dispatch frame found)
    (other : ∀ id, label ≠ .take id) (gains : ∀ id, gained (next.consumers id) = gained (session.consumers id))
    (queue : queued next ++ underway next = queued session ++ underway session) :
    Conserved (events ++ [label]) next := by
  have same : delivered (events ++ [label]) next = delivered events session := by
    simp only [delivered, takes_other other, gains]
  unfold Conserved at conserved ⊢
  rw [dispatched_other quiet, conserved, same, List.append_assoc, ← queue, ← List.append_assoc]

theorem update_gained {consumers : Nat → Consumer} {after : Consumer} (same : gained after = gained (consumers id))
    (other : Nat) : gained (Function.update consumers id after other) = gained (consumers other) := by
  by_cases own : other = id
  · subst own
    simpa using same
  · rw [Function.update_of_ne own]

theorem delivered_take (consumed : Consumed events session) {timed : Bool} {after : Consumer}
    (getting : session.consumers id = .getting timed) (consumers : next.consumers = Function.update session.consumers id after) :
    delivered (events ++ [.take id]) next = delivered events session ++ (gained after).toList := by
  have fresh : id ∉ takes events := fun member => (consumed.past id member).2 timed getting
  have before : (takes events).filterMap (fun id => gained (next.consumers id)) = delivered events session := by
    apply List.filterMap_congr
    intro other member
    have apart : other ≠ id := fun same => fresh (same ▸ member)
    rw [consumers, Function.update_of_ne apart]
  rw [delivered, takes_take, List.filterMap_append, before, consumers]
  cases known : gained after <;> simp [known]

/-- `_dispatch` puts the event of an `RX` frame on the queue, and no other. -/
theorem reaction_event {frame : Frame} {pending : Option (Nat × Nat)} {actions : List Action}
    (ran : reaction frame pending = .ok actions) : actions.filterMap posts = (rxEvent frame).toList := by
  cases Dispatch.reacted ran with
  | event async rxType decoded => simp [posts, rxEvent, async, rxType, decoded, Except.toOption]
  | unknown _ notRx => simp [rxEvent, notRx]
  | report async kind =>
    suffices rxEvent frame = none by simp [posts, this]
    simp only [reaction, if_pos async] at ran
    unfold rxEvent
    split
    next rx =>
      rw [if_pos rx.2] at ran
      cases decoded : RxEvent.decode frame.payload with
      | ok event => simp [decoded] at ran
      | error exc => rfl
    next => rfl
  | unclaimed tagged | unexpected tagged | enqueued tagged | answered tagged | refused tagged
  | transmitted tagged => simp [posts, rxEvent, tagged]

theorem raised_event {frame : Frame} {pending : Option (Nat × Nat)} {exc : Exc}
    (raised : reaction frame pending = .error exc) : rxEvent frame = none := by
  unfold rxEvent
  split
  next rx =>
    simp only [reaction, if_pos rx.1, if_pos rx.2] at raised
    cases decoded : RxEvent.decode frame.payload with
    | ok event => simp [decoded] at raised
    | error exc => rfl
  next => rfl

theorem Conserved.taking (conserved : Conserved events session) (consumed : Consumed events session) {timed : Bool}
    {item : RxItem} {rest : List RxItem} {after : Consumer} (getting : session.consumers id = .getting timed)
    (queue : session.rxQueue = item :: rest) (same : gained after = carried item) :
    Conserved (events ++ [.take id])
      { session with rxQueue := rest, consumers := Function.update session.consumers id after } := by
  have all : queued session = (carried item).toList ++ rest.filterMap carried := by
    rw [queued, queue]
    exact filterMap_head carried item rest
  unfold Conserved at conserved ⊢
  rw [dispatched_other (by simp), delivered_take consumed getting rfl, conserved, same, all]
  simp only [queued, underway, List.append_assoc]

theorem Conserved.preserved (conserved : Conserved events session) (consumed : Consumed events session)
    (paced : Paced session) (taken : step cobs session label = some next) : Conserved (events ++ [label]) next := by
  cases stepped taken with
  | @dispatched frame found actions place _ _ ran =>
    have idle : session.todo .reader = [] := paced.busy (by simp [place]) (by simp [place])
    have nothing : underway session = [] := by simp [underway, idle]
    unfold Conserved at conserved ⊢
    rw [dispatched_dispatch, conserved, nothing, ← reaction_event ran]
    simp [delivered, takes_other, queued, underway, setTodo]
  | @raised frame found exc place _ _ raised =>
    unfold Conserved at conserved ⊢
    rw [dispatched_dispatch, conserved, raised_event raised]
    simp [delivered, takes_other, queued, underway]
  | took getting queue => exact conserved.taking consumed getting queue rfl
  | woke getting queue => exact conserved.taking consumed getting queue rfl
  | @acted agent action rest found =>
    apply conserved.undisturbed (by simp) (by simp) fun id => by simp only [setTodo, apply_consumers]
    change queued (session.apply action) ++ _ = _
    rw [apply_queued, List.append_assoc]
    cases agent with
    | reader => simp only [underway, setTodo_todo, if_true, found, filterMap_head]
    | closer id =>
      have closes := paced.closer id action (found ▸ List.mem_cons_self)
      have nothing : posts action = none := by cases action <;> first | rfl | exact closes.elim
      simp [underway, nothing]
  | corrupted place =>
    have idle : session.todo .reader = [] := paced.busy (by simp [place]) (by simp [place])
    apply conserved.undisturbed (by simp) (by simp) fun id => by rfl
    simp [queued, underway, setTodo, idle, posts]
  | ended place =>
    have idle : session.todo .reader = [] := paced.busy (by simp [place]) (by simp [place])
    apply conserved.undisturbed (by simp) (by simp) fun id => by rfl
    simp [queued, underway, setTodo, idle, posts, shuttingDown, List.filterMap_flatMap]
  | swept =>
    apply conserved.undisturbed (by simp) (by simp) fun id => by rfl
    simp [queued, underway, setTodo]
  | asked idle =>
    exact conserved.undisturbed (by simp) (by simp) (fun _ => update_gained (by rw [idle]; rfl) _) rfl
  | gaveUp getting queue =>
    exact conserved.undisturbed (by simp) (by simp) (fun _ => update_gained (by rw [getting]; rfl) _) rfl
  | reposted reposting =>
    apply conserved.undisturbed (by simp) (by simp) fun _ => update_gained (by rw [reposting]; rfl) _
    simp [queued, underway, carried]
  | moved move =>
    exact conserved.undisturbed (by cases move <;> simp) (by cases move <;> simp) (fun id => by rfl) (by rfl)
  | rejected | entered | allocated | registered | forgotten | polled | received | timedOut | failed | flagged
  | drained => exact conserved.undisturbed (by simp) (by simp) (fun id => by rfl) (by rfl)

theorem Conserved.reachable (run : Run (Steps (step cobs)) {} events session) : Conserved events session := by
  induction run with
  | nil => rfl
  | snoc before taken ih => exact ih.preserved (Consumed.reachable before) (Paced.reachable before) taken

end Conservation

/-- The sentinel is still to come, stands behind the last event, or is in the hands of
the one call that puts it back. -/
inductive Tail (session : Session) : Prop where
  | unposted : .sentinel ∉ session.rxQueue → (∀ id, session.consumers id ≠ .reposting) →
      (session.reader = .ending → .putSentinel ∈ session.todo .reader) → Tail session
  | posted {remaining : List RxEvent} : Finished session .reader →
      session.rxQueue = remaining.map .event ++ [.sentinel] → (∀ id, session.consumers id ≠ .reposting) → Tail session
  | held {holder : Nat} : Finished session .reader → session.rxQueue = [] → session.consumers holder = .reposting →
      (∀ id, session.consumers id = .reposting → id = holder) → Tail session

theorem finished_kept (taken : step cobs session label = some next) (finished : Finished session .reader) :
    Finished next .reader := by
  obtain ⟨ending, done⟩ := finished
  refine ⟨(step_sweeping taken .reader).mpr (Or.inl ending), ?_⟩
  generalize same : next.todo .reader = actions
  cases same ▸ step_todo taken .reader with
  | same => exact done
  | executed found => cases done.symm.trans found
  | dispatched _ place | corrupted _ place | shutdown _ place => cases ending.symm.trans place
  | sweep own => cases own

/-- The sentinel is the last thing the reader has to do. -/
theorem exit_list (paced : Paced session) (ending : session.reader = .ending) :
    session.todo .reader = [] ∨ ∃ before, session.todo .reader = before ++ [.putSentinel] ∧ .putSentinel ∉ before := by
  obtain ⟨sweep, sweeps, suffix⟩ := paced.ending ending
  have split : sweep ++ [.clear, .setDead, .putSentinel] = (sweep ++ [.clear, .setDead]) ++ [.putSentinel] := by simp
  rw [split] at suffix
  rcases List.suffix_concat_iff.mp suffix with empty | ⟨before, same, part⟩
  · exact Or.inl empty
  · refine Or.inr ⟨before, same, ?_⟩
    intro member
    rcases List.mem_append.mp (part.subset member) with swept | rest
    · exact sweeps _ swept
    · simp at rest

theorem sentinel_last (paced : Paced session) {agent : Agent} {rest : List Action}
    (found : session.todo agent = .putSentinel :: rest) : agent = .reader ∧ session.reader = .ending ∧ rest = [] := by
  have member : .putSentinel ∈ session.todo agent := found ▸ List.mem_cons_self
  cases agent with
  | closer id => exact (paced.closer id .putSentinel member).elim
  | reader =>
    have ending : session.reader = .ending := by
      by_contra going
      exact paced.going going .putSentinel member
    refine ⟨rfl, ending, ?_⟩
    rcases exit_list paced ending with empty | ⟨before, same, outside⟩
    · cases found.symm.trans empty
    · cases before with
      | nil => exact (List.cons.inj (found.symm.trans same)).2
      | cons first others =>
        have first : .putSentinel = first := (List.cons.inj (found.symm.trans same)).1
        exact absurd (first ▸ List.mem_cons_self) outside

theorem sentinel_waits (taken : step cobs session label = some next)
    (listed : session.reader = .ending → .putSentinel ∈ session.todo .reader)
    (other : ∀ rest, label = .act .reader → session.todo .reader ≠ .putSentinel :: rest)
    (ending : next.reader = .ending) : .putSentinel ∈ next.todo .reader := by
  rcases (step_ending taken).mp ending with earlier | rfl
  · generalize same : next.todo .reader = actions
    cases same ▸ step_todo taken .reader with
    | same => exact listed earlier
    | @executed action rest found =>
      rcases List.mem_cons.mp (found ▸ listed earlier) with rfl | later
      · exact absurd found (other _ rfl)
      · exact later
    | dispatched _ place | corrupted _ place | shutdown _ place => cases earlier.symm.trans place
    | sweep own => cases own
  · cases stepped taken with
    | ended => simp [shuttingDown]
    | moved move => cases move

theorem only_events {items : List RxItem} (none : .sentinel ∉ items) :
    ∃ remaining : List RxEvent, items = remaining.map .event := by
  induction items with
  | nil => exact ⟨[], rfl⟩
  | cons item rest ih =>
    obtain ⟨remaining, rfl⟩ := ih fun member => none (List.mem_cons_of_mem _ member)
    cases item with
    | event event => exact ⟨event :: remaining, rfl⟩
    | sentinel => exact absurd List.mem_cons_self none

/-- After the reader's exit a statement leaves the queue as it is. -/
theorem closer_posts (paced : Paced session) (finished : Finished session .reader) {agent : Agent} {action : Action}
    {rest : List Action} (found : session.todo agent = action :: rest) :
    (session.apply action).rxQueue = session.rxQueue := by
  cases agent with
  | reader => cases finished.2.symm.trans found
  | closer id =>
    have closes := paced.closer id action (found ▸ List.mem_cons_self)
    rw [apply_queue]
    cases action <;> first | exact List.append_nil _ | exact closes.elim

namespace Tail

theorem nobody_kept {after : Consumer} (nobody : ∀ id, session.consumers id ≠ .reposting)
    (update : next.consumers = Function.update session.consumers id after) (passed : after ≠ .reposting) (call : Nat) :
    next.consumers call ≠ .reposting := by
  rw [update]
  exact fun place => nobody call (update_kept place passed)

theorem unposted_kept (paced : Paced session) (none : .sentinel ∉ session.rxQueue)
    (nobody : ∀ id, session.consumers id ≠ .reposting)
    (listed : session.reader = .ending → .putSentinel ∈ session.todo .reader)
    (taken : step cobs session label = some next) : Tail next := by
  generalize queue : next.rxQueue = rxQueue
  generalize same : next.consumers = consumers
  have waits := sentinel_waits taken listed
  cases queue ▸ same ▸ step_queue taken with
  | same other quiet =>
    apply Tail.unposted (queue ▸ none) (same ▸ nobody)
    exact waits fun rest acting => absurd acting (quiet _)
  | @posted agent action rest found =>
    by_cases last : action = .putSentinel
    · subst last
      obtain ⟨rfl, ending, rfl⟩ := sentinel_last paced found
      obtain ⟨remaining, events⟩ := only_events none
      have finished : Finished next .reader := by
        obtain ⟨_, _, todo, rest, _⟩ := SessionTable.act_todo taken
        refine ⟨(step_sweeping taken .reader).mpr (Or.inl ending), ?_⟩
        rw [rest]
        exact (List.cons.inj (todo.symm.trans found)).2
      have order : next.rxQueue = remaining.map .event ++ [.sentinel] := by rw [queue, apply_queue, events]
      exact .posted finished order (same ▸ nobody)
    · apply Tail.unposted _ (same ▸ nobody)
      · apply waits
        intro others acting head
        cases acting
        exact last (List.cons.inj (found.symm.trans head)).1
      · rw [queue, apply_queue]
        cases action <;> simp_all
  | asked => exact .unposted (queue ▸ none) (nobody_kept nobody same nofun) (waits fun rest acting => nomatch acting)
  | gaveUp => exact .unposted (queue ▸ none) (nobody_kept nobody same nofun) (waits fun rest acting => nomatch acting)
  | took getting head =>
    apply Tail.unposted _ (nobody_kept nobody same nofun) (waits fun rest acting => nomatch acting)
    rw [queue]
    exact fun member => none (head ▸ List.mem_cons_of_mem _ member)
  | woke getting head => exact absurd (head ▸ List.mem_cons_self) none
  | reposted reposting => exact absurd reposting (nobody _)

theorem posted_kept (paced : Paced session) (finished : Finished session .reader) {remaining : List RxEvent}
    (order : session.rxQueue = remaining.map .event ++ [.sentinel]) (nobody : ∀ id, session.consumers id ≠ .reposting)
    (taken : step cobs session label = some next) : Tail next := by
  have still := finished_kept taken finished
  generalize queue : next.rxQueue = rxQueue
  generalize same : next.consumers = consumers
  cases queue ▸ same ▸ step_queue taken with
  | same => exact .posted still (queue ▸ order) (same ▸ nobody)
  | posted found => exact .posted still (queue.trans ((closer_posts paced finished found).trans order)) (same ▸ nobody)
  | asked | gaveUp => exact .posted still (queue ▸ order) (nobody_kept nobody same nofun)
  | took getting head =>
    cases remaining with
    | nil => cases order.symm.trans head
    | cons first rest =>
      have order : rxQueue = rest.map .event ++ [.sentinel] := (List.cons.inj (head.symm.trans order)).2
      exact .posted still (queue.trans order) (nobody_kept nobody same nofun)
  | @woke id timed rest getting head =>
    cases remaining with
    | cons first rest => cases order.symm.trans head
    | nil =>
      have holds : next.consumers id = .reposting := by simp [same]
      apply Tail.held still _ holds
      · intro call place
        by_contra apart
        rw [same, Function.update_of_ne apart] at place
        exact nobody call place
      · exact queue.trans (List.cons.inj (head.symm.trans order)).2
  | reposted reposting => exact absurd reposting (nobody _)

theorem held_kept (paced : Paced session) (finished : Finished session .reader) (empty : session.rxQueue = [])
    {holder : Nat} (holds : session.consumers holder = .reposting)
    (sole : ∀ id, session.consumers id = .reposting → id = holder)
    (taken : step cobs session label = some next) : Tail next := by
  have still := finished_kept taken finished
  generalize queue : next.rxQueue = rxQueue
  generalize same : next.consumers = consumers
  have others {id : Nat} {after : Consumer} (update : next.consumers = Function.update session.consumers id after)
      (before : session.consumers id ≠ .reposting) (passed : after ≠ .reposting) :
      next.consumers holder = .reposting ∧ ∀ call, next.consumers call = .reposting → call = holder := by
    have apart : holder ≠ id := fun own => before (own ▸ holds)
    rw [update, Function.update_of_ne apart]
    exact ⟨holds, fun call place => sole call (update_kept place passed)⟩
  cases queue ▸ same ▸ step_queue taken with
  | same => exact .held still (queue ▸ empty) (same ▸ holds) (same ▸ sole)
  | posted found =>
    exact .held still (queue.trans ((closer_posts paced finished found).trans empty)) (same ▸ holds) (same ▸ sole)
  | asked idle =>
    obtain ⟨holds, sole⟩ := others same (by simp [idle]) nofun
    exact .held still (queue ▸ empty) holds sole
  | gaveUp getting =>
    obtain ⟨holds, sole⟩ := others same (by simp [getting]) nofun
    exact .held still (queue ▸ empty) holds sole
  | took getting head | woke getting head => cases empty.symm.trans head
  | @reposted id reposting =>
    have order : next.rxQueue = ([] : List RxEvent).map .event ++ [.sentinel] := by
      rw [queue, empty]
      rfl
    apply Tail.posted still order
    intro call place
    rw [same] at place
    have before := update_kept place nofun
    obtain rfl : id = call := (sole id reposting).trans (sole call before).symm
    simp at place

theorem preserved (tail : Tail session) (paced : Paced session) (taken : step cobs session label = some next) :
    Tail next := by
  cases tail with
  | unposted none nobody listed => exact unposted_kept paced none nobody listed taken
  | posted finished order nobody => exact posted_kept paced finished order nobody taken
  | held finished empty holds sole => exact held_kept paced finished empty holds sole taken

theorem initial : Tail {} := .unposted List.not_mem_nil (fun _ => nofun) nofun

theorem reachable (run : Run (Steps (step cobs)) {} events session) : Tail session := by
  induction run with
  | nil => exact initial
  | snoc before taken ih => exact ih.preserved (Paced.reachable before) taken

end Tail

/-- A session whose reader has exited and whose events have all been taken: every
`next_rx` call returns `None`. -/
structure Exhausted (cobs : Cobs.Codec) (session : Session) : Prop where
  later : ∀ events last, Run (Steps (step cobs)) session events last → ∀ id event,
    last.consumers id = .returned (some event) → session.consumers id = .returned (some event)
  served : ∀ id timed, session.consumers id = .getting timed → (∀ other, session.consumers other ≠ .reposting) →
    ∃ taken returned, step cobs session (.take id) = some taken ∧ step cobs taken (.repost id) = some returned ∧
      returned.consumers id = .returned none ∧ returned.rxQueue = session.rxQueue

/-- Delivery from one session. -/
structure Fifo (cobs : Cobs.Codec) (events : List Step) (session : Session) : Prop where
  ordered : dispatched events = delivered events session ++ queued session ++ underway session
  once : (takes events).Nodup
  counted : ∀ id event, session.consumers id = .returned (some event) → id ∈ takes events
  sentinel : ∀ id, session.consumers id = .reposting → delivered events session = dispatched events
  clean : Finished session .reader → (∀ id, session.consumers id ≠ .reposting) →
    ∃ remaining : List RxEvent, session.rxQueue = remaining.map .event ++ [.sentinel]
  exhausted : Finished session .reader → queued session = [] → Exhausted cobs session

theorem Tail.ended (tail : Tail session) (finished : Finished session .reader) :
    (∃ remaining : List RxEvent, session.rxQueue = remaining.map .event ++ [.sentinel] ∧
      ∀ id, session.consumers id ≠ .reposting) ∨ (session.rxQueue = [] ∧ ∃ id, session.consumers id = .reposting) := by
  cases tail with
  | unposted _ _ listed =>
    have waits := listed finished.1
    rw [finished.2] at waits
    cases waits
  | posted _ order nobody => exact Or.inl ⟨_, order, nobody⟩
  | held _ empty holds => exact Or.inr ⟨empty, _, holds⟩

theorem queued_posted {remaining : List RxEvent} (order : session.rxQueue = remaining.map .event ++ [.sentinel]) :
    queued session = remaining := by
  simp [queued, order, carried, List.filterMap_map, Function.comp_def]

theorem exhausted_kept (paced : Paced session) (finished : Finished session .reader)
    (nothing : queued session = []) (taken : step cobs session label = some next) :
    queued next = [] ∧ ∀ id event, next.consumers id = .returned (some event) →
      session.consumers id = .returned (some event) := by
  generalize queue : next.rxQueue = rxQueue
  generalize same : next.consumers = consumers
  have head {item : RxItem} {rest : List RxItem} (found : session.rxQueue = item :: rest) :
      carried item = none ∧ rest.filterMap carried = [] := by
    rw [queued, found, filterMap_head, List.append_eq_nil_iff] at nothing
    exact ⟨by simpa using nothing.1, nothing.2⟩
  rw [queued, queue]
  cases queue ▸ same ▸ step_queue taken with
  | same => exact ⟨nothing, fun id event returned => returned⟩
  | posted found =>
    rw [closer_posts paced finished found]
    exact ⟨nothing, fun id event returned => returned⟩
  | asked | gaveUp => exact ⟨nothing, fun _ _ returned => update_kept returned nofun⟩
  | took _ found => cases (head found).1
  | woke _ found => exact ⟨(head found).2, fun _ _ returned => update_kept returned nofun⟩
  | reposted => exact ⟨by simpa [queued, carried] using nothing, fun _ _ returned => update_kept returned nofun⟩

theorem exhausted_run (paced : Paced session) (finished : Finished session .reader) (nothing : queued session = [])
    {last : Session} (run : Run (Steps (step cobs)) session events last) :
    (Paced last ∧ Finished last .reader ∧ queued last = []) ∧ ∀ id event, last.consumers id = .returned (some event) →
      session.consumers id = .returned (some event) := by
  induction run with
  | nil => exact ⟨⟨paced, finished, nothing⟩, fun id event returned => returned⟩
  | snoc before taken ih =>
    obtain ⟨⟨paced, finished, nothing⟩, earlier⟩ := ih
    obtain ⟨still, kept⟩ := exhausted_kept paced finished nothing taken
    exact ⟨⟨paced.preserved taken, finished_kept taken finished, still⟩,
      fun id event returned => earlier id event (kept id event returned)⟩

/-- A call that finds only the sentinel puts it back and returns `None`. -/
theorem sentinel_served (order : session.rxQueue = [.sentinel]) {timed : Bool}
    (getting : session.consumers id = .getting timed) :
    ∃ taken returned, step cobs session (.take id) = some taken ∧ step cobs taken (.repost id) = some returned ∧
      returned.consumers id = .returned none ∧ returned.rxQueue = session.rxQueue := by
  have taking : step cobs session (.take id) = some { session with
      rxQueue := [], consumers := Function.update session.consumers id .reposting } := by
    simp only [step, getting, order]
  refine ⟨_, _, taking, if_pos ?_, ?_, ?_⟩
  · simp
  · simp
  · simp [order]

/-- Events come out in the order in which they went in, each of them once, and the
sentinel after the last. -/
theorem delivery_fifo (run : Run (Steps (step cobs)) {} events session) : Fifo cobs events session := by
  have paced := Paced.reachable run
  have consumed := Consumed.reachable run
  have conserved := Conserved.reachable run
  have tail := Tail.reachable run
  constructor
  · exact conserved
  · exact consumed.once
  · exact consumed.counted
  · intro id reposting
    cases tail with
    | unposted _ nobody | posted _ _ nobody => exact absurd reposting (nobody id)
    | held finished empty =>
      unfold Conserved at conserved
      rw [conserved]
      simp [queued, empty, underway, finished.2]
  · intro finished nobody
    rcases tail.ended finished with ⟨remaining, order, _⟩ | ⟨_, holder, reposting⟩
    · exact ⟨remaining, order⟩
    · exact absurd reposting (nobody holder)
  · intro finished nothing
    constructor
    · exact fun events last later => (exhausted_run paced finished nothing later).2
    · intro id timed getting nobody
      rcases tail.ended finished with ⟨remaining, order, _⟩ | ⟨_, holder, reposting⟩
      · obtain rfl : remaining = [] := (queued_posted order).symm.trans nothing
        exact sentinel_served order getting
      · exact absurd reposting (nobody holder)

/-- One packet arrives, the transport is lost, and of two consumers the second gets the
packet. -/
def packetThenExit : List Step :=
  let frame : Frame := { typeId := typeRx, tag := 0, payload := List.replicate 20 0 }
  [.next 0 false, .next 1 true, .poll, .receive frame, .dispatch frame none, .act .reader, .poll, .hangup, .shutdown,
    .act .reader, .act .reader, .act .reader, .take 1, .take 0]

theorem delivery_fifo_packet : ∃ session, Run (Steps (step Cobs.standard)) {} packetThenExit session ∧
    session.consumers 0 = .reposting ∧ (dispatched packetThenExit).length = 1 ∧
    Fifo Cobs.standard packetThenExit session := by
  have computed : (execute (step Cobs.standard) {} packetThenExit).map (fun session => session.consumers 0) =
      some .reposting := by decide +kernel
  obtain ⟨last, run, reposting⟩ := execute_summary computed
  exact ⟨last, run, reposting, by decide +kernel, delivery_fifo run⟩

end DongloraClient.Proofs.SessionQueue
