import DongloraClient.Draining
import DongloraClient.Foundation.Journal
import DongloraClient.Proofs.SessionReader

/-! The asynchronous errors of a session, from the reader to the threads that drain them.
None is lost and none is told twice, and a thread that has drained has left none behind that
was there before. -/

namespace DongloraClient.Proofs.ErrorReports
open Session SessionSteps SessionReader Threads Transition Program Journal

variable {cobs : Cobs.Codec} {session next : Session} {label : Step}

def complaint (frame : Frame) : Option Exc :=
  if frame.tag ≠ 0 then none
  else if frame.typeId = typeRx then
    match RxEvent.decode frame.payload with
    | .error (.valueError text) => some (.frameError s!"bad RX payload: {text}")
    | _ => none
  else if frame.typeId = typeErr then
    match decodeErrPayload frame.payload with
    | .ok code => some (deviceError code (some 0))
    | .error _ => none
  else none

def cause : Step → Option Exc
  | .corrupt fault => some (.frameError fault.message)
  | .dispatch frame _ => complaint frame
  | _ => none

def complains : Action → Option Exc
  | .putError exc => some exc
  | _ => none

def told (session : Session) : List Exc := session.asyncErrors ++ (session.todo .reader).filterMap complains

section Steps

/-- `_dispatch` queues the complaint about a frame, and no other. -/
theorem reaction_complaint (frame : Frame) (pending : Option (Nat × Nat)) :
    ((reaction frame pending).toOption.getD []).filterMap complains = (complaint frame).toList := by
  by_cases async : frame.tag = 0
  · rw [reaction.eq_def, if_pos async, complaint, if_neg (not_not_intro async)]
    by_cases rx : frame.typeId = typeRx
    · rw [if_pos rx, if_pos rx]
      cases RxEvent.decode frame.payload with
      | ok event => rfl
      | error exc => cases exc <;> rfl
    rw [if_neg rx, if_neg rx]
    by_cases err : frame.typeId = typeErr
    · rw [if_pos err, if_pos err]
      cases decodeErrPayload frame.payload <;> rfl
    · rw [if_neg err, if_neg err]
      rfl
  · rw [complaint, if_pos async]
    cases ran : reaction frame pending with
    | error exc => rfl
    | ok actions =>
      cases Dispatch.reacted ran with
      | unknown tagless | event tagless | report tagless => exact absurd tagless async
      | unclaimed | unexpected | enqueued | answered | refused | transmitted => rfl

theorem apply_errors (session : Session) (action : Action) :
    (session.apply action).asyncErrors = session.asyncErrors ++ (complains action).toList := by
  cases action with
  | setErrIfUnset call exc =>
    simp only [Session.apply]
    split <;> exact (List.append_nil _).symm
  | putError exc => rfl
  | _ => exact (List.append_nil _).symm

theorem told_step (paced : Paced session) (taken : step cobs session label = some next) (other : label ≠ .drain) :
    told next = told session ++ (cause label).toList := by
  have unbusy (place : session.reader ≠ .looping) (unended : session.reader ≠ .ending) : told session = session.asyncErrors := by
    rw [told, paced.busy place unended]
    exact List.append_nil _
  cases stepped taken with
  | @dispatched frame found actions place _ _ ran =>
    have reported := reaction_complaint frame (session.getPending frame.tag)
    rw [ran] at reported
    rw [unbusy (by simp [place]) (by simp [place])]
    simp only [told, setTodo_todo, if_true]
    exact congrArg (session.asyncErrors ++ ·) reported
  | @raised frame found exc place _ _ raised =>
    have reported := reaction_complaint frame (session.getPending frame.tag)
    rw [raised] at reported
    rw [cause, ← reported]
    exact (List.append_nil _).symm
  | corrupted place =>
    rw [unbusy (by simp [place]) (by simp [place])]
    simp [told, setTodo, cause, complains]
  | ended place =>
    rw [unbusy (by simp [place]) (by simp [place])]
    simp [told, setTodo, cause, complains, shuttingDown, List.filterMap_flatMap]
  | @acted agent action rest found =>
    rw [told, told, setTodo_todo, show ((session.apply action).setTodo agent rest).asyncErrors = _ from apply_errors session action]
    cases agent with
    | reader => cases said : complains action <;> simp [found, said, cause]
    | closer id =>
      have closes := paced.closer id action (found ▸ List.mem_cons_self)
      have nothing : complains action = none := by cases action <;> first | rfl | exact closes.elim
      simp [nothing, cause]
  | drained => exact absurd rfl other
  | moved move => cases move <;> exact (List.append_nil _).symm
  | rejected | entered | allocated | registered | forgotten | polled | received | timedOut | failed | flagged | swept
  | asked | took | woke | gaveUp | reposted => exact (List.append_nil _).symm

end Steps

section Runs

variable {events later : List DrainEvent} {pool last : Draining} {thread rounds : Nat} {drained : List Exc}

def causes (events : List DrainEvent) : List Exc :=
  events.filterMap fun
    | .stir label => cause label
    | _ => none

def handed (events : List DrainEvent) : List Exc :=
  events.filterMap fun
    | .perform _ _ .getNowait reply => reply
    | _ => none

/-- What `get_nowait` has handed to a thread with this journal. -/
def handedTo (log : List (Sigma DrainReply)) : List Exc :=
  log.reverse.filterMap fun
    | ⟨.getNowait, reply⟩ => reply

theorem causes_append (events later : List DrainEvent) : causes (events ++ later) = causes events ++ causes later :=
  List.filterMap_append

theorem handed_append (events later : List DrainEvent) : handed (events ++ later) = handed events ++ handed later :=
  List.filterMap_append

theorem causes_stir (label : Step) : causes [.stir label] = (cause label).toList := by
  cases caused : cause label <;> simp [causes, caused]

structure Accounted (events : List DrainEvent) (pool : Draining) : Prop where
  paced : Paced pool.shared
  balance : causes events = handed events ++ told pool.shared

theorem drain_queue (taken : step cobs session .drain = some next) {exc : Exc} (queued : session.asyncErrors.head? = some exc) :
    session.asyncErrors = exc :: next.asyncErrors ∧ next.todo = session.todo := by
  cases stepped taken with
  | drained front =>
    rw [front] at queued ⊢
    cases queued
    exact ⟨rfl, rfl⟩
  | moved move => cases move

theorem accounted_run (run : Run (Threads.Step (drainers cobs)) ⟨{}, fun _ => none⟩ events pool) : Accounted events pool := by
  induction run with
  | nil => exact ⟨.initial, rfl⟩
  | @snoc events pool next event before taken ih =>
    obtain ⟨paced, balance⟩ := ih
    have unchanged (nothing : causes [event] = []) (kept : handed [event] = []) (same : next.shared = pool.shared) :
        Accounted (events ++ [event]) next := by
      refine ⟨same ▸ paced, ?_⟩
      rw [causes_append, handed_append, nothing, kept, List.append_nil, List.append_nil, same]
      exact balance
    cases taken with
    | start | finish => exact unchanged rfl rfl rfl
    | @perform thread rounds op following reply after running answered =>
      cases op
      cases reply with
      | none => exact unchanged rfl rfl answered.2
      | some exc =>
        obtain ⟨queued, taken⟩ := answered
        obtain ⟨front, todo⟩ := drain_queue taken queued
        refine ⟨paced.preserved taken, ?_⟩
        rw [causes_append, handed_append, balance]
        simp [causes, handed, told, front, todo]
    | @stir label after stirred =>
      refine ⟨paced.preserved stirred.2, ?_⟩
      rw [causes_append, handed_append, balance, show causes [_] = (cause label).toList from causes_stir label]
      change handed events ++ told pool.shared ++ (cause label).toList = handed events ++ [] ++ told after
      rw [told_step paced stirred.2 stirred.1, List.append_nil, List.append_assoc]

theorem queue_step (taken : step cobs session label = some next) (other : label ≠ .drain) :
    session.asyncErrors <+: next.asyncErrors := by
  cases stepped taken with
  | @acted agent action =>
    rw [show ((session.apply action).setTodo agent _).asyncErrors = _ from apply_errors session action]
    exact List.prefix_append _ _
  | drained => exact absurd rfl other
  | moved move => cases move <;> exact List.prefix_rfl
  | dispatched | raised | corrupted | ended | rejected | entered | allocated | registered | forgotten | polled | received
  | timedOut | failed | flagged | swept | asked | took | woke | gaveUp | reposted => exact List.prefix_rfl

theorem handed_grows (events later : List DrainEvent) : handed events <+: handed (events ++ later) := by
  rw [handed_append]
  exact List.prefix_append _ _

theorem stays_step {there : List Exc} {next : Draining} {event : DrainEvent}
    (stays : there <+: handed events ++ pool.shared.asyncErrors) (taken : Threads.Step (drainers cobs) pool event next) :
    there <+: handed (events ++ [event]) ++ next.shared.asyncErrors := by
  have unhanded (nothing : handed [event] = []) (kept : pool.shared.asyncErrors <+: next.shared.asyncErrors) :
      there <+: handed (events ++ [event]) ++ next.shared.asyncErrors := by
    rw [handed_append, nothing, List.append_nil]
    exact stays.trans ((List.prefix_append_right_inj _).mpr kept)
  cases taken with
  | start | finish => exact unhanded rfl List.prefix_rfl
  | stir stirred => exact unhanded rfl (queue_step stirred.2 stirred.1)
  | @perform thread rounds op following reply after running answered =>
    cases op
    cases reply with
    | none =>
      have same : after = pool.shared := answered.2
      exact unhanded rfl (same ▸ List.prefix_rfl)
    | some exc =>
      rw [(drain_queue answered.2 answered.1).1] at stays
      rw [handed_append, List.append_assoc]
      exact stays

/-- What is left of a drain that has not yet found the queue empty. -/
def Looping (rest : Program DrainOp DrainReply (List Exc)) : Prop := ∃ rounds drained, rest = drainFrom rounds drained

/-- Since some moment, the errors that were there have stayed or been handed out, and have
all been handed out as far as this thread has found the queue empty. -/
structure Emptying (thread : Nat) (there : List Exc) (events : List DrainEvent) (pool : Draining) : Prop where
  stays : there <+: handed events ++ pool.shared.asyncErrors
  found : ∀ running, pool.threads thread = some running → Looping running.rest ∨ there <+: handed events

theorem emptying_step {there : List Exc} {next : Draining} {event : DrainEvent} (emptying : Emptying thread there events pool)
    (taken : Threads.Step (drainers cobs) pool event next) : Emptying thread there (events ++ [event]) next := by
  refine ⟨stays_step emptying.stays taken, fun running runs => ?_⟩
  generalize state : next.threads thread = following at runs
  cases state ▸ step_thread taken thread with
  | same => exact (emptying.found running runs).imp_right fun handed => handed.trans (handed_grows _ _)
  | finish => cases runs
  | start =>
    cases runs
    exact .inl ⟨_, [], rfl⟩
  | @perform rounds op following reply after before answered =>
    cases runs
    cases emptying.found _ before with
    | inr done => exact .inr (done.trans (handed_grows _ _))
    | inl looping =>
      obtain ⟨left, drained, shape⟩ := looping
      cases left with
      | zero => cases shape
      | succ left =>
        cases shape
        cases reply with
        | some exc => exact .inl ⟨left, drained ++ [exc], rfl⟩
        | none =>
          have empty : pool.shared.asyncErrors = [] := answered.1
          have stays := emptying.stays
          rw [empty, List.append_nil] at stays
          exact .inr (stays.trans (handed_grows _ _))

theorem drainFrom_noted (rounds : Nat) (log : List (Sigma DrainReply)) :
    Always Noted (fun drained last => drained = handedTo last) (drainFrom rounds (handedTo log)) log := by
  induction rounds generalizing log with
  | zero => trivial
  | succ rounds ih =>
    rintro reply _ rfl
    have counted : handedTo (⟨.getNowait, reply⟩ :: log) = handedTo log ++ reply.toList := by
      rw [handedTo, List.reverse_cons, List.filterMap_append]
      cases reply <;> rfl
    cases reply with
    | some exc =>
      have going := ih (⟨.getNowait, some exc⟩ :: log)
      rw [counted] at going
      exact going
    | none => exact (counted.trans (List.append_nil _)).symm

/-- At the end of a drain that had not begun at some moment: every error that the reader has
caused has been handed out once, is on the queue or about to be; the drain returns what was
handed to its thread; and nothing is left of what was on the queue at that moment. -/
structure Drained (thread : Nat) (events later : List DrainEvent) (pool last : Draining) (drained : List Exc) : Prop where
  balance : causes (events ++ later) = handed (events ++ later) ++ told last.shared
  returned : drained = handedTo (journal thread (events ++ later))
  cleared : handed events ++ pool.shared.asyncErrors <+: handed (events ++ later)

theorem errors_told_once (run : Run (Threads.Step (drainers cobs)) ⟨{}, fun _ => none⟩ events pool)
    (idle : pool.threads thread = none) (after : Run (Threads.Step (drainers cobs)) pool later last) {following : Draining}
    (ended : Threads.Step (drainers cobs) last (.finish thread rounds drained) following) :
    Drained thread events later pool last drained := by
  have whole := run.append after
  have emptying : Emptying thread (handed events ++ pool.shared.asyncErrors) (events ++ later) last := by
    clear ended whole
    induction after with
    | nil =>
      rw [List.append_nil]
      exact ⟨List.prefix_rfl, fun running runs => nomatch idle.symm.trans runs⟩
    | snoc _ taken ih =>
      rw [← List.append_assoc]
      exact emptying_step ih taken
  refine ⟨(accounted_run whole).balance, journal_finish (fun rounds => drainFrom_noted rounds []) whole ended, ?_⟩
  cases ended with
  | finish running =>
    refine (emptying.found _ running).resolve_left ?_
    rintro ⟨_ | left, drained, shape⟩ <;> cases shape

end Runs

def damaged : List (Turn Nat Step) :=
  [.stir .poll, .stir (.corrupt (.crc "crc mismatch")), .stir (.act .reader)]

/-- Another frame arrives damaged while a thread drains. -/
def draining : List (Turn Nat Step) := [.start 0 3, .advance 0] ++ damaged ++ [.advance 0, .advance 0]

def returning : Option (Running DrainOp DrainReply Nat (List Exc)) → Option (Nat × List Exc)
  | some ⟨rounds, .pure drained⟩ => some (rounds, drained)
  | _ => none

theorem errors_told_once_draining : ∃ events later pool last following,
    Run (Threads.Step (drainers Cobs.standard)) ⟨{}, fun _ => none⟩ events pool ∧ pool.threads 0 = none ∧
      Run (Threads.Step (drainers Cobs.standard)) pool later last ∧
      Threads.Step (drainers Cobs.standard) last (.finish 0 3 [.frameError "crc mismatch", .frameError "crc mismatch"]) following ∧
      Drained 0 events later pool last [.frameError "crc mismatch", .frameError "crc mismatch"] := by
  have computed : ((drainScheduler Cobs.standard).play drainAsyncErrors (⟨{}, fun _ => none⟩ : Draining) damaged).bind
      (fun middle => ((drainScheduler Cobs.standard).play drainAsyncErrors middle.2 draining).map fun ended =>
        ((middle.2.threads 0).isNone, returning (ended.2.threads 0))) =
      some (true, some (3, [.frameError "crc mismatch", .frameError "crc mismatch"])) := by decide +kernel
  obtain ⟨⟨events, pool⟩, played, rest⟩ := Option.bind_eq_some_iff.mp computed
  obtain ⟨⟨later, last⟩, replayed, same⟩ := Option.map_eq_some_iff.mp rest
  obtain ⟨idle, returns⟩ := Prod.mk.inj same
  have run := (Scheduler.play_run (drainScheduler_follows Cobs.standard) played).mono fun _ _ _ taken => taken.1
  have after := (Scheduler.play_run (drainScheduler_follows Cobs.standard) replayed).mono fun _ _ _ taken => taken.1
  have running : last.threads 0 = some ⟨3, .pure [.frameError "crc mismatch", .frameError "crc mismatch"]⟩ := by
    generalize last.threads 0 = running at returns
    unfold returning at returns
    split at returns <;> cases returns
    rfl
  have idle := Option.isNone_iff_eq_none.mp idle
  exact ⟨events, later, pool, last, _, run, idle, after, .finish running, errors_told_once run idle after (.finish running)⟩

end DongloraClient.Proofs.ErrorReports
