import DongloraClient.Foundation.Threads

/-! Sections under a lock. Whatever the interleaving of the threads, their sections take
effect one after another, in the order in which they get the lock. -/

namespace Sections
open Threads Transition

variable {Op : Type} {Reply : Op → Type} {σ τ α : Type}

inductive Request (Op : Type) where
  | acquire
  | access (op : Op)
  | release

def Response (Reply : Op → Type) : Request Op → Type
  | .access op => Reply op
  | .acquire | .release => Unit

/-- Data, and the thread that holds its lock. -/
structure Guarded (σ : Type) where
  data : σ
  holder : Option Nat := none

/-- A section in which this is left of the body. -/
def inside : Program Op Reply α → Program (Request Op) (Response Reply) α
  | .pure value => .perform .release fun _ => .pure value
  | .perform op next => .perform (.access op) fun reply => inside (next reply)
  | .unfinished => .unfinished

/-- The body with the lock held around it. -/
def locked (body : Program Op Reply α) : Program (Request Op) (Response Reply) α :=
  .perform .acquire fun _ => inside body

variable (respond : σ → (op : Op) → Option (Reply op × σ)) (body : τ → Program Op Reply α)

def answers (thread : Nat) (state : Guarded σ) :
    (request : Request Op) → Response Reply request → Guarded σ → Prop
  | .acquire, _, after => state.holder = none ∧ after = { state with holder := some thread }
  | .access op, reply, after => respond state.data op = some (reply, after.data) ∧ after.holder = state.holder
  | .release, _, after => after = { state with holder := none }

/-- Threads that execute any number of sections each. -/
def system : System (Request Op) (Response Reply) (Guarded σ) τ Empty α where
  program task := locked (body task)
  starts _ _ := True
  answers := answers respond
  stirs _ _ _ := False

/-- Surroundings that decide every answer. -/
def scheduler : Scheduler (Request Op) (Response Reply) (Guarded σ) τ Empty α where
  starts _ _ := true
  respond thread state
    | .acquire => if state.holder = none then some ((), { state with holder := some thread }) else none
    | .access op => (respond state.data op).map fun answer => (answer.1, { state with data := answer.2 })
    | .release => some ((), { state with holder := none })
  stir _ _ := none

theorem scheduler_follows : (scheduler respond).Follows (system respond body) where
  starts _ _ _ := trivial
  answers thread state request reply after responded := by
    cases request with
    | acquire =>
      simp only [scheduler] at responded
      split at responded
      next free =>
        cases responded
        exact ⟨free, rfl⟩
      next => cases responded
    | access op =>
      obtain ⟨answer, accessed, same⟩ := Option.map_eq_some_iff.mp responded
      cases same
      exact ⟨accessed, rfl⟩
    | release =>
      cases responded
      rfl
  stirs _ disturbance := disturbance.elim

section History
variable (thread : Nat) (events : List (Event (Request Op) (Response Reply) τ Empty α))

/-- The threads and their tasks in the order in which they get the lock. -/
def turns : List (Nat × τ) := events.filterMap fun
  | .perform thread task .acquire _ => some (thread, task)
  | _ => none

/-- What a thread has returned, task by task. -/
def returned : List α := events.filterMap fun
  | .finish actor _ value => if actor = thread then some value else none
  | _ => none

/-- The part of a list that belongs to a thread. -/
def own (results : List (Nat × α)) : List α :=
  results.filterMap fun result => if result.1 = thread then some result.2 else none

end History

/-- Sections executed one after another, with their results. -/
inductive Serial (start : σ) : List (Nat × τ) → List (Nat × α) → σ → Prop where
  | nil : Serial start [] [] start
  | snoc {turns : List (Nat × τ)} {results : List (Nat × α)} {data after : σ} {thread : Nat} {task : τ} {value : α} :
      Serial start turns results data → (body task).execute respond data = some (value, after) →
      Serial start (turns ++ [(thread, task)]) (results ++ [(thread, value)]) after

/-- Where a thread stands that is not inside its section, given what it has returned and
the results of its sections so far. -/
inductive Standing (given results : List α) : Option (Running (Request Op) (Response Reply) τ α) → Prop where
  | idle : given = results → Standing given results none
  | waiting {task : τ} : given = results → Standing given results (some ⟨task, locked (body task)⟩)
  | leaving {task : τ} {value : α} : given ++ [value] = results → Standing given results (some ⟨task, .pure value⟩)

/-- The sections that are over have taken effect one after another. The one under way will
end as it would have ended alone. -/
inductive Serialized (start : σ) (events : List (Event (Request Op) (Response Reply) τ Empty α))
    (pool : Pool (Request Op) (Response Reply) (Guarded σ) τ α) : Prop where
  | free {results : List (Nat × α)} : pool.shared.holder = none →
      Serial respond body start (turns events) results pool.shared.data →
      (∀ thread, Standing body (returned thread events) (own thread results) (pool.threads thread)) →
      Serialized start events pool
  | held {thread : Nat} {task : τ} {rest : Program Op Reply α} {earlier : List (Nat × τ)} {results : List (Nat × α)}
      {data : σ} : pool.shared.holder = some thread → turns events = earlier ++ [(thread, task)] →
      Serial respond body start earlier results data → pool.threads thread = some ⟨task, inside rest⟩ →
      (∀ outcome, rest.execute respond pool.shared.data = some outcome →
        (body task).execute respond data = some outcome) →
      returned thread events = own thread results →
      (∀ other, other ≠ thread → Standing body (returned other events) (own other results) (pool.threads other)) →
      Serialized start events pool

variable {respond body} {start : σ} {events : List (Event (Request Op) (Response Reply) τ Empty α)}
  {pool next : Pool (Request Op) (Response Reply) (Guarded σ) τ α}

section Histories
variable (events : List (Event (Request Op) (Response Reply) τ Empty α)) (thread actor : Nat) (task : τ) (value : α)

@[simp] theorem turns_start : turns (events ++ [.start actor task]) = turns events := by simp [turns]

@[simp] theorem turns_acquire (reply : Response Reply .acquire) :
    turns (events ++ [.perform actor task .acquire reply]) = turns events ++ [(actor, task)] := by simp [turns]

@[simp] theorem turns_access (op : Op) (reply : Response Reply (.access op)) :
    turns (events ++ [.perform actor task (.access op) reply]) = turns events := by simp [turns]

@[simp] theorem turns_release (reply : Response Reply .release) :
    turns (events ++ [.perform actor task .release reply]) = turns events := by simp [turns]

@[simp] theorem turns_finish : turns (events ++ [.finish actor task value]) = turns events := by simp [turns]

@[simp] theorem returned_start : returned thread (events ++ [.start actor task]) = returned thread events := by
  simp [returned]

@[simp] theorem returned_perform (request : Request Op) (reply : Response Reply request) :
    returned thread (events ++ [.perform actor task request reply]) = returned thread events := by simp [returned]

@[simp] theorem returned_finish : returned thread (events ++ [.finish actor task value]) =
    if actor = thread then returned thread events ++ [value] else returned thread events := by
  rw [returned, filterMap_snoc]
  by_cases same : actor = thread <;> simp [returned, same]

theorem returned_other {event : Event (Request Op) (Response Reply) τ Empty α} (other : event.actor ≠ some thread) :
    returned thread (events ++ [event]) = returned thread events := by
  cases event with
  | start => simp
  | perform => simp
  | finish actor task value =>
    rw [returned_finish, if_neg fun same => other (congrArg some same)]
  | stir disturbance => exact disturbance.elim

@[simp] theorem own_snoc (results : List (Nat × α)) : own thread (results ++ [(actor, value)]) =
    if actor = thread then own thread results ++ [value] else own thread results := by
  rw [own, filterMap_snoc]
  by_cases same : actor = thread <;> simp [own, same]

end Histories

section Standing
variable {given results : List α} {task : τ} {value : α}

theorem Standing.rests (standing : Standing body given results none) : given = results := by
  cases standing with
  | idle same => exact same

theorem Standing.enters {request : Request Op} {rest : Response Reply request → Program (Request Op) (Response Reply) α}
    (standing : Standing body given results (some ⟨task, .perform request rest⟩)) :
    given = results ∧ Program.perform request rest = locked (body task) := by
  generalize same : some (Running.mk task (Program.perform request rest)) = running at standing
  cases standing with
  | idle => cases same
  | waiting before =>
    obtain ⟨rfl, reached⟩ := Running.mk.inj (Option.some.inj same)
    exact ⟨before, reached⟩
  | leaving => cases same

theorem Standing.leaves (standing : Standing body given results (some ⟨task, .pure value⟩)) :
    given ++ [value] = results := by
  generalize same : some (Running.mk task (Program.pure value)) = running at standing
  cases standing with
  | idle => cases same
  | waiting => cases same
  | leaving after =>
    cases same
    exact after

theorem Standing.so_far {running : Option (Running (Request Op) (Response Reply) τ α)}
    (standing : Standing body given results running) : given <+: results ∧ (running = none → given = results) := by
  cases standing with
  | idle same | waiting same => exact ⟨same ▸ List.prefix_rfl, fun _ => same⟩
  | leaving same => exact ⟨⟨_, same⟩, nofun⟩

end Standing

/-- The steps a thread takes outside its section. -/
theorem Standing.kept {event : Event (Request Op) (Response Reply) τ Empty α} (taken : Step (system respond body) pool event next)
    {results : List α} {thread : Nat} (standing : Standing body (returned thread events) results (pool.threads thread))
    (outside : ∀ task request reply, event ≠ .perform thread task request reply) :
    Standing body (returned thread (events ++ [event])) results (next.threads thread) := by
  generalize same : next.threads thread = running
  cases same ▸ step_thread taken thread with
  | same other =>
    rw [returned_other events thread other]
    exact standing
  | start idle _ =>
    rw [returned_start]
    exact .waiting (idle ▸ standing).rests
  | perform => exact absurd rfl (outside _ _ _)
  | finish running =>
    rw [returned_finish, if_pos rfl]
    exact .idle (running ▸ standing).leaves

theorem free_kept {results : List (Nat × α)} (unlocked : pool.shared.holder = none)
    (serial : Serial respond body start (turns events) results pool.shared.data)
    (standing : ∀ thread, Standing body (returned thread events) (own thread results) (pool.threads thread))
    {event : Event (Request Op) (Response Reply) τ Empty α} (taken : Step (system respond body) pool event next) :
    Serialized respond body start (events ++ [event]) next := by
  have others (thread : Nat) := (standing thread).kept taken
  cases taken with
  | start => exact .free unlocked (by simpa using serial) fun other => others other nofun
  | @perform thread task request rest reply after running answered =>
    obtain ⟨given, entered⟩ := (running ▸ standing thread).enters
    cases entered
    obtain ⟨-, rfl⟩ := answered
    refine .held rfl (turns_acquire _ _ _ _) serial (Function.update_self ..) (fun _ => id) ?_ ?_
    · rw [returned_perform, given]
    · exact fun other apart => others other fun _ _ _ same => apart (by cases same; rfl)
  | finish => exact .free unlocked (by simpa using serial) fun other => others other nofun
  | stir stirred => exact stirred.elim

section Held
variable {holder : Nat} {task : τ} {rest : Program Op Reply α} {earlier : List (Nat × τ)} {results : List (Nat × α)} {data : σ}

/-- The section under way goes on: it makes an access, or it is over. -/
theorem holder_kept (holding : pool.shared.holder = some holder) (turn : turns events = earlier ++ [(holder, task)])
    (serial : Serial respond body start earlier results data)
    (ends : ∀ outcome, rest.execute respond pool.shared.data = some outcome → (body task).execute respond data = some outcome)
    (given : returned holder events = own holder results) {request : Request Op}
    {following : Response Reply request → Program (Request Op) (Response Reply) α}
    (reached : inside rest = .perform request following) {reply : Response Reply request} {after : Guarded σ}
    (answered : answers respond holder pool.shared request reply after)
    (others : ∀ other, other ≠ holder → Standing body (returned other (events ++ [.perform holder task request reply]))
      (own other results) (({ pool with shared := after }.set holder (some ⟨task, following reply⟩)).threads other)) :
    Serialized respond body start (events ++ [.perform holder task request reply])
      ({ pool with shared := after }.set holder (some ⟨task, following reply⟩)) := by
  cases rest with
  | pure value =>
    cases reached
    cases answered
    have completed : Serial respond body start _ (results ++ [(holder, value)]) _ := serial.snoc (ends _ rfl)
    rw [← turn, ← turns_release events holder task reply] at completed
    refine .free rfl completed fun other => ?_
    by_cases same : other = holder
    · subst same
      rw [Pool.set_threads, Function.update_self, returned_perform, own_snoc, if_pos rfl, given]
      exact .leaving rfl
    · rw [own_snoc, if_neg (Ne.symm same)]
      exact others other same
  | perform op rest =>
    cases reached
    obtain ⟨responded, unmoved⟩ := answered
    refine .held (unmoved.trans holding) (by simpa using turn) serial (Function.update_self ..) ?_ ?_ others
    · intro outcome executed
      apply ends
      rw [Program.execute, responded]
      exact executed
    · rw [returned_perform, given]
  | unfinished => cases reached

theorem held_kept (holding : pool.shared.holder = some holder) (turn : turns events = earlier ++ [(holder, task)])
    (serial : Serial respond body start earlier results data) (inSection : pool.threads holder = some ⟨task, inside rest⟩)
    (ends : ∀ outcome, rest.execute respond pool.shared.data = some outcome → (body task).execute respond data = some outcome)
    (given : returned holder events = own holder results)
    (standing : ∀ other, other ≠ holder → Standing body (returned other events) (own other results) (pool.threads other))
    {event : Event (Request Op) (Response Reply) τ Empty α} (taken : Step (system respond body) pool event next) :
    Serialized respond body start (events ++ [event]) next := by
  have others (thread : Nat) (apart : thread ≠ holder) := (standing thread apart).kept taken
  cases taken with
  | @start thread task' idle _ =>
    have apart : holder ≠ thread := by
      rintro rfl
      cases inSection.symm.trans idle
    refine .held holding (by simpa using turn) serial ?_ ends (by simpa using given) fun other apart => others other apart nofun
    rw [Pool.set_threads, Function.update_of_ne apart, inSection]
  | @perform thread task' request following reply after running answered =>
    by_cases same : thread = holder
    · subst same
      obtain ⟨rfl, reached⟩ := Running.mk.inj (Option.some.inj (inSection.symm.trans running))
      apply holder_kept holding turn serial ends given reached answered
      exact fun other apart => others other apart fun _ _ _ equal => apart (by cases equal; rfl)
    · obtain ⟨-, entered⟩ := (running ▸ standing thread same).enters
      cases entered
      cases holding.symm.trans answered.1
  | @finish thread task' value running =>
    have apart : holder ≠ thread := by
      rintro rfl
      have reached := inSection.symm.trans running
      cases rest <;> cases reached
    refine .held holding (by simpa using turn) serial ?_ ends ?_ fun other apart => others other apart nofun
    · rw [Pool.set_threads, Function.update_of_ne apart, inSection]
    · rw [returned_finish, if_neg apart.symm, given]
  | stir stirred => exact stirred.elim

end Held

theorem preserved (serialized : Serialized respond body start events pool)
    {event : Event (Request Op) (Response Reply) τ Empty α} (taken : Step (system respond body) pool event next) :
    Serialized respond body start (events ++ [event]) next := by
  cases serialized with
  | free unlocked serial standing => exact free_kept unlocked serial standing taken
  | held holding turn serial inSection ends given standing =>
    exact held_kept holding turn serial inSection ends given standing taken

theorem reachable (run : Run (Step (system respond body)) ⟨⟨start, none⟩, fun _ => none⟩ events pool) :
    Serialized respond body start events pool :=
  have initial : Serialized respond body start [] ⟨⟨start, none⟩, fun _ => none⟩ := .free rfl .nil fun _ => .idle rfl
  run.invariant initial fun _ _ _ _ serialized taken => preserved serialized taken

theorem inside_injective {first second : Program Op Reply α} (same : inside first = inside second) : first = second := by
  induction first generalizing second with
  | pure value =>
    cases second with
    | pure other =>
      obtain ⟨-, ends⟩ := Program.perform.inj same
      rw [Program.pure.inj (congrFun (eq_of_heq ends) ())]
    | perform | unfinished => cases same
  | perform op next ih =>
    cases second with
    | perform other following =>
      obtain ⟨ops, nexts⟩ := Program.perform.inj same
      cases ops
      have alike : next = following := funext fun reply => ih reply (congrFun (eq_of_heq nexts) reply)
      rw [alike]
    | pure | unfinished => cases same
  | unfinished =>
    cases second with
    | unfinished => rfl
    | pure | perform => cases same

theorem Serial.unique {order : List (Nat × τ)} {results others : List (Nat × α)} {data after : σ}
    (first : Serial respond body start order results data) (second : Serial respond body start order others after) :
    results = others ∧ data = after := by
  induction first generalizing others after with
  | nil =>
    generalize same : ([] : List (Nat × τ)) = order at second
    cases second with
    | nil => exact ⟨rfl, rfl⟩
    | snoc => cases List.append_ne_nil_of_right_ne_nil _ (List.cons_ne_nil _ _) same.symm
  | @snoc earlier results data middle thread task value _ executed ih =>
    generalize same : earlier ++ [(thread, task)] = order at second
    cases second with
    | nil => cases List.append_ne_nil_of_right_ne_nil _ (List.cons_ne_nil _ _) same
    | snoc before ended =>
      obtain ⟨rfl, last⟩ := List.append_inj' same rfl
      cases last
      obtain ⟨rfl, rfl⟩ := ih before
      cases executed.symm.trans ended
      exact ⟨rfl, rfl⟩

/-- The section under way has passed through no other states than it would have alone. -/
theorem underway {holds : τ → σ → σ → Prop} {ensured : τ → σ → α → σ → Prop}
    (along : ∀ task data, (body task).Along (Program.Decides respond) (holds task data) (ensured task data) data)
    (run : Run (Step (system respond body)) ⟨⟨start, none⟩, fun _ => none⟩ events pool)
    {thread : Nat} {task : τ} {rest : Program Op Reply α} {earlier : List (Nat × τ)} {results : List (Nat × α)} {data : σ}
    (holding : pool.shared.holder = some thread) (turn : turns events = earlier ++ [(thread, task)])
    (serial : Serial respond body start earlier results data) (inSection : pool.threads thread = some ⟨task, inside rest⟩) :
    rest.Along (Program.Decides respond) (holds task data) (ensured task data) pool.shared.data := by
  induction run generalizing rest with
  | nil => cases holding
  | @snoc events pool next event before taken ih =>
    cases reachable before with
    | free unlocked kept standing =>
      cases taken with
      | start | finish => cases unlocked.symm.trans holding
      | @perform actor entering request following reply after running answered =>
        obtain ⟨-, entered⟩ := (running ▸ standing actor).enters
        cases entered
        obtain ⟨-, rfl⟩ := answered
        rw [turns_acquire] at turn
        obtain ⟨rfl, last⟩ := List.append_inj' turn rfl
        cases last
        obtain ⟨-, rfl⟩ := kept.unique serial
        rw [Pool.set_threads, Function.update_self] at inSection
        rw [← inside_injective (Running.mk.inj (Option.some.inj inSection)).2]
        exact along _ _
      | stir stirred => exact stirred.elim
    | @held holder entered remaining _ _ _ held _ _ position _ _ standing =>
      have unmoved {actor : Nat} {running : Option (Running (Request Op) (Response Reply) τ α)}
          (still : pool.shared.holder = some thread) (apart : actor ≠ holder)
          (reached : (pool.set actor running).threads thread = some ⟨task, inside rest⟩) :
          pool.threads thread = some ⟨task, inside rest⟩ := by
        obtain rfl := Option.some.inj (held.symm.trans still)
        rwa [Pool.set_threads, Function.update_of_ne (Ne.symm apart)] at reached
      cases taken with
      | start idle _ =>
        rw [turns_start] at turn
        refine ih holding turn (unmoved holding ?_ inSection)
        rintro rfl
        cases position.symm.trans idle
      | finish running =>
        rw [turns_finish] at turn
        refine ih holding turn (unmoved holding ?_ inSection)
        rintro rfl
        have reached := position.symm.trans running
        cases remaining <;> cases reached
      | @perform actor entering request following reply after running answered =>
        by_cases same : actor = holder
        · subst same
          obtain ⟨rfl, reached⟩ := Running.mk.inj (Option.some.inj (position.symm.trans running))
          cases remaining with
          | pure value =>
            cases reached
            cases answered
            cases holding
          | perform op next =>
            cases reached
            obtain ⟨responded, kept⟩ := answered
            obtain rfl := Option.some.inj (held.symm.trans (kept.symm.trans holding))
            rw [turns_access] at turn
            rw [Pool.set_threads, Function.update_self] at inSection
            obtain ⟨rfl, left⟩ := Running.mk.inj (Option.some.inj inSection)
            rw [← inside_injective left]
            exact (ih held turn position).2 reply after.data responded
          | unfinished => cases reached
        · obtain ⟨-, entered⟩ := (running ▸ standing actor same).enters
          cases entered
          cases held.symm.trans answered.1
      | stir stirred => exact stirred.elim

/-- When the result of a section depends on its place among all sections alone, each
thread has returned the results of its turns, in order. -/
theorem returned_turns {result : Nat → α}
    (determined : ∀ turns results data, Serial respond body start turns results data →
      results = turns.mapIdx fun index turn => (turn.1, result index))
    (run : Run (Step (system respond body)) ⟨⟨start, none⟩, fun _ => none⟩ events pool) (thread : Nat) :
    returned thread events <+: own thread ((turns events).mapIdx fun index turn => (turn.1, result index)) ∧
      (pool.threads thread = none →
        returned thread events = own thread ((turns events).mapIdx fun index turn => (turn.1, result index))) := by
  cases reachable run with
  | free unlocked serial standing =>
    rw [← determined _ _ _ serial]
    exact (standing thread).so_far
  | @held holder _ _ _ _ _ holding turn serial inSection ends given standing =>
    rw [turn, List.mapIdx_concat, ← determined _ _ _ serial, own_snoc]
    split
    next same =>
      subst same
      rw [given, inSection]
      exact ⟨List.prefix_append _ _, nofun⟩
    next apart => exact (standing thread (Ne.symm apart)).so_far

end Sections
