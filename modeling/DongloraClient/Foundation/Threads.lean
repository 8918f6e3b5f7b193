import DongloraClient.Foundation.Program
import DongloraClient.Foundation.Transition
import Mathlib.Logic.Function.Basic

/-! Threads that run programs over a shared state. A thread is verified on its own
against what it relies upon of the others; a pool of threads that each keep to their
conduct keeps the invariant they share. -/

namespace Threads

variable {Op : Type} {Reply : Op → Type} {σ τ δ α β ε : Type}

/-- What a thread may assume, before each of its requests, of the changes made by others
since its last one; which replies it gets; and what it has to make sure of. -/
structure Conduct (σ : Type) (Op : Type) (Reply : Op → Type) where
  expects : σ → σ → Prop
  answers : σ → (op : Op) → Reply op → σ → Prop
  allows : σ → Op → Prop

/-- The program makes only allowed requests, whatever happens in between, and ends as
required. -/
def Safe (conduct : Conduct σ Op Reply) (ensured : α → σ → Prop) : Program Op Reply α → σ → Prop
  | .pure value, state => ensured value state
  | .perform op next, state => ∀ middle, conduct.expects state middle → conduct.allows middle op ∧
      ∀ reply last, conduct.answers middle op reply last → Safe conduct ensured (next reply) last
  | .unfinished, _ => True

section Programs

variable {conduct : Conduct σ Op Reply} {state : σ}

theorem Safe.mono {ensured weaker : α → σ → Prop} {program : Program Op Reply α}
    (safe : Safe conduct ensured program state) (implies : ∀ value last, ensured value last → weaker value last) :
    Safe conduct weaker program state := by
  induction program generalizing state with
  | pure value => exact implies value state safe
  | perform op next ih =>
    intro middle expected
    obtain ⟨allowed, rest⟩ := safe middle expected
    exact ⟨allowed, fun reply last answered => ih reply (rest reply last answered)⟩
  | unfinished => trivial

theorem Safe.bind {ensured : β → σ → Prop} {program : Program Op Reply α} {next : α → Program Op Reply β}
    (safe : Safe conduct (fun value middle => Safe conduct ensured (next value) middle) program state) :
    Safe conduct ensured (program >>= next) state := by
  induction program generalizing state with
  | pure value => exact safe
  | perform op rest ih =>
    intro middle expected
    obtain ⟨allowed, later⟩ := safe middle expected
    exact ⟨allowed, fun reply last answered => ih reply (later reply last answered)⟩
  | unfinished => trivial

/-- What a program has ensured so far survives the changes made by others. -/
theorem Safe.disturbed {ensured : α → σ → Prop} {program : Program Op Reply α} {later : σ}
    (safe : Safe conduct ensured program state)
    (trans : ∀ last, conduct.expects later last → conduct.expects state last)
    (stable : ∀ value, ensured value state → ensured value later) : Safe conduct ensured program later := by
  cases program with
  | pure value => exact stable value safe
  | perform op next => exact fun middle expects => safe middle (trans middle expects)
  | unfinished => trivial

/-- A program whose requests all leave something in place leaves it in place. -/
theorem Safe.confined {allowed : Op → Prop} {kept : σ → Prop} {program : Program Op Reply α}
    (requests : program.Requests allowed)
    (leaves : ∀ state middle op, kept state → conduct.expects state middle → allowed op →
      conduct.allows middle op ∧ ∀ reply last, conduct.answers middle op reply last → kept last)
    (holds : kept state) : Safe conduct (fun _ => kept) program state := by
  induction program generalizing state with
  | pure value => exact holds
  | perform op next ih =>
    intro middle expected
    obtain ⟨may, stays⟩ := leaves state middle op holds expected requests.1
    exact ⟨may, fun reply last answered => ih reply (requests.2 reply) (stays reply last answered)⟩
  | unfinished => trivial

/-! Programs that may raise, from a precondition to one postcondition for returning and one
for raising. -/

/-- From every state that meets the precondition the program is safe. -/
def Leads (conduct : Conduct σ Op Reply) (before : σ → Prop) (program : ExceptT ε (Program Op Reply) α)
    (returns : α → σ → Prop) (raises : ε → σ → Prop) : Prop :=
  ∀ state, before state → Safe conduct (Program.Outcomes returns raises) program.run state

variable {before : σ → Prop} {returns : α → σ → Prop} {raises : ε → σ → Prop}

namespace Leads

theorem pure {value : α} (implies : ∀ state, before state → returns value state) :
    Leads conduct before (Pure.pure value : ExceptT ε (Program Op Reply) α) returns raises :=
  implies

theorem throw {error : ε} (implies : ∀ state, before state → raises error state) :
    Leads conduct before (throw error : ExceptT ε (Program Op Reply) α) returns raises :=
  implies

theorem unfinished : Leads conduct before (ExceptT.mk Program.unfinished : ExceptT ε (Program Op Reply) α) returns raises :=
  fun _ _ => trivial

theorem bind {program : ExceptT ε (Program Op Reply) α} {next : α → ExceptT ε (Program Op Reply) β}
    {middle : α → σ → Prop} {returns : β → σ → Prop} (first : Leads conduct before program middle raises)
    (rest : ∀ value, Leads conduct (middle value) (next value) returns raises) :
    Leads conduct before (program >>= next) returns raises := by
  intro state holds
  refine Safe.bind ((first state holds).mono ?_)
  intro outcome last ended
  cases outcome with
  | ok value => exact rest value last ended
  | error error => exact ended

theorem tryCatch {program : ExceptT ε (Program Op Reply) α} {handler : ε → ExceptT ε (Program Op Reply) α}
    {raised : ε → σ → Prop} (body : Leads conduct before program returns raised)
    (handled : ∀ error, Leads conduct (raised error) (handler error) returns raises) :
    Leads conduct before (tryCatch program handler) returns raises := by
  intro state holds
  refine Safe.bind ((body state holds).mono ?_)
  intro outcome last ended
  cases outcome with
  | ok value => exact ended
  | error error => exact handled error last ended

theorem ite {condition : Prop} [Decidable condition] {first second : ExceptT ε (Program Op Reply) α}
    (holds : condition → Leads conduct before first returns raises)
    (fails : ¬ condition → Leads conduct before second returns raises) :
    Leads conduct before (if condition then first else second) returns raises := by
  split
  next met => exact holds met
  next unmet => exact fails unmet

theorem request {op : Op} {returns : Reply op → σ → Prop}
    (meets : ∀ state middle, before state → conduct.expects state middle →
      conduct.allows middle op ∧ ∀ reply last, conduct.answers middle op reply last → returns reply last) :
    Leads conduct before (Program.request op : ExceptT ε (Program Op Reply) (Reply op)) returns raises :=
  fun state holds middle expected => meets state middle holds expected

theorem fallible {op : Op} {wrap : Reply op → Except ε α}
    (meets : ∀ state middle, before state → conduct.expects state middle → conduct.allows middle op ∧
      ∀ reply last, conduct.answers middle op reply last → Program.Outcomes returns raises (wrap reply) last) :
    Leads conduct before (ExceptT.mk (.perform op fun reply => .pure (wrap reply)) : ExceptT ε (Program Op Reply) α)
      returns raises :=
  fun state holds middle expected => meets state middle holds expected

theorem weaken {stronger : σ → Prop} {returned : α → σ → Prop} {raised : ε → σ → Prop}
    {program : ExceptT ε (Program Op Reply) α} (leads : Leads conduct before program returned raised)
    (implies : ∀ state, stronger state → before state) (returning : ∀ value last, returned value last → returns value last)
    (raising : ∀ error last, raised error last → raises error last) :
    Leads conduct stronger program returns raises := by
  intro state holds
  refine (leads state (implies state holds)).mono ?_
  intro outcome last ended
  cases outcome with
  | ok value => exact returning value last ended
  | error error => exact raising error last ended

end Leads
end Programs

/-- A thread in the middle of a task. -/
structure Running (Op : Type) (Reply : Op → Type) (τ α : Type) where
  task : τ
  rest : Program Op Reply α

structure Pool (Op : Type) (Reply : Op → Type) (σ τ α : Type) where
  shared : σ
  threads : Nat → Option (Running Op Reply τ α) := fun _ => none

namespace Pool

def set (pool : Pool Op Reply σ τ α) (thread : Nat) (running : Option (Running Op Reply τ α)) : Pool Op Reply σ τ α :=
  { pool with threads := Function.update pool.threads thread running }

section Set
variable (pool : Pool Op Reply σ τ α) (thread : Nat) (running : Option (Running Op Reply τ α))

@[simp] theorem set_shared : (pool.set thread running).shared = pool.shared := rfl

@[simp] theorem set_threads : (pool.set thread running).threads = Function.update pool.threads thread running := rfl

end Set
end Pool

/-- What happens in a pool. A step of a thread names its task, and a disturbance is no
thread's step. -/
inductive Event (Op : Type) (Reply : Op → Type) (τ δ α : Type) where
  | start (thread : Nat) (task : τ)
  | perform (thread : Nat) (task : τ) (op : Op) (reply : Reply op)
  | finish (thread : Nat) (task : τ) (value : α)
  | stir (disturbance : δ)

/-- The thread that takes a step. -/
def Event.actor : Event Op Reply τ δ α → Option Nat
  | .start thread _ | .perform thread _ _ _ | .finish thread _ _ => some thread
  | .stir _ => none

/-- The programs of the tasks, when a task may start, and the shared state. -/
structure System (Op : Type) (Reply : Op → Type) (σ τ δ α : Type) where
  program : τ → Program Op Reply α
  starts : σ → τ → Prop
  answers : Nat → σ → (op : Op) → Reply op → σ → Prop
  stirs : σ → δ → σ → Prop

/-- Threads take their steps in any order. -/
inductive Step (system : System Op Reply σ τ δ α) (pool : Pool Op Reply σ τ α) :
    Event Op Reply τ δ α → Pool Op Reply σ τ α → Prop where
  | start {thread : Nat} {task : τ} : pool.threads thread = none → system.starts pool.shared task →
      Step system pool (.start thread task) (pool.set thread (some ⟨task, system.program task⟩))
  | perform {thread : Nat} {task : τ} {op : Op} {next : Reply op → Program Op Reply α} {reply : Reply op} {after : σ} :
      pool.threads thread = some ⟨task, .perform op next⟩ → system.answers thread pool.shared op reply after →
      Step system pool (.perform thread task op reply)
        ({ pool with shared := after }.set thread (some ⟨task, next reply⟩))
  | finish {thread : Nat} {task : τ} {value : α} : pool.threads thread = some ⟨task, .pure value⟩ →
      Step system pool (.finish thread task value) (pool.set thread none)
  | stir {disturbance : δ} {after : σ} : system.stirs pool.shared disturbance after →
      Step system pool (.stir disturbance) { pool with shared := after }

/-- What a step can do to one thread. -/
inductive Moved (system : System Op Reply σ τ δ α) (pool : Pool Op Reply σ τ α) (thread : Nat) :
    Event Op Reply τ δ α → Option (Running Op Reply τ α) → Prop where
  | same {event : Event Op Reply τ δ α} : event.actor ≠ some thread → Moved system pool thread event (pool.threads thread)
  | start {task : τ} : pool.threads thread = none → system.starts pool.shared task →
      Moved system pool thread (.start thread task) (some ⟨task, system.program task⟩)
  | perform {task : τ} {op : Op} {next : Reply op → Program Op Reply α} {reply : Reply op} {after : σ} :
      pool.threads thread = some ⟨task, .perform op next⟩ → system.answers thread pool.shared op reply after →
      Moved system pool thread (.perform thread task op reply) (some ⟨task, next reply⟩)
  | finish {task : τ} {value : α} : pool.threads thread = some ⟨task, .pure value⟩ →
      Moved system pool thread (.finish thread task value) none

theorem step_thread {system : System Op Reply σ τ δ α} {pool next : Pool Op Reply σ τ α} {event : Event Op Reply τ δ α}
    (taken : Step system pool event next) (thread : Nat) : Moved system pool thread event (next.threads thread) := by
  have focus {actor : Nat} {running : Option (Running Op Reply τ α)} {event : Event Op Reply τ δ α}
      (named : event.actor = some actor) (own : thread = actor → Moved system pool thread event running) :
      Moved system pool thread event (Function.update pool.threads actor running thread) := by
    by_cases same : thread = actor
    · subst same
      rw [Function.update_self]
      exact own rfl
    · rw [Function.update_of_ne same]
      apply Moved.same
      rw [named]
      exact fun equal => same (Option.some.inj equal).symm
  cases taken with
  | start idle started => exact focus rfl fun same => by subst same; exact .start idle started
  | perform running answered => exact focus rfl fun same => by subst same; exact .perform running answered
  | finish running => exact focus rfl fun same => by subst same; exact .finish running
  | stir => exact .same nofun

theorem thread_unmoved {system : System Op Reply σ τ δ α} {pool next : Pool Op Reply σ τ α} {event : Event Op Reply τ δ α}
    (taken : Step system pool event next) {thread : Nat} (other : event.actor ≠ some thread) :
    next.threads thread = pool.threads thread := by
  generalize same : next.threads thread = state
  cases same ▸ step_thread taken thread with
  | same => rfl
  | start | perform | finish => exact absurd rfl other

/-- Whether all threads that took a step have ended their tasks. -/
def Pool.ended (events : List (Event Op Reply τ δ α)) (pool : Pool Op Reply σ τ α) : Bool :=
  (events.filterMap Event.actor).all fun thread => (pool.threads thread).isNone

theorem Pool.idle {system : System Op Reply σ τ δ α} {start : σ} {events : List (Event Op Reply τ δ α)}
    {pool : Pool Op Reply σ τ α} (run : Transition.Run (Step system) ⟨start, fun _ => none⟩ events pool)
    (ended : pool.ended events = true) (thread : Nat) : pool.threads thread = none := by
  by_cases acts : thread ∈ events.filterMap Event.actor
  · exact Option.isNone_iff_eq_none.mp (List.all_eq_true.mp ended thread acts)
  · clear ended
    induction run with
    | nil => rfl
    | @snoc events state after event before taken ih =>
      rw [List.filterMap_append, List.mem_append, not_or] at acts
      rw [thread_unmoved taken, ih acts.1]
      intro own
      exact acts.2 (List.mem_filterMap.mpr ⟨event, List.mem_singleton_self _, own⟩)

/-- The invariant of a pool, what holds of a thread that has no task, and for every thread
what the others leave alone and what it has to make sure of. -/
structure Discipline (Op : Type) (σ τ : Type) where
  invariant : σ → Prop
  free : Nat → σ → Prop
  relies : Nat → σ → σ → Prop
  allows : Nat → τ → σ → Op → Prop

/-- The conduct of one thread in one task. -/
def Discipline.conduct (discipline : Discipline Op σ τ) (system : System Op Reply σ τ δ α) (thread : Nat) (task : τ) :
    Conduct σ Op Reply where
  expects state later := discipline.invariant later ∧ discipline.relies thread state later
  answers := system.answers thread
  allows := discipline.allows thread task

/-- The parts of a proof that a system keeps to a discipline: allowed requests and
disturbances keep the invariant and what the other threads rely upon, and every task is
safe on its own. -/
structure Disciplined (system : System Op Reply σ τ δ α) (discipline : Discipline Op σ τ) : Prop where
  refl : ∀ thread state, discipline.relies thread state state
  trans : ∀ thread first second third, discipline.relies thread first second → discipline.relies thread second third →
    discipline.relies thread first third
  stable : ∀ thread state later, discipline.free thread state → discipline.relies thread state later →
    discipline.free thread later
  answered : ∀ thread task state op reply after, discipline.invariant state → discipline.allows thread task state op →
    system.answers thread state op reply after →
      discipline.invariant after ∧ ∀ other, other ≠ thread → discipline.relies other state after
  stirred : ∀ state disturbance after, discipline.invariant state → system.stirs state disturbance after →
    discipline.invariant after ∧ ∀ thread, discipline.relies thread state after
  safe : ∀ thread task state, discipline.free thread state →
    Safe (discipline.conduct system thread task) (fun _ => discipline.free thread) (system.program task) state

/-- The state of one thread. -/
def Held (system : System Op Reply σ τ δ α) (discipline : Discipline Op σ τ) (state : σ) (thread : Nat) :
    Option (Running Op Reply τ α) → Prop
  | none => discipline.free thread state
  | some running => Safe (discipline.conduct system thread running.task) (fun _ => discipline.free thread)
      running.rest state

/-- The state of all. -/
structure Kept (system : System Op Reply σ τ δ α) (discipline : Discipline Op σ τ) (pool : Pool Op Reply σ τ α) :
    Prop where
  invariant : discipline.invariant pool.shared
  held : ∀ thread, Held system discipline pool.shared thread (pool.threads thread)

variable {system : System Op Reply σ τ δ α} {discipline : Discipline Op σ τ} {pool next : Pool Op Reply σ τ α}
  {event : Event Op Reply τ δ α} {events : List (Event Op Reply τ δ α)}

namespace Disciplined

theorem held_later (disciplined : Disciplined system discipline) {thread : Nat} {state later : σ}
    {running : Option (Running Op Reply τ α)} (held : Held system discipline state thread running)
    (relies : discipline.relies thread state later) : Held system discipline later thread running := by
  cases running with
  | none => exact disciplined.stable thread state later held relies
  | some running =>
    apply Safe.disturbed held
    · exact fun last expected => ⟨expected.1, disciplined.trans thread _ _ _ relies expected.2⟩
    · exact fun _ free => disciplined.stable thread state later free relies

theorem allowed (disciplined : Disciplined system discipline) (kept : Kept system discipline pool) {thread : Nat}
    {task : τ} {op : Op} {rest : Reply op → Program Op Reply α}
    (running : pool.threads thread = some ⟨task, .perform op rest⟩) :
    discipline.allows thread task pool.shared op ∧ ∀ reply last, system.answers thread pool.shared op reply last →
      Safe (discipline.conduct system thread task) (fun _ => discipline.free thread) (rest reply) last := by
  have held := kept.held thread
  rw [running] at held
  exact held pool.shared ⟨kept.invariant, disciplined.refl thread pool.shared⟩

theorem kept_step (disciplined : Disciplined system discipline) (kept : Kept system discipline pool)
    (taken : Step system pool event next) : Kept system discipline next := by
  have update {thread : Nat} {running : Option (Running Op Reply τ α)} {state : σ}
      (own : Held system discipline state thread running)
      (others : ∀ other, other ≠ thread → Held system discipline state other (pool.threads other)) (other : Nat) :
      Held system discipline state other (Function.update pool.threads thread running other) := by
    by_cases same : other = thread
    · subst same
      rw [Function.update_self]
      exact own
    · rw [Function.update_of_ne same]
      exact others other same
  cases taken with
  | @start thread task idle =>
    have free := kept.held thread
    rw [idle] at free
    exact ⟨kept.invariant, update (disciplined.safe thread task _ free) fun other _ => kept.held other⟩
  | @perform thread task op rest reply after running answered =>
    obtain ⟨allowed, safe⟩ := disciplined.allowed kept running
    obtain ⟨invariant, relies⟩ := disciplined.answered thread task _ op reply after kept.invariant allowed answered
    refine ⟨invariant, update (safe reply after answered) ?_⟩
    exact fun other apart => disciplined.held_later (kept.held other) (relies other apart)
  | @finish thread task value running =>
    have free := kept.held thread
    rw [running] at free
    exact ⟨kept.invariant, update free fun other _ => kept.held other⟩
  | @stir disturbance after stirred =>
    obtain ⟨invariant, relies⟩ := disciplined.stirred _ disturbance after kept.invariant stirred
    exact ⟨invariant, fun thread => disciplined.held_later (kept.held thread) (relies thread)⟩

theorem kept_run (disciplined : Disciplined system discipline) {start : σ} (invariant : discipline.invariant start)
    (free : ∀ thread, discipline.free thread start)
    (run : Transition.Run (Step system) ⟨start, fun _ => none⟩ events pool) : Kept system discipline pool :=
  run.preserves ⟨invariant, free⟩ fun _ _ _ kept taken => disciplined.kept_step kept taken

end Disciplined

section Residuals

variable {left : τ → Program Op Reply α → Prop} (begins : ∀ task, left task (system.program task))
  (goes : ∀ task op next reply, left task (.perform op next) → left task (next reply))
include begins goes

theorem residual_step (before : ∀ thread running, pool.threads thread = some running → left running.task running.rest)
    (taken : Step system pool event next) {thread : Nat} {running : Running Op Reply τ α}
    (runs : next.threads thread = some running) : left running.task running.rest := by
  generalize state : next.threads thread = after at runs
  cases state ▸ step_thread taken thread with
  | same => exact before thread running runs
  | start => cases runs; exact begins _
  | perform found => cases runs; exact goes _ _ _ _ (before thread _ found)
  | finish => cases runs

/-- What is left of a task has every property that its program has and that a program hands
on when a request of it is answered. -/
theorem residual_run {start : σ} (run : Transition.Run (Step system) ⟨start, fun _ => none⟩ events pool) :
    ∀ thread running, pool.threads thread = some running → left running.task running.rest :=
  run.preserves (fun _ _ runs => nomatch runs) fun _ _ _ before taken _ _ runs =>
    residual_step begins goes before taken runs

end Residuals

/-- A step of a thread is possible. -/
def CanStep (system : System Op Reply σ τ δ α) (pool : Pool Op Reply σ τ α) (thread : Nat) : Prop :=
  ∃ event next, event.actor = some thread ∧ Step system pool event next

/-! Runs by evaluation. -/

inductive Turn (τ δ : Type) where
  | start (thread : Nat) (task : τ)
  | advance (thread : Nat)
  | finish (thread : Nat)
  | stir (disturbance : δ)

/-- Surroundings that decide, and which steps they take at all. -/
structure Scheduler (Op : Type) (Reply : Op → Type) (σ τ δ α : Type) where
  starts : σ → τ → Bool
  respond : Nat → σ → (op : Op) → Option (Reply op × σ)
  stir : σ → δ → Option σ
  admits : Pool Op Reply σ τ α → Pool Op Reply σ τ α → Bool := fun _ _ => true

namespace Scheduler

variable (scheduler : Scheduler Op Reply σ τ δ α) (program : τ → Program Op Reply α)

def turn (pool : Pool Op Reply σ τ α) : Turn τ δ → Option (Event Op Reply τ δ α × Pool Op Reply σ τ α)
  | .start thread task =>
    match pool.threads thread with
    | none =>
      if scheduler.starts pool.shared task then
        some (.start thread task, pool.set thread (some ⟨task, program task⟩))
      else none
    | some _ => none
  | .advance thread =>
    match pool.threads thread with
    | some ⟨task, .perform op next⟩ =>
      (scheduler.respond thread pool.shared op).map fun answer =>
        (.perform thread task op answer.1, { pool with shared := answer.2 }.set thread (some ⟨task, next answer.1⟩))
    | _ => none
  | .finish thread =>
    match pool.threads thread with
    | some ⟨task, .pure value⟩ => some (.finish thread task value, pool.set thread none)
    | _ => none
  | .stir disturbance =>
    (scheduler.stir pool.shared disturbance).map fun after => (.stir disturbance, { pool with shared := after })

/-- The events of a schedule and the pool after it. -/
def play (pool : Pool Op Reply σ τ α) :
    List (Turn τ δ) → Option (List (Event Op Reply τ δ α) × Pool Op Reply σ τ α)
  | [] => some ([], pool)
  | turn :: rest =>
    (scheduler.turn program pool turn).bind fun (event, next) =>
      if scheduler.admits pool next then (play next rest).map fun (events, last) => (event :: events, last) else none

/-- The surroundings are among those of the system. -/
structure Follows (scheduler : Scheduler Op Reply σ τ δ α) (system : System Op Reply σ τ δ α) : Prop where
  starts : ∀ state task, scheduler.starts state task = true → system.starts state task
  answers : ∀ thread state op reply after, scheduler.respond thread state op = some (reply, after) →
    system.answers thread state op reply after
  stirs : ∀ state disturbance after, scheduler.stir state disturbance = some after →
    system.stirs state disturbance after

variable {scheduler}

theorem turn_step (follows : scheduler.Follows system) {turn : Turn τ δ}
    (turned : scheduler.turn system.program pool turn = some (event, next)) : Step system pool event next := by
  cases turn with
  | start thread task =>
    simp only [Scheduler.turn] at turned
    split at turned
    next idle =>
      split at turned <;> cases turned
      next started => exact .start idle (follows.starts _ _ started)
    next => cases turned
  | advance thread =>
    simp only [Scheduler.turn] at turned
    split at turned
    next running =>
      obtain ⟨⟨reply, after⟩, answered, same⟩ := Option.map_eq_some_iff.mp turned
      cases same
      exact .perform running (follows.answers _ _ _ _ _ answered)
    next => cases turned
  | finish thread =>
    simp only [Scheduler.turn] at turned
    split at turned <;> cases turned
    next running => exact .finish running
  | stir disturbance =>
    obtain ⟨after, stirred, same⟩ := Option.map_eq_some_iff.mp turned
    cases same
    exact .stir (follows.stirs _ _ _ stirred)

theorem play_run (follows : scheduler.Follows system) {turns : List (Turn τ δ)}
    (played : scheduler.play system.program pool turns = some (events, next)) :
    Transition.Run (fun before event after => Step system before event after ∧ scheduler.admits before after = true)
      pool events next := by
  induction turns generalizing pool events with
  | nil =>
    cases played
    exact .nil
  | cons turn rest ih =>
    obtain ⟨⟨event, middle⟩, turned, remaining⟩ := Option.bind_eq_some_iff.mp played
    simp only at remaining
    split at remaining
    next admitted =>
      obtain ⟨⟨later, last⟩, replayed, same⟩ := Option.map_eq_some_iff.mp remaining
      cases same
      exact (Transition.Run.single ⟨turn_step follows turned, admitted⟩).append (ih replayed)
    next => cases remaining

/-- A run that a computation shows to exist, with what it computes of its outcome. -/
theorem play_summary (follows : scheduler.Follows system) {turns : List (Turn τ δ)} {β : Type}
    {summary : List (Event Op Reply τ δ α) × Pool Op Reply σ τ α → β} {value : β}
    (computed : (scheduler.play system.program pool turns).map summary = some value) :
    ∃ events next, Transition.Run (fun before event after => Step system before event after ∧
      scheduler.admits before after = true) pool events next ∧ summary (events, next) = value := by
  obtain ⟨⟨events, next⟩, played, same⟩ := Option.map_eq_some_iff.mp computed
  exact ⟨events, next, play_run follows played, same⟩

end Scheduler
end Threads
