import DongloraClient.Foundation.Threads

/-! Threads that share a lock. If every program takes it and gives it back in turn, and what
it does in between never waits, then no thread waits for ever. -/

namespace Locking
open Threads Transition

variable {Op : Type} {Reply : Op → Type} {σ τ δ α β ε : Type}

/-- What a request does to the lock. -/
inductive Kind where
  | acquire
  | release
  | other
  deriving DecidableEq

namespace Kind

/-- Whether a thread has the lock after a request. -/
def turn : Kind → Bool → Bool
  | acquire, _ => true
  | release, _ => false
  | other, held => held

/-- A lock is not taken twice, and given back only by its owner. -/
def Proper : Kind → Bool → Prop
  | acquire, held => held = false
  | release, held => held = true
  | other, _ => True

end Kind

/-- Whatever the replies, the program does not run out. -/
def Complete : Program Op Reply α → Prop
  | .pure _ => True
  | .perform _ next => ∀ reply, Complete (next reply)
  | .unfinished => False

/-- Whether the lock is held before and after a program. With the lock held, the program
makes only some requests. -/
def Balanced (kind : Op → Kind) (inside : Op → Prop) : Program Op Reply α → Bool → (α → Bool) → Prop
  | .pure value, held, after => after value = held
  | .perform op next, held, after => (kind op).Proper held ∧ (held = true → kind op = .other → inside op) ∧
      ∀ reply, Balanced kind inside (next reply) ((kind op).turn held) after
  | .unfinished, _, _ => True

namespace Complete

theorem bind {program : Program Op Reply α} {next : α → Program Op Reply β} (first : Complete program)
    (rest : ∀ value, Complete (next value)) : Complete (program >>= next) := by
  induction program with
  | pure value => exact rest value
  | perform op remaining ih => exact fun reply => ih reply (first reply)
  | unfinished => exact first.elim

theorem sequence {program : ExceptT ε (Program Op Reply) α} {next : α → ExceptT ε (Program Op Reply) β}
    (first : Complete program.run) (rest : ∀ value, Complete (next value).run) : Complete (program >>= next).run := by
  refine bind first fun outcome => ?_
  cases outcome with
  | ok value => exact rest value
  | error error => trivial

theorem tryCatch {program : ExceptT ε (Program Op Reply) α} {handler : ε → ExceptT ε (Program Op Reply) α}
    (body : Complete program.run) (handled : ∀ error, Complete (handler error).run) :
    Complete (MonadExcept.tryCatch program handler).run := by
  refine bind body fun outcome => ?_
  cases outcome with
  | ok value => trivial
  | error error => exact handled error

end Complete

namespace Balanced

variable {kind : Op → Kind} {inside : Op → Prop} {held : Bool}

theorem bind {program : Program Op Reply α} {next : α → Program Op Reply β} {middle : α → Bool} {after : β → Bool}
    (first : Balanced kind inside program held middle) (rest : ∀ value, Balanced kind inside (next value) (middle value) after) :
    Balanced kind inside (program >>= next) held after := by
  induction program generalizing held with
  | pure value => exact (show _ = held from first) ▸ rest value
  | perform op remaining ih => exact ⟨first.1, first.2.1, fun reply => ih reply (first.2.2 reply)⟩
  | unfinished => trivial

/-- Programs that may raise, if the lock is as it was when they do. -/
theorem sequence {program : ExceptT ε (Program Op Reply) α} {next : α → ExceptT ε (Program Op Reply) β}
    (first : Balanced kind inside program.run held fun _ => held)
    (rest : ∀ value, Balanced kind inside (next value).run held fun _ => held) :
    Balanced kind inside (program >>= next).run held fun _ => held := by
  refine bind first fun outcome => ?_
  cases outcome with
  | ok value => exact rest value
  | error error => rfl

theorem tryCatch {program : ExceptT ε (Program Op Reply) α} {handler : ε → ExceptT ε (Program Op Reply) α}
    (body : Balanced kind inside program.run held fun _ => held)
    (handled : ∀ error, Balanced kind inside (handler error).run held fun _ => held) :
    Balanced kind inside (MonadExcept.tryCatch program handler).run held fun _ => held := by
  refine bind body fun outcome => ?_
  cases outcome with
  | ok value => rfl
  | error error => exact handled error

/-- A program that leaves the lock alone. -/
theorem requests {program : Program Op Reply α} {allowed : Op → Prop} (requests : program.Requests allowed)
    (apart : ∀ op, allowed op → kind op = .other) (within : held = true → ∀ op, allowed op → inside op) :
    Balanced kind inside program held fun _ => held := by
  induction program with
  | pure value => rfl
  | perform op next ih =>
    refine ⟨?_, fun holds _ => within holds op requests.1, fun reply => ?_⟩
    · rw [apart op requests.1]
      trivial
    · rw [apart op requests.1]
      exact ih reply (requests.2 reply)
  | unfinished => trivial

/-- A program between taking the lock and giving it back, however it ends. -/
theorem locked (acquire release : Op) {body : ExceptT ε (Program Op Reply) α} (takes : kind acquire = .acquire)
    (gives : kind release = .release) (within : Balanced kind inside body.run true fun _ => true) :
    Balanced kind inside (ExceptT.run do
      let _ ← (Program.request acquire : ExceptT ε (Program Op Reply) _)
      let value ← MonadExcept.tryCatch body fun error => do
        let _ ← (Program.request release : ExceptT ε (Program Op Reply) _)
        throw error
      let _ ← (Program.request release : ExceptT ε (Program Op Reply) _)
      return value) false fun _ => false := by
  have released {β : Type} {program : Reply release → Program Op Reply β} {after : β → Bool}
      (rest : ∀ reply, Balanced kind inside (program reply) false after) :
      Balanced kind inside (.perform release program) true after := by
    refine ⟨gives ▸ rfl, fun _ other => ?_, fun reply => gives ▸ rest reply⟩
    rw [gives] at other
    cases other
  have taken {β : Type} {program : Reply acquire → Program Op Reply β} {after : β → Bool}
      (rest : ∀ reply, Balanced kind inside (program reply) true after) :
      Balanced kind inside (.perform acquire program) false after :=
    ⟨takes ▸ rfl, nofun, fun reply => takes ▸ rest reply⟩
  have entered : Balanced kind inside (ExceptT.run (Program.request acquire : ExceptT ε (Program Op Reply) _)) false
      fun outcome => outcome.isOk := taken fun _ => rfl
  have tried : Balanced kind inside (ExceptT.run (MonadExcept.tryCatch body fun error => do
      let _ ← (Program.request release : ExceptT ε (Program Op Reply) _)
      throw error)) true fun outcome => outcome.isOk := by
    refine bind within fun outcome => ?_
    cases outcome with
    | ok value => rfl
    | error error => exact released fun _ => rfl
  refine bind entered fun outcome => ?_
  cases outcome with
  | error error => rfl
  | ok _ =>
    refine bind tried fun outcome => ?_
    cases outcome with
    | error error => rfl
    | ok value => exact released fun _ => rfl

end Balanced

/-- A lock of a system. Only its owner gives it back. -/
structure Lock (system : System Op Reply σ τ δ α) (kind : Op → Kind) (holder : σ → Option Nat) : Prop where
  acquired : ∀ thread state op reply after, kind op = .acquire → system.answers thread state op reply after →
    holder state = none ∧ holder after = some thread
  released : ∀ thread state op reply after, kind op = .release → system.answers thread state op reply after →
    holder after = none
  apart : ∀ thread state op reply after, kind op = .other → system.answers thread state op reply after →
    holder after = holder state
  stirred : ∀ state disturbance after, system.stirs state disturbance after → holder after = holder state

/-- Which requests get an answer. -/
structure Serves (system : System Op Reply σ τ δ α) (kind : Op → Kind) (holder : σ → Option Nat) (inside : Op → Prop)
    (waits : σ → Op → Prop) : Prop where
  acquire : ∀ thread state op, kind op = .acquire → holder state = none → ∃ reply after, system.answers thread state op reply after
  release : ∀ thread state op, kind op = .release → ∃ reply after, system.answers thread state op reply after
  inside : ∀ thread state op, kind op = .other → inside op → ∃ reply after, system.answers thread state op reply after
  other : ∀ thread state op, kind op = .other → (∃ reply after, system.answers thread state op reply after) ∨ waits state op

section Pools

variable {system : System Op Reply σ τ δ α} {kind : Op → Kind} {holder : σ → Option Nat} {inside : Op → Prop}
  {waits : σ → Op → Prop} {pool next : Pool Op Reply σ τ α} {events : List (Event Op Reply τ δ α)}
  {event : Event Op Reply τ δ α} {thread : Nat}

/-- What is left of a task is complete if the tasks are. -/
theorem complete_run (complete : ∀ task, Complete (system.program task)) {start : σ}
    (run : Run (Step system) ⟨start, fun _ => none⟩ events pool) :
    ∀ thread running, pool.threads thread = some running → Complete running.rest :=
  residual_run complete (fun _ _ _ reply rest => rest reply) run

/-- Where a thread stands with respect to the lock. -/
def Placed (kind : Op → Kind) (inside : Op → Prop) (held : Bool) : Option (Running Op Reply τ α) → Prop
  | none => held = false
  | some running => Balanced kind inside running.rest held fun _ => false

def owns (holder : σ → Option Nat) (pool : Pool Op Reply σ τ α) (thread : Nat) : Bool := decide (holder pool.shared = some thread)

theorem placed_step (lock : Lock system kind holder)
    (balanced : ∀ task, Balanced kind inside (system.program task) false fun _ => false)
    (placed : ∀ thread, Placed kind inside (owns holder pool thread) (pool.threads thread))
    (taken : Step system pool event next) (thread : Nat) :
    Placed kind inside (owns holder next thread) (next.threads thread) := by
  have before := placed thread
  cases taken with
  | @start actor task idle =>
    by_cases own : thread = actor
    · subst own
      rw [idle] at before
      have free : owns holder pool thread = false := before
      simp only [Pool.set_threads, Function.update_self]
      exact (show owns holder (pool.set thread _) thread = false from free) ▸ balanced task
    · simp only [Pool.set_threads, Function.update_of_ne own]
      exact before
  | @finish actor task value runs =>
    by_cases own : thread = actor
    · subst own
      rw [runs] at before
      have free : false = owns holder pool thread := before
      simp only [Pool.set_threads, Function.update_self]
      exact free.symm
    · simp only [Pool.set_threads, Function.update_of_ne own]
      exact before
  | @stir disturbance after stirred =>
    have same : owns holder { pool with shared := after } thread = owns holder pool thread := by
      simp only [owns, lock.stirred _ _ _ stirred]
    exact same ▸ before
  | @perform actor task op following reply after runs answered =>
    by_cases own : thread = actor
    · subst own
      rw [runs] at before
      obtain ⟨proper, _, rest⟩ : Balanced kind inside (.perform op following) (owns holder pool thread) fun _ => false := before
      have turned : owns holder ({ pool with shared := after }.set thread (some ⟨task, following reply⟩)) thread =
          (kind op).turn (owns holder pool thread) := by
        cases does : kind op with
        | acquire => simp [owns, Kind.turn, (lock.acquired _ _ _ _ _ does answered).2]
        | release => simp [owns, Kind.turn, lock.released _ _ _ _ _ does answered]
        | other => simp [owns, Kind.turn, lock.apart _ _ _ _ _ does answered]
      simp only [Pool.set_threads, Function.update_self]
      exact turned ▸ rest reply
    · have held := placed actor
      rw [runs] at held
      obtain ⟨proper, _⟩ : Balanced kind inside (.perform op following) (owns holder pool actor) fun _ => false := held
      have same : owns holder ({ pool with shared := after }.set actor (some ⟨task, following reply⟩)) thread =
          owns holder pool thread := by
        cases does : kind op with
        | acquire =>
          obtain ⟨free, taken⟩ := lock.acquired _ _ _ _ _ does answered
          simp [owns, free, taken, Ne.symm own]
        | release =>
          rw [does] at proper
          have mine : holder pool.shared = some actor := of_decide_eq_true proper
          simp [owns, mine, lock.released _ _ _ _ _ does answered, Ne.symm own]
        | other => simp [owns, lock.apart _ _ _ _ _ does answered]
      simp only [Pool.set_threads, Function.update_of_ne own]
      exact same ▸ before

theorem placed_run (lock : Lock system kind holder)
    (balanced : ∀ task, Balanced kind inside (system.program task) false fun _ => false) {start : σ}
    (unlocked : holder start = none) (run : Run (Step system) ⟨start, fun _ => none⟩ events pool) :
    ∀ thread, Placed kind inside (owns holder pool thread) (pool.threads thread) := by
  refine run.preserves (fun thread => ?_) fun _ _ _ placed taken => placed_step lock balanced placed taken
  simp [Placed, owns, unlocked]

/-- A thread that goes on with its task, or has come to the end of what is modelled of it. -/
def GoesOn (system : System Op Reply σ τ δ α) (pool : Pool Op Reply σ τ α) (thread : Nat) : Prop :=
  CanStep system pool thread ∨ ∃ task, pool.threads thread = some ⟨task, .unfinished⟩

/-- A thread with a task goes on with it, waits for something that no thread does, or waits
for the lock while its owner goes on. -/
inductive Alive (system : System Op Reply σ τ δ α) (kind : Op → Kind) (holder : σ → Option Nat) (waits : σ → Op → Prop)
    (pool : Pool Op Reply σ τ α) (thread : Nat) (rest : Program Op Reply α) : Prop where
  | goes : GoesOn system pool thread → Alive system kind holder waits pool thread rest
  | waits {op : Op} {next : Reply op → Program Op Reply α} : rest = .perform op next → kind op = .other →
    waits pool.shared op → Alive system kind holder waits pool thread rest
  | queues {op : Op} {next : Reply op → Program Op Reply α} {owner : Nat} : rest = .perform op next → kind op = .acquire →
    owner ≠ thread → holder pool.shared = some owner → GoesOn system pool owner →
      Alive system kind holder waits pool thread rest

variable (serves : Serves system kind holder inside waits)
  (placed : ∀ thread, Placed kind inside (owns holder pool thread) (pool.threads thread))
include serves placed

theorem owner_goes (held : holder pool.shared = some thread) : GoesOn system pool thread := by
  have own : owns holder pool thread = true := decide_eq_true held
  have before := placed thread
  rw [own] at before
  cases runs : pool.threads thread with
  | none =>
    rw [runs] at before
    cases before
  | some running =>
    rw [runs] at before
    obtain ⟨task, rest⟩ := running
    cases rest with
    | pure value => cases before
    | unfinished => exact Or.inr ⟨task, runs⟩
    | perform op following =>
      obtain ⟨proper, within, _⟩ : Balanced kind inside (.perform op following) true fun _ => false := before
      have answers : ∃ reply after, system.answers thread pool.shared op reply after := by
        cases does : kind op with
        | acquire =>
          rw [does] at proper
          cases proper
        | release => exact serves.release thread pool.shared op does
        | other => exact serves.inside thread pool.shared op does (within rfl does)
      obtain ⟨reply, after, answered⟩ := answers
      exact Or.inl ⟨_, _, rfl, .perform runs answered⟩

theorem alive {task : τ} {rest : Program Op Reply α} (runs : pool.threads thread = some ⟨task, rest⟩) :
    Alive system kind holder waits pool thread rest := by
  cases rest with
  | pure value => exact .goes (Or.inl ⟨_, _, rfl, .finish runs⟩)
  | unfinished => exact .goes (Or.inr ⟨task, runs⟩)
  | perform op following =>
    have steps (answers : ∃ reply after, system.answers thread pool.shared op reply after) :
        Alive system kind holder waits pool thread (.perform op following) := by
      obtain ⟨reply, after, answered⟩ := answers
      exact .goes (Or.inl ⟨_, _, rfl, .perform runs answered⟩)
    cases does : kind op with
    | acquire =>
      cases held : holder pool.shared with
      | none => exact steps (serves.acquire thread pool.shared op does held)
      | some owner =>
        by_cases own : owner = thread
        · exact .goes (owner_goes serves placed (own ▸ held))
        · exact .queues rfl does own held (owner_goes serves placed held)
    | release => exact steps (serves.release thread pool.shared op does)
    | other =>
      rcases serves.other thread pool.shared op does with answers | waiting
      · exact steps answers
      · exact .waits rfl does waiting

end Pools
end Locking
