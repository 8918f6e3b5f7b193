import DongloraClient.Foundation.Threads
import Mathlib.Algebra.GroupWithZero.Nat

/-! Requests that are counted. Of a program it is said how much it can still spend if, from
now on, the replies fit: what it has begun may cost something, what it begins later costs
nothing. -/

namespace Budget
open Threads Transition

variable {Op : Type} {Reply : Op → Type} {σ τ δ α β ε : Type}

section Programs

variable (fits : (op : Op) → Reply op → Prop) (cost : Op → Nat)

/-- With replies that fit, the program spends no more than it has left. -/
def Affords : Nat → Program Op Reply α → Prop
  | _, .pure _ => True
  | left, .perform op next => cost op ≤ left ∧ ∀ reply, fits op reply → Affords (left - cost op) (next reply)
  | _, .unfinished => True

/-- From its beginning the program spends nothing, and from no point more than the limit. -/
structure Sparing (limit : Nat) (program : Program Op Reply α) : Prop where
  fresh : Affords fits cost 0 program
  every : program.Everywhere (Affords fits cost limit)

variable {fits cost} {left more limit : Nat}

theorem Affords.mono {program : Program Op Reply α} (affords : Affords fits cost left program) (enough : left ≤ more) :
    Affords fits cost more program := by
  induction program generalizing left more with
  | pure | unfinished => trivial
  | perform op next ih =>
    exact ⟨Nat.le_trans affords.1 enough, fun reply fitting => ih reply (affords.2 reply fitting) (Nat.sub_le_sub_right enough _)⟩

theorem Affords.bind {program : Program Op Reply α} {next : α → Program Op Reply β} (first : Affords fits cost left program)
    (rest : ∀ value, Affords fits cost 0 (next value)) : Affords fits cost left (program >>= next) := by
  induction program generalizing left with
  | pure value => exact (rest value).mono (Nat.zero_le _)
  | perform op remaining ih => exact ⟨first.1, fun reply fitting => ih reply (first.2 reply fitting)⟩
  | unfinished => trivial

/-- What has been begun, then what is free. -/
theorem every_bind {program : Program Op Reply α} {next : α → Program Op Reply β}
    (first : program.Everywhere (Affords fits cost limit)) (rest : ∀ value, Sparing fits cost limit (next value)) :
    (program >>= next).Everywhere (Affords fits cost limit) :=
  first.bind (fun value => (rest value).every) fun _ affords => affords.bind fun value => (rest value).fresh

/-- Requests that cost nothing, then what costs something. -/
theorem every_after {program : Program Op Reply α} {next : α → Program Op Reply β}
    (costless : program.Requests fun op => cost op = 0) (rest : ∀ value, (next value).Everywhere (Affords fits cost limit)) :
    (program >>= next).Everywhere (Affords fits cost limit) := by
  have affords {program : Program Op Reply α} (costless : program.Requests fun op => cost op = 0) :
      Affords fits cost limit (program >>= next) := by
    induction program with
    | pure value => exact (rest value).now
    | perform op remaining ih =>
      refine ⟨costless.1 ▸ Nat.zero_le _, fun reply _ => ?_⟩
      rw [costless.1]
      exact ih reply (costless.2 reply)
    | unfinished => trivial
  induction program with
  | pure value => exact rest value
  | perform op remaining ih => exact ⟨affords costless, fun reply => ih reply (costless.2 reply)⟩
  | unfinished => trivial

namespace Sparing

theorem bind {program : Program Op Reply α} {next : α → Program Op Reply β} (first : Sparing fits cost limit program)
    (rest : ∀ value, Sparing fits cost limit (next value)) : Sparing fits cost limit (program >>= next) :=
  ⟨first.fresh.bind fun value => (rest value).fresh, every_bind first.every rest⟩

theorem pure (value : α) : Sparing fits cost limit (.pure value : Program Op Reply α) := ⟨trivial, trivial⟩

theorem requests {program : Program Op Reply α} (costless : program.Requests fun op => cost op = 0) :
    Sparing fits cost limit program := by
  induction program with
  | pure value => exact pure value
  | perform op next ih =>
    have free : cost op = 0 := costless.1
    have following {left : Nat} (reply : Reply op) : Affords fits cost left (next reply) :=
      (ih reply (costless.2 reply)).fresh.mono (Nat.zero_le _)
    have affords {left : Nat} : Affords fits cost left (.perform op next) := ⟨free ▸ Nat.zero_le _, fun reply _ => following reply⟩
    exact ⟨affords, affords, fun reply => (ih reply (costless.2 reply)).every⟩
  | unfinished => exact ⟨trivial, trivial⟩

theorem sequence {program : ExceptT ε (Program Op Reply) α} {next : α → ExceptT ε (Program Op Reply) β}
    (first : Sparing fits cost limit program.run) (rest : ∀ value, Sparing fits cost limit (next value).run) :
    Sparing fits cost limit (program >>= next).run := by
  refine first.bind fun outcome => ?_
  cases outcome with
  | ok value => exact rest value
  | error error => exact pure _

theorem tryCatch {program : ExceptT ε (Program Op Reply) α} {handler : ε → ExceptT ε (Program Op Reply) α}
    (body : Sparing fits cost limit program.run) (handled : ∀ error, Sparing fits cost limit (handler error).run) :
    Sparing fits cost limit (MonadExcept.tryCatch program handler).run := by
  refine body.bind fun outcome => ?_
  cases outcome with
  | ok value => exact pure _
  | error error => exact handled error

end Sparing

/-- The same for programs that may raise. -/
theorem every_sequence {program : ExceptT ε (Program Op Reply) α} {next : α → ExceptT ε (Program Op Reply) β}
    (first : program.run.Everywhere (Affords fits cost limit)) (rest : ∀ value, Sparing fits cost limit (next value).run) :
    (program >>= next).run.Everywhere (Affords fits cost limit) := by
  refine every_bind first fun outcome => ?_
  cases outcome with
  | ok value => exact rest value
  | error error => exact .pure _

theorem every_tryCatch {program : ExceptT ε (Program Op Reply) α} {handler : ε → ExceptT ε (Program Op Reply) α}
    (body : program.run.Everywhere (Affords fits cost limit)) (handled : ∀ error, Sparing fits cost limit (handler error).run) :
    (tryCatch program handler).run.Everywhere (Affords fits cost limit) := by
  refine every_bind body fun outcome => ?_
  cases outcome with
  | ok value => exact .pure _
  | error error => exact handled error

theorem every_later {program : ExceptT ε (Program Op Reply) α} {next : α → ExceptT ε (Program Op Reply) β}
    (costless : Program.Confined (fun op => cost op = 0) program)
    (rest : ∀ value, (next value).run.Everywhere (Affords fits cost limit)) :
    (program >>= next).run.Everywhere (Affords fits cost limit) := by
  refine every_after costless fun outcome => ?_
  cases outcome with
  | ok value => exact rest value
  | error error => trivial

end Programs

section Pools

variable {fits : (op : Op) → Reply op → Prop} {cost : Op → Nat} {limit : Nat}
  {system : System Op Reply σ τ δ α} {pool last : Pool Op Reply σ τ α} {events : List (Event Op Reply τ δ α)}

/-- What a thread has spent. -/
def spent (cost : Op → Nat) (thread : Nat) (events : List (Event Op Reply τ δ α)) : Nat :=
  (events.map fun
    | .perform actor _ op _ => if actor = thread then cost op else 0
    | _ => 0).sum

def Fitting (fits : (op : Op) → Reply op → Prop) (_pool : Pool Op Reply σ τ α) : Event Op Reply τ δ α → Prop
  | .perform _ _ op reply => fits op reply
  | _ => True

/-- While all replies fit, no thread spends more than the limit. -/
theorem spent_run (fresh : ∀ task, Affords fits cost 0 (system.program task)) {thread : Nat}
    (affords : ∀ running, pool.threads thread = some running → Affords fits cost limit running.rest)
    (run : Run (Transition.Guarded (Step system) (Fitting fits)) pool events last) :
    spent cost thread events ≤ limit ∧ ∀ running, last.threads thread = some running →
      Affords fits cost (limit - spent cost thread events) running.rest := by
  induction run with
  | nil => exact ⟨Nat.zero_le _, affords⟩
  | @snoc events pool next event before taken ih =>
    obtain ⟨within, affords⟩ := ih
    obtain ⟨taken, fitting⟩ := taken
    have added : spent cost thread (events ++ [event]) = spent cost thread events + spent cost thread [event] := by
      simp only [spent, List.map_append, List.sum_append]
    have unpaid (free : spent cost thread [event] = 0) {running : Option (Running Op Reply τ α)}
        (state : next.threads thread = running)
        (rest : ∀ following, running = some following → Affords fits cost (limit - spent cost thread events) following.rest) :
        spent cost thread (events ++ [event]) ≤ limit ∧ ∀ running, next.threads thread = some running →
          Affords fits cost (limit - spent cost thread (events ++ [event])) running.rest := by
      rw [added, free, Nat.add_zero]
      exact ⟨within, fun following found => rest following (state.symm.trans found)⟩
    generalize state : next.threads thread = running
    cases state ▸ step_thread taken thread with
    | same other =>
      refine state ▸ unpaid ?_ state affords
      cases event with
      | perform actor task op reply => simp [spent, show actor ≠ thread from fun same => other (congrArg some same)]
      | start | finish | stir => rfl
    | start =>
      refine state ▸ unpaid rfl state fun following found => ?_
      cases found
      exact (fresh _).mono (Nat.zero_le _)
    | finish => exact state ▸ unpaid rfl state nofun
    | @perform task op following reply after found =>
      obtain ⟨pays, rest⟩ := affords _ found
      have paid : spent cost thread [(.perform thread task op reply : Event Op Reply τ δ α)] = cost op := by simp [spent]
      rw [added, paid]
      refine ⟨Nat.add_comm .. ▸ Nat.add_le_of_le_sub within pays, fun running found => ?_⟩
      cases found
      rw [Nat.sub_add_eq]
      exact rest reply fitting

end Pools
end Budget
