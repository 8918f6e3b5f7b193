import DongloraClient.Foundation.Threads

/-! Threads that take items out of the shared state. Where every program returns an item
the moment it has taken it, and returns no other, nothing that was taken is lost. -/

namespace Threads

variable {Op : Type} {Reply : Op → Type} {σ τ δ α ι : Type}

/-- `taken` is the item that comes with a reply, and `given` the one in a result. -/
def Handing (taken : (op : Op) → Reply op → Option ι) (given : α → Option ι) : Program Op Reply α → Prop
  | .pure result => given result = none
  | .perform op next => ∀ reply, (taken op reply = none → Handing taken given (next reply)) ∧
      ∀ item, taken op reply = some item → ∃ result, next reply = .pure result ∧ given result = some item
  | .unfinished => True

variable {taken : (op : Op) → Reply op → Option ι} {given : α → Option ι}

theorem Handing.bind {β : Type} {program : Program Op Reply β} {next : β → Program Op Reply α}
    (first : program.Requests fun op => ∀ reply, taken op reply = none) (rest : ∀ value, Handing taken given (next value)) :
    Handing taken given (program >>= next) := by
  induction program with
  | pure value => exact rest value
  | perform op remaining ih =>
    refine fun reply => ⟨fun _ => ih reply (first.2 reply), fun item took => ?_⟩
    cases (first.1 reply).symm.trans took
  | unfinished => trivial

/-- The item that a thread takes in a step, and the one it returns. -/
def Event.takenBy (taken : (op : Op) → Reply op → Option ι) (thread : Nat) : Event Op Reply τ δ α → Option ι
  | .perform other _ op reply => if other = thread then taken op reply else none
  | _ => none

def Event.returnedBy (given : α → Option ι) (thread : Nat) : Event Op Reply τ δ α → Option ι
  | .finish other _ result => if other = thread then given result else none
  | _ => none

/-- What a thread is about to return. -/
def holding (given : α → Option ι) : Option (Running Op Reply τ α) → List ι
  | some ⟨_, .pure result⟩ => (given result).toList
  | _ => []

/-- A thread has handed over what it took, or is about to. -/
structure Handed (taken : (op : Op) → Reply op → Option ι) (given : α → Option ι)
    (events : List (Event Op Reply τ δ α)) (thread : Nat) (running : Option (Running Op Reply τ α)) : Prop where
  rest : ∀ task program, running = some ⟨task, program⟩ → Handing taken given program ∨ ∃ result, program = .pure result
  balance : events.filterMap (Event.takenBy taken thread) =
    events.filterMap (Event.returnedBy given thread) ++ holding given running

theorem Handing.holding {task : τ} {program : Program Op Reply α} (handing : Handing taken given program) :
    holding given (some ⟨task, program⟩) = [] := by
  cases program with
  | pure result =>
    have none : given result = none := handing
    simp only [Threads.holding, none, Option.toList_none]
  | perform | unfinished => rfl

variable {system : System Op Reply σ τ δ α} {pool next : Pool Op Reply σ τ α} {event : Event Op Reply τ δ α}
  {events : List (Event Op Reply τ δ α)} {thread : Nat}

theorem Handed.step {running after : Option (Running Op Reply τ α)} (handed : Handed taken given events thread running)
    (rest : ∀ task program, after = some ⟨task, program⟩ → Handing taken given program ∨ ∃ result, program = .pure result)
    (balance : holding given running ++ (event.takenBy taken thread).toList =
      (event.returnedBy given thread).toList ++ holding given after) :
    Handed taken given (events ++ [event]) thread after := by
  refine ⟨rest, ?_⟩
  rw [Transition.filterMap_snoc, Transition.filterMap_snoc, handed.balance, List.append_assoc, balance, List.append_assoc]

theorem handed_step (programs : ∀ task, Handing taken given (system.program task))
    (handed : Handed taken given events thread (pool.threads thread)) (step : Step system pool event next) :
    Handed taken given (events ++ [event]) thread (next.threads thread) := by
  generalize same : next.threads thread = after
  cases same ▸ step_thread step thread with
  | same other =>
    have took : event.takenBy taken thread = none := by
      cases event with
      | perform actor => exact if_neg fun equal => other (congrArg some equal)
      | start | finish | stir => rfl
    have gave : event.returnedBy given thread = none := by
      cases event with
      | finish actor => exact if_neg fun equal => other (congrArg some equal)
      | start | perform | stir => rfl
    refine handed.step handed.rest ?_
    rw [took, gave, Option.toList_none, List.append_nil, List.nil_append]
  | @start task idle starts =>
    refine handed.step (fun _ _ running => Or.inl ?_) ?_
    · cases running
      exact programs task
    · rw [idle, (programs task).holding]
      rfl
  | @perform task op remaining reply after running answered =>
    have handing : Handing taken given (.perform op remaining) := by
      rcases handed.rest task _ running with handing | ⟨result, returned⟩
      · exact handing
      · cases returned
    have took : (.perform thread task op reply : Event Op Reply τ δ α).takenBy taken thread = taken op reply := if_pos rfl
    rw [running] at handed
    cases found : taken op reply with
    | none =>
      have later := (handing reply).1 found
      refine handed.step (fun _ _ running => Or.inl ?_) ?_
      · cases running
        exact later
      · rw [took, found, later.holding]
        rfl
    | some item =>
      obtain ⟨result, returned, gives⟩ := (handing reply).2 item found
      refine handed.step (fun _ _ running => Or.inr ⟨result, ?_⟩) ?_
      · cases running
        exact returned
      · rw [took, found, returned]
        simp only [holding, gives]
        rfl
  | @finish task result running =>
    rw [running] at handed
    refine handed.step (fun _ _ running => ?_) ?_
    · cases running
    · have gave : (.finish thread task result : Event Op Reply τ δ α).returnedBy given thread = given result := if_pos rfl
      rw [gave]
      exact (List.append_nil _).trans (List.append_nil _).symm

/-- Every run: each thread has returned exactly what it took, but for an item that it
is about to return. -/
theorem handed_run (programs : ∀ task, Handing taken given (system.program task)) {start : σ}
    (run : Transition.Run (Step system) ⟨start, fun _ => none⟩ events pool) (thread : Nat) :
    Handed taken given events thread (pool.threads thread) := by
  induction run with
  | nil => exact ⟨fun _ _ => nofun, rfl⟩
  | snoc before step ih => exact handed_step programs ih step

end Threads
