import DongloraClient.Foundation.Threads

/-! The requests of one thread in a pool, with their replies. A program that is verified
over all replies says what its thread has asked for by the time its task ends. -/

namespace Journal
open Threads Transition Program

variable {Op : Type} {Reply : Op → Type} {σ τ δ α β ε : Type}

/-- Surroundings that reply anything and only keep a record, the latest first. -/
def Noted (log : List (Sigma Reply)) (op : Op) (reply : Reply op) (next : List (Sigma Reply)) : Prop :=
  next = ⟨op, reply⟩ :: log

section Programs

variable {log : List (Sigma Reply)}

/-- Confined programs add entries of which each is allowed. -/
theorem confined_noted {allowed : Op → Prop} {program : ExceptT ε (Program Op Reply) α} (confined : Confined allowed program) :
    Ensures Noted program (fun _ last => ∃ added, last = added ++ log ∧ ∀ entry ∈ added, allowed entry.1)
      (fun _ last => ∃ added, last = added ++ log ∧ ∀ entry ∈ added, allowed entry.1) log := by
  refine confined.ensures ?_ ⟨[], rfl, nofun⟩
  rintro _ op reply _ may rfl ⟨added, rfl, every⟩
  refine ⟨⟨op, reply⟩ :: added, rfl, fun entry listed => ?_⟩
  cases listed with
  | head => exact may
  | tail _ earlier => exact every entry earlier

/-- At no point does the record go against `holds`, and it ends as required. -/
def Records (holds : List (Sigma Reply) → Prop) (ensured : α → List (Sigma Reply) → Prop) :
    Program Op Reply α → List (Sigma Reply) → Prop
  | .pure value, log => holds log ∧ ensured value log
  | .perform op next, log => holds log ∧ ∀ reply, Records holds ensured (next reply) (⟨op, reply⟩ :: log)
  | .unfinished, log => holds log

namespace Records

variable {holds : List (Sigma Reply) → Prop} {ensured : α → List (Sigma Reply) → Prop} {program : Program Op Reply α}

theorem now (records : Records holds ensured program log) : holds log := by
  cases program with
  | pure | perform => exact records.1
  | unfinished => exact records

theorem mono {weaker : α → List (Sigma Reply) → Prop} (records : Records holds ensured program log)
    (implies : ∀ value last, holds last → ensured value last → weaker value last) : Records holds weaker program log := by
  induction program generalizing log with
  | pure value => exact ⟨records.1, implies value log records.1 records.2⟩
  | perform op next ih => exact ⟨records.1, fun reply => ih reply (records.2 reply)⟩
  | unfinished => exact records

theorem bind {next : α → Program Op Reply β} {ensured : β → List (Sigma Reply) → Prop}
    (first : Records holds (fun value last => holds last → Records holds ensured (next value) last) program log) :
    Records holds ensured (program >>= next) log := by
  induction program generalizing log with
  | pure value => exact first.2 first.1
  | perform op rest ih => exact ⟨first.1, fun reply => ih reply (first.2 reply)⟩
  | unfinished => exact first

/-- Requests that leave in place what is kept. -/
theorem confined {allowed : Op → Prop} {kept : List (Sigma Reply) → Prop} (requests : program.Requests allowed)
    (implies : ∀ last, kept last → holds last)
    (stays : ∀ last op reply, allowed op → kept last → kept (⟨op, reply⟩ :: last)) (start : kept log) :
    Records holds (fun _ => kept) program log := by
  induction program generalizing log with
  | pure value => exact ⟨implies log start, start⟩
  | perform op next ih =>
    exact ⟨implies log start, fun reply => ih reply (requests.2 reply) (stays log op reply requests.1 start)⟩
  | unfinished => exact implies log start

theorem always (always : Always Noted ensured program log) : Records (fun _ => True) ensured program log := by
  induction program generalizing log with
  | pure value => exact ⟨trivial, always⟩
  | perform op next ih => exact ⟨trivial, fun reply => ih reply (always reply _ rfl)⟩
  | unfinished => trivial

theorem requested {op : Op} {next : Reply op → ExceptT ε (Program Op Reply) β}
    {ensured : Except ε β → List (Sigma Reply) → Prop} (now : holds log)
    (rest : ∀ reply, Records holds ensured (next reply).run (⟨op, reply⟩ :: log)) :
    Records holds ensured (request op >>= next).run log :=
  ⟨now, rest⟩

/-- Programs that may raise, where what is kept does not depend on how they end. -/
theorem sequence {program : ExceptT ε (Program Op Reply) α} {next : α → ExceptT ε (Program Op Reply) β}
    {kept later : List (Sigma Reply) → Prop} (first : Records holds (fun _ => kept) program.run log)
    (rest : ∀ value last, kept last → Records holds (fun _ => later) (next value).run last)
    (raised : ∀ last, kept last → later last) : Records holds (fun _ => later) (program >>= next).run log := by
  refine bind (first.mono fun outcome last held ended _ => ?_)
  cases outcome with
  | ok value => exact rest value last ended
  | error error => exact ⟨held, raised last ended⟩

theorem tryCatch {program : ExceptT ε (Program Op Reply) α} {handler : ε → ExceptT ε (Program Op Reply) α}
    {kept later : List (Sigma Reply) → Prop} (body : Records holds (fun _ => kept) program.run log)
    (handled : ∀ error last, kept last → Records holds (fun _ => later) (handler error).run last)
    (returned : ∀ last, kept last → later last) :
    Records holds (fun _ => later) (MonadExcept.tryCatch program handler).run log := by
  refine bind (body.mono fun outcome last held ended _ => ?_)
  cases outcome with
  | ok value => exact ⟨held, returned last ended⟩
  | error error => exact handled error last ended

end Records
end Programs

section Pools

variable {system : System Op Reply σ τ δ α} {pool next : Pool Op Reply σ τ α} {events : List (Event Op Reply τ δ α)}

/-- What an event adds to the journal of a thread, which begins anew with each task. -/
def note (thread : Nat) (log : List (Sigma Reply)) : Event Op Reply τ δ α → List (Sigma Reply)
  | .start actor _ => if actor = thread then [] else log
  | .perform actor _ op reply => if actor = thread then ⟨op, reply⟩ :: log else log
  | .finish .. | .stir _ => log

/-- The requests and replies of the task that a thread is in or has ended last, the latest
first. -/
def journal (thread : Nat) (events : List (Event Op Reply τ δ α)) : List (Sigma Reply) := events.foldl (note thread) []

theorem journal_snoc (thread : Nat) (events : List (Event Op Reply τ δ α)) (event : Event Op Reply τ δ α) :
    journal thread (events ++ [event]) = note thread (journal thread events) event :=
  List.foldl_append

theorem note_other {thread : Nat} {log : List (Sigma Reply)} {event : Event Op Reply τ δ α}
    (other : event.actor ≠ some thread) : note thread log event = log := by
  have apart {actor : Nat} (other : some actor ≠ some thread) : actor ≠ thread := fun same => other (congrArg some same)
  cases event with
  | start => exact if_neg (apart other)
  | perform => exact if_neg (apart other)
  | finish | stir => rfl

variable {ensured : τ → α → List (Sigma Reply) → Prop} {start : σ} {thread : Nat}

section Kept

variable {holds : List (Sigma Reply) → Prop} (records : ∀ task, Records holds (ensured task) (system.program task) [])
  (initially : holds []) (run : Run (Step system) ⟨start, fun _ => none⟩ events pool)
include records initially run

/-- A thread in the middle of a task still keeps to it, from what its journal has. -/
theorem records_kept : holds (journal thread events) ∧ ∀ running, pool.threads thread = some running →
    Records holds (ensured running.task) running.rest (journal thread events) := by
  induction run with
  | nil => exact ⟨initially, nofun⟩
  | @snoc events pool next event before taken ih =>
    rw [journal_snoc]
    have going {running : Running Op Reply τ α} {log : List (Sigma Reply)}
        (left : Records holds (ensured running.task) running.rest log) : holds log ∧ ∀ following,
          some running = some following → Records holds (ensured following.task) following.rest log :=
      ⟨left.now, fun following same => by cases same; exact left⟩
    generalize state : next.threads thread = after
    cases state ▸ step_thread taken thread with
    | same other =>
      rw [note_other other]
      exact ih
    | start =>
      rw [note, if_pos rfl]
      exact going (records _)
    | perform found =>
      rw [note, if_pos rfl]
      exact going ((ih.2 _ found).2 _)
    | finish => exact ⟨ih.1, nofun⟩

/-- What all tasks keep to holds of every journal at any time. -/
theorem records_run (thread : Nat) : holds (journal thread events) := (records_kept records initially run).1

end Kept

/-- At the end of a task the journal is as the task ensures. -/
theorem journal_finish (ensures : ∀ task, Always Noted (ensured task) (system.program task) [])
    (run : Run (Step system) ⟨start, fun _ => none⟩ events pool) {task : τ} {value : α}
    (ended : Step system pool (.finish thread task value) next) : ensured task value (journal thread events) := by
  cases ended with
  | finish running => exact ((records_kept (fun task => .always (ensures task)) trivial run).2 _ running).2

end Pools
end Journal
