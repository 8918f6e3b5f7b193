import DongloraClient.Foundation.Threads
import DongloraClient.Session

/-! `drain_async_errors`, called by any number of threads while the session goes on. -/

namespace DongloraClient

/-- `get_nowait`. -/
inductive DrainOp where
  | getNowait

/-- `none` is `queue.Empty`. -/
@[reducible] def DrainReply : DrainOp → Type
  | .getNowait => Option Exc

namespace Session

/-- Its loop with what has been drained, for at most so many rounds. -/
def drainFrom : Nat → List Exc → Program DrainOp DrainReply (List Exc)
  | 0, _ => .unfinished
  | rounds + 1, drained => .perform .getNowait fun
    | some exc => drainFrom rounds (drained ++ [exc])
    | none => .pure drained

def drainAsyncErrors (rounds : Nat) : Program DrainOp DrainReply (List Exc) := drainFrom rounds []

/-- The draining threads share the session. All other steps of it are the surroundings'. -/
def drainers (cobs : Cobs.Codec) : Threads.System DrainOp DrainReply Session Nat Step (List Exc) where
  program := drainAsyncErrors
  starts _ _ := True
  answers
    | _, session, .getNowait, some exc, next => session.asyncErrors.head? = some exc ∧ step cobs session .drain = some next
    | _, session, .getNowait, none, next => session.asyncErrors = [] ∧ next = session
  stirs session label next := label ≠ .drain ∧ step cobs session label = some next

/-- A schedule runs on these. -/
def drainScheduler (cobs : Cobs.Codec) : Threads.Scheduler DrainOp DrainReply Session Nat Step (List Exc) where
  starts _ _ := true
  respond
    | _, session, .getNowait =>
      match session.asyncErrors with
      | exc :: rest => some (some exc, { session with asyncErrors := rest })
      | [] => some (none, session)
  stir session
    | .drain => none
    | label => step cobs session label

theorem drainScheduler_follows (cobs : Cobs.Codec) : (drainScheduler cobs).Follows (drainers cobs) where
  starts _ _ _ := trivial
  answers thread session op reply next responded := by
    cases op
    simp only [drainScheduler] at responded
    split at responded <;> cases responded
    next exc rest queued => exact ⟨by rw [queued]; rfl, by simp only [step, queued]⟩
    next empty => exact ⟨empty, rfl⟩
  stirs session label next stirred := by
    cases label with
    | drain => cases stirred
    | _ => exact ⟨nofun, stirred⟩

end Session

/-- The threads that drain one session. -/
abbrev Draining := Threads.Pool DrainOp DrainReply Session Nat (List Exc)

abbrev DrainEvent := Threads.Event DrainOp DrainReply Nat Step (List Exc)

end DongloraClient
