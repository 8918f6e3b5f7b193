import DongloraClient.Foundation.Transition
import Mathlib.Order.Filter.AtTopBot.Basic

/-! Executions that go on for ever, and what must happen in them when nobody who can go on
again and again is passed over for good. -/

namespace Transition
open Filter

variable {σ ε : Type*}

/-- An execution without end. At some moments nothing happens. -/
structure Execution (step : σ → ε → σ → Prop) (start : σ) where
  state : Nat → σ
  event : Nat → Option ε
  begins : state 0 = start
  follows : ∀ moment, (event moment).elim (state (moment + 1) = state moment) fun event =>
    step (state moment) event (state (moment + 1))

/-- Some event of these can be taken. -/
def Enabled (step : σ → ε → σ → Prop) (own : ε → Prop) (state : σ) : Prop :=
  ∃ event next, own event ∧ step state event next

/-- A step that brings somebody nearer, or is another's and leaves it where it was. -/
def Nears (rank : σ → Nat) (own : ε → Prop) (state : σ) (event : ε) (next : σ) : Prop :=
  rank next < rank state ∨ rank next = rank state ∧ ¬ own event

theorem Nears.le {rank : σ → Nat} {own : ε → Prop} {state next : σ} {event : ε} (nears : Nears rank own state event next) :
    rank next ≤ rank state := nears.elim Nat.le_of_lt fun stays => stays.1.le

namespace Execution

variable {step : σ → ε → σ → Prop} {start : σ} (execution : Execution step start)

/-- Whoever takes these events takes one again and again, if it can do so again and again. -/
def Fair (own : ε → Prop) : Prop :=
  (∃ᶠ moment in atTop, Enabled step own (execution.state moment)) →
    ∃ᶠ moment in atTop, ∃ event, execution.event moment = some event ∧ own event

/-- After the one, sooner or later, comes the other. -/
def LeadsTo (before goal : σ → Prop) : Prop :=
  ∀ moment, before (execution.state moment) → ∃ later, moment ≤ later ∧ goal (execution.state later)

variable {execution} {before middle goal : σ → Prop}

theorem taken {moment : Nat} {event : ε} (happens : execution.event moment = some event) :
    step (execution.state moment) event (execution.state (moment + 1)) := by
  have follows := execution.follows moment
  rwa [happens] at follows

theorem idle {moment : Nat} (happens : execution.event moment = none) :
    execution.state (moment + 1) = execution.state moment := by
  have follows := execution.follows moment
  rwa [happens] at follows

/-- Each state of an execution is reached by a run. -/
theorem reached (execution : Execution step start) (moment : Nat) :
    ∃ events, Run step start events (execution.state moment) := by
  induction moment with
  | zero =>
    rw [execution.begins]
    exact ⟨[], .nil⟩
  | succ moment ih =>
    obtain ⟨events, run⟩ := ih
    cases happens : execution.event moment with
    | none =>
      rw [idle happens]
      exact ⟨events, run⟩
    | some event => exact ⟨_, run.snoc (taken happens)⟩

/-- What every step keeps holds from some moment on. -/
theorem persists (holds : σ → Prop) {moment later : Nat} (now : holds (execution.state moment)) (order : moment ≤ later)
    (kept : ∀ moment event, holds (execution.state moment) → execution.event moment = some event →
      holds (execution.state (moment + 1))) : holds (execution.state later) := by
  induction order with
  | refl => exact now
  | @step last _ ih =>
    cases happens : execution.event last with
    | none => exact idle happens ▸ ih
    | some event => exact kept last event ih happens

theorem LeadsTo.trans (first : execution.LeadsTo before middle) (second : execution.LeadsTo middle goal) :
    execution.LeadsTo before goal := by
  intro moment start
  obtain ⟨later, order, arrived⟩ := first moment start
  obtain ⟨last, further, reached⟩ := second later arrived
  exact ⟨last, order.trans further, reached⟩

/-- Somebody who is treated fairly reaches a goal, if each step of its own brings it nearer, no
step of others takes it further away, and there are moments again and again at which it can
go on. -/
theorem Fair.leadsTo {own : ε → Prop} (fair : execution.Fair own) (rank : σ → Nat) (free : σ → Prop) {holds : σ → Prop}
    (always : ∀ moment, holds (execution.state moment)) (recurs : ∃ᶠ moment in atTop, free (execution.state moment))
    (ready : ∀ state, holds state → before state → ¬ goal state → free state → Enabled step own state)
    (moves : ∀ state event next, holds state → before state → ¬ goal state → step state event next →
      goal next ∨ before next ∧ Nears rank own state event next) :
    execution.LeadsTo before goal := by
  intro moment start
  generalize high : rank (execution.state moment) = height
  induction height using Nat.strongRecOn generalizing moment with
  | ind height ih =>
    by_contra never
    have far (later : Nat) (order : moment ≤ later) : ¬ goal (execution.state later) :=
      fun there => never ⟨later, order, there⟩
    have waits {later : Nat} (order : moment ≤ later) :
        before (execution.state later) ∧ rank (execution.state later) ≤ height := by
      induction order with
      | refl => exact ⟨start, high.le⟩
      | @step last order along =>
        cases happens : execution.event last with
        | none => exact idle happens ▸ along
        | some event =>
          rcases moves _ _ _ (always last) along.1 (far _ order) (taken happens) with there | ⟨still, nears⟩
          · exact absurd there (far _ (Nat.le_succ_of_le order))
          · exact ⟨still, nears.le.trans along.2⟩
    have able : ∃ᶠ moment in atTop, Enabled step own (execution.state moment) := by
      refine frequently_atTop.mpr fun bound => ?_
      obtain ⟨later, order, free⟩ := frequently_atTop.mp recurs (max moment bound)
      have after : moment ≤ later := (Nat.le_max_left ..).trans order
      exact ⟨later, (Nat.le_max_right ..).trans order, ready _ (always later) (waits after).1 (far _ after) free⟩
    obtain ⟨later, order, event, happens, mine⟩ := frequently_atTop.mp (fair able) moment
    obtain ⟨stands, low⟩ := waits order
    rcases moves _ _ _ (always later) stands (far _ order) (taken happens) with there | ⟨still, nears⟩
    · exact far _ (Nat.le_succ_of_le order) there
    · have nearer := nears.resolve_right fun stays => stays.2 mine
      obtain ⟨last, further, there⟩ := ih _ (nearer.trans_le low) (later + 1) still rfl
      exact far last ((Nat.le_succ_of_le order).trans further) there

/-- The same for somebody who can always go on. -/
theorem Fair.leads {own : ε → Prop} (fair : execution.Fair own) (rank : σ → Nat) {holds : σ → Prop}
    (always : ∀ moment, holds (execution.state moment))
    (ready : ∀ state, holds state → before state → ¬ goal state → Enabled step own state)
    (moves : ∀ state event next, holds state → before state → ¬ goal state → step state event next →
      goal next ∨ before next ∧ Nears rank own state event next) :
    execution.LeadsTo before goal :=
  fair.leadsTo rank (fun _ => True) always (.of_forall fun _ => trivial)
    (fun state held stands far _ => ready state held stands far) moves

/-- Somebody who cannot go on where an execution rests is not passed over. -/
theorem fair_resting {own : ε → Prop} {bound : Nat} {last : σ}
    (rests : ∀ later, bound ≤ later → execution.state later = last) (stuck : ¬ Enabled step own last) :
    execution.Fair own := by
  intro able
  obtain ⟨later, order, enabled⟩ := frequently_atTop.mp able bound
  exact absurd (rests later order ▸ enabled) stuck

/-- After a run nothing need happen any more. -/
theorem resting {events : List ε} {last : σ} (run : Run step start events last) :
    ∃ execution : Execution step start, ∀ later, events.length ≤ later →
      execution.state later = last ∧ execution.event later = none := by
  induction run with
  | nil => exact ⟨⟨fun _ => start, fun _ => none, rfl, fun _ => rfl⟩, fun _ _ => ⟨rfl, rfl⟩⟩
  | @snoc events state next event run happens ih =>
    obtain ⟨execution, rests⟩ := ih
    refine ⟨⟨fun moment => if moment ≤ events.length then execution.state moment else next,
      fun moment => if moment = events.length then some event else execution.event moment, ?_, fun moment => ?_⟩, ?_⟩
    · simpa using execution.begins
    · rcases Nat.lt_trichotomy moment events.length with earlier | rfl | later
      · simpa [earlier.le, earlier.ne, Nat.succ_le_of_lt earlier] using execution.follows moment
      · simpa [(rests _ (Nat.le_refl _)).1, Nat.not_succ_le_self] using happens
      · simp [later.ne', Nat.not_le.mpr later, Nat.not_le.mpr (Nat.lt_succ_of_lt later), (rests _ later.le).2]
    · intro later past
      rw [List.length_append, List.length_singleton] at past
      simp [Nat.not_le.mpr (Nat.lt_of_succ_le past), (Nat.lt_of_succ_le past).ne', (rests _ (Nat.le_of_succ_le past)).2]

end Execution
end Transition
