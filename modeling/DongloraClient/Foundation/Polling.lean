import DongloraClient.Foundation.Transition

/-! A loop that wakes once a period and acts if nobody has acted for as long as that.
Time is discrete. The silence between two actions is at most a period as long as every
other action that does not fall on a wake-up is followed by another within a period. -/

namespace Polling
open Transition

/-- `marked` is the time of the last action that the loop knows of, and `acted` that of the
last action there has been. -/
structure State where
  now : Nat
  due : Nat
  marked : Nat
  acted : Nat

inductive Event where
  | tick
  | poll
  | act
  deriving DecidableEq, Repr

/-- The loop may or may not learn of its own actions. -/
inductive Step (period : Nat) : State → Event → State → Prop where
  | tick {state : State} : state.now < state.due → Step period state .tick { state with now := state.now + 1 }
  | skip {state : State} : state.now = state.due → state.now - state.marked < period →
      Step period state .poll { state with due := state.now + period }
  | fire {state : State} {marked : Nat} : state.now = state.due → period ≤ state.now - state.marked →
      (marked = state.marked ∨ marked = state.now) →
      Step period state .poll { state with due := state.now + period, marked, acted := state.now }
  | act {state : State} : Step period state .act { state with marked := state.now, acted := state.now }

/-- The loop has just gone to sleep for the first time. -/
def start (period : Nat) : State := ⟨0, period, 0, 0⟩

/-- What a bystander counts: the time, and the time since the last action of others, unless
that was at a multiple of the period. -/
structure Watch where
  time : Nat := 0
  since : Option Nat := none

def Watch.observe (period : Nat) (watch : Watch) : Event → Watch
  | .tick => ⟨watch.time + 1, watch.since.map (· + 1)⟩
  | .poll => watch
  | .act => ⟨watch.time, if period ∣ watch.time then none else some 0⟩

def observed (period : Nat) (events : List Event) : Watch := events.foldl (Watch.observe period) {}

/-- The count does not exceed the period. -/
def Watch.Within (period : Nat) (watch : Watch) : Prop := ∀ elapsed, watch.since = some elapsed → elapsed ≤ period

/-- It never does. -/
def Timely (period : Nat) (events : List Event) : Prop := ∀ prior, prior <+: events → (observed period prior).Within period

/-- Nothing has been done for longer than a period. -/
def State.silence (state : State) : Nat := state.now - state.acted

variable {period : Nat} {state next : State} {event : Event} {events : List Event} {watch : Watch}

/-- The loop will fire when it wakes next, or it has just been forestalled. -/
def Covered (period : Nat) (state : State) : Prop :=
  (state.marked + period ≤ state.due ∧ state.due ≤ state.acted + period) ∨
    (state.marked = state.due ∧ state.acted = state.due ∧ state.now = state.due)

/-- The last action was not the loop's, and not at a multiple of the period. -/
structure Exposed (period : Nat) (state : State) (elapsed : Nat) : Prop where
  marked : state.marked = state.acted
  elapsed : state.acted + elapsed = state.now
  between : ¬ period ∣ state.acted

/-- What the count says about the state. -/
structure Tracks (period : Nat) (watch : Watch) (state : State) : Prop where
  time : watch.time = state.now
  aligned : period ∣ state.due
  asleep : state.now ≤ state.due
  woken : state.due ≤ state.now + period
  known : state.marked ≤ state.now
  covered : watch.since = none → Covered period state
  exposed : ∀ elapsed, watch.since = some elapsed → Exposed period state elapsed

theorem start_tracks (period : Nat) : Tracks period {} (start period) where
  time := rfl
  aligned := Nat.dvd_refl period
  asleep := Nat.zero_le period
  woken := Nat.le_of_eq (Nat.zero_add _).symm
  known := Nat.le_refl 0
  covered _ := Or.inl ⟨Nat.le_of_eq (Nat.zero_add _), Nat.le_of_eq (Nat.zero_add _).symm⟩
  exposed _ none := nomatch none

namespace Tracks

theorem silence_iff (tracks : Tracks period watch state) : state.silence ≤ period ↔ watch.Within period := by
  cases since : watch.since with
  | none =>
    refine iff_of_true ?_ fun elapsed other => ?_
    · have asleep := tracks.asleep
      have covered := tracks.covered since
      unfold Covered at covered
      unfold State.silence
      omega
    · cases since.symm.trans other
  | some elapsed =>
    have exposed := tracks.exposed elapsed since
    have same : state.silence = elapsed := Nat.sub_eq_of_eq_add (exposed.elapsed.symm.trans (Nat.add_comm _ _))
    rw [same]
    constructor
    · intro short other equal
      cases since.symm.trans equal
      exact short
    · exact fun within => within elapsed since

theorem tick (tracks : Tracks period watch state) (waiting : state.now < state.due) :
    Tracks period (watch.observe period .tick) { state with now := state.now + 1 } where
  time := congrArg Nat.succ tracks.time
  aligned := tracks.aligned
  asleep := waiting
  woken := Nat.le_trans tracks.woken (Nat.add_le_add_right (Nat.le_succ _) _)
  known := Nat.le_succ_of_le tracks.known
  covered none := by
    obtain ⟨fires, recent⟩ | ⟨_, _, due⟩ := tracks.covered (Option.map_eq_none_iff.mp none)
    · exact Or.inl ⟨fires, recent⟩
    · exact absurd due (Nat.ne_of_lt waiting)
  exposed elapsed some := by
    obtain ⟨before, since, rfl⟩ := Option.map_eq_some_iff.mp some
    have exposed := tracks.exposed before since
    exact ⟨exposed.marked, congrArg Nat.succ exposed.elapsed, exposed.between⟩

theorem skip (tracks : Tracks period watch state) (woken : state.now = state.due)
    (recent : state.now - state.marked < period) :
    Tracks period watch { state with due := state.now + period } where
  time := tracks.time
  aligned := woken ▸ Nat.dvd_add tracks.aligned (Nat.dvd_refl period)
  asleep := Nat.le_add_right _ _
  woken := Nat.le_refl _
  known := tracks.known
  covered none := by
    obtain ⟨fires, _⟩ | ⟨marked, acted, _⟩ := tracks.covered none
    · exact absurd recent (by omega)
    · refine Or.inl ⟨?_, ?_⟩
      · exact Nat.le_of_eq (congrArg (· + period) (marked.trans woken.symm))
      · exact Nat.le_of_eq (congrArg (· + period) (woken.trans acted.symm))
  exposed elapsed since := by
    have exposed := tracks.exposed elapsed since
    exact ⟨exposed.marked, exposed.elapsed, exposed.between⟩

theorem fire (tracks : Tracks period watch state) (positive : 0 < period) (within : watch.Within period)
    (woken : state.now = state.due) (idle : period ≤ state.now - state.marked) {marked : Nat}
    (learned : marked = state.marked ∨ marked = state.now) :
    Tracks period watch { state with due := state.now + period, marked, acted := state.now } := by
  have known : marked ≤ state.now := learned.elim (fun same => same ▸ tracks.known) Nat.le_of_eq
  refine ⟨tracks.time, ?_, Nat.le_add_right _ _, Nat.le_refl _, known, fun _ => ?_, fun elapsed since => ?_⟩
  · exact woken ▸ Nat.dvd_add tracks.aligned (Nat.dvd_refl period)
  · exact Or.inl ⟨Nat.add_le_add_right known _, Nat.le_refl _⟩
  · have exposed := tracks.exposed elapsed since
    have short := within elapsed since
    have exact : state.acted + period = state.due := by
      have marked := exposed.marked
      have counted := exposed.elapsed
      omega
    have aligned : period ∣ state.acted := (Nat.dvd_add_left (Nat.dvd_refl period)).mp (exact ▸ tracks.aligned)
    exact absurd aligned exposed.between

/-- At a multiple of the period the loop wakes, or has just woken. -/
theorem wakes (tracks : Tracks period watch state) (multiple : period ∣ state.now) :
    state.now = state.due ∨ state.now + period = state.due := by
  obtain ⟨early, late⟩ := And.intro tracks.asleep tracks.woken
  have apart : period ∣ state.due - state.now := Nat.dvd_sub tracks.aligned multiple
  rcases Nat.eq_zero_or_pos (state.due - state.now) with zero | positive
  · omega
  · have least := Nat.le_of_dvd positive apart
    omega

theorem act (tracks : Tracks period watch state) :
    Tracks period (watch.observe period .act) { state with marked := state.now, acted := state.now } := by
  refine ⟨tracks.time, tracks.aligned, tracks.asleep, tracks.woken, Nat.le_refl _, fun none => ?_, fun elapsed some => ?_⟩
  · have multiple : period ∣ state.now := by
      by_contra between
      rw [← tracks.time] at between
      simp [Watch.observe, between] at none
    rcases tracks.wakes multiple with due | later
    · exact Or.inr ⟨due, due, due⟩
    · exact Or.inl ⟨Nat.le_of_eq later, Nat.le_of_eq later.symm⟩
  · have between : ¬ period ∣ watch.time := fun multiple => by simp [Watch.observe, multiple] at some
    simp only [Watch.observe, between, if_false, Option.some.injEq] at some
    exact ⟨rfl, some ▸ Nat.add_zero _, tracks.time ▸ between⟩

theorem step (tracks : Tracks period watch state) (positive : 0 < period) (within : watch.Within period)
    (taken : Step period state event next) : Tracks period (watch.observe period event) next := by
  cases taken with
  | tick waiting => exact tracks.tick waiting
  | skip woken recent => exact tracks.skip woken recent
  | fire woken idle learned => exact tracks.fire positive within woken idle learned
  | act => exact tracks.act

end Tracks

theorem observed_snoc (events : List Event) (event : Event) :
    observed period (events ++ [event]) = (observed period events).observe period event := by
  rw [observed, List.foldl_append]
  rfl

theorem Timely.prefix_of {prior : List Event} (timely : Timely period events) (early : prior <+: events) :
    Timely period prior :=
  fun earlier first => timely earlier (first.trans early)

theorem Timely.nil (period : Nat) : Timely period [] := by
  intro prior early
  rw [List.prefix_nil.mp early]
  exact nofun

theorem Timely.snoc (timely : Timely period events) (within : (observed period (events ++ [event])).Within period) :
    Timely period (events ++ [event]) := by
  intro prior early
  rcases List.prefix_concat_iff.mp early with rfl | early
  · exact within
  · exact timely prior early

theorem observed_ticks (events : List Event) (count : Nat) : observed period (events ++ List.replicate count .tick) =
    ⟨(observed period events).time + count, (observed period events).since.map (· + count)⟩ := by
  induction count with
  | zero => simp
  | succ count ih =>
    rw [List.replicate_succ', ← List.append_assoc, observed_snoc, ih]
    simp [Watch.observe, Function.comp_def, Nat.add_assoc]

/-- Time may pass as long as the count stays within the period. -/
theorem Timely.ticks (timely : Timely period events) (count : Nat)
    (short : ∀ elapsed, (observed period events).since = some elapsed → elapsed + count ≤ period) :
    Timely period (events ++ List.replicate count .tick) := by
  induction count with
  | zero => simpa using timely
  | succ count ih =>
    have whole : events ++ List.replicate (count + 1) .tick = events ++ List.replicate count .tick ++ [.tick] := by
      rw [List.replicate_succ', List.append_assoc]
    have earlier := ih fun elapsed since => Nat.le_of_succ_le (short elapsed since)
    rw [whole]
    refine earlier.snoc fun elapsed since => ?_
    rw [← whole, observed_ticks] at since
    obtain ⟨before, same, rfl⟩ := Option.map_eq_some_iff.mp since
    exact short before same

/-- A run that is timely tracks the count. -/
theorem Timely.tracks (positive : 0 < period) (timely : Timely period events)
    (run : Run (Step period) (start period) events state) : Tracks period (observed period events) state := by
  induction run with
  | nil => exact start_tracks period
  | @snoc events state next event before taken ih =>
    have earlier : Timely period events := timely.prefix_of (List.prefix_append _ _)
    rw [observed_snoc]
    exact (ih earlier).step positive (earlier events List.prefix_rfl) taken

/-- A timely run is never silent for longer than a period. -/
theorem Timely.silence (positive : 0 < period) (timely : Timely period events)
    (run : Run (Step period) (start period) events state) : state.silence ≤ period :=
  (timely.tracks positive run).silence_iff.mpr (timely events List.prefix_rfl)

/-- Only a timely run is. -/
theorem timely_of_silence (positive : 0 < period)
    (whole : Throughout (Step period) (fun _ state => state.silence ≤ period) (start period) events state) :
    Timely period events := by
  have both : Tracks period (observed period events) state ∧ Timely period events := by
    induction whole with
    | nil quiet =>
      have tracks := start_tracks period
      refine ⟨tracks, fun prior early => ?_⟩
      rw [List.prefix_nil.mp early]
      exact tracks.silence_iff.mp quiet
    | @snoc events state next event before taken quiet ih =>
      obtain ⟨tracks, timely⟩ := ih
      have after : Tracks period (observed period (events ++ [event])) next := by
        rw [observed_snoc]
        exact tracks.step positive (timely events List.prefix_rfl) taken
      refine ⟨after, fun prior early => ?_⟩
      rcases List.prefix_concat_iff.mp early with same | early
      · rw [same]
        exact after.silence_iff.mp quiet
      · exact timely prior early
  exact both.2

end Polling
