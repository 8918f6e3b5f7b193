import Mathlib.Data.List.Basic

/-! Runs of a labelled step relation. A run keeps its whole trace of events, so
that a property of what happened earlier is a property of the trace and the
state needs no history of its own. -/

namespace Transition

variable {σ ε : Type*}

/-- The events of a run in the order they were taken, and the state after them. -/
inductive Run (step : σ → ε → σ → Prop) (start : σ) : List ε → σ → Prop where
  | nil : Run step start [] start
  | snoc {events : List ε} {state next : σ} {event : ε} :
      Run step start events state → step state event next →
      Run step start (events ++ [event]) next

/-- The steps of a relation that meet a condition on the state before them and
the event taken there. -/
def Guarded (step : σ → ε → σ → Prop) (condition : σ → ε → Prop) (state : σ) (event : ε) (next : σ) : Prop :=
  step state event next ∧ condition state event

/-- The relation of a partial step function. -/
def Steps (step : σ → ε → Option σ) (state : σ) (event : ε) (next : σ) : Prop :=
  step state event = some next

/-- What is counted in a trace, one event later. -/
theorem filterMap_snoc {β : Type*} (count : ε → Option β) (events : List ε) (event : ε) :
    (events ++ [event]).filterMap count = events.filterMap count ++ (count event).toList := by
  rw [List.filterMap_append]
  cases counted : count event <;> simp [counted]

namespace Run

variable {step : σ → ε → σ → Prop} {start state : σ} {events : List ε}

theorem single {event : ε} {next : σ} (taken : step start event next) : Run step start [event] next :=
  Run.nil.snoc taken

theorem append {later : List ε} {last : σ} (first : Run step start events state)
    (rest : Run step state later last) : Run step start (events ++ later) last := by
  induction rest with
  | nil => simpa only [List.append_nil] using first
  | snoc _ taken ih =>
    rw [← List.append_assoc]
    exact ih.snoc taken

/-- A property of trace and state that holds at the start and is kept by every
step holds at the end of every run. -/
theorem invariant {property : List ε → σ → Prop} (run : Run step start events state)
    (initial : property [] start)
    (kept : ∀ events state event next, property events state → step state event next →
      property (events ++ [event]) next) :
    property events state := by
  induction run with
  | nil => exact initial
  | snoc _ taken ih => exact kept _ _ _ _ ih taken

/-- The same for a property of states alone. -/
theorem preserves {property : σ → Prop} (run : Run step start events state) (initial : property start)
    (kept : ∀ state event next, property state → step state event next → property next) :
    property state := by
  induction run with
  | nil => exact initial
  | snoc _ taken ih => exact kept _ _ _ ih taken

theorem mono {other : σ → ε → σ → Prop} (run : Run step start events state)
    (implies : ∀ state event next, step state event next → other state event next) :
    Run other start events state := by
  induction run with
  | nil => exact .nil
  | snoc _ taken ih => exact ih.snoc (implies _ _ _ taken)

/-- A run of which every event meets the condition where it is taken. -/
theorem guarded {condition : σ → ε → Prop} (run : Run step start events state)
    (met : ∀ (index : Nat) event state, events[index]? = some event → Run step start (events.take index) state →
      condition state event) :
    Run (Guarded step condition) start events state := by
  induction run with
  | nil => exact .nil
  | @snoc events state next event before taken ih =>
    refine (ih fun index event state found prior => ?_).snoc ⟨taken, ?_⟩
    · have inside : index < events.length := (List.getElem?_eq_some_iff.mp found).1
      refine met index event state (by rwa [List.getElem?_append_left inside]) ?_
      rwa [List.take_append_of_le_length (Nat.le_of_lt inside)]
    · apply met events.length event state (by simp)
      rwa [List.take_left' rfl]

/-- A run of another relation that goes along, if each step does. -/
theorem simulated {τ δ : Type*} {other : τ → δ → τ → Prop} {relates : σ → τ → Prop} {label : ε → δ} {begin : τ}
    (run : Run step start events state) (initially : relates start begin)
    (steps : ∀ state event next along, relates state along → step state event next →
      ∃ after, other along (label event) after ∧ relates next after) :
    ∃ along, Run other begin (events.map label) along ∧ relates state along := by
  induction run with
  | nil => exact ⟨begin, .nil, initially⟩
  | snoc _ taken ih =>
    obtain ⟨along, alongside, related⟩ := ih
    obtain ⟨after, moved, still⟩ := steps _ _ _ along related taken
    refine ⟨after, ?_, still⟩
    rw [List.map_append]
    exact alongside.snoc moved

theorem unguarded {condition : σ → ε → Prop} (run : Run (Guarded step condition) start events state) :
    Run step start events state :=
  run.mono fun _ _ _ taken => taken.1

/-- A run seen through a function of its states, if each step is seen as one of another
relation or as none. What is said about the trace that is seen may refer to the run. -/
theorem viewed {τ δ : Type*} {other : τ → δ → τ → Prop} {view : σ → τ} {relates : List ε → σ → List δ → Prop}
    (run : Run step start events state) (initially : relates [] start [])
    (steps : ∀ events state event next seen, Run step start events state → relates events state seen →
      step state event next → ∃ label : Option δ, relates (events ++ [event]) next (seen ++ label.toList) ∧
        label.elim (view next = view state) fun label => other (view state) label (view next)) :
    ∃ seen, Run other (view start) seen (view state) ∧ relates events state seen := by
  induction run with
  | nil => exact ⟨[], .nil, initially⟩
  | snoc before taken ih =>
    obtain ⟨seen, alongside, related⟩ := ih
    obtain ⟨label, still, moved⟩ := steps _ _ _ _ seen before related taken
    refine ⟨seen ++ label.toList, ?_, still⟩
    cases label with
    | none =>
      rw [Option.toList_none, List.append_nil, show _ = _ from moved]
      exact alongside
    | some label => exact alongside.snoc moved

end Run

/-- A run of which every prefix satisfies a property of its trace and state. -/
inductive Throughout (step : σ → ε → σ → Prop) (property : List ε → σ → Prop) (start : σ) :
    List ε → σ → Prop where
  | nil : property [] start → Throughout step property start [] start
  | snoc {events : List ε} {state next : σ} {event : ε} :
      Throughout step property start events state → step state event next →
      property (events ++ [event]) next →
      Throughout step property start (events ++ [event]) next

namespace Throughout

variable {step : σ → ε → σ → Prop} {property : List ε → σ → Prop} {start state : σ} {events : List ε}

theorem run (whole : Throughout step property start events state) : Run step start events state := by
  induction whole with
  | nil _ => exact .nil
  | snoc _ taken _ ih => exact ih.snoc taken

theorem last (whole : Throughout step property start events state) : property events state := by
  cases whole with
  | nil holds => exact holds
  | snoc _ _ holds => exact holds

/-- A property of states that the run which goes along has too. -/
theorem simulated {τ δ : Type*} {other : τ → δ → τ → Prop} {relates : σ → τ → Prop} {label : ε → δ} {begin : τ}
    {holds : σ → Prop} {also : τ → Prop} (whole : Throughout step (fun _ => holds) start events state)
    (initially : relates start begin)
    (steps : ∀ state event next along, relates state along → step state event next →
      ∃ after, other along (label event) after ∧ relates next after)
    (carries : ∀ state along, relates state along → holds state → also along) :
    ∃ along, Throughout other (fun _ => also) begin (events.map label) along ∧ relates state along := by
  induction whole with
  | nil held => exact ⟨begin, .nil (carries _ _ initially held), initially⟩
  | snoc _ taken held ih =>
    obtain ⟨along, alongside, related⟩ := ih
    obtain ⟨after, moved, still⟩ := steps _ _ _ along related taken
    refine ⟨after, ?_, still⟩
    rw [List.map_append]
    exact alongside.snoc moved (carries _ _ still held)

theorem of_run (run : Run step start events state)
    (holds : ∀ prior state, prior <+: events → Run step start prior state → property prior state) :
    Throughout step property start events state := by
  induction run with
  | nil => exact .nil (holds [] start List.prefix_rfl .nil)
  | snoc before taken ih =>
    refine .snoc (ih fun prior state early => holds prior state (early.trans (List.prefix_append _ _))) taken ?_
    exact holds _ _ List.prefix_rfl (before.snoc taken)

end Throughout

/-- Execution of a list of events by a partial step function. -/
def execute (step : σ → ε → Option σ) : σ → List ε → Option σ
  | state, [] => some state
  | state, event :: rest => (step state event).bind fun next => execute step next rest

theorem execute_run {step : σ → ε → Option σ} {start last : σ} {events : List ε}
    (executed : execute step start events = some last) : Run (Steps step) start events last := by
  induction events generalizing start with
  | nil =>
    cases executed
    exact .nil
  | cons event rest ih =>
    obtain ⟨next, taken, remaining⟩ := Option.bind_eq_some_iff.mp executed
    exact (Run.single taken).append (ih remaining)

theorem run_execute {step : σ → ε → Option σ} {start last : σ} {events : List ε}
    (run : Run (Steps step) start events last) : execute step start events = some last := by
  have extend (first : σ) (prior : List ε) (event : ε) :
      execute step first (prior ++ [event]) = (execute step first prior).bind fun state => step state event := by
    induction prior generalizing first with
    | nil => simp [execute]
    | cons head rest ih =>
      simp only [List.cons_append, execute]
      cases step first head with
      | none => rfl
      | some next => exact ih next
  induction run with
  | nil => rfl
  | snoc _ taken ih =>
    rw [extend, ih]
    exact taken

/-- The last step of a guarded run of a step function. -/
theorem guarded_snoc {step : σ → ε → Option σ} {condition : σ → ε → Prop} {start state next : σ} {events : List ε}
    {event : ε} (before : Run (Steps step) start events state) (taken : step state event = some next) :
    Run (Guarded (Steps step) condition) start (events ++ [event]) next ↔
      Run (Guarded (Steps step) condition) start events state ∧ condition state event := by
  constructor
  · intro run
    generalize whole : events ++ [event] = trace at run
    cases run with
    | nil => cases List.append_ne_nil_of_right_ne_nil _ (List.cons_ne_nil _ _) whole
    | snoc prior guarded =>
      obtain ⟨rfl, last⟩ := List.append_inj' whole rfl
      cases last
      cases (run_execute before).symm.trans (run_execute prior.unguarded)
      exact ⟨prior, guarded.2⟩
  · exact fun ⟨run, met⟩ => run.snoc ⟨taken, met⟩

/-- A run by evaluation: the execution succeeds and its last state looks as computed. -/
theorem execute_summary {step : σ → ε → Option σ} {start : σ} {events : List ε} {β : Type*} {summary : σ → β}
    {value : β} (computed : (execute step start events).map summary = some value) :
    ∃ last, Run (Steps step) start events last ∧ summary last = value := by
  obtain ⟨last, executed, same⟩ := Option.map_eq_some_iff.mp computed
  exact ⟨last, execute_run executed, same⟩

/-- A partial step function that refuses the steps that do not meet a condition. -/
def restrict (step : σ → ε → Option σ) (condition : σ → ε → Prop) [∀ state event, Decidable (condition state event)]
    (state : σ) (event : ε) : Option σ :=
  if condition state event then step state event else none

theorem restricted_run {step : σ → ε → Option σ} {condition : σ → ε → Prop}
    [∀ state event, Decidable (condition state event)] {start last : σ} {events : List ε}
    (run : Run (Steps (restrict step condition)) start events last) : Run (Guarded (Steps step) condition) start events last := by
  apply run.mono
  intro state event next taken
  unfold Steps restrict at taken
  split at taken
  next met => exact ⟨taken, met⟩
  next => cases taken

end Transition
