import Mathlib.Control.Lawful

/-! Programs that ask their environment for everything they cannot compute. A program is
a tree of requests; an environment says which answers a request may get in a state and
what the state is afterwards. Weakest preconditions are computed over the tree, so that
a program is verified by rewriting along its own text. -/

universe u

/-- `unfinished` is a loop that has used up its bound: it has returned nothing. -/
inductive Program (Op : Type) (Reply : Op → Type) (α : Type u) where
  | pure (value : α)
  | perform (op : Op) (next : Reply op → Program Op Reply α)
  | unfinished

namespace Program

variable {Op : Type} {Reply : Op → Type} {σ ε α β : Type}

def bind : Program Op Reply α → (α → Program Op Reply β) → Program Op Reply β
  | pure value, next => next value
  | perform op rest, next => perform op fun reply => (rest reply).bind next
  | unfinished, _ => unfinished

instance : Monad (Program Op Reply) where
  pure := pure
  bind := bind

/-- The executions of a program in an environment. -/
inductive Executes (answers : σ → (op : Op) → Reply op → σ → Prop) : Program Op Reply α → σ → α → σ → Prop where
  | pure (value : α) (state : σ) : Executes answers (pure value) state value state
  | perform {op : Op} {next : Reply op → Program Op Reply α} {state middle last : σ} {reply : Reply op} {value : α} :
      answers state op reply middle → Executes answers (next reply) middle value last →
      Executes answers (perform op next) state value last

/-- Every execution from a state ends as required. -/
def Always (answers : σ → (op : Op) → Reply op → σ → Prop) (ensured : α → σ → Prop) : Program Op Reply α → σ → Prop
  | pure value, state => ensured value state
  | perform op next, state =>
    ∀ reply middle, answers state op reply middle → Always answers ensured (next reply) middle
  | unfinished, _ => True

variable {answers : σ → (op : Op) → Reply op → σ → Prop} {state last : σ}

theorem Executes.ends {program : Program Op Reply α} {ensured : α → σ → Prop} {value : α}
    (executed : Executes answers program state value last) (always : Always answers ensured program state) :
    ensured value last := by
  induction executed with
  | pure value state => exact always
  | perform answered _ ih => exact ih (always _ _ answered)

theorem always_iff {program : Program Op Reply α} {ensured : α → σ → Prop} :
    Always answers ensured program state ↔
      ∀ value last, Executes answers program state value last → ensured value last := by
  constructor
  · intro always value last executed
    exact executed.ends always
  · intro holds
    induction program generalizing state with
    | pure value => exact holds value state (.pure value state)
    | perform op next ih =>
      intro reply middle answered
      exact ih reply fun value last executed => holds value last (.perform answered executed)
    | unfinished => trivial

theorem Always.mono {program : Program Op Reply α} {ensured weaker : α → σ → Prop}
    (always : Always answers ensured program state) (implies : ∀ value last, ensured value last → weaker value last) :
    Always answers weaker program state :=
  always_iff.mpr fun value last executed => implies value last (executed.ends always)

theorem always_bind (program : Program Op Reply α) (next : α → Program Op Reply β) (ensured : β → σ → Prop)
    (state : σ) :
    Always answers ensured (program >>= next) state ↔
      Always answers (fun value middle => Always answers ensured (next value) middle) program state := by
  induction program generalizing state with
  | pure value => exact Iff.rfl
  | perform op rest ih =>
    exact forall_congr' fun reply => forall_congr' fun middle => imp_congr_right fun _ => ih reply middle
  | unfinished => exact Iff.rfl

/-- Whatever the replies, the program makes only these requests. -/
def Requests (allowed : Op → Prop) : Program Op Reply α → Prop
  | pure _ => True
  | perform op next => allowed op ∧ ∀ reply, Requests allowed (next reply)
  | unfinished => True

theorem Requests.bind {allowed : Op → Prop} {program : Program Op Reply α} {next : α → Program Op Reply β}
    (first : Requests allowed program) (rest : ∀ value, Requests allowed (next value)) :
    Requests allowed (program >>= next) := by
  induction program with
  | pure value => exact rest value
  | perform op remaining ih => exact ⟨first.1, fun reply => ih reply (first.2 reply)⟩
  | unfinished => trivial

theorem Requests.mono {allowed wider : Op → Prop} {program : Program Op Reply α} (requests : Requests allowed program)
    (implies : ∀ op, allowed op → wider op) : Requests wider program := by
  induction program with
  | pure value => trivial
  | perform op next ih => exact ⟨implies op requests.1, fun reply => ih reply (requests.2 reply)⟩
  | unfinished => trivial

/-- An invariant that these requests keep. -/
theorem Requests.always {allowed : Op → Prop} {invariant : σ → Prop} {program : Program Op Reply α}
    (requests : Requests allowed program)
    (kept : ∀ state op reply next, allowed op → answers state op reply next → invariant state → invariant next)
    (holds : invariant state) : Always answers (fun _ => invariant) program state := by
  induction program generalizing state with
  | pure value => exact holds
  | perform op next ih =>
    intro reply middle answered
    exact ih reply (requests.2 reply) (kept _ _ _ _ requests.1 answered holds)
  | unfinished => trivial

/-- Execution with an environment that decides its answers. -/
def execute (respond : σ → (op : Op) → Option (Reply op × σ)) : Program Op Reply α → σ → Option (α × σ)
  | pure value, state => some (value, state)
  | perform op next, state =>
    (respond state op).bind fun answer => execute respond (next answer.1) answer.2
  | unfinished, _ => none

theorem execute_executes {respond : σ → (op : Op) → Option (Reply op × σ)}
    (sound : ∀ state op reply next, respond state op = some (reply, next) → answers state op reply next)
    {program : Program Op Reply α} {value : α} (executed : execute respond program state = some (value, last)) :
    Executes answers program state value last := by
  induction program generalizing state with
  | pure returned =>
    cases executed
    exact .pure _ _
  | perform op next ih =>
    obtain ⟨⟨reply, middle⟩, answered, rest⟩ := Option.bind_eq_some_iff.mp executed
    exact .perform (sound _ _ _ _ answered) (ih reply rest)
  | unfinished => cases executed

/-- One assertion of all states that a program passes through, another of the last. The
program does not run out. -/
def Along (answers : σ → (op : Op) → Reply op → σ → Prop) (holds : σ → Prop) (ensured : α → σ → Prop) :
    Program Op Reply α → σ → Prop
  | pure value, state => holds state ∧ ensured value state
  | perform op next, state =>
    holds state ∧ ∀ reply middle, answers state op reply middle → Along answers holds ensured (next reply) middle
  | unfinished, _ => False

namespace Along

variable {holds : σ → Prop} {ensured : α → σ → Prop} {program : Program Op Reply α}

theorem now (along : Along answers holds ensured program state) : holds state := by
  cases program with
  | pure | perform => exact along.1
  | unfinished => exact along.elim

theorem ends {value : α} (along : Along answers holds ensured program state)
    (executed : Executes answers program state value last) : holds last ∧ ensured value last := by
  induction executed with
  | pure value state => exact along
  | perform answered _ ih => exact ih (along.2 _ _ answered)

theorem bind {next : α → Program Op Reply β} {ensured : β → σ → Prop}
    (first : Along answers holds (fun value middle => holds middle → Along answers holds ensured (next value) middle)
      program state) :
    Along answers holds ensured (program >>= next) state := by
  induction program generalizing state with
  | pure value => exact first.2 first.1
  | perform op rest ih => exact ⟨first.1, fun reply middle answered => ih reply (first.2 reply middle answered)⟩
  | unfinished => exact first.elim

theorem mono {weaker : σ → Prop} {ensured' : α → σ → Prop} (along : Along answers holds ensured program state)
    (implies : ∀ state, holds state → weaker state) (ends : ∀ value last, ensured value last → ensured' value last) :
    Along answers weaker ensured' program state := by
  induction program generalizing state with
  | pure value => exact ⟨implies _ along.1, ends _ _ along.2⟩
  | perform op next ih =>
    exact ⟨implies _ along.1, fun reply middle answered => ih reply (along.2 reply middle answered)⟩
  | unfinished => exact along.elim

end Along

/-- A property of a program and of all that is left of it after any replies. -/
def Everywhere (holds : Program Op Reply α → Prop) : Program Op Reply α → Prop
  | pure value => holds (pure value)
  | perform op next => holds (perform op next) ∧ ∀ reply, Everywhere holds (next reply)
  | unfinished => holds unfinished

theorem Everywhere.now {holds : Program Op Reply α → Prop} {program : Program Op Reply α} (every : program.Everywhere holds) :
    holds program := by
  cases program with
  | pure | unfinished => exact every
  | perform => exact every.1

theorem Everywhere.bind {holds : Program Op Reply α → Prop} {follows : Program Op Reply β → Prop}
    {program : Program Op Reply α} {next : α → Program Op Reply β} (every : program.Everywhere holds)
    (rest : ∀ value, (next value).Everywhere follows)
    (joins : ∀ program, holds program → follows (program >>= next)) : (program >>= next).Everywhere follows := by
  induction program with
  | pure value => exact rest value
  | perform op remaining ih => exact ⟨joins _ every.1, fun reply => ih reply (every.2 reply)⟩
  | unfinished => exact joins _ every

/-- Surroundings that keep a record of all requests and replies, the latest first. -/
def Logged (answers : σ → (op : Op) → Reply op → σ → Prop) (state : σ × List (Sigma Reply)) (op : Op)
    (reply : Reply op) (next : σ × List (Sigma Reply)) : Prop :=
  answers state.1 op reply next.1 ∧ next.2 = ⟨op, reply⟩ :: state.2

/-- A deciding environment that keeps the record. -/
def logged (respond : σ → (op : Op) → Option (Reply op × σ)) (state : σ × List (Sigma Reply)) (op : Op) :
    Option (Reply op × σ × List (Sigma Reply)) :=
  (respond state.1 op).map fun answer => (answer.1, answer.2, ⟨op, answer.1⟩ :: state.2)

theorem logged_sound {respond : σ → (op : Op) → Option (Reply op × σ)}
    (sound : ∀ state op reply next, respond state op = some (reply, next) → answers state op reply next)
    (state : σ × List (Sigma Reply)) (op : Op) (reply : Reply op) (next : σ × List (Sigma Reply))
    (responded : logged respond state op = some (reply, next)) : Logged answers state op reply next := by
  obtain ⟨⟨given, after⟩, answered, same⟩ := Option.map_eq_some_iff.mp responded
  cases same
  exact ⟨sound _ _ _ _ answered, rfl⟩

section Exceptions
/-! Programs that may raise. A specification has one postcondition for returning and one
for raising. -/

/-- The postcondition of an outcome, taken apart. -/
def Outcomes (returns : α → σ → Prop) (raises : ε → σ → Prop) : Except ε α → σ → Prop
  | .ok value, state => returns value state
  | .error error, state => raises error state

/-- Every execution from a state returns or raises as required. -/
def Ensures (answers : σ → (op : Op) → Reply op → σ → Prop) (program : ExceptT ε (Program Op Reply) α)
    (returns : α → σ → Prop) (raises : ε → σ → Prop) (state : σ) : Prop :=
  Always answers (Outcomes returns raises) program.run state

def request (op : Op) : ExceptT ε (Program Op Reply) (Reply op) :=
  ExceptT.mk (perform op fun reply => .pure (.ok reply))

variable {returns : α → σ → Prop} {raises : ε → σ → Prop}

theorem ensures_logged (op : Op) {log : List (Sigma Reply)} {returns : Reply op → σ × List (Sigma Reply) → Prop}
    {raises : ε → σ × List (Sigma Reply) → Prop} :
    Ensures (Logged answers) (request op) returns raises (state, log) ↔
      ∀ reply next, answers state op reply next → returns reply (next, ⟨op, reply⟩ :: log) := by
  constructor
  · intro ensures reply next answered
    exact ensures reply _ ⟨answered, rfl⟩
  · rintro holds reply ⟨next, _⟩ ⟨answered, rfl⟩
    exact holds reply next answered

@[simp] theorem ensures_pure (value : α) :
    Ensures answers (Pure.pure value : ExceptT ε (Program Op Reply) α) returns raises state ↔ returns value state :=
  Iff.rfl

@[simp] theorem ensures_throw (error : ε) :
    Ensures answers (throw error : ExceptT ε (Program Op Reply) α) returns raises state ↔ raises error state :=
  Iff.rfl

@[simp] theorem ensures_bind (program : ExceptT ε (Program Op Reply) α) (next : α → ExceptT ε (Program Op Reply) β)
    {returns : β → σ → Prop} :
    Ensures answers (program >>= next) returns raises state ↔
      Ensures answers program (fun value middle => Ensures answers (next value) returns raises middle) raises state := by
  apply (always_bind program.run _ _ state).trans
  have same : (fun outcome middle => Always answers (Outcomes returns raises)
        (match outcome with
          | Except.ok value => (next value).run
          | Except.error error => pure (Except.error error)) middle) =
      Outcomes (fun value middle => Ensures answers (next value) returns raises middle) raises := by
    funext outcome middle
    cases outcome <;> rfl
  exact iff_of_eq (congrArg (fun ensured => Always answers ensured program.run state) same)

@[simp] theorem ensures_tryCatch (program : ExceptT ε (Program Op Reply) α)
    (handler : ε → ExceptT ε (Program Op Reply) α) :
    Ensures answers (tryCatch program handler) returns raises state ↔
      Ensures answers program returns (fun error middle => Ensures answers (handler error) returns raises middle)
        state := by
  apply (always_bind program.run _ _ state).trans
  have same : (fun outcome middle => Always answers (Outcomes returns raises)
        (match outcome with
          | Except.ok value => pure (Except.ok value)
          | Except.error error => (handler error).run) middle) =
      Outcomes returns (fun error middle => Ensures answers (handler error) returns raises middle) := by
    funext outcome middle
    cases outcome <;> rfl
  exact iff_of_eq (congrArg (fun ensured => Always answers ensured program.run state) same)

@[simp] theorem ensures_ite (condition : Prop) [Decidable condition] (first second : ExceptT ε (Program Op Reply) α) :
    Ensures answers (if condition then first else second) returns raises state ↔
      (condition → Ensures answers first returns raises state) ∧
        (¬ condition → Ensures answers second returns raises state) := by
  by_cases tested : condition <;> simp [tested]

theorem Ensures.mono {program : ExceptT ε (Program Op Reply) α} {returns' : α → σ → Prop} {raises' : ε → σ → Prop}
    (ensures : Ensures answers program returns raises state)
    (returned : ∀ value last, returns value last → returns' value last)
    (raised : ∀ error last, raises error last → raises' error last) :
    Ensures answers program returns' raises' state := by
  apply Always.mono ensures
  intro outcome last ended
  cases outcome with
  | ok value => exact returned value last ended
  | error error => exact raised error last ended

theorem Ensures.returned {program : ExceptT ε (Program Op Reply) α} {value : α}
    (ensures : Ensures answers program returns raises state)
    (executed : Executes answers program.run state (.ok value) last) : returns value last :=
  executed.ends ensures

theorem Ensures.raised {program : ExceptT ε (Program Op Reply) α} {error : ε}
    (ensures : Ensures answers program returns raises state)
    (executed : Executes answers program.run state (.error error) last) : raises error last :=
  executed.ends ensures

/-- The same for programs that may raise. -/
def Confined (allowed : Op → Prop) (program : ExceptT ε (Program Op Reply) α) : Prop := Requests allowed program.run

namespace Confined

variable {allowed : Op → Prop}

theorem pure (value : α) : Confined allowed (Pure.pure value : ExceptT ε (Program Op Reply) α) := trivial

theorem throw (error : ε) : Confined allowed (throw error : ExceptT ε (Program Op Reply) α) := trivial

theorem bind {program : ExceptT ε (Program Op Reply) α} {next : α → ExceptT ε (Program Op Reply) β}
    (first : Confined allowed program) (rest : ∀ value, Confined allowed (next value)) :
    Confined allowed (program >>= next) := by
  refine Requests.bind first fun outcome => ?_
  cases outcome with
  | ok value => exact rest value
  | error error => trivial

theorem tryCatch {program : ExceptT ε (Program Op Reply) α} {handler : ε → ExceptT ε (Program Op Reply) α}
    (body : Confined allowed program) (handled : ∀ error, Confined allowed (handler error)) :
    Confined allowed (tryCatch program handler) := by
  refine Requests.bind body fun outcome => ?_
  cases outcome with
  | ok value => trivial
  | error error => exact handled error

theorem ite {condition : Prop} [Decidable condition] {first second : ExceptT ε (Program Op Reply) α}
    (holds : Confined allowed first) (fails : Confined allowed second) :
    Confined allowed (if condition then first else second) := by
  split
  next => exact holds
  next => exact fails

theorem request {op : Op} (may : allowed op) : Confined allowed (request op : ExceptT ε (Program Op Reply) (Reply op)) :=
  ⟨may, fun _ => trivial⟩

theorem ensures {invariant : σ → Prop} {program : ExceptT ε (Program Op Reply) α} (confined : Confined allowed program)
    (kept : ∀ state op reply next, allowed op → answers state op reply next → invariant state → invariant next)
    (holds : invariant state) : Ensures answers program (fun _ => invariant) (fun _ => invariant) state := by
  refine (Requests.always confined kept holds).mono fun outcome last held => ?_
  cases outcome with
  | ok value => exact held
  | error error => exact held

end Confined

/-- Two programs in sequence; what the first raises ends both. -/
theorem Along.sequence {holds : σ → Prop} {program : ExceptT ε (Program Op Reply) α}
    {next : α → ExceptT ε (Program Op Reply) β} {returns : β → σ → Prop}
    (first : Along answers holds
      (Outcomes (fun value middle => Along answers holds (Outcomes returns raises) (next value).run middle) raises)
      program.run state) :
    Along answers holds (Outcomes returns raises) (program >>= next).run state := by
  refine Along.bind (first.mono (fun _ held => held) fun outcome middle ended held => ?_)
  cases outcome with
  | ok value => exact ended
  | error error => exact ⟨held, ended⟩

section Outcomes
/-! Symbolic execution in an environment that decides its answers. -/

variable {respond : σ → (op : Op) → Option (Reply op × σ)}

/-- How a program that may raise ends, and where. -/
def outcome (respond : σ → (op : Op) → Option (Reply op × σ)) (program : ExceptT ε (Program Op Reply) α) (state : σ) :
    Option (Except ε α × σ) :=
  execute respond program.run state

theorem execute_bind (program : Program Op Reply α) (next : α → Program Op Reply β) (state : σ) :
    execute respond (program >>= next) state =
      (execute respond program state).bind fun answer => execute respond (next answer.1) answer.2 := by
  induction program generalizing state with
  | pure value => rfl
  | perform op rest ih =>
    change ((respond state op).bind fun answer => execute respond (rest answer.1 >>= next) answer.2) = _
    simp only [ih, execute, Option.bind_assoc]
  | unfinished => rfl

@[simp] theorem outcome_pure (value : α) :
    outcome respond (Pure.pure value : ExceptT ε (Program Op Reply) α) state = some (.ok value, state) := rfl

@[simp] theorem outcome_throw (error : ε) :
    outcome respond (throw error : ExceptT ε (Program Op Reply) α) state = some (.error error, state) := rfl

@[simp] theorem outcome_request (op : Op) :
    outcome respond (request op : ExceptT ε (Program Op Reply) (Reply op)) state =
      (respond state op).map fun answer => (.ok answer.1, answer.2) := by
  rw [Option.map_eq_bind]
  rfl

theorem outcome_bind (program : ExceptT ε (Program Op Reply) α) (next : α → ExceptT ε (Program Op Reply) β) :
    outcome respond (program >>= next) state = (outcome respond program state).bind fun
      | (.ok value, middle) => outcome respond (next value) middle
      | (.error error, middle) => some (.error error, middle) := by
  apply (execute_bind program.run _ state).trans
  congr 1
  funext answer
  rcases answer with ⟨error | value, middle⟩ <;> rfl

theorem outcome_bind_ok {program : ExceptT ε (Program Op Reply) α} {next : α → ExceptT ε (Program Op Reply) β} {value : β}
    (returned : outcome respond (program >>= next) state = some (.ok value, last)) :
    ∃ first middle, outcome respond program state = some (.ok first, middle) ∧
      outcome respond (next first) middle = some (.ok value, last) := by
  rw [outcome_bind] at returned
  obtain ⟨⟨_ | first, middle⟩, ran, rest⟩ := Option.bind_eq_some_iff.mp returned
  · cases rest
  · exact ⟨first, middle, ran, rest⟩

theorem outcome_tryCatch (program : ExceptT ε (Program Op Reply) α) (handler : ε → ExceptT ε (Program Op Reply) α) :
    outcome respond (tryCatch program handler) state = (outcome respond program state).bind fun
      | (.ok value, middle) => some (.ok value, middle)
      | (.error error, middle) => outcome respond (handler error) middle := by
  apply (execute_bind program.run _ state).trans
  congr 1
  funext answer
  rcases answer with ⟨error | value, middle⟩ <;> rfl

/-- The program does end, as required. -/
def Yields (respond : σ → (op : Op) → Option (Reply op × σ)) (program : ExceptT ε (Program Op Reply) α)
    (returns : α → σ → Prop) (raises : ε → σ → Prop) (state : σ) : Prop :=
  ∃ result last, outcome respond program state = some (result, last) ∧ Outcomes returns raises result last

@[simp] theorem yields_pure (value : α) :
    Yields respond (Pure.pure value : ExceptT ε (Program Op Reply) α) returns raises state ↔ returns value state := by
  constructor
  · intro ⟨result, last, ran, ended⟩
    cases ran
    exact ended
  · exact fun holds => ⟨.ok value, state, rfl, holds⟩

@[simp] theorem yields_throw (error : ε) :
    Yields respond (throw error : ExceptT ε (Program Op Reply) α) returns raises state ↔ raises error state := by
  constructor
  · intro ⟨result, last, ran, ended⟩
    cases ran
    exact ended
  · exact fun holds => ⟨.error error, state, rfl, holds⟩

theorem yields_request {op : Op} {reply : Reply op} {next : σ} (responded : respond state op = some (reply, next))
    {returns : Reply op → σ → Prop} :
    Yields respond (request op : ExceptT ε (Program Op Reply) (Reply op)) returns raises state ↔ returns reply next := by
  have ran : outcome respond (request op : ExceptT ε (Program Op Reply) (Reply op)) state = some (.ok reply, next) := by
    rw [outcome_request, responded]
    rfl
  constructor
  · intro ⟨result, last, began, ended⟩
    cases ran.symm.trans began
    exact ended
  · exact fun holds => ⟨_, _, ran, holds⟩

@[simp] theorem yields_bind (program : ExceptT ε (Program Op Reply) α) (next : α → ExceptT ε (Program Op Reply) β)
    {returns : β → σ → Prop} :
    Yields respond (program >>= next) returns raises state ↔
      Yields respond program (fun value middle => Yields respond (next value) returns raises middle) raises state := by
  constructor
  · intro ⟨result, last, ran, ended⟩
    rw [outcome_bind] at ran
    obtain ⟨⟨first, middle⟩, began, rest⟩ := Option.bind_eq_some_iff.mp ran
    refine ⟨first, middle, began, ?_⟩
    cases first with
    | ok value => exact ⟨result, last, rest, ended⟩
    | error error =>
      cases rest
      exact ended
  · intro ⟨first, middle, began, ended⟩
    cases first with
    | ok value =>
      obtain ⟨result, last, ran, holds⟩ := ended
      refine ⟨result, last, ?_, holds⟩
      rw [outcome_bind, began]
      exact ran
    | error error =>
      refine ⟨.error error, middle, ?_, ended⟩
      rw [outcome_bind, began]
      rfl

@[simp] theorem yields_tryCatch (program : ExceptT ε (Program Op Reply) α)
    (handler : ε → ExceptT ε (Program Op Reply) α) :
    Yields respond (tryCatch program handler) returns raises state ↔
      Yields respond program returns (fun error middle => Yields respond (handler error) returns raises middle) state := by
  constructor
  · intro ⟨result, last, ran, ended⟩
    rw [outcome_tryCatch] at ran
    obtain ⟨⟨first, middle⟩, began, rest⟩ := Option.bind_eq_some_iff.mp ran
    refine ⟨first, middle, began, ?_⟩
    cases first with
    | ok value =>
      cases rest
      exact ended
    | error error => exact ⟨result, last, rest, ended⟩
  · intro ⟨first, middle, began, ended⟩
    cases first with
    | ok value =>
      refine ⟨.ok value, middle, ?_, ended⟩
      rw [outcome_tryCatch, began]
      rfl
    | error error =>
      obtain ⟨result, last, ran, holds⟩ := ended
      refine ⟨result, last, ?_, holds⟩
      rw [outcome_tryCatch, began]
      exact ran

theorem Yields.mono {program : ExceptT ε (Program Op Reply) α} {returns' : α → σ → Prop} {raises' : ε → σ → Prop}
    (yields : Yields respond program returns raises state)
    (returned : ∀ value last, returns value last → returns' value last)
    (raised : ∀ error last, raises error last → raises' error last) :
    Yields respond program returns' raises' state := by
  obtain ⟨result, last, ran, ended⟩ := yields
  refine ⟨result, last, ran, ?_⟩
  cases result with
  | ok value => exact returned value last ended
  | error error => exact raised error last ended

/-- A change of the state that a program neither sees nor undoes. -/
def Commutes (respond : σ → (op : Op) → Option (Reply op × σ)) (change : σ → σ)
    (program : ExceptT ε (Program Op Reply) α) : Prop :=
  ∀ state, outcome respond program (change state) = (outcome respond program state).map (Prod.map id change)

namespace Commutes

variable {change : σ → σ}

theorem pure (value : α) : Commutes respond change (Pure.pure value : ExceptT ε (Program Op Reply) α) := fun _ => rfl

theorem throw (error : ε) : Commutes respond change (throw error : ExceptT ε (Program Op Reply) α) := fun _ => rfl

theorem bind {program : ExceptT ε (Program Op Reply) α} {next : α → ExceptT ε (Program Op Reply) β}
    (first : Commutes respond change program) (rest : ∀ value, Commutes respond change (next value)) :
    Commutes respond change (program >>= next) := by
  intro state
  rw [outcome_bind, outcome_bind, first state]
  cases outcome respond program state with
  | none => rfl
  | some ended =>
    obtain ⟨error | value, middle⟩ := ended
    · rfl
    · exact rest value middle

theorem tryCatch {program : ExceptT ε (Program Op Reply) α} {handler : ε → ExceptT ε (Program Op Reply) α}
    (body : Commutes respond change program) (handled : ∀ error, Commutes respond change (handler error)) :
    Commutes respond change (tryCatch program handler) := by
  intro state
  rw [outcome_tryCatch, outcome_tryCatch, body state]
  cases outcome respond program state with
  | none => rfl
  | some ended =>
    obtain ⟨error | value, middle⟩ := ended
    · exact handled error middle
    · rfl

theorem ite {condition : Prop} [Decidable condition] {first second : ExceptT ε (Program Op Reply) α}
    (holds : Commutes respond change first) (fails : Commutes respond change second) :
    Commutes respond change (if condition then first else second) := by
  split
  next => exact holds
  next => exact fails

end Commutes

/-- An environment that decides its answers, as a relation. -/
def Decides (respond : σ → (op : Op) → Option (Reply op × σ)) (state : σ) (op : Op) (reply : Reply op) (next : σ) : Prop :=
  respond state op = some (reply, next)

theorem Ensures.ended {program : ExceptT ε (Program Op Reply) α} {result : Except ε α}
    (ensures : Ensures (Decides respond) program returns raises state)
    (ended : outcome respond program state = some (result, last)) : Outcomes returns raises result last :=
  (execute_executes (fun _ _ _ _ responded => responded) ended).ends ensures

/-- A request whose reply says how the program ends. -/
theorem ensures_decided_outcome {op : Op} {reply : Reply op} {next : σ} (decided : respond state op = some (reply, next))
    (ends : Reply op → Except ε α) :
    Ensures (Decides respond) (ExceptT.mk (perform op fun reply => .pure (ends reply))) returns raises state ↔
      Outcomes returns raises (ends reply) next := by
  constructor
  · exact fun ensures => ensures reply next decided
  · intro holds given middle responded
    cases decided.symm.trans responded
    exact holds

theorem ensures_decided {op : Op} {reply : Reply op} {next : σ} (decided : respond state op = some (reply, next))
    {returns : Reply op → σ → Prop} :
    Ensures (Decides respond) (request op : ExceptT ε (Program Op Reply) (Reply op)) returns raises state ↔
      returns reply next :=
  ensures_decided_outcome decided .ok

end Outcomes

/-- The program keeps an invariant of states when it returns. -/
def Keeps (answers : σ → (op : Op) → Reply op → σ → Prop) (invariant : σ → Prop) (raises : ε → σ → Prop)
    (program : ExceptT ε (Program Op Reply) α) : Prop :=
  ∀ state, invariant state → Ensures answers program (fun _ => invariant) raises state

namespace Keeps

variable {invariant : σ → Prop}

theorem pure (value : α) :
    Keeps answers invariant raises (Pure.pure value : ExceptT ε (Program Op Reply) α) :=
  fun _ holds => holds

theorem throw {error : ε} (raised : ∀ state, invariant state → raises error state) :
    Keeps answers invariant raises (throw error : ExceptT ε (Program Op Reply) α) :=
  raised

theorem bind {program : ExceptT ε (Program Op Reply) α} {next : α → ExceptT ε (Program Op Reply) β}
    (first : Keeps answers invariant raises program) (rest : ∀ value, Keeps answers invariant raises (next value)) :
    Keeps answers invariant raises (program >>= next) := by
  intro state holds
  apply (ensures_bind program next).mpr
  exact (first state holds).mono (fun value middle held => rest value middle held) fun _ _ raised => raised

theorem ite {condition : Prop} [Decidable condition] {first second : ExceptT ε (Program Op Reply) α}
    (holds : Keeps answers invariant raises first) (fails : Keeps answers invariant raises second) :
    Keeps answers invariant raises (if condition then first else second) := by
  intro state held
  exact (ensures_ite condition first second).mpr ⟨fun _ => holds state held, fun _ => fails state held⟩

theorem tryCatch {program : ExceptT ε (Program Op Reply) α} {handler : ε → ExceptT ε (Program Op Reply) α}
    {caught : ε → σ → Prop} (first : Keeps answers invariant caught program)
    (handled : ∀ error state, caught error state →
      Ensures answers (handler error) (fun _ => invariant) raises state) :
    Keeps answers invariant raises (tryCatch program handler) := by
  intro state holds
  apply (ensures_tryCatch program handler).mpr
  exact (first state holds).mono (fun _ _ held => held) handled

end Keeps
end Exceptions
end Program
