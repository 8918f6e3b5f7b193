import DongloraClient.Proofs.Dispatch
import Mathlib.Tactic.IntervalCases

/-! Shutdown against registration. `close` and the reader's exit each sweep the table
once; a command that registers later is in nobody's list. -/

namespace DongloraClient.Proofs.SessionShutdown
open Session SessionSteps SessionTable Transition

variable {cobs : Cobs.Codec} {session next : Session} {label : Step} {events : List Step} {id : Nat} {agent : Agent}

def Sweeping (session : Session) : Agent → Prop
  | .reader => session.reader = .ending
  | .closer id => session.closers id = .closing

def entry : Agent → Step
  | .reader => .shutdown
  | .closer id => .sweep id

/-- `close` has returned, or the reader's `finally` section has completed. -/
def Finished (session : Session) (agent : Agent) : Prop := Sweeping session agent ∧ session.todo agent = []

theorem step_sweeping (taken : step cobs session label = some next) (agent : Agent) :
    Sweeping next agent ↔ Sweeping session agent ∨ label = entry agent := by
  cases agent with
  | reader => exact step_ending taken
  | closer id => exact step_closing taken id

theorem sweeping_entered (run : Run (Steps (step cobs)) {} events session) (sweeping : Sweeping session agent) :
    entry agent ∈ events := by
  induction run with
  | nil => cases agent <;> cases sweeping
  | snoc _ taken ih =>
    rcases (step_sweeping taken agent).mp sweeping with before | same
    · exact List.mem_append_left _ (ih before)
    · exact List.mem_append_right _ (List.mem_singleton.mpr same.symm)

def Unserved (call : Call) : Prop := call.pc = .waiting ∧ call.slot.event = false

theorem Unserved.inFlight {call : Call} (unserved : Unserved call) : InFlight call := by
  simp only [InFlight, unserved.1]

theorem unserved_before (taken : step cobs session label = some next) (unserved : Unserved (next.calls id)) :
    Unserved (session.calls id) ∨ (label = .write id none ∧ (session.calls id).slot.event = false) := by
  generalize same : next.calls id = call at unserved
  obtain ⟨place, silent⟩ := unserved
  cases same ▸ step_calls taken id with
  | same => exact Or.inl ⟨place, silent⟩
  | rejected | entered | allocated | registered | forgotten => cases place
  | moved move =>
    cases move with
    | sent => exact Or.inr ⟨rfl, silent⟩
    | unsent | woken | expired | failed | unfailed | returned => cases place
  | written =>
    refine Or.inl ⟨place, ?_⟩
    by_contra set
    simp only [Bool.not_eq_false] at set
    rw [effect_event _ _ set] at silent
    cases silent

/-- A command waits only for the answer to a frame that it has written. -/
theorem write_wired (taken : step cobs session (.write id none) = some next) (waiting : (next.calls id).pc = .waiting) :
    ∃ bytes, wire cobs (session.calls id) = .ok bytes := by
  simp only [step] at taken
  split at taken
  · split at taken <;> cases taken
    next => simp at waiting
    next broken => cases broken
    next wired _ => exact ⟨_, wired⟩
  · cases taken

/-- Nothing to be signalled and no second release comes after the table is cleared. -/
def Released (first second : Action) : Prop := first = .clear → second ≠ .clear ∧ ∀ id, second ≠ .signal id

structure Covered (session : Session) : Prop where
  ordered : ∀ agent, (session.todo agent).Pairwise Released
  clears : ∀ agent id, Sweeping session agent → .signal id ∈ session.todo agent → .clear ∈ session.todo agent
  owner : ∀ agent, .clear ∈ session.todo agent → session.lock = some agent ∧ Sweeping session agent
  listed : (∀ agent, ¬ Sweeping session agent) → ∀ id, InFlight (session.calls id) →
    session.pending.lookup (session.calls id).tag = some id
  signalled : ∀ id, Unserved (session.calls id) → ∀ agent, Sweeping session agent →
    session.lock = some agent ∧ .signal id ∈ session.todo agent

/-- Before any sweep, a command registers under a tag that is free. Once there has been one,
the write of a command succeeds only if the sweep serves it. -/
structure Timely (cobs : Cobs.Codec) (session : Session) (label : Step) : Prop where
  free : ∀ id, label = .register id → (∀ agent, ¬ Sweeping session agent) →
    session.pending.lookup (session.calls id).tag = none
  served : ∀ id, label = .write id none → (∃ bytes, wire cobs (session.calls id) = .ok bytes) →
    (session.calls id).slot.event = false → ∀ agent, Sweeping session agent → .signal id ∈ session.todo agent

theorem Covered.initial : Covered {} where
  ordered agent := .nil
  clears agent id _ member := by cases member
  owner agent member := by cases member
  listed _ id flying := by cases flying
  signalled id unserved := by cases unserved.inFlight

theorem released_plain {actions : List Action} (plain : .clear ∉ actions) : actions.Pairwise Released :=
  List.pairwise_of_forall_mem_list fun _ member _ _ clears => absurd (clears ▸ member) plain

/-- A sweep signals every command in the table and releases the lock after that. -/
theorem sweep_list (values : List Nat) (write : Nat → Action) (plain : ∀ id, write id ≠ .clear) {rest : List Action}
    (after : ∀ action ∈ rest, action ≠ .clear ∧ ∀ id, action ≠ .signal id) :
    (values.flatMap (fun id => [write id, .signal id]) ++ .clear :: rest).Pairwise Released ∧
      ∀ id ∈ values, .signal id ∈ values.flatMap (fun id => [write id, .signal id]) ++ .clear :: rest := by
  have front : .clear ∉ values.flatMap (fun id => [write id, .signal id]) := by
    simp only [List.mem_flatMap, List.mem_cons, List.not_mem_nil, or_false, reduceCtorEq, not_exists, not_and]
    exact fun id _ same => plain id same.symm
  constructor
  · refine List.pairwise_append.mpr ⟨released_plain front, List.pairwise_cons.mpr ⟨?_, ?_⟩, ?_⟩
    · exact fun action member _ => after action member
    · exact released_plain fun member => (after _ member).1 rfl
    · exact fun action member _ _ clears => absurd (clears ▸ member) front
  · intro id member
    exact List.mem_append_left _ (List.mem_flatMap.mpr ⟨id, member, by simp⟩)

theorem closing_list (session : Session) : session.closing.Pairwise Released ∧
    ∀ id ∈ session.values, .signal id ∈ session.closing :=
  sweep_list session.values (fun id => .setErr id (.dongloraError "session closed")) (fun _ => nofun) (by simp)

theorem shuttingDown_list (session : Session) : session.shuttingDown.Pairwise Released ∧
    ∀ id ∈ session.values, .signal id ∈ session.shuttingDown :=
  sweep_list session.values (fun id => .setErrIfUnset id (.dongloraError "transport closed")) (fun _ => nofun) (by simp)

theorem reaction_plain {frame : Frame} {pending : Option (Nat × Nat)} {actions : List Action}
    (ran : reaction frame pending = .ok actions) : .clear ∉ actions := by
  cases Dispatch.reacted ran <;> simp

/-- Whoever begins a sweep takes the free lock and lists everybody in the table. -/
theorem entry_list (taken : step cobs session (entry agent) = some next) :
    session.lock = none ∧ next.lock = some agent ∧ (next.todo agent).Pairwise Released ∧
      ∀ id ∈ session.values, .signal id ∈ next.todo agent := by
  cases agent with
  | reader =>
    cases stepped taken with
    | ended _ free => exact ⟨free, rfl, by simpa using shuttingDown_list session⟩
    | moved move => cases move
  | closer id =>
    cases stepped taken with
    | swept _ free => exact ⟨free, rfl, by simpa using closing_list session⟩
    | moved move => cases move

theorem entry_clear (taken : step cobs session (entry agent) = some next) : .clear ∈ next.todo agent := by
  cases agent with
  | reader =>
    cases stepped taken with
    | ended => simp [shuttingDown]
    | moved move => cases move
  | closer id =>
    cases stepped taken with
    | swept => simp [closing]
    | moved move => cases move

/-- The list of an agent after a step: a part of what it had, something that does not
touch the lock, or the list of the sweep it has just begun. -/
theorem step_list (taken : step cobs session label = some next) (agent : Agent) :
    (next.todo agent <:+ session.todo agent) ∨ (.clear ∉ next.todo agent ∧ ¬ Sweeping session agent) ∨
      label = entry agent := by
  generalize same : next.todo agent = actions
  cases same ▸ step_todo taken agent with
  | same => exact Or.inl (List.suffix_refl _)
  | executed found =>
    rw [found]
    exact Or.inl (List.suffix_cons _ _)
  | dispatched own dispatching _ _ ran =>
    subst own
    exact Or.inr (Or.inl ⟨reaction_plain ran, fun ending => by cases dispatching.symm.trans ending⟩)
  | corrupted own reading =>
    subst own
    exact Or.inr (Or.inl ⟨by simp, fun ending => by cases reading.symm.trans ending⟩)
  | shutdown own | sweep own =>
    subst own
    exact Or.inr (Or.inr rfl)

namespace Covered

/-- The agent that holds the lock keeps it until it has cleared the table. -/
theorem lock_kept (covered : Covered session) (taken : step cobs session label = some next)
    (held : session.lock = some agent) :
    next.lock = some agent ∨ ∃ rest, session.todo agent = .clear :: rest ∧ next.todo agent = rest := by
  generalize table : next.pending = pending
  generalize lock : next.lock = owner
  cases table ▸ lock ▸ step_table taken with
  | same | registered | forgotten => exact Or.inl held
  | shutdown _ free | sweep _ free => cases held.symm.trans free
  | @cleared other rest found =>
    obtain ⟨action, rest, todo, remaining, _⟩ := act_todo taken
    obtain ⟨rfl, rfl⟩ := List.cons.inj (todo.symm.trans found)
    have owned := (covered.owner other (found ▸ List.mem_cons_self)).1
    obtain rfl : agent = other := Option.some.inj (held.symm.trans owned)
    exact Or.inr ⟨rest, found, remaining⟩

theorem ordered_kept (covered : Covered session) (taken : step cobs session label = some next) (agent : Agent) :
    (next.todo agent).Pairwise Released := by
  rcases step_list taken agent with kept | ⟨plain, _⟩ | rfl
  · exact (covered.ordered agent).sublist kept.sublist
  · exact released_plain plain
  · exact (entry_list taken).2.2.1

theorem clears_kept (covered : Covered session) (taken : step cobs session label = some next)
    (sweeping : Sweeping next agent) (signal : .signal id ∈ next.todo agent) : .clear ∈ next.todo agent := by
  rcases (step_sweeping taken agent).mp sweeping with earlier | rfl
  · generalize same : next.todo agent = actions at signal ⊢
    cases same ▸ step_todo taken agent with
    | same => exact covered.clears agent id earlier signal
    | executed found =>
      have whole := covered.clears agent id earlier (found ▸ List.mem_cons_of_mem _ signal)
      rw [found] at whole
      refine (List.mem_cons.mp whole).resolve_left ?_
      intro clears
      subst clears
      have once : Released .clear (.signal id) := List.rel_of_pairwise_cons (found ▸ covered.ordered agent) signal
      exact absurd rfl ((once rfl).2 id)
    | dispatched own before | corrupted own before | shutdown own before | sweep own before =>
      subst own
      cases before.symm.trans earlier
  · exact entry_clear taken

theorem owner_kept (covered : Covered session) (taken : step cobs session label = some next)
    (member : .clear ∈ next.todo agent) : next.lock = some agent ∧ Sweeping next agent := by
  rcases step_list taken agent with kept | ⟨plain, _⟩ | rfl
  · obtain ⟨held, sweeping⟩ := covered.owner agent (kept.subset member)
    refine ⟨?_, (step_sweeping taken agent).mpr (Or.inl sweeping)⟩
    rcases covered.lock_kept taken held with still | ⟨rest, found, remaining⟩
    · exact still
    · -- The lock is released once.
      have once : Released .clear .clear :=
        List.rel_of_pairwise_cons (found ▸ covered.ordered agent) (remaining ▸ member)
      exact absurd rfl (once rfl).1
  · exact absurd member plain
  · exact ⟨(entry_list taken).2.1, (step_sweeping taken agent).mpr (Or.inr rfl)⟩

theorem listed_kept (covered : Covered session) (taken : step cobs session label = some next)
    (timely : Timely cobs session label) (quiet : ∀ agent, ¬ Sweeping next agent) : Listed next := by
  have before (agent : Agent) : ¬ Sweeping session agent :=
    fun sweeping => quiet agent ((step_sweeping taken agent).mpr (Or.inl sweeping))
  have listed : Listed session := covered.listed before
  refine listed.preserved taken ?_ fun agent member => before agent (covered.owner agent member).2
  intro owner registering id flying same
  have found := listed id flying
  rw [same, timely.free owner registering before] at found
  cases found

theorem signal_kept (taken : step cobs session label = some next) (unserved : Unserved (next.calls id))
    (sweeping : Sweeping session agent) (listed : .signal id ∈ session.todo agent) :
    .signal id ∈ next.todo agent := by
  generalize same : next.todo agent = actions
  cases same ▸ step_todo taken agent with
  | same => exact listed
  | @executed action rest found =>
    obtain ⟨_, _, todo, _, calls⟩ := act_todo taken
    obtain ⟨rfl, rfl⟩ := List.cons.inj (todo.symm.trans found)
    rw [found] at listed
    rcases List.mem_cons.mp listed with rfl | later
    · have silent := unserved.2
      rw [calls id] at silent
      simp [effect] at silent
    · exact later
  | dispatched own before | corrupted own before | shutdown own before | sweep own before =>
    subst own
    cases before.symm.trans sweeping

theorem signalled_kept (covered : Covered session) (taken : step cobs session label = some next)
    (timely : Timely cobs session label) (unserved : Unserved (next.calls id)) (sweeping : Sweeping next agent) :
    next.lock = some agent ∧ .signal id ∈ next.todo agent := by
  rcases unserved_before taken unserved with before | ⟨rfl, silent⟩
  · rcases (step_sweeping taken agent).mp sweeping with earlier | rfl
    · obtain ⟨held, listed⟩ := covered.signalled id before agent earlier
      have kept := signal_kept taken unserved earlier listed
      refine ⟨?_, kept⟩
      rcases covered.lock_kept taken held with still | ⟨rest, found, remaining⟩
      · exact still
      · -- Everybody has been signalled before the table is cleared.
        have once : Released .clear (.signal id) :=
          List.rel_of_pairwise_cons (found ▸ covered.ordered agent) (remaining ▸ kept)
        exact absurd rfl ((once rfl).2 id)
    · -- Nobody swept before, so that the table still holds the command.
      obtain ⟨free, locked, _, signals⟩ := entry_list taken
      have alone (other : Agent) : ¬ Sweeping session other := by
        intro sweeping
        cases free.symm.trans (covered.signalled id before other sweeping).1
      exact ⟨locked, signals id (mem_values.mpr ⟨_, covered.listed alone id before.inFlight⟩)⟩
  · rcases (step_sweeping taken agent).mp sweeping with earlier | entered
    · have signal := timely.served id rfl (write_wired taken unserved.1) silent agent earlier
      have held := (covered.owner agent (covered.clears agent id earlier signal)).1
      cases stepped taken with
      | moved move => exact ⟨held, signal⟩
    · cases agent <;> cases entered

theorem preserved (covered : Covered session) (taken : step cobs session label = some next)
    (timely : Timely cobs session label) : Covered next where
  ordered := covered.ordered_kept taken
  clears _ _ := covered.clears_kept taken
  owner _ := covered.owner_kept taken
  listed := covered.listed_kept taken timely
  signalled _ unserved _ := covered.signalled_kept taken timely unserved

theorem reachable (run : Run (Guarded (Steps (step cobs)) (Timely cobs)) {} events session) : Covered session :=
  run.preserves .initial fun _ _ _ covered taken => covered.preserved taken.1 taken.2

end Covered

end DongloraClient.Proofs.SessionShutdown
