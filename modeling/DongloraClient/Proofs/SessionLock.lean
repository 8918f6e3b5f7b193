import DongloraClient.Proofs.SessionReader
import DongloraClient.Proofs.SessionShutdown

/-! The lock of the table. Whoever has it sweeps the table, clears it once and gives the
lock back. -/

namespace DongloraClient.Proofs.SessionLock
open Session SessionSteps SessionTable SessionReader SessionShutdown Transition

variable {cobs : Cobs.Codec} {session next : Session} {label : Step} {events : List Step} {id : Nat} {agent : Agent}

/-- Whoever has the lock will clear the table, and nobody else. -/
structure Locked (session : Session) : Prop where
  clears : ∀ agent, (session.todo agent).count .clear = if session.lock = some agent then 1 else 0
  closing : ∀ id, session.todo (.closer id) ≠ [] → session.closers id = .closing

namespace Locked

theorem initial : Locked {} := ⟨fun _ => rfl, fun _ busy => absurd rfl busy⟩

theorem owner (locked : Locked session) (agent : Agent) : .clear ∈ session.todo agent ↔ session.lock = some agent := by
  rw [← List.count_pos_iff, locked.clears agent]
  split <;> simp_all

theorem sweep_count (values : List Nat) (write : Nat → Action) (plain : ∀ id, write id ≠ .clear) {rest : List Action}
    (after : .clear ∉ rest) : (values.flatMap (fun id => [write id, .signal id]) ++ .clear :: rest).count .clear = 1 := by
  have front : .clear ∉ values.flatMap (fun id => [write id, .signal id]) := by
    simpa using fun id _ same => plain id same.symm
  rw [List.count_append, List.count_eq_zero.mpr front, List.count_cons_self, List.count_eq_zero.mpr after]

theorem closing_count (session : Session) : session.closing.count .clear = 1 :=
  sweep_count session.values (fun id => .setErr id (.dongloraError "session closed")) (fun _ => nofun) (by simp)

theorem shuttingDown_count (session : Session) : session.shuttingDown.count .clear = 1 :=
  sweep_count session.values (fun id => .setErrIfUnset id (.dongloraError "transport closed")) (fun _ => nofun) (by simp)

theorem clears_kept (locked : Locked session) (paced : Paced session) (taken : step cobs session label = some next)
    (agent : Agent) : (next.todo agent).count .clear = if next.lock = some agent then 1 else 0 := by
  have before := locked.clears agent
  -- The reader has nothing to do when it comes back with a frame or a damaged one.
  have replaced {actions : List Action} (empty : session.todo .reader = []) (plain : .clear ∉ actions) :
      (if agent = .reader then actions else session.todo agent).count .clear =
        if session.lock = some agent then 1 else 0 := by
    rw [← before]
    split
    next own => rw [own, empty, List.count_eq_zero.mpr plain, List.count_nil]
    next => rfl
  have entering {worker : Agent} {actions : List Action} (free : session.lock = none) (once : actions.count .clear = 1) :
      (if agent = worker then actions else session.todo agent).count .clear = if some worker = some agent then 1 else 0 := by
    by_cases own : agent = worker
    · simp [own, once]
    · rw [if_neg own, if_neg fun same => own (Option.some.inj same).symm]
      exact List.count_eq_zero.mpr fun member => nomatch free.symm.trans ((locked.owner agent).mp member)
  cases stepped taken with
  | @acted worker action rest found =>
    rw [setTodo_todo, apply_todo]
    change _ = if (session.apply action).lock = some agent then 1 else 0
    have owned := locked.clears worker
    by_cases clears : action = .clear
    · subst clears
      -- It has the lock, has cleared the table once and gives the lock back.
      have held := (locked.owner worker).mp (found ▸ List.mem_cons_self)
      rw [found, List.count_cons_self, if_pos held] at owned
      change _ = 0
      by_cases own : agent = worker
      · rw [if_pos own]
        exact Nat.succ.inj owned
      · rw [if_neg own, before, if_neg fun same => own (Option.some.inj (same.symm.trans held))]
    · rw [(apply_table session action clears).2, ← before]
      split
      next own =>
        subst own
        rw [found, List.count_cons_of_ne clears]
      next => rfl
  | corrupted reading =>
    rw [setTodo_todo]
    exact replaced (paced.busy (by simp [reading]) (by simp [reading])) (by simp)
  | dispatched dispatching _ _ reacted =>
    rw [setTodo_todo]
    exact replaced (paced.busy (by simp [dispatching]) (by simp [dispatching])) (reaction_plain reacted)
  | ended _ free =>
    rw [setTodo_todo]
    exact entering free (shuttingDown_count session)
  | swept _ free =>
    rw [setTodo_todo]
    exact entering free (closing_count session)
  | rejected | entered | allocated | registered | moved | forgotten | polled | received | timedOut | failed | raised
  | flagged | asked | took | woke | gaveUp | reposted | drained => exact before

theorem closing_kept (locked : Locked session) (taken : step cobs session label = some next)
    (busy : next.todo (.closer id) ≠ []) : next.closers id = .closing := by
  refine (step_closing taken id).mpr ?_
  generalize same : next.todo (.closer id) = actions at busy
  cases same ▸ step_todo taken (.closer id) with
  | same => exact Or.inl (locked.closing id busy)
  | executed found => exact Or.inl (locked.closing id (found ▸ List.cons_ne_nil _ _))
  | sweep own =>
    cases own
    exact Or.inr rfl
  | dispatched own | corrupted own | shutdown own => cases own

theorem reachable (run : Run (Steps (step cobs)) {} events session) : Locked session := by
  induction run with
  | nil => exact initial
  | snoc before taken ih => exact ⟨ih.clears_kept (Paced.reachable before) taken, fun _ => ih.closing_kept taken⟩

end Locked

/-- What a `close` has still to do ends with clearing the table and closing the transport. -/
theorem closer_suffix (run : Run (Steps (step cobs)) {} events session) (closer : Nat) :
    ∃ sweep, session.todo (.closer closer) <:+ sweep ++ [.clear, .closeTransport] := by
  induction run with
  | nil => exact ⟨[], List.nil_suffix⟩
  | @snoc _ _ after _ before taken ih =>
    obtain ⟨sweep, suffix⟩ := ih
    generalize same : after.todo (.closer closer) = actions
    cases same ▸ step_todo taken (.closer closer) with
    | same => exact ⟨sweep, suffix⟩
    | executed found => exact ⟨sweep, (List.suffix_cons _ _).trans (found ▸ suffix)⟩
    | sweep => exact ⟨_, List.suffix_refl _⟩
    | dispatched own | corrupted own | shutdown own => cases own

/-- Only the `close` that holds the lock has something to do for a command. -/
theorem closer_holds (run : Run (Steps (step cobs)) {} events session) {closer : Nat} {action : Action}
    (member : action ∈ session.todo (.closer closer)) (targeted : target action = some id) :
    session.lock = some (.closer closer) := by
  apply ((Locked.reachable run).owner (.closer closer)).mp
  obtain ⟨sweep, front, split⟩ := closer_suffix run closer
  rcases List.append_eq_append_iff.mp split with ⟨middle, _, list⟩ | ⟨middle, _, last⟩
  · rw [list]
    simp
  · have late : action ∈ [Action.clear, .closeTransport] := last ▸ List.mem_append_right _ member
    simp only [List.mem_cons, List.not_mem_nil, or_false] at late
    rcases late with rfl | rfl <;> cases targeted

end DongloraClient.Proofs.SessionLock
