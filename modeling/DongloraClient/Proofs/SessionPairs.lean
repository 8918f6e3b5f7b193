import DongloraClient.Proofs.SessionLock
import DongloraClient.Proofs.SessionReplies

/-! How a command is settled. Whoever sets its event has written to its slot in the statement
before. -/

namespace DongloraClient.Proofs.SessionPairs
open Wire Session SessionSteps SessionTable SessionReader SessionReplies SessionLock Dispatch Transition

variable {cobs : Cobs.Codec} {session next : Session} {label : Step} {events : List Step} {id : Nat} {agent : Agent}
  {actions : List Action}

/-- The acknowledgement of a `TX`, which its caller does not read. -/
def Enqueues (session : Session) (id : Nat) (action : Action) : Prop :=
  (∃ value, action = .setOk id value) ∧ (session.calls id).request.typeId = typeTx

/-- Every event is set right after a write to its slot, and every other write is the
acknowledgement of a `TX`. -/
inductive Paired (session : Session) : List Action → Prop where
  | nil : Paired session []
  | settle {write : Action} {rest : List Action} {id : Nat} : target write = some id → write ≠ .signal id →
      ¬ Enqueues session id write → Paired session rest → Paired session (write :: .signal id :: rest)
  | single {action : Action} {rest : List Action} : (∀ id, action ≠ .signal id) →
      (∀ id, target action = some id → Enqueues session id action) → Paired session rest →
      Paired session (action :: rest)

theorem Paired.head (paired : Paired session (.signal id :: rest)) : False := by
  cases paired with
  | settle aimed other =>
    cases aimed
    exact other rfl
  | single other => exact other id rfl

inductive Standing (session : Session) : List Action → Prop where
  | between {actions : List Action} : Paired session actions → Standing session actions
  | within {id : Nat} {rest : List Action} : Paired session rest → Standing session (.signal id :: rest)

theorem Standing.tail {action : Action} {rest : List Action} (standing : Standing session (action :: rest)) :
    Standing session rest := by
  cases standing with
  | between paired =>
    cases paired with
    | settle _ _ _ later => exact .within later
    | single _ _ later => exact .between later
  | within later => exact .between later

theorem Standing.head {action : Action} {rest : List Action} (standing : Standing session (action :: .signal id :: rest)) :
    target action = some id ∧ action ≠ .signal id ∧ ¬ Enqueues session id action := by
  cases standing with
  | between paired =>
    cases paired with
    | settle aimed other enqueues => exact ⟨aimed, other, enqueues⟩
    | single _ _ later => exact later.head.elim
  | within later => exact later.head.elim

section Moved

variable (same : ∀ action ∈ actions, ∀ id, target action = some id → (next.calls id).request = (session.calls id).request)
include same

theorem Paired.moved (paired : Paired session actions) : Paired next actions := by
  induction paired with
  | nil => exact .nil
  | @settle write rest id aimed other enqueues _ ih =>
    refine .settle aimed other ?_ (ih fun action member => same action (by simp [member]))
    rwa [Enqueues, same write List.mem_cons_self id aimed]
  | @single action rest other enqueues _ ih =>
    refine .single other (fun id aimed => ?_) (ih fun action member => same action (by simp [member]))
    rw [Enqueues, same action List.mem_cons_self id aimed]
    exact enqueues id aimed

theorem Standing.moved (standing : Standing session actions) : Standing next actions := by
  cases standing with
  | between paired => exact .between (paired.moved same)
  | within paired => exact .within (paired.moved fun action member => same action (List.mem_cons_of_mem _ member))

end Moved

theorem reaction_paired (sound : Sound session) {frame : Frame}
    (ran : reaction frame (session.getPending frame.tag) = .ok actions) : Paired session actions := by
  cases reacted ran with
  | unknown | unclaimed | unexpected => exact .nil
  | event | report => exact .single nofun nofun .nil
  | enqueued _ looked =>
    refine .single nofun (fun id aimed => ?_) .nil
    cases aimed
    exact ⟨⟨_, rfl⟩, (sound.found looked).2.2.2.2.symm⟩
  | answered _ looked notTx =>
    refine .settle rfl nofun (fun enqueues => notTx ?_) .nil
    rw [(sound.found looked).2.2.2.2, enqueues.2]
  | refused | transmitted =>
    refine .settle rfl nofun ?_ .nil
    intro ⟨⟨_, same⟩, _⟩
    cases same

theorem sweep_paired (values : List Nat) (write : Nat → Action) (aimed : ∀ id, target (write id) = some id)
    (other : ∀ id, write id ≠ .signal id) (writes : ∀ id value, write id ≠ .setOk id value)
    (rest : Paired session actions) :
    Paired session (values.flatMap (fun id => [write id, .signal id]) ++ actions) := by
  induction values with
  | nil => exact rest
  | cons id values ih => exact .settle (aimed id) (other id) (fun ⟨⟨value, same⟩, _⟩ => writes id value same) ih

theorem closing_paired (session : Session) : Paired session session.closing := by
  refine sweep_paired session.values (fun id => .setErr id (.dongloraError "session closed")) (fun _ => rfl)
    (fun _ => nofun) (fun _ _ => nofun) ?_
  exact .single nofun nofun (.single nofun nofun .nil)

theorem shuttingDown_paired (session : Session) : Paired session session.shuttingDown := by
  refine sweep_paired session.values (fun id => .setErrIfUnset id (.dongloraError "transport closed")) (fun _ => rfl)
    (fun _ => nofun) (fun _ _ => nofun) ?_
  exact .single nofun nofun (.single nofun nofun (.single nofun nofun .nil))

/-- Nobody is given anything to do before it is done with what it had. -/
theorem quiet_todo (run : Run (Steps (step cobs)) {} events session) (taken : step cobs session label = some next)
    (quiet : label ≠ .act agent) :
    next.todo agent = session.todo agent ∨ session.todo agent = [] ∧ Paired session (next.todo agent) := by
  have paced := Paced.reachable run
  generalize same : next.todo agent = actions
  cases same ▸ step_todo taken agent with
  | same => exact Or.inl rfl
  | executed => exact absurd rfl quiet
  | dispatched own dispatching _ _ ran =>
    subst own
    exact Or.inr ⟨paced.busy (by simp [dispatching]) (by simp [dispatching]), reaction_paired (Sound.reachable run) ran⟩
  | corrupted own reading =>
    subst own
    exact Or.inr ⟨paced.busy (by simp [reading]) (by simp [reading]), .single nofun nofun .nil⟩
  | shutdown own finishing =>
    subst own
    exact Or.inr ⟨paced.busy (by simp [finishing]) (by simp [finishing]), shuttingDown_paired session⟩
  | sweep own flagged =>
    subst own
    refine Or.inr ⟨?_, closing_paired session⟩
    by_contra busy
    cases flagged.symm.trans ((Locked.reachable run).closing _ busy)

theorem standing (run : Run (Steps (step cobs)) {} events session) (agent : Agent) :
    Standing session (session.todo agent) := by
  induction run with
  | nil => exact .between .nil
  | @snoc events state after label before taken ih =>
    have requests : ∀ action ∈ after.todo agent, ∀ id, target action = some id →
        (after.calls id).request = (state.calls id).request := fun action member id aimed =>
      have registered := (Traced.reachable before).targets_before (Sound.reachable before) taken agent action id member aimed
      (registered_fixed taken registered).2.2
    refine Standing.moved requests ?_
    by_cases acting : label = .act agent
    · subst acting
      obtain ⟨action, rest, found, left, _⟩ := act_todo taken
      rw [found] at ih
      rw [left]
      exact ih.tail
    · rcases quiet_todo before taken acting with same | ⟨_, paired⟩
      · rwa [same]
      · exact .between paired

end DongloraClient.Proofs.SessionPairs
