import DongloraClient.Proofs.DongleLogic
import DongloraClient.Proofs.SessionReader
import DongloraClient.Proofs.SessionReplies

/-! The death of the reader as its callers see it: the error it leaves in their slots
against `is_alive`, and what `_with_recovery` makes of the two. -/

namespace DongloraClient.Proofs.SessionDeath
open Session SessionSteps SessionTable SessionReader SessionReplies Transition Program

variable {cobs : Cobs.Codec} {session next : Session} {label : Step} {events : List Step} {id : Nat}

/-- Only the reader's exit writes its error. -/
theorem writes_ending (paced : Paced session) {agent : Agent} {action : Action} {rest : List Action}
    (found : session.todo agent = action :: rest)
    (writes : action = .setErr id lostTransport ∨ action = .setErrIfUnset id lostTransport) :
    session.reader = .ending := by
  have member : action ∈ session.todo agent := found ▸ List.mem_cons_self
  cases agent with
  | closer closer =>
    have closes := paced.closer closer action member
    rcases writes with rfl | rfl
    · exact absurd rfl closes
    · exact closes.elim
  | reader =>
    by_contra going
    have dispatches := paced.going going action member
    rcases writes with rfl | rfl
    · exact absurd rfl dispatches
    · exact dispatches

theorem err_ending (run : Run (Steps (step cobs)) {} events session)
    (set : (session.calls id).slot.err = some lostTransport) : session.reader = .ending := by
  induction run with
  | nil => cases set
  | @snoc events state after label before taken ih =>
    apply (step_ending taken).mpr
    left
    generalize same : after.calls id = call at set
    cases same ▸ step_calls taken id with
    | same | moved | forgotten | allocated => exact ih set
    | rejected | entered | registered => cases set
    | written found =>
      rcases effect_err set with earlier | writes | writes
      · exact ih earlier
      · exact writes_ending (Paced.reachable before) found (Or.inl writes)
      · exact writes_ending (Paced.reachable before) found (Or.inr writes)

/-- A caller meets the error of the reader's exit only after the reader or a `close` has
set its flag. -/
def Announced (session : Session) : Step → Prop
  | .wake id | .readErr id => (session.calls id).slot.err = some lostTransport →
    .setDead ∉ session.todo .reader ∨ session.closed = true
  | _ => True

instance (session : Session) (label : Step) : Decidable (Announced session label) := by
  unfold Announced
  split <;> infer_instance

theorem announced_dead (run : Run (Steps (step cobs)) {} events session)
    (set : (session.calls id).slot.err = some lostTransport)
    (marked : .setDead ∉ session.todo .reader ∨ session.closed = true) : session.isAlive = false := by
  rcases marked with executed | closed
  · have dead := ((Paced.reachable run).dead (err_ending run set)).resolve_left executed
    simp [isAlive, dead]
  · simp [isAlive, closed]

theorem ends_dead (run : Run (Guarded (Steps (step cobs)) Announced) {} events session)
    (ends : Ends (session.calls id) (.error lostTransport)) : session.isAlive = false := by
  induction run with
  | nil => rcases ends with ends | ends <;> cases ends
  | @snoc events state after label before guarded ih =>
    obtain ⟨taken, announced⟩ := guarded
    apply dead_kept taken
    generalize same : after.calls id = call at ends
    cases same ▸ step_calls taken id with
    | same => exact ih ends
    | written => exact ih ends
    | rejected _ rejected =>
      rcases ends with ends | ends <;> cases ends
      cases rejected_foreign rejected
    | entered | allocated | registered => rcases ends with ends | ends <;> cases ends
    | forgotten leaving =>
      rcases ends with ends | ends <;> cases ends
      exact ih (Or.inl leaving)
    | moved move =>
      cases move with
      | sent | woken | unfailed | expired => rcases ends with ends | ends <;> cases ends
      | unsent _ failed =>
        rcases ends with ends | ends <;> cases ends
        rcases failed with raised | ⟨text, _, same⟩
        · cases Decoding.wire_foreign cobs _ _ raised
        · cases same
      | failed _ set =>
        rcases ends with ends | ends <;> cases ends
        exact announced_dead before.unguarded set (announced set)
      | returned =>
        rcases ends with ends | ends <;> simp only [Call.result, Pc.leaving.injEq, reduceCtorEq] at ends
        split at ends
        · split at ends <;> simp [lostTransport] at ends
        · cases ends

section Recovery
variable {self : Dongle} {settings : Settings} {α σ : Type} {op : Python α}
  {answers : σ → (op : Op) → Reply op → σ → Prop} {state last : σ} {outcome : Except Exc α}

def recovering (self : Dongle) (op : Python α) (exc : Exc) : Python α := do
  if exc.isNotConfigured then
    if (← Python.read Attributes.appliedConfig).isNone then throw exc
    else
      Dongle.reapplyConfig
      op
  else if exc.isDonglora then
    if !(← Python.isAlive (← Python.read Attributes.session)) && self.reopener.isSome then
      self.ensureSessionAlive
      op
    else throw exc
  else throw exc

theorem withRecovery_recovering (self : Dongle) (op : Python α) : self.withRecovery op = (do
    self.ensureSessionAlive
    tryCatch op (recovering self op)) := rfl

/-- When the handler looks, the session of the failed attempt is still installed, and its
`is_alive` says `living`. -/
def Reports (answers : σ → (op : Op) → Reply op → σ → Prop) (failed : Nat) (living : Bool) (state : σ) : Prop :=
  ∀ attributes middle, answers state .read attributes middle → attributes.session = failed ∧
    ∀ reply last, answers middle (.isAlive failed) reply last → reply = living

theorem recovering_run (reopener : self.reopener = some settings) :
    (recovering self op lostTransport).run = .perform .read fun attributes =>
      .perform (.isAlive attributes.session) fun living =>
        if living = true then .pure (.error lostTransport) else (do
          self.ensureSessionAlive
          op : Python α).run := by
  have shape : (recovering self op lostTransport).run = .perform .read fun attributes =>
      .perform (.isAlive attributes.session) fun living =>
        (if (!living && self.reopener.isSome) = true then (do
          self.ensureSessionAlive
          op) else throw lostTransport : Python α).run := rfl
  rw [shape]
  congr 1
  funext attributes
  congr 1
  funext living
  cases living with
  | false => simp [reopener]
  | true => rfl

/-- The handler takes the branch that `is_alive` points to. -/
theorem recovering_branches {failed : Nat} {living : Bool} (reopener : self.reopener = some settings)
    (reports : Reports answers failed living state)
    (executed : Executes answers (recovering self op lostTransport).run state outcome last) :
    (living = true ∧ outcome = .error lostTransport) ∨ (living = false ∧ ∃ middle, Executes answers (do
      self.ensureSessionAlive
      op : Python α).run middle outcome last) := by
  rw [recovering_run reopener] at executed
  cases executed with
  | @perform _ _ _ middle _ attributes _ read looked =>
    obtain ⟨rfl, answered⟩ := reports attributes middle read
    cases looked with
    | @perform _ _ _ after _ reply _ asked rest =>
      obtain rfl := answered reply after asked
      cases reply with
      | true =>
        left
        cases rest
        exact ⟨rfl, rfl⟩
      | false => exact Or.inr ⟨rfl, after, rest⟩

end Recovery

/-- From here on the session is dead for everybody, and a handler of `_with_recovery` that
finds it installed reconnects and tries again. -/
structure Noticed (cobs : Cobs.Codec) (session : Session) (self : Dongle) : Prop where
  dead : ∀ later last, Run (Steps (step cobs)) session later last → last.isAlive = false
  retried : ∀ later last, Run (Steps (step cobs)) session later last →
    ∀ (σ α : Type) (answers : σ → (op : Op) → Reply op → σ → Prop) (failed : Nat) (state : σ) (op : Python α),
      Reports answers failed last.isAlive state → ∀ outcome after,
        Executes answers (recovering self op lostTransport).run state outcome after →
        ∃ middle, Executes answers (do
          self.ensureSessionAlive
          op : Python α).run middle outcome after

theorem dead_noticed {self : Dongle} {settings : Settings} (reopener : self.reopener = some settings)
    (dead : session.isAlive = false) : Noticed cobs session self := by
  have stays (later : List Step) (last : Session) (run : Run (Steps (step cobs)) session later last) :
      last.isAlive = false := dead_later run dead
  refine ⟨stays, ?_⟩
  intro later last run σ α answers failed state op reports outcome after executed
  rw [stays later last run] at reports
  rcases recovering_branches reopener reports executed with ⟨living, _⟩ | ⟨_, retries⟩
  · cases living
  · exact retries

/-- When no caller overtakes the reader between its error and its flag, the death of the
reader is visible to whoever is told about it. -/
theorem reader_death_visible {self : Dongle} {settings : Settings} (reopener : self.reopener = some settings)
    (run : Run (Guarded (Steps (step cobs)) Announced) {} events session) :
    (∀ id woken, Guarded (Steps (step cobs)) Announced session (.wake id) woken →
      (session.calls id).slot.err = some lostTransport → Noticed cobs woken self) ∧
    ∀ id, Ends (session.calls id) (.error lostTransport) → Noticed cobs session self := by
  constructor
  · intro id woken guarded set
    obtain ⟨taken, announced⟩ := guarded
    exact dead_noticed reopener (dead_kept taken (announced_dead run.unguarded set (announced set)))
  · intro id ends
    exact dead_noticed reopener (ends_dead run ends)

/-- A `PING` waits when the transport is lost, and the reader gets through its exit first. -/
def orderlyDeath : List Step :=
  [.begin 0 .ping true, .alloc 0, .register 0, .write 0 none, .poll, .hangup, .shutdown, .act .reader, .act .reader,
    .act .reader, .act .reader, .wake 0, .readErr 0, .forget 0]

theorem reader_death_visible_ping : ∃ session,
    Run (Guarded (Steps (step Cobs.standard)) Announced) {} orderlyDeath session ∧
      Ends (session.calls 0) (.error lostTransport) ∧ Noticed Cobs.standard session ⟨some {}, 3⟩ := by
  have computed : (execute (restrict (step Cobs.standard) Announced) {} orderlyDeath).map (fun session =>
      (session.calls 0).pc) = some (.finished (.error lostTransport)) := by decide +kernel
  obtain ⟨last, run, ended⟩ := execute_summary computed
  have guarded := restricted_run run
  exact ⟨last, guarded, Or.inr ended, (reader_death_visible rfl guarded).2 0 (Or.inr ended)⟩

/-- The same, but the caller wakes as soon as its event is set. -/
def hastyDeath : List Step :=
  [.begin 0 .ping true, .alloc 0, .register 0, .write 0 none, .poll, .hangup, .shutdown, .act .reader, .act .reader,
    .wake 0, .readErr 0, .act .reader, .forget 0]

/-- It has the error, `is_alive` is still true, and `_with_recovery` raises the error. -/
theorem death_reported_early : ∃ session, Run (Steps (step Cobs.standard)) {} hastyDeath session ∧
    (session.calls 0).pc = .finished (.error lostTransport) ∧ session.isAlive = true ∧
    ∀ (world : World) (op : Python Unit), world.alive world.attributes.session = session.isAlive →
      Executes (Answers Unrestricted) (recovering ⟨some {}, 3⟩ op lostTransport).run world (.error lostTransport) world := by
  have computed : (execute (step Cobs.standard) {} hastyDeath).map (fun session =>
      ((session.calls 0).pc, session.isAlive)) = some (.finished (.error lostTransport), true) := by decide +kernel
  obtain ⟨last, run, same⟩ := execute_summary computed
  obtain ⟨ended, living⟩ := Prod.mk.inj same
  refine ⟨last, run, ended, living, ?_⟩
  intro world op alive
  rw [living] at alive
  have asked : Answers Unrestricted world (.isAlive world.attributes.session) true world := ⟨fun _ => alive, rfl⟩
  have reopener : (⟨some {}, 3⟩ : Dongle).reopener = some {} := rfl
  rw [recovering_run reopener]
  exact .perform ⟨rfl, rfl⟩ (.perform asked (.pure _ _))

end DongloraClient.Proofs.SessionDeath
