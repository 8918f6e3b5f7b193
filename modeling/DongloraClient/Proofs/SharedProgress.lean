import DongloraClient.Foundation.Locking
import DongloraClient.Proofs.RecoveryRequests
import DongloraClient.Proofs.SharedPrograms

/-! The threads of a `Dongle` do not block each other for good. Whoever has `_recover_lock`
asks for nothing that others have to provide. -/

namespace DongloraClient.Proofs.SharedProgress
open Python Threads Transition SharedDiscipline SharedMethods RecoveryRequests Locking

variable {self : Dongle} {shared : Shared} {thread : Nat} {α β : Type}

def kind : Op → Kind
  | .acquire => .acquire
  | .release => .release
  | _ => .other

/-- `next_rx` without a timeout, while its session lives and has no packet. -/
def Waits (shared : Shared) : Op → Prop
  | .nextRx session timeout => shared.queue session = [] ∧ timeout = none ∧ shared.readerDead session = false
  | _ => False

def Unlocked : Op → Prop
  | .acquire | .release | .nextRx _ _ => False
  | _ => True

theorem lock (self : Dongle) : Lock self.system kind Shared.holder where
  acquired thread shared op reply after acquires answered := by
    obtain ⟨permitted, rfl⟩ := answered
    cases op <;> cases acquires
    exact ⟨permitted, rfl⟩
  released thread shared op reply after releases answered := by
    obtain ⟨permitted, rfl⟩ := answered
    cases op <;> cases releases
    rfl
  apart thread shared op reply after other answered := by
    obtain ⟨permitted, rfl⟩ := answered
    cases op with
    | acquire | release => cases other
    | nextRx => cases reply <;> rfl
    | read | assign | now | waitStop | openTransport | openSession | isAlive | closeSession | command => rfl
  stirred shared disturbance after stirred := by
    have stirs : shared.stir disturbance = some after := stirred
    cases disturbance <;>
    · simp only [Shared.stir] at stirs
      split at stirs <;> cases stirs
      rfl

theorem answered_unlocked {op : Op} (unlocked : Unlocked op) : ∃ reply after, self.system.answers thread shared op reply after := by
  cases op with
  | acquire | release | nextRx => exact unlocked.elim
  | read => exact ⟨shared.attributes, _, rfl, rfl⟩
  | waitStop => exact ⟨shared.attributes.keepaliveStop, _, rfl, rfl⟩
  | openSession => exact ⟨shared.opened, _, rfl, rfl⟩
  | isAlive session => exact ⟨shared.isAlive session, _, rfl, rfl⟩
  | assign | closeSession => exact ⟨(), _, trivial, rfl⟩
  | now => exact ⟨(0 : Rat), _, trivial, rfl⟩
  | openTransport => exact ⟨.ok 0, _, trivial, rfl⟩
  | command => exact ⟨.error (.timeoutError ""), _, trivial, rfl⟩

theorem serves (self : Dongle) : Serves self.system kind Shared.holder Unlocked Waits where
  acquire thread shared op acquires free := by
    cases op <;> cases acquires
    exact ⟨(), _, free, rfl⟩
  release thread shared op releases := by
    cases op <;> cases releases
    exact ⟨(), _, trivial, rfl⟩
  inside thread shared op _ unlocked := answered_unlocked unlocked
  other thread shared op other := by
    cases op with
    | acquire | release => cases other
    | nextRx session timeout =>
      cases queued : shared.queue session with
      | cons event rest => exact Or.inl ⟨some event, _, congrArg List.head? queued, rfl⟩
      | nil =>
        by_cases ends : timeout.isSome = true ∨ shared.readerDead session = true
        · exact Or.inl ⟨none, shared, ⟨queued, ends⟩, rfl⟩
        · obtain ⟨untimed, alive⟩ := not_or.mp ends
          exact Or.inr ⟨queued, by simpa using untimed, by simpa using alive⟩
    | read | assign | now | waitStop | openTransport | openSession | isAlive | closeSession | command =>
      exact Or.inl (answered_unlocked trivial)

theorem gentle_unlocked {program : Python α} (gentle : Gentle program) : Program.Confined Unlocked program :=
  gentle.mono fun op mild => by cases op <;> trivial

theorem recovers_unlocked (op : Op) (recovers : Recovers op) : Unlocked op := by
  cases op <;> trivial

/-- A method that has given back the lock, if it has taken it, when it ends. -/
abbrev Tidy (program : Python α) : Prop := Balanced kind Unlocked program.run false fun _ => false

theorem unlocked_tidy {program : Python α} (unlocked : Program.Confined Unlocked program) : Tidy program :=
  .requests unlocked (fun op may => by cases op <;> first | rfl | exact may.elim) nofun

theorem ensureSessionAlive_tidy : Tidy self.ensureSessionAlive := by
  have checked {program : Python Unit} (tidy : Tidy program) : Tidy (do
      if ← Python.isAlive (← Python.read Attributes.session) then return () else program) := by
    refine .sequence (unlocked_tidy (gentle_unlocked (read_gentle _))) fun _ => ?_
    refine .sequence (unlocked_tidy (gentle_unlocked (isAlive_gentle _))) fun living => ?_
    cases living with
    | false => exact tidy
    | true => rfl
  refine checked ?_
  cases self.reopener with
  | none => rfl
  | some settings =>
    refine .locked Op.acquire Op.release rfl rfl ?_
    have body : Program.Confined Unlocked (do
        if ← Python.isAlive (← Python.read Attributes.session) then return ()
        else self.recoverSessionLocked settings) :=
      (recovery_recovers settings).mono recovers_unlocked
    exact .requests body (fun op may => by cases op <;> first | rfl | exact may.elim) fun _ _ may => may

theorem tidy_composes : Composes self fun {_} program => Tidy program where
  gentle gentle := unlocked_tidy (gentle_unlocked gentle)
  bind := .sequence
  tryCatch := .tryCatch
  ite first second := by split <;> assumption
  revives := ensureSessionAlive_tidy

theorem nextRx_tidy (session : Nat) (timeout : Option Rat) : Tidy (nextRx session timeout) :=
  ⟨trivial, nofun, fun _ => rfl⟩

theorem close_unlocked : Program.Confined Unlocked Dongle.close :=
  close_closes.mono fun op closes => by cases op <;> trivial

theorem serve_tidy (operation : Operation) : Tidy (self.serve operation) :=
  tidy_composes.serve nextRx_tidy (unlocked_tidy close_unlocked) operation

theorem close_complete : Complete (self.serve .close).run := by
  refine .sequence ?_ fun _ => trivial
  intro attributes
  change Complete (ExceptT.run (if !attributes.closed then _ else _))
  cases attributes.closed with
  | true => trivial
  | false => exact fun _ _ _ _ => trivial

def Free : Operation → Program Op Reply (Except Exc (Option RxEvent)) → Prop
  | .close, rest => Complete rest ∧ rest.Requests Unlocked
  | _, _ => True

/-- Every thread goes on with its method, waits for a packet or waits for the lock while
its owner goes on. `close` never waits. -/
structure Lively (self : Dongle) (pool : Threading) : Prop where
  owner : ∀ thread, pool.shared.holder = some thread → GoesOn self.system pool thread
  alive : ∀ thread task rest, pool.threads thread = some ⟨task, rest⟩ →
    Alive self.system kind Shared.holder Waits pool thread rest
  closing : ∀ thread rest, pool.threads thread = some ⟨.close, rest⟩ → CanStep self.system pool thread

theorem threads_lively {start : Shared} (unlocked : start.holder = none) {events : List ThreadEvent} {pool : Threading}
    (run : self.Runs start events pool) : Lively self pool := by
  have placed := placed_run (lock self) (fun operation => serve_tidy operation) unlocked run
  refine ⟨fun thread => owner_goes (serves self) placed, fun thread task rest => alive (serves self) placed, ?_⟩
  intro thread rest runs
  have free : ∀ thread running, pool.threads thread = some running → Free running.task running.rest := by
    refine residual_run (fun operation => ?_) (fun operation op next reply free => ?_) run
    · cases operation with
      | close =>
        refine ⟨close_complete, ?_⟩
        have asks : Program.Confined Unlocked (self.serve .close) := .bind close_unlocked fun _ => .pure _
        exact asks
      | _ => trivial
    · cases operation with
      | close => exact ⟨free.1 reply, free.2.2 reply⟩
      | _ => trivial
  obtain ⟨complete, asks⟩ : Complete rest ∧ rest.Requests Unlocked := free thread _ runs
  cases rest with
  | pure value => exact ⟨_, _, rfl, .finish runs⟩
  | unfinished => exact complete.elim
  | perform op following =>
    have answers : ∃ reply after, self.system.answers thread pool.shared op reply after := answered_unlocked asks.1
    obtain ⟨reply, after, answered⟩ := answers
    exact ⟨_, _, rfl, .perform runs answered⟩

/-- Two threads find the session dead, and a third waits for a packet. One of the two is in
the reconnect, the other at the lock. -/
def jammed : List (Turn Operation Disturbance) :=
  [.start 2 (.next none), .advance 2, .start 0 .ping, .start 1 .ping, .stir (.die 1)] ++ List.replicate 8 (.advance 0) ++
    List.replicate 3 (.advance 1) ++ [.start 3 .close, .advance 3]

theorem threads_lively_jammed : ∃ events pool,
    (⟨some {}, 1⟩ : Dongle).Runs (Shared.of DongleLogic.connected) events pool ∧ pool.shared.holder = some 0 ∧
      (pool.threads 1).isSome = true ∧ Lively ⟨some {}, 1⟩ pool := by
  have computed : ((Shared.scheduler DongleLogic.obliging fun _ _ => true).play (⟨some {}, 1⟩ : Dongle).system.program
      ⟨Shared.of DongleLogic.connected, fun _ => none⟩ jammed).map
        (fun ended => (ended.2.shared.holder, (ended.2.threads 1).isSome)) = some (some 0, true) := by decide +kernel
  obtain ⟨events, pool, runs, _, same⟩ := SharedPrograms.scheduled computed
  obtain ⟨holder, queues⟩ := Prod.mk.inj same
  exact ⟨events, pool, runs, holder, queues, threads_lively rfl runs⟩

end DongloraClient.Proofs.SharedProgress
