import DongloraClient.Proofs.SharedPrograms
import Mathlib.Data.List.Nodup

/-! Reconnecting in a pool of threads: one reopener call at a time, and no live session
is ever given up. -/

namespace DongloraClient.Proofs.SharedReconnect
open Threads SharedDiscipline SharedPrograms

variable {self : Dongle} {start : Shared} {events : List ThreadEvent} {event : ThreadEvent} {pool next : Threading}
  {thread : Nat}

/-- Whether the thread is inside a call of the reopener after a step of its own: it has
asked for a transport, and has not yet installed the result, waited for the next attempt
or left the lock. -/
def inside (before : Bool) : Op → Bool
  | .openTransport _ _ => true
  | .assign _ | .waitStop _ | .release => false
  | _ => before

def calling (thread : Nat) (events : List ThreadEvent) : Bool :=
  events.foldl (fun before event =>
    match event with
    | .perform other _ op _ => if other = thread then inside before op else before
    | _ => before) false

/-- In a call of the reopener, or about to make one. -/
def Reopening (events : List ThreadEvent) (pool : Threading) (thread : Nat) : Prop :=
  calling thread events = true ∨ ∃ operation port timeout rest,
    pool.threads thread = some ⟨operation, .perform (.openTransport port timeout) rest⟩

theorem step_relies (kept : Kept self.system (discipline self) pool) (taken : Threads.Step self.system pool event next)
    (other : ∀ operation op reply, event ≠ .perform thread operation op reply) :
    Relies thread pool.shared next.shared := by
  cases taken with
  | start | finish => exact .refl thread pool.shared
  | @perform actor operation op rest reply after running answered =>
    have apart : thread ≠ actor := by
      intro same
      subst same
      exact other operation op reply rfl
    obtain ⟨allowed, _⟩ := (disciplined self).allowed kept running
    obtain ⟨permitted, rfl⟩ := answered
    exact relies_after allowed reply permitted apart
  | stir stirs => exact (SharedDiscipline.stirred kept.invariant stirs).2 thread

theorem performed (kept : Kept self.system (discipline self) pool) {operation : Operation} {op : Op} {reply : Reply op}
    (taken : Threads.Step self.system pool (.perform thread operation op reply) next) :
    Allows thread operation pool.shared op ∧ pool.shared.Permits op reply ∧
      next.shared = pool.shared.after thread op reply := by
  cases taken with
  | perform running answered => exact ⟨((disciplined self).allowed kept running).1, answered.1, answered.2⟩

theorem calling_owner (started : self.Started start) (run : self.Runs start events pool)
    (inCall : calling thread events = true) : pool.shared.holder = some thread := by
  induction run with
  | nil => cases inCall
  | @snoc events state after event before taken ih =>
    have kept := kept_run started before
    by_cases own : ∃ operation op reply, event = .perform thread operation op reply
    · obtain ⟨operation, op, reply, rfl⟩ := own
      obtain ⟨allowed, permitted, same⟩ := performed kept taken
      have still : inside (calling thread events) op = true := by
        simpa [calling] using inCall
      rw [same]
      cases op with
      | openTransport => exact allowed
      | assign | waitStop | release => cases still
      | acquire =>
        have free : state.shared.holder = none := permitted
        cases free.symm.trans (ih still)
      | nextRx session timeout => cases reply <;> exact ih still
      | read | now | openSession | isAlive | closeSession | command => exact ih still
    · have other (operation : Operation) (op : Op) (reply : Reply op) : event ≠ .perform thread operation op reply :=
        fun same => own ⟨operation, op, reply, same⟩
      apply (step_relies kept taken other).holder.mpr
      apply ih
      have unmoved : calling thread (events ++ [event]) = calling thread events := by
        simp only [calling, List.foldl_append, List.foldl_cons, List.foldl_nil]
        split
        next actor operation op reply =>
          split
          next same =>
            subst same
            exact absurd rfl (other operation op reply)
          next => rfl
        next => rfl
      rwa [unmoved] at inCall

theorem reopening_owner (started : self.Started start) (run : self.Runs start events pool)
    (reopening : Reopening events pool thread) : pool.shared.holder = some thread := by
  rcases reopening with inCall | ⟨operation, port, timeout, rest, running⟩
  · exact calling_owner started run inCall
  · exact ((disciplined self).allowed (kept_run started run) running).1

theorem bystander_relies (kept : Kept self.system (discipline self) pool)
    (taken : Threads.Step self.system pool event next) : ∃ bystander, Relies bystander pool.shared next.shared := by
  obtain ⟨bystander, other⟩ : ∃ bystander, ∀ operation op reply, event ≠ .perform bystander operation op reply := by
    cases taken with
    | @perform actor =>
      refine ⟨actor + 1, fun operation op reply same => ?_⟩
      have actors : actor = actor + 1 := by injection same
      omega
    | start | finish | stir => exact ⟨0, fun _ _ _ => nofun⟩
  exact ⟨bystander, step_relies kept taken other⟩

theorem dead_step (kept : Kept self.system (discipline self) pool) (taken : Threads.Step self.system pool event next)
    {session : Nat} (dead : pool.shared.isAlive session = false) : next.shared.isAlive session = false := by
  obtain ⟨bystander, relies⟩ := bystander_relies kept taken
  exact dead_iff.mpr ((dead_iff.mp dead).imp (relies.readerDead session) (relies.shut session))

theorem attributes_step (taken : Threads.Step self.system pool event next) :
    (next.shared.attributes = pool.shared.attributes ∧ next.shared.installs = pool.shared.installs) ∨ ∃ thread operation change rest reply,
      pool.threads thread = some ⟨operation, .perform (.assign change) rest⟩ ∧
        event = .perform thread operation (.assign change) reply ∧
        next.shared = pool.shared.assign change ∧ next.threads thread = some ⟨operation, rest reply⟩ := by
  cases taken with
  | start | finish => exact Or.inl ⟨rfl, rfl⟩
  | @stir disturbance after stirs =>
    have stirs : pool.shared.stir disturbance = some after := stirs
    refine Or.inl ?_
    cases disturbance <;>
    · simp only [Shared.stir] at stirs
      split at stirs <;> cases stirs
      exact ⟨rfl, rfl⟩
  | @perform thread operation op rest reply after running answered =>
    obtain ⟨_, rfl⟩ := answered
    cases op with
    | assign change => exact Or.inr ⟨thread, operation, change, rest, reply, running, rfl, rfl, Function.update_self ..⟩
    | nextRx session timeout => cases reply <;> exact Or.inl ⟨rfl, rfl⟩
    | read | now | openSession | isAlive | closeSession | command | acquire | release | waitStop | openTransport =>
      exact Or.inl ⟨rfl, rfl⟩

def Replaces (pool : Threading) : ThreadEvent → Prop
  | .perform _ _ (.assign change) _ => (change pool.shared.attributes).session ≠ pool.shared.current
  | _ => False

theorem replaces_iff (taken : Threads.Step self.system pool event next) :
    Replaces pool event ↔ next.shared.current ≠ pool.shared.current := by
  constructor
  · intro replaces
    cases taken with
    | @perform thread operation op rest reply after running answered =>
      obtain ⟨_, rfl⟩ := answered
      cases op with
      | assign change => exact replaces
      | _ => exact replaces.elim
    | start | finish | stir => exact replaces.elim
  · intro changes
    rcases attributes_step taken with ⟨same, _⟩ | ⟨thread, operation, change, rest, reply, _, rfl, after, _⟩
    · exact absurd (congrArg Attributes.session same) changes
    · rw [after] at changes
      exact changes

theorem replaced_step (kept : Kept self.system (discipline self) pool)
    (taken : Threads.Step self.system pool event next) (changes : next.shared.current ≠ pool.shared.current) :
    pool.shared.readerDead pool.shared.current = true ∧ pool.shared.shut pool.shared.current = true := by
  rcases attributes_step taken with ⟨same, _⟩ | ⟨thread, operation, change, rest, reply, running, _, after, _⟩
  · exact absurd (congrArg Attributes.session same) changes
  rcases ((disciplined self).allowed kept running).1 with minor | ⟨_, closes⟩ | ⟨session, installs⟩
  · rw [after] at changes
    exact absurd (minor pool.shared.attributes).1 changes
  · rw [after] at changes
    exact absurd (closes pool.shared.attributes).1 changes
  · exact installs.replaced

def deaths (shared : Shared) : Nat := ((List.range shared.opened).filter shared.readerDead).length

theorem installs_bounded (coherent : Coherent self pool.shared) :
    pool.shared.installs.length ≤ 1 + deaths pool.shared := by
  cases listed : pool.shared.installs with
  | nil => exact Nat.zero_le _
  | cons current rest =>
    have head : current = pool.shared.current := by
      have first := coherent.head
      rw [listed] at first
      exact Option.some.inj first
    obtain ⟨absent, once⟩ := List.nodup_cons.mp (listed ▸ coherent.once)
    have lost : rest ⊆ (List.range pool.shared.opened).filter pool.shared.readerDead := by
      intro session member
      have installed : session ∈ pool.shared.installs := listed ▸ List.mem_cons_of_mem _ member
      have replaced : session ≠ pool.shared.current := by
        intro same
        rw [same, ← head] at member
        exact absent member
      exact List.mem_filter.mpr ⟨List.mem_range.mpr (coherent.placed session installed),
        (coherent.replaced session installed replaced).1⟩
    have shorter : rest.length ≤ deaths pool.shared := (List.subperm_of_subset once lost).length_le
    rw [List.length_cons]
    omega

structure SingleFlight (dongle : Dongle) (events : List ThreadEvent) (pool : Threading) : Prop where
  exclusive : ∀ first second, Reopening events pool first → Reopening events pool second → first = second
  closed : ∀ thread operation session next,
    Threads.Step dongle.system pool (.perform thread operation (.closeSession session) ()) next → operation ≠ .close →
      session ∈ pool.shared.installs → pool.shared.isAlive session = false
  replaced : ∀ event next, Threads.Step dongle.system pool event next → next.shared.current ≠ pool.shared.current →
    pool.shared.isAlive pool.shared.current = false
  dead : ∀ event next session, Threads.Step dongle.system pool event next → pool.shared.isAlive session = false →
    next.shared.isAlive session = false
  once : pool.shared.installs.Nodup
  bounded : pool.shared.installs.length ≤ 1 + deaths pool.shared

/-- Reopener calls exclude each other, and recovery closes and replaces dead sessions
only, each at most once. -/
theorem single_flight (started : self.Started start) (run : self.Runs start events pool) :
    SingleFlight self events pool := by
  have kept := kept_run started run
  have coherent : Coherent self pool.shared := kept.invariant
  constructor
  · intro first second reopening other
    have held := reopening_owner started run reopening
    rw [reopening_owner started run other] at held
    exact (Option.some.inj held).symm
  · intro thread operation session next taken notClose installed
    rcases (performed kept taken).1 with ⟨absent, _⟩ | ⟨_, dead | ⟨close, _⟩⟩
    · exact absurd installed absent
    · exact dead_iff.mpr dead
    · exact absurd close notClose
  · intro event next taken changes
    exact dead_iff.mpr (Or.inl (replaced_step kept taken changes).1)
  · exact fun event next session taken dead => dead_step kept taken dead
  · exact coherent.once
  · exact installs_bounded coherent

/-- The session of a `Dongle` dies under two threads that both want to ping: the first
reconnects, and the second waits for the lock. -/
def contended : List (Turn Operation Disturbance) :=
  [.start 0 .ping, .start 1 .ping, .advance 0, .advance 1, .stir (.die 1), .advance 0, .advance 0, .advance 1,
    .advance 1] ++ List.replicate 16 (.advance 0) ++ [.advance 1]

theorem single_flight_contended : ∃ events pool,
    (⟨some {}, 1⟩ : Dongle).Runs (Shared.of DongleLogic.connected) events pool ∧
      pool.shared.installs = [2, 1] ∧ pool.shared.holder = some 1 ∧ SingleFlight ⟨some {}, 1⟩ events pool := by
  have computed : ((Shared.scheduler DongleLogic.obliging fun _ _ => true).play (⟨some {}, 1⟩ : Dongle).system.program
      ⟨Shared.of DongleLogic.connected, fun _ => none⟩ contended).map
        (fun ended => (ended.2.shared.installs, ended.2.shared.holder)) = some ([2, 1], some 1) := by decide +kernel
  obtain ⟨events, pool, runs, _, same⟩ := scheduled computed
  obtain ⟨installs, holder⟩ := Prod.mk.inj same
  exact ⟨events, pool, runs, installs, holder, single_flight connected_started runs⟩

end DongloraClient.Proofs.SharedReconnect
