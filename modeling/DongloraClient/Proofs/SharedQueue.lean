import DongloraClient.Foundation.Handover
import DongloraClient.Proofs.SharedReconnect

/-! The packets that the sessions of a `Dongle` have queued. A thread returns a packet the
moment it has taken it, so that only a reconnect can lose one: what is left in the queue
of the session that it replaces. -/

namespace DongloraClient.Proofs.SharedQueue
open Python Threads Transition SharedDiscipline SharedMethods SharedPrograms SharedReconnect

variable {self : Dongle} {start : Shared} {events : List ThreadEvent} {event : ThreadEvent} {pool next : Threading}
  {thread : Nat} {α β : Type}

def packet : (op : Op) → Reply op → Option RxEvent
  | .nextRx _ _, packet => packet
  | _, _ => none

def result : Except Exc (Option RxEvent) → Option RxEvent
  | .ok packet => packet
  | .error _ => none

/-! All but `next` and the end of `recv` leaves the queues alone. -/

abbrev Silent (program : Python α) : Prop := Program.Confined (fun op => ∀ reply, packet op reply = none) program

theorem mild_silent (op : Op) (mild : Mild op) (reply : Reply op) : packet op reply = none := by
  cases op with
  | nextRx => exact mild.elim
  | _ => rfl

theorem gentle_silent {program : Python α} (gentle : Gentle program) : Silent program := gentle.mono mild_silent

theorem request_silent {op : Op} (none : ∀ reply, packet op reply = none) :
    Silent (Program.request op : Python (Reply op)) := .request none

theorem closingOnError_silent {session : Nat} {body : Python α} (silent : Silent body) :
    Silent (closingOnError session body) :=
  .tryCatch silent fun _ => .ite (.bind (request_silent fun _ => rfl) fun _ => .throw _) (.throw _)

theorem bringUp_silent (transport : Nat) (timeout : Rat) (requested : Option Modulation) :
    Silent (bringUp transport timeout requested) := by
  have refused (session : Nat) (exc : Exc) : Silent (do
      closeSession session
      throw exc : Python Bringup) :=
    .bind (request_silent fun _ => rfl) fun _ => .throw exc
  refine .bind (request_silent fun _ => rfl) fun session => ?_
  refine .bind (closingOnError_silent (gentle_silent (command_gentle _ _ _))) fun answer => ?_
  cases answer with
  | none => exact refused _ _
  | some info =>
    refine .ite (refused _ _) ?_
    cases requested with
    | none => exact .pure _
    | some modulation =>
      refine .bind (closingOnError_silent (gentle_silent ?_)) fun _ => .pure _
      exact configured_gentle info modulation session timeout

theorem reopen_silent (settings : Settings) : Silent (Dongle.reopen settings) := by
  have opened : Silent (openAndInit settings) :=
    .bind ⟨fun _ => rfl, fun _ => trivial⟩ fun transport => bringUp_silent transport _ _
  exact .tryCatch (.bind opened fun _ => .pure _) fun exc => .ite (.pure _) (.throw exc)

theorem reconnect_silent (settings : Settings) (attempts : Nat) (backoff : Rat) :
    Silent (Dongle.reconnect settings attempts backoff) := by
  induction attempts generalizing backoff with
  | zero => trivial
  | succ attempts ih =>
    refine .bind (gentle_silent (read_gentle _)) fun _ => .bind (gentle_silent (read_gentle _)) fun _ => ?_
    refine .ite (.pure ()) (.bind (reopen_silent settings) fun bringup => ?_)
    cases bringup with
    | some bringup => exact .bind (request_silent fun _ => rfl) fun _ => gentle_silent (installed_gentle _ _ _)
    | none => exact .bind (request_silent fun _ => rfl) fun _ => .ite (.pure ()) (ih _)

theorem withLock_silent {body : Python α} (silent : Silent body) : Silent (withLock body) :=
  .bind (request_silent fun _ => rfl) fun _ =>
    .bind (.tryCatch silent fun exc => .bind (request_silent fun _ => rfl) fun _ => .throw exc) fun _ =>
      .bind (request_silent fun _ => rfl) fun _ => .pure _

theorem ensureSessionAlive_silent : Silent self.ensureSessionAlive := by
  have checked {first second : Python Unit} (holds : Silent first) (fails : Silent second) : Silent (do
      if ← Python.isAlive (← Python.read Attributes.session) then first else second) :=
    .bind (gentle_silent (read_gentle _)) fun _ => .bind (gentle_silent (isAlive_gentle _)) fun _ => .ite holds fails
  refine checked (.pure ()) ?_
  cases self.reopener with
  | none => exact .throw _
  | some settings =>
    refine withLock_silent (checked (.pure ()) (.bind (gentle_silent (read_gentle _)) fun _ => ?_))
    exact .bind (request_silent fun _ => rfl) fun _ => reconnect_silent _ _ _

theorem silent_composes : Composes self fun {_} program => Silent program where
  gentle := gentle_silent
  bind := .bind
  tryCatch := .tryCatch
  ite := .ite
  revives := ensureSessionAlive_silent

theorem close_silent : Silent Dongle.close := by
  have assigned (change : Attributes → Attributes) : Silent (assign change) := request_silent fun _ => rfl
  refine .bind (gentle_silent (read_gentle _)) fun _ => .ite ?_ (.pure ())
  refine .bind (assigned _) fun _ => .bind (assigned _) fun _ => .bind (gentle_silent (read_gentle _)) fun _ => ?_
  exact request_silent fun _ => rfl

theorem handing_bind {program : Python β} {next : β → Python (Option RxEvent)} (silent : Silent program)
    (rest : ∀ value, Handing packet result (next value).run) : Handing packet result (program >>= next).run := by
  refine Handing.bind silent fun outcome => ?_
  cases outcome with
  | ok value => exact rest value
  | error exc => rfl

theorem next_handing (timeout : Option Rat) : Handing packet result (Dongle.next timeout).run := by
  refine handing_bind (gentle_silent (read_gentle _)) fun session reply => ⟨fun empty => empty, fun event taken => ?_⟩
  exact ⟨.ok reply, rfl, taken⟩

theorem recv_handing (timeout : Option Rat) : Handing packet result (self.recv timeout).run := by
  refine handing_bind (gentle_silent checkOpen_gentle) fun _ => handing_bind ensureSessionAlive_silent fun _ => ?_
  refine handing_bind silent_composes.startRx fun _ => ?_
  refine handing_bind (gentle_silent (read_gentle _)) fun session reply => ?_
  constructor
  · intro empty
    have none : reply = none := empty
    subst none
    refine handing_bind (gentle_silent (read_gentle _)) fun _ => ?_
    refine handing_bind (gentle_silent (isAlive_gentle _)) fun living => ?_
    cases living with
    | true => rfl
    | false => exact handing_bind ensureSessionAlive_silent fun _ => rfl
  · intro event taken
    have some : reply = some event := taken
    subst some
    exact ⟨.ok (some event), rfl, rfl⟩

theorem serve_handing (operation : Operation) : Handing packet result (self.serve operation).run := by
  cases operation with
  | next timeout => exact next_handing timeout
  | recv timeout => exact recv_handing timeout
  | close => exact handing_bind close_silent fun _ => rfl
  | tx | rx | rxStop | setConfig | ping | keepalive =>
    exact handing_bind (silent_composes.call trivial) fun _ => rfl

def arrived (session : Nat) : ThreadEvent → Option RxEvent
  | .stir (.arrive other packet) => if other = session then some packet else none
  | _ => none

def takenFrom (session : Nat) : ThreadEvent → Option RxEvent
  | .perform _ _ (.nextRx other _) packet => if other = session then packet else none
  | _ => none

theorem queue_step (taken : Threads.Step self.system pool event next) (session : Nat) :
    pool.shared.queue session ++ (arrived session event).toList =
      (takenFrom session event).toList ++ next.shared.queue session := by
  have unchanged {event : ThreadEvent} {queue : List RxEvent} (none : arrived session event = none)
      (kept : takenFrom session event = Option.none) (same : queue = pool.shared.queue session) :
      pool.shared.queue session ++ (arrived session event).toList = (takenFrom session event).toList ++ queue := by
    rw [none, kept, same, Option.toList_none, List.append_nil, List.nil_append]
  cases taken with
  | start | finish => exact unchanged rfl rfl rfl
  | @stir disturbance after stirs =>
    have stirs : pool.shared.stir disturbance = some after := stirs
    cases disturbance with
    | die dying =>
      simp only [Shared.stir] at stirs
      split at stirs <;> cases stirs
      exact unchanged rfl rfl rfl
    | arrive other event =>
      simp only [Shared.stir] at stirs
      split at stirs <;> cases stirs
      by_cases same : other = session
      · subst same
        simp [arrived, takenFrom]
      · exact unchanged (if_neg same) rfl (Function.update_of_ne (Ne.symm same) ..)
  | @perform thread operation op rest reply after running answered =>
    obtain ⟨permitted, rfl⟩ := answered
    cases op with
    | nextRx other timeout =>
      by_cases same : other = session
      · subst same
        cases reply with
        | none => exact unchanged rfl (if_pos rfl) rfl
        | some event =>
          have first : (pool.shared.queue other).head? = some event := permitted
          obtain ⟨rest, queued⟩ := List.head?_eq_some_iff.mp first
          simp [arrived, takenFrom, Pool.set, Shared.after, queued]
      · have kept : takenFrom session (.perform thread operation (.nextRx other timeout) reply) = none := if_neg same
        cases reply with
        | none => exact unchanged rfl kept rfl
        | some event => exact unchanged rfl kept (Function.update_of_ne (Ne.symm same) ..)
    | read | assign | acquire | release | now | waitStop | openTransport | openSession | isAlive | closeSession
    | command => exact unchanged rfl rfl rfl

/-- What was put on the queue of a session has been taken from it in the same order, or
is still there. -/
theorem queue_run (run : self.Runs start events pool) (session : Nat) :
    start.queue session ++ events.filterMap (arrived session) =
      events.filterMap (takenFrom session) ++ pool.shared.queue session := by
  induction run with
  | nil => exact List.append_nil _
  | @snoc events state after event before taken ih =>
    rw [filterMap_snoc, filterMap_snoc, ← List.append_assoc, ih, List.append_assoc, List.append_assoc,
      queue_step taken session]

/-- No reconnect replaces a session with packets in its queue. -/
def Drained (pool : Threading) (event : ThreadEvent) : Prop :=
  Replaces pool event → pool.shared.queue pool.shared.current = []

/-- Every packet that an installed session has put on its queue has been taken from it,
and returned by the call that took it or about to be, or is still in the queue of the
session that is installed now, where the next request finds the oldest one. -/
structure Conserved (start : Shared) (events : List ThreadEvent) (pool : Threading) : Prop where
  queued : ∀ session ∈ pool.shared.installs, start.queue session ++ events.filterMap (arrived session) =
    events.filterMap (takenFrom session) ++ if session = pool.shared.current then pool.shared.queue session else []
  handed : ∀ thread, events.filterMap (Event.takenBy packet thread) =
    events.filterMap (Event.returnedBy result thread) ++ holding result (pool.threads thread)
  served : ∀ timeout reply, pool.shared.Permits (.nextRx pool.shared.current timeout) reply →
    reply = (pool.shared.queue pool.shared.current).head?

/-- The sessions that were replaced have nothing in their queues. -/
def Emptied (shared : Shared) : Prop :=
  ∀ session ∈ shared.installs, session ≠ shared.current → shared.queue session = []

theorem installed_earlier (taken : Threads.Step self.system pool event next) {session : Nat}
    (member : session ∈ next.shared.installs) (apart : session ≠ next.shared.current) :
    session ∈ pool.shared.installs := by
  rcases attributes_step taken with ⟨_, same⟩ | ⟨thread, operation, change, rest, reply, _, _, after, _⟩
  · rwa [← same]
  · rw [after] at member apart
    simp only [Shared.assign] at member
    split at member
    next => exact member
    next => exact (List.mem_cons.mp member).resolve_left apart

theorem emptied_step (kept : Kept self.system (discipline self) pool) (emptied : Emptied pool.shared)
    (taken : Threads.Step self.system pool event next) (drained : Drained pool event) : Emptied next.shared := by
  intro session member apart
  have earlier := installed_earlier taken member apart
  have coherent : Coherent self pool.shared := kept.invariant
  obtain ⟨empty, none⟩ : pool.shared.queue session = [] ∧ arrived session event = none := by
    by_cases current : session = pool.shared.current
    · have replaces : Replaces pool event := by
        rw [current] at apart
        exact (replaces_iff taken).mpr apart.symm
      refine ⟨current ▸ drained replaces, ?_⟩
      cases event with
      | stir => exact replaces.elim
      | start | perform | finish => rfl
    · refine ⟨emptied session earlier current, ?_⟩
      cases taken with
      | @stir disturbance after stirs =>
        -- Nothing arrives on a session whose reader is gone.
        have lost := (coherent.replaced session earlier current).1
        have stirs : pool.shared.stir disturbance = some after := stirs
        cases disturbance with
        | die => rfl
        | arrive other event =>
          simp only [Shared.stir] at stirs
          split at stirs <;> cases stirs
          next living =>
            refine if_neg fun same => ?_
            rw [same, lost] at living
            cases living.2
      | start | perform | finish => rfl
  have balance := queue_step taken session
  rw [empty, none] at balance
  exact (List.append_eq_nil_iff.mp balance.symm).2

theorem emptied_run (started : self.Started start)
    (run : Run (Guarded (Threads.Step self.system) Drained) ⟨start, fun _ => none⟩ events pool) : Emptied pool.shared := by
  induction run with
  | nil =>
    intro session member apart
    rw [started.installed] at member
    exact absurd (List.mem_singleton.mp member) apart
  | snoc before taken ih => exact emptied_step (kept_run started before.unguarded) ih taken.1 taken.2

theorem conserved (started : self.Started start)
    (run : Run (Guarded (Threads.Step self.system) Drained) ⟨start, fun _ => none⟩ events pool) :
    Conserved start events pool := by
  constructor
  · intro session member
    rw [queue_run run.unguarded session]
    congr 1
    split
    next => rfl
    next replaced => exact emptied_run started run session member replaced
  · exact fun thread => (handed_run serve_handing run.unguarded thread).balance
  · intro timeout reply permitted
    cases reply with
    | none =>
      have empty : pool.shared.queue pool.shared.current = [] := permitted.1
      rw [empty]
      rfl
    | some event => exact permitted.symm

/-- No packet is lost throughout a run if and only if no reconnect in it replaces a
session with packets in its queue. -/
theorem queued_packets_survive_iff (started : self.Started start) :
    Throughout (Threads.Step self.system) (Conserved start) ⟨start, fun _ => none⟩ events pool ↔
      Run (Guarded (Threads.Step self.system) Drained) ⟨start, fun _ => none⟩ events pool := by
  constructor
  · intro whole
    induction whole with
    | nil => exact .nil
    | @snoc events state after event before taken holds ih =>
      refine ih.snoc ⟨taken, fun replaces => ?_⟩
      have kept := kept_run started before.run
      have coherent : Coherent self state.shared := kept.invariant
      obtain ⟨bystander, relies⟩ := bystander_relies kept taken
      have member := relies.listed _ coherent.current
      have balance := holds.queued _ member
      rw [if_neg ((replaces_iff taken).mp replaces).symm, queue_run (before.run.snoc taken)] at balance
      have empty : after.shared.queue state.shared.current = [] := List.append_cancel_left balance
      have moved := queue_step taken state.shared.current
      cases event with
      | perform thread operation op reply =>
        cases op with
        | assign change =>
          rw [empty] at moved
          exact (List.append_eq_nil_iff.mp moved).1
        | _ => exact replaces.elim
      | start | finish | stir => exact replaces.elim
  · intro run
    induction run with
    | nil => exact .nil (conserved started .nil)
    | snoc before taken ih => exact ih.snoc taken.1 (conserved started (before.snoc taken))

/-- No step of a schedule replaces a session with packets in its queue. -/
def whenDrained (before after : Threading) : Bool :=
  before.shared.current == after.shared.current || (before.shared.queue before.shared.current).isEmpty

theorem whenDrained_drained (taken : Threads.Step self.system pool event next) (admitted : whenDrained pool next = true) :
    Guarded (Threads.Step self.system) Drained pool event next := by
  refine ⟨taken, fun replaces => ?_⟩
  rcases Bool.or_eq_true_iff.mp admitted with same | empty
  · exact absurd (eq_of_beq same).symm ((replaces_iff taken).mp replaces)
  · exact List.isEmpty_iff.mp empty

def received : RxEvent := ⟨-80, 8, 0, 0, true, 0, .ota, [1]⟩

/-- A packet is received before the session dies, and one on the session that replaces it. -/
def receivedBefore : List (Turn Operation Disturbance) :=
  [.stir (.arrive 1 received), .start 0 (.recv (some 1))] ++ List.replicate 13 (.advance 0) ++
    [.finish 0, .start 1 .ping, .advance 1, .stir (.die 1)] ++ List.replicate 23 (.advance 1) ++
    [.finish 1, .stir (.arrive 2 received)]

theorem queued_packets_survive_received : ∃ events pool,
    Throughout (Threads.Step (⟨some {}, 1⟩ : Dongle).system) (Conserved (Shared.of DongleLogic.connected))
      ⟨Shared.of DongleLogic.connected, fun _ => none⟩ events pool ∧
    pool.shared.installs = [2, 1] ∧ events.filterMap (takenFrom 1) = [received] ∧
      pool.shared.queue pool.shared.current = [received] := by
  have computed : ((Shared.scheduler DongleLogic.obliging whenDrained).play (⟨some {}, 1⟩ : Dongle).system.program
      ⟨Shared.of DongleLogic.connected, fun _ => none⟩ receivedBefore).map
        (fun ended => (ended.2.shared.installs, ended.1.filterMap (takenFrom 1),
          ended.2.shared.queue ended.2.shared.current)) = some ([2, 1], [received], [received]) := by decide +kernel
  obtain ⟨events, pool, _, run, same⟩ := scheduled computed
  obtain ⟨installs, rest⟩ := Prod.mk.inj same
  obtain ⟨taken, queued⟩ := Prod.mk.inj rest
  have drained := run.mono fun _ _ _ taken => whenDrained_drained taken.1 taken.2
  exact ⟨events, pool, (queued_packets_survive_iff connected_started).mpr drained, installs, taken, queued⟩

/-- A packet is received on a session that then dies before the next `recv`. -/
def receivedLast : List (Turn Operation Disturbance) :=
  [.start 0 (.recv (some 1))] ++ List.replicate 15 (.advance 0) ++
    [.finish 0, .stir (.arrive 1 received), .stir (.die 1), .start 0 (.recv (some 1))] ++
    List.replicate 25 (.advance 0) ++ [.finish 0]

theorem reconnect_discards : ¬ ∀ events pool, (⟨some {}, 1⟩ : Dongle).Runs (Shared.of DongleLogic.connected) events pool →
    Conserved (Shared.of DongleLogic.connected) events pool := by
  intro claim
  have computed : ((Shared.scheduler DongleLogic.obliging fun _ _ => true).play
      (⟨some {}, 1⟩ : Dongle).system.program ⟨Shared.of DongleLogic.connected, fun _ => none⟩ receivedLast).map
        (fun ended => (ended.2.shared.installs, ended.1.filterMap (arrived 1), ended.1.filterMap (takenFrom 1))) =
      some ([2, 1], [received], []) := by decide +kernel
  obtain ⟨events, pool, runs, _, same⟩ := scheduled computed
  obtain ⟨installs, rest⟩ := Prod.mk.inj same
  obtain ⟨arrived, taken⟩ := Prod.mk.inj rest
  have coherent : Coherent ⟨some {}, 1⟩ pool.shared := (kept_run connected_started runs).invariant
  have current : 2 = pool.shared.current := by
    have head := coherent.head
    rw [installs] at head
    exact Option.some.inj head
  have balance := (claim events pool runs).queued 1 (by
    rw [installs]
    exact List.mem_cons_of_mem _ List.mem_cons_self)
  rw [arrived, taken, ← current] at balance
  cases balance

end DongloraClient.Proofs.SharedQueue
