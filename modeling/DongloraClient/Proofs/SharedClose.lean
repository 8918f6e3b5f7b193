import DongloraClient.Proofs.SharedReconnect

/-! `Dongle.close` against reconnects. It closes the session that is installed when it
looks, and a reconnect looks at `_closed` only before it calls the reopener. -/

namespace DongloraClient.Proofs.SharedClose
open Threads Transition SharedDiscipline SharedPrograms SharedReconnect

variable {self : Dongle} {start : Shared} {events : List ThreadEvent} {event : ThreadEvent} {pool next : Threading}
  {thread : Nat}

abbrev Rest := Program Op Reply (Except Exc (Option RxEvent))

/-! What is left of a `close` call before each of its steps. -/

abbrev finished : Rest := .pure (.ok none)

abbrev closing (session : Nat) : Rest := .perform (.closeSession session) fun _ => finished

abbrev fetching : Rest := .perform .read fun attributes => closing attributes.session

abbrev stopping : Rest := .perform (.assign fun attributes => { attributes with keepaliveStop := true }) fun _ => fetching

abbrev flagging : Rest := .perform (.assign fun attributes => { attributes with closed := true }) fun _ => stopping

abbrev entering : Rest := .perform .read fun attributes => if attributes.closed then finished else flagging

theorem serve_close : (self.serve .close).run = entering := by
  apply congrArg (Program.perform Op.read)
  funext attributes
  obtain ⟨session, info, applied, rxStarted, closed, lastWriteTime, stop⟩ := attributes
  cases closed <;> rfl

/-- A `close` call past its first test leaves `_closed` set. -/
inductive Place (closed : Prop) : Rest → Prop where
  | entering : Place closed entering
  | flagging : Place closed flagging
  | stopping : closed → Place closed stopping
  | fetching : closed → Place closed fetching
  | closing (session : Nat) : closed → Place closed (closing session)
  | finished : closed → Place closed finished

theorem Place.mono {closed later : Prop} {rest : Rest} (place : Place closed rest) (implies : closed → later) :
    Place later rest := by
  cases place with
  | entering => exact .entering
  | flagging => exact .flagging
  | stopping set => exact .stopping (implies set)
  | fetching set => exact .fetching (implies set)
  | closing session set => exact .closing session (implies set)
  | finished set => exact .finished (implies set)

theorem Place.later {shared : Shared} {op : Op} {rest : Reply op → Rest} {reply : Reply op}
    (place : Place (shared.attributes.closed = true) (.perform op rest)) (permitted : shared.Permits op reply) :
    Place ((shared.after thread op reply).attributes.closed = true) (rest reply) := by
  cases place with
  | entering =>
    have seen : reply = shared.attributes := permitted
    subst seen
    simp only
    split
    next set => exact .finished set
    next => exact .flagging
  | flagging => exact .stopping rfl
  | stopping set => exact .fetching set
  | fetching set => exact .closing _ set
  | closing session set => exact .finished set

/-- A `close` call that has found the `Dongle` open and has still to read which session is
installed. -/
inductive Early : Rest → Prop where
  | flagging : Early flagging
  | stopping : Early stopping
  | fetching : Early fetching

def Pending (pool : Threading) : Prop := ∃ thread rest, pool.threads thread = some ⟨.close, rest⟩ ∧ Early rest

/-- A reconnect installs its session while the `Dongle` is open, or at least before some
`close` call reads which session is installed. -/
def Timely (pool : Threading) (event : ThreadEvent) : Prop :=
  Replaces pool event → pool.shared.attributes.closed = true → Pending pool

/-- The session that is installed is closed, or some `close` call will see to it. -/
def Settling (pool : Threading) : Prop :=
  pool.shared.shut pool.shared.current = true ∨ Pending pool ∨
    ∃ thread, pool.threads thread = some ⟨.close, closing pool.shared.current⟩

/-- Where the `close` calls are, and what they have left to do. -/
structure Watched (pool : Threading) : Prop where
  placed : ∀ thread rest, pool.threads thread = some ⟨.close, rest⟩ → Place (pool.shared.attributes.closed = true) rest
  settling : pool.shared.attributes.closed = true → Settling pool

theorem closed_later (kept : Kept self.system (discipline self) pool)
    (taken : Threads.Step self.system pool event next) (closed : pool.shared.attributes.closed = true) :
    next.shared.attributes.closed = true := by
  obtain ⟨bystander, relies⟩ := bystander_relies kept taken
  exact relies.closed closed

theorem placed_step (kept : Kept self.system (discipline self) pool) (watched : Watched pool)
    (taken : Threads.Step self.system pool event next) (thread : Nat) (rest : Rest)
    (running : next.threads thread = some ⟨.close, rest⟩) : Place (next.shared.attributes.closed = true) rest := by
  by_cases own : event.actor = some thread
  · cases taken with
    | start =>
      cases own
      cases (Function.update_self ..).symm.trans running
      have program : self.system.program .close = entering := serve_close
      rw [program]
      exact .entering
    | perform before answered =>
      cases own
      cases (Function.update_self ..).symm.trans running
      obtain ⟨permitted, rfl⟩ := answered
      exact (watched.placed thread _ before).later permitted
    | finish =>
      cases own
      cases (Function.update_self ..).symm.trans running
    | stir => cases own
  · rw [thread_unmoved taken own] at running
    exact (watched.placed thread rest running).mono (closed_later kept taken)

theorem pending_step (taken : Threads.Step self.system pool event next) (pending : Pending pool) : Settling next := by
  obtain ⟨thread, rest, running, early⟩ := pending
  by_cases own : event.actor = some thread
  · cases taken with
    | start idle =>
      cases own
      cases idle.symm.trans running
    | @perform actor task op remaining reply after before answered =>
      cases own
      cases before.symm.trans running
      obtain ⟨permitted, rfl⟩ := answered
      cases early with
      | flagging => exact Or.inr (Or.inl ⟨thread, stopping, Function.update_self .., .stopping⟩)
      | stopping => exact Or.inr (Or.inl ⟨thread, fetching, Function.update_self .., .fetching⟩)
      | fetching =>
        have seen : reply = pool.shared.attributes := permitted
        subst seen
        exact Or.inr (Or.inr ⟨thread, Function.update_self ..⟩)
    | finish before =>
      cases own
      cases before.symm.trans running
      cases early
    | stir => cases own
  · exact Or.inr (Or.inl ⟨thread, rest, (thread_unmoved taken own).trans running, early⟩)

theorem closing_step (taken : Threads.Step self.system pool event next) (same : next.shared.current = pool.shared.current)
    (running : pool.threads thread = some ⟨.close, closing pool.shared.current⟩) : Settling next := by
  by_cases own : event.actor = some thread
  · cases taken with
    | start idle =>
      cases own
      cases idle.symm.trans running
    | perform before answered =>
      cases own
      cases before.symm.trans running
      obtain ⟨_, rfl⟩ := answered
      exact Or.inl (Function.update_self ..)
    | finish before =>
      cases own
      cases before.symm.trans running
    | stir => cases own
  · refine Or.inr (Or.inr ⟨thread, ?_⟩)
    rw [thread_unmoved taken own, running, same]

/-- The `close` call that sets `_closed` has still to read which session is installed. -/
theorem closing_begun (kept : Kept self.system (discipline self) pool) (watched : Watched pool)
    (taken : Threads.Step self.system pool event next) (unset : pool.shared.attributes.closed = false)
    (closed : next.shared.attributes.closed = true) : Pending next := by
  have never : ¬ pool.shared.attributes.closed = true := by
    rw [unset]
    exact nofun
  rcases attributes_step taken with ⟨same, _⟩ | ⟨thread, operation, change, rest, reply, running, _, after, continued⟩
  · rw [same] at closed
    exact absurd closed never
  rw [after] at closed
  rcases ((disciplined self).allowed kept running).1 with minor | ⟨rfl, _⟩ | ⟨session, installs⟩
  · exact absurd ((minor pool.shared.attributes).2.symm.trans closed) never
  · cases watched.placed thread _ running with
    | flagging => exact ⟨thread, stopping, continued, .stopping⟩
    | stopping set => exact absurd set never
  · exact absurd ((installs.sets pool.shared.attributes).2.symm.trans closed) never

/-- What a `close` call has to see to, it still sees to after a timely step. -/
theorem settling_step (kept : Kept self.system (discipline self) pool) (watched : Watched pool)
    (taken : Threads.Step self.system pool event next) (timely : Timely pool event)
    (closed : next.shared.attributes.closed = true) : Settling next := by
  cases before : pool.shared.attributes.closed with
  | false => exact Or.inr (Or.inl (closing_begun kept watched taken before closed))
  | true =>
    by_cases same : next.shared.current = pool.shared.current
    · rcases watched.settling before with shut | pending | ⟨thread, running⟩
      · obtain ⟨bystander, relies⟩ := bystander_relies kept taken
        refine Or.inl ?_
        rw [same]
        exact relies.shut _ shut
      · exact pending_step taken pending
      · exact closing_step taken same running
    · -- A reconnect installs its session late, but not too late.
      exact pending_step taken (timely ((replaces_iff taken).mpr same) before)

theorem watched_step (kept : Kept self.system (discipline self) pool) (watched : Watched pool)
    (taken : Threads.Step self.system pool event next) (timely : Timely pool event) : Watched next where
  placed := placed_step kept watched taken
  settling := settling_step kept watched taken timely

theorem started_watched (started : self.Started start) : Watched ⟨start, fun _ => none⟩ where
  placed _ _ := nofun
  settling closed := by
    rw [started.notClosed] at closed
    cases closed

theorem reachable (started : self.Started start)
    (run : Transition.Run (Guarded (Threads.Step self.system) Timely) ⟨start, fun _ => none⟩ events pool) :
    Watched pool := by
  induction run with
  | nil => exact started_watched started
  | snoc before taken ih => exact watched_step (kept_run started before.unguarded) ih taken.1 taken.2

theorem returned_closed (started : self.Started start)
    (run : Transition.Run (Guarded (Threads.Step self.system) Timely) ⟨start, fun _ => none⟩ events pool)
    {outcome : Except Exc (Option RxEvent)} (returned : .finish thread .close outcome ∈ events) :
    pool.shared.attributes.closed = true := by
  induction run with
  | nil => cases returned
  | snoc before taken ih =>
    have kept := kept_run started before.unguarded
    rcases List.mem_append.mp returned with earlier | last
    · exact closed_later kept taken.1 (ih earlier)
    · cases List.mem_singleton.mp last
      cases taken.1 with
      | finish running =>
        cases (reachable started before).placed thread _ running with
        | finished closed => exact closed

/-- Where no reconnect installs its session too late, every session that was ever
installed is closed once a `close` call and all calls in flight have returned. -/
theorem close_leaves_nothing (started : self.Started start)
    (run : Transition.Run (Guarded (Threads.Step self.system) Timely) ⟨start, fun _ => none⟩ events pool)
    {outcome : Except Exc (Option RxEvent)} (returned : .finish thread .close outcome ∈ events)
    (idle : ∀ other, pool.threads other = none) (session : Nat) (installed : session ∈ pool.shared.installs) :
    pool.shared.shut session = true := by
  have coherent : Coherent self pool.shared := (kept_run started run.unguarded).invariant
  by_cases current : session = pool.shared.current
  · rw [current]
    rcases (reachable started run).settling (returned_closed started run returned) with
      shut | ⟨other, rest, running, _⟩ | ⟨other, running⟩
    · exact shut
    · cases (idle other).symm.trans running
    · cases (idle other).symm.trans running
  · exact (coherent.replaced session installed current).2

def closeReturned (events : List ThreadEvent) : Bool :=
  events.any fun event =>
    match event with
    | .finish _ .close _ => true
    | _ => false

theorem closeReturned_mem (returned : closeReturned events = true) :
    ∃ thread outcome, .finish thread .close outcome ∈ events := by
  obtain ⟨event, member, matched⟩ := List.any_eq_true.mp returned
  split at matched
  next thread outcome => exact ⟨thread, outcome, member⟩
  next => cases matched

def whileOpen (before after : Threading) : Bool :=
  before.shared.current == after.shared.current || !before.shared.attributes.closed

theorem whileOpen_timely (taken : Threads.Step self.system pool event next) (admitted : whileOpen pool next = true) :
    Guarded (Threads.Step self.system) Timely pool event next := by
  refine ⟨taken, fun replaces closed => ?_⟩
  rw [whileOpen, closed, Bool.not_true, Bool.or_false] at admitted
  exact absurd (eq_of_beq admitted).symm ((replaces_iff taken).mp replaces)

def closedAfter : List (Turn Operation Disturbance) :=
  [.start 0 .ping, .advance 0, .stir (.die 1)] ++ List.replicate 22 (.advance 0) ++ [.finish 0, .start 1 .close] ++
    List.replicate 5 (.advance 1) ++ [.finish 1]

theorem close_leaves_nothing_after : ∃ events pool,
    (⟨some {}, 1⟩ : Dongle).Runs (Shared.of DongleLogic.connected) events pool ∧
      pool.shared.installs = [2, 1] ∧ ∀ session ∈ pool.shared.installs, pool.shared.shut session = true := by
  have computed : ((Shared.scheduler DongleLogic.obliging whileOpen).play (⟨some {}, 1⟩ : Dongle).system.program
      ⟨Shared.of DongleLogic.connected, fun _ => none⟩ closedAfter).map
        (fun ended => (ended.2.shared.installs, closeReturned ended.1, ended.2.ended ended.1)) =
      some ([2, 1], true, true) := by decide +kernel
  obtain ⟨events, pool, runs, run, same⟩ := scheduled computed
  obtain ⟨installs, rest⟩ := Prod.mk.inj same
  obtain ⟨returned, ended⟩ := Prod.mk.inj rest
  obtain ⟨thread, outcome, closed⟩ := closeReturned_mem returned
  have timely := run.mono fun _ _ _ taken => whileOpen_timely taken.1 taken.2
  exact ⟨events, pool, runs, installs, close_leaves_nothing connected_started timely closed (Pool.idle runs ended)⟩

/-- The `Dongle` is closed while a ping is still inside the reopener. -/
def closedDuring : List (Turn Operation Disturbance) :=
  [.start 0 .ping, .advance 0, .stir (.die 1)] ++ List.replicate 10 (.advance 0) ++ [.start 1 .close] ++
    List.replicate 5 (.advance 1) ++ [.finish 1] ++ List.replicate 12 (.advance 0) ++ [.finish 0]

theorem reconnect_outlives_close : ¬ ∀ events pool,
    (⟨some {}, 1⟩ : Dongle).Runs (Shared.of DongleLogic.connected) events pool →
      (∃ thread outcome, .finish thread .close outcome ∈ events) → (∀ thread, pool.threads thread = none) →
        ∀ session ∈ pool.shared.installs, pool.shared.shut session = true := by
  intro claim
  have computed : ((Shared.scheduler DongleLogic.obliging fun _ _ => true).play
      (⟨some {}, 1⟩ : Dongle).system.program ⟨Shared.of DongleLogic.connected, fun _ => none⟩ closedDuring).map
        (fun ended => (ended.2.shared.installs, ended.2.shared.shut 2, closeReturned ended.1,
          ended.2.ended ended.1)) = some ([2, 1], false, true, true) := by decide +kernel
  obtain ⟨events, pool, runs, _, same⟩ := scheduled computed
  obtain ⟨installs, rest⟩ := Prod.mk.inj same
  obtain ⟨unshut, rest⟩ := Prod.mk.inj rest
  obtain ⟨returned, ended⟩ := Prod.mk.inj rest
  have shut := claim events pool runs (closeReturned_mem returned) (Pool.idle runs ended) 2 (by
    simp only at installs
    rw [installs]
    exact List.mem_cons_self)
  cases unshut.symm.trans shut

end DongloraClient.Proofs.SharedClose
