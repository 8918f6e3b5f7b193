import DongloraClient.Shared

/-! The discipline of the threads of one `Dongle`. Whoever has `_recover_lock` may open
sessions and replace the installed one, and replaces only a dead one; the others leave
both alone. -/

namespace DongloraClient.Proofs.SharedDiscipline
open Python Threads

variable {self : Dongle} {shared later : Shared} {thread : Nat} {operation : Operation} {α β : Type}

/-- `is_alive` is `False`. -/
def Dead (shared : Shared) (session : Nat) : Prop := shared.readerDead session = true ∨ shared.shut session = true

theorem dead_iff {session : Nat} : shared.isAlive session = false ↔ Dead shared session := by
  simp only [Shared.isAlive, Dead, Bool.and_eq_false_iff, Bool.not_eq_false']

/-- Every session is installed once and replaced only after its reader has died and it
has been closed. -/
structure Coherent (dongle : Dongle) (shared : Shared) : Prop where
  head : shared.installs.head? = some shared.current
  once : shared.installs.Nodup
  placed : ∀ session ∈ shared.installs, session < shared.opened
  replaced : ∀ session ∈ shared.installs, session ≠ shared.current →
    shared.readerDead session = true ∧ shared.shut session = true
  settled : dongle.reopener.isSome = true → ∀ session ∈ shared.installs, shared.shut session = true →
    shared.readerDead session = true ∨ shared.attributes.closed = true
  fresh : ∀ session, shared.opened ≤ session → shared.shut session = false

theorem Coherent.current (coherent : Coherent self shared) : shared.current ∈ shared.installs :=
  List.mem_of_mem_head? coherent.head

/-- What a thread can rely upon of the steps of others. -/
structure Relies (thread : Nat) (shared later : Shared) : Prop where
  holder : later.holder = some thread ↔ shared.holder = some thread
  guarded : shared.holder = some thread →
    later.installs = shared.installs ∧ later.opened = shared.opened ∧ later.current = shared.current
  apart : shared.holder = some thread → ∀ session, session ∉ shared.installs → later.shut session = shared.shut session
  listed : ∀ session ∈ shared.installs, session ∈ later.installs
  readerDead : ∀ session, shared.readerDead session = true → later.readerDead session = true
  shut : ∀ session, shared.shut session = true → later.shut session = true
  closed : shared.attributes.closed = true → later.attributes.closed = true

theorem Relies.trans {last : Shared} (first : Relies thread shared later) (second : Relies thread later last) :
    Relies thread shared last where
  holder := second.holder.trans first.holder
  guarded held := by
    obtain ⟨installs, opened, current⟩ := first.guarded held
    obtain ⟨installed, counted, placed⟩ := second.guarded (first.holder.mpr held)
    exact ⟨installed.trans installs, counted.trans opened, placed.trans current⟩
  apart held session missing := by
    have absent : session ∉ later.installs := by rwa [(first.guarded held).1]
    rw [second.apart (first.holder.mpr held) session absent, first.apart held session missing]
  listed session member := second.listed session (first.listed session member)
  readerDead session dead := second.readerDead session (first.readerDead session dead)
  shut session closed := second.shut session (first.shut session closed)
  closed set := second.closed (first.closed set)

/-- The two differ in nothing that matters here. -/
structure Alike (shared later : Shared) : Prop where
  holder : later.holder = shared.holder
  opened : later.opened = shared.opened
  readerDead : later.readerDead = shared.readerDead
  shut : later.shut = shared.shut
  installs : later.installs = shared.installs
  current : later.current = shared.current
  closed : later.attributes.closed = shared.attributes.closed

theorem Alike.refl (shared : Shared) : Alike shared shared := ⟨rfl, rfl, rfl, rfl, rfl, rfl, rfl⟩

theorem Alike.relies (alike : Alike shared later) : Relies thread shared later where
  holder := by rw [alike.holder]
  guarded _ := ⟨alike.installs, alike.opened, alike.current⟩
  apart _ _ _ := by rw [alike.shut]
  listed _ member := by rwa [alike.installs]
  readerDead _ dead := by rwa [alike.readerDead]
  shut _ closed := by rwa [alike.shut]
  closed set := by rwa [alike.closed]

theorem Alike.coherent (alike : Alike shared later) (coherent : Coherent self shared) : Coherent self later where
  head := by rw [alike.installs, alike.current, coherent.head]
  once := by rw [alike.installs]; exact coherent.once
  placed := by rw [alike.installs, alike.opened]; exact coherent.placed
  replaced := by rw [alike.installs, alike.current, alike.readerDead, alike.shut]; exact coherent.replaced
  settled := by rw [alike.installs, alike.readerDead, alike.shut, alike.closed]; exact coherent.settled
  fresh := by rw [alike.opened, alike.shut]; exact coherent.fresh

/-- An assignment to an attribute other than `_session` and `_closed`. -/
def Minor (change : Attributes → Attributes) : Prop :=
  ∀ attributes, (change attributes).session = attributes.session ∧ (change attributes).closed = attributes.closed

def Closes (change : Attributes → Attributes) : Prop :=
  ∀ attributes, (change attributes).session = attributes.session ∧ (change attributes).closed = true

/-- `self._session = new_session` of a reconnect. -/
structure Installs (thread : Nat) (shared : Shared) (change : Attributes → Attributes) (session : Nat) : Prop where
  sets : ∀ attributes, (change attributes).session = session ∧ (change attributes).closed = attributes.closed
  holder : shared.holder = some thread
  absent : session ∉ shared.installs
  placed : session < shared.opened
  unshut : shared.shut session = false
  replaced : shared.readerDead shared.current = true ∧ shared.shut shared.current = true

def Allows (thread : Nat) (operation : Operation) (shared : Shared) : Op → Prop
  | .assign change => Minor change ∨ (operation = .close ∧ Closes change) ∨ ∃ session, Installs thread shared change session
  | .release | .openTransport _ _ | .openSession _ => shared.holder = some thread
  | .closeSession session =>
    (session ∉ shared.installs ∧ shared.holder = some thread ∧ session < shared.opened) ∨
      (session ∈ shared.installs ∧ (Dead shared session ∨ operation = .close ∧ shared.attributes.closed = true))
  | _ => True

def discipline (self : Dongle) : Discipline Op Shared Operation where
  invariant := Coherent self
  free thread shared := shared.holder ≠ some thread
  relies := Relies
  allows := Allows

def Neutral : Op → Prop
  | .assign change => Minor change
  | .read | .now | .waitStop _ | .isAlive _ | .command _ _ _ | .nextRx _ _ => True
  | .acquire | .release | .openTransport _ _ | .openSession _ | .closeSession _ => False

theorem assign_minor {change : Attributes → Attributes} (minor : Minor change) : Alike shared (shared.assign change) where
  holder := rfl
  opened := rfl
  readerDead := rfl
  shut := rfl
  installs := if_pos (minor shared.attributes).1
  current := (minor shared.attributes).1
  closed := (minor shared.attributes).2

theorem after_alike {op : Op} (neutral : Neutral op) (reply : Reply op) : Alike shared (shared.after thread op reply) := by
  cases op with
  | assign change => exact assign_minor neutral
  | nextRx session timeout => cases reply <;> exact ⟨rfl, rfl, rfl, rfl, rfl, rfl, rfl⟩
  | read | now | waitStop | isAlive | command => exact .refl shared
  | acquire | release | openTransport | openSession | closeSession => exact neutral.elim

theorem flag_later {flag : Nat → Bool} (session : Nat) (other : Nat) (set : flag other = true) :
    Function.update flag session true other = true := by
  by_cases same : other = session
  · rw [same, Function.update_self]
  · rwa [Function.update_of_ne same]

namespace Coherent

/-- An installed session that is dead has lost its reader, unless the `Dongle` is closed. -/
theorem lost (coherent : Coherent self shared) (reopens : self.reopener.isSome = true) {session : Nat}
    (member : session ∈ shared.installs) (dead : Dead shared session) :
    shared.readerDead session = true ∨ shared.attributes.closed = true := by
  rcases dead with lost | shut
  · exact Or.inl lost
  · exact coherent.settled reopens session member shut

theorem install (coherent : Coherent self shared) {change : Attributes → Attributes} {session : Nat}
    (installs : Installs thread shared change session) : Coherent self (shared.assign change) := by
  obtain ⟨placed, closed⟩ := installs.sets shared.attributes
  have differs : (change shared.attributes).session ≠ shared.current := by
    intro same
    rw [placed] at same
    exact installs.absent (same ▸ coherent.current)
  have listed : (shared.assign change).installs = session :: shared.installs := by
    rw [← placed]
    exact if_neg differs
  have current : (shared.assign change).current = session := placed
  constructor
  · rw [listed, current]
    rfl
  · rw [listed]
    exact List.nodup_cons.mpr ⟨installs.absent, coherent.once⟩
  · rw [listed]
    exact List.forall_mem_cons.mpr ⟨installs.placed, coherent.placed⟩
  · rw [listed, current]
    intro other member apart
    have old : other ∈ shared.installs := (List.mem_cons.mp member).resolve_left apart
    by_cases last : other = shared.current
    · rw [last]
      exact installs.replaced
    · exact coherent.replaced other old last
  · rw [listed]
    intro reopens other member shut
    rcases List.mem_cons.mp member with rfl | old
    · cases installs.unshut.symm.trans shut
    · exact (coherent.settled reopens other old shut).imp_right closed.trans
  · exact coherent.fresh

theorem close (coherent : Coherent self shared) {session : Nat}
    (allowed : Allows thread operation shared (.closeSession session)) :
    Coherent self { shared with shut := Function.update shared.shut session true } := by
  refine { coherent with replaced := ?_, settled := ?_, fresh := ?_ }
  · intro other member apart
    obtain ⟨lost, shut⟩ := coherent.replaced other member apart
    exact ⟨lost, flag_later session other shut⟩
  · intro reopens other member shut
    by_cases same : other = session
    · subst same
      rcases allowed with ⟨absent, _⟩ | ⟨_, dead | ⟨_, closed⟩⟩
      · exact absurd member absent
      · exact coherent.lost reopens member dead
      · exact Or.inr closed
    · simp only [Function.update_of_ne same] at shut
      exact coherent.settled reopens other member shut
  · intro other unopened
    have apart : other ≠ session := by
      have opened : session < shared.opened := by
        rcases allowed with ⟨_, _, opened⟩ | ⟨member, _⟩
        · exact opened
        · exact coherent.placed session member
      intro same
      rw [same] at unopened
      exact absurd opened (Nat.not_lt.mpr unopened)
    simp only [Function.update_of_ne apart]
    exact coherent.fresh other unopened

theorem flag (coherent : Coherent self shared) {change : Attributes → Attributes} (closes : Closes change) :
    Coherent self (shared.assign change) := by
  obtain ⟨current, closed⟩ := closes shared.attributes
  have listed : (shared.assign change).installs = shared.installs := if_pos current
  have same : (shared.assign change).current = shared.current := current
  constructor
  · rw [listed, same, coherent.head]
  · rw [listed]
    exact coherent.once
  · rw [listed]
    exact coherent.placed
  · rw [listed, same]
    exact coherent.replaced
  · exact fun _ _ _ _ => Or.inr closed
  · exact coherent.fresh

theorem opens (coherent : Coherent self shared) : Coherent self { shared with opened := shared.opened + 1 } where
  head := coherent.head
  once := coherent.once
  placed session member := Nat.lt_succ_of_lt (coherent.placed session member)
  replaced := coherent.replaced
  settled := coherent.settled
  fresh session unopened := coherent.fresh session (Nat.le_of_succ_le unopened)

theorem after (coherent : Coherent self shared) {op : Op} (allowed : Allows thread operation shared op)
    (reply : Reply op) (permitted : shared.Permits op reply) : Coherent self (shared.after thread op reply) := by
  cases op with
  | assign change =>
    rcases allowed with minor | ⟨_, closes⟩ | ⟨session, installs⟩
    · exact (assign_minor minor).coherent coherent
    · exact coherent.flag closes
    · exact coherent.install installs
  | closeSession session => exact coherent.close allowed
  | acquire | release => exact { coherent with }
  | openSession transport =>
    have next : reply = shared.opened := permitted
    subst next
    exact coherent.opens
  | read | now | waitStop | isAlive | command | openTransport => exact coherent
  | nextRx session timeout =>
    have alike : Alike shared (shared.after thread (.nextRx session timeout) reply) := after_alike (by trivial) reply
    exact alike.coherent coherent

end Coherent

theorem Relies.refl (thread : Nat) (shared : Shared) : Relies thread shared shared := (Alike.refl shared).relies

theorem relies_after {op : Op} (allowed : Allows thread operation shared op)
    (reply : Reply op) (permitted : shared.Permits op reply) {other : Nat} (apart : other ≠ thread) :
    Relies other shared (shared.after thread op reply) := by
  have same : Relies other shared shared := .refl other shared
  -- What only the owner of the lock does, no other owner can see.
  have foreign (held : shared.holder = some thread) : shared.holder ≠ some other := by
    rw [held]
    exact fun equal => apart (Option.some.inj equal).symm
  cases op with
  | assign change =>
    rcases allowed with minor | ⟨_, closes⟩ | ⟨session, installs⟩
    · exact (assign_minor minor).relies
    · obtain ⟨current, closed⟩ := closes shared.attributes
      have listed : (shared.assign change).installs = shared.installs := if_pos current
      exact { same with
        guarded := fun _ => ⟨listed, rfl, current⟩
        listed := fun _ member => by rwa [Shared.after, listed]
        closed := fun _ => closed }
    · have kept : ∀ session ∈ shared.installs, session ∈ (shared.assign change).installs := by
        intro session member
        simp only [Shared.assign]
        split
        · exact member
        · exact List.mem_cons_of_mem _ member
      exact { same with
        guarded := fun held => absurd held (foreign installs.holder)
        listed := kept
        closed := fun set => (installs.sets shared.attributes).2.trans set }
  | closeSession session =>
    have spared (held : shared.holder = some other) : session ∈ shared.installs := by
      rcases allowed with ⟨_, mine, _⟩ | ⟨member, _⟩
      · exact absurd held (foreign mine)
      · exact member
    have kept (held : shared.holder = some other) (number : Nat) (missing : number ∉ shared.installs) :
        Function.update shared.shut session true number = shared.shut number := by
      apply Function.update_of_ne
      intro equal
      rw [equal] at missing
      exact missing (spared held)
    exact { same with
      apart := kept
      shut := flag_later session }
  | acquire =>
    have unowned : shared.holder = none := permitted
    have mine : some thread ≠ some other := fun equal => apart (Option.some.inj equal).symm
    have free : shared.holder ≠ some other := by
      rw [unowned]
      exact nofun
    exact { same with
      holder := iff_of_false mine free
      guarded := fun held => absurd held free
      apart := fun held => absurd held free }
  | release =>
    exact { same with
      holder := iff_of_false nofun (foreign allowed)
      guarded := fun held => absurd held (foreign allowed)
      apart := fun held => absurd held (foreign allowed) }
  | openSession transport =>
    exact { same with guarded := fun held => absurd held (foreign allowed) }
  | read | now | waitStop | isAlive | command | openTransport => exact same
  | nextRx session timeout =>
    have alike : Alike shared (shared.after thread (.nextRx session timeout) reply) := after_alike (by trivial) reply
    exact alike.relies

theorem stirred (coherent : Coherent self shared) {disturbance : Disturbance}
    (stirs : shared.stir disturbance = some later) :
    Coherent self later ∧ ∀ thread, Relies thread shared later := by
  cases disturbance with
  | die session =>
    simp only [Shared.stir] at stirs
    split at stirs <;> cases stirs
    constructor
    · exact { coherent with
        replaced := fun number member apart =>
          (coherent.replaced number member apart).imp_left (flag_later session number)
        settled := fun reopens number member shut =>
          (coherent.settled reopens number member shut).imp_left (flag_later session number) }
    · exact fun thread => { Relies.refl thread shared with readerDead := flag_later session }
  | arrive session event =>
    simp only [Shared.stir] at stirs
    split at stirs <;> cases stirs
    have alike : Alike shared { shared with
        queue := Function.update shared.queue session (shared.queue session ++ [event]) } :=
      ⟨rfl, rfl, rfl, rfl, rfl, rfl, rfl⟩
    exact ⟨alike.coherent coherent, fun _ => alike.relies⟩

end DongloraClient.Proofs.SharedDiscipline
