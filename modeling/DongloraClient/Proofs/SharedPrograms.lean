import DongloraClient.Proofs.SharedMethods
import DongloraClient.Proofs.DongleRecovery

/-! Every operation of a `Dongle` keeps to the discipline. Most of its requests change
nothing that matters; the reconnect is followed from what its thread has just seen. -/

namespace DongloraClient.Proofs.SharedPrograms
open Python Threads SharedDiscipline SharedMethods

variable {self : Dongle} {shared later : Shared} {thread : Nat} {operation : Operation} {α β : Type}
variable {kept : Shared → Prop} {raises : Exc → Shared → Prop}

def conduct (self : Dongle) (thread : Nat) (operation : Operation) : Conduct Shared Op Reply :=
  (discipline self).conduct self.system thread operation

/-- What the other threads cannot take away. -/
def Lasting (self : Dongle) (thread : Nat) (kept : Shared → Prop) : Prop :=
  ∀ shared later, kept shared → Coherent self later → Relies thread shared later → kept later

theorem neutral_allowed {op : Op} (neutral : Neutral op) : Allows thread operation shared op := by
  cases op with
  | assign change => exact Or.inl neutral
  | read | now | waitStop | isAlive | command | nextRx => trivial
  | acquire | release | openTransport | openSession | closeSession => exact neutral.elim

theorem neutral_kept (lasting : Lasting self thread kept) {op : Op} (neutral : Neutral op) {middle last : Shared}
    {reply : Reply op} (holds : kept shared) (expected : (conduct self thread operation).expects shared middle)
    (answered : (conduct self thread operation).answers middle op reply last) : kept middle ∧ kept last := by
  have held := lasting shared middle holds expected.1 expected.2
  have alike : Alike middle last := answered.2 ▸ after_alike neutral reply
  exact ⟨held, lasting middle last held (alike.coherent expected.1) alike.relies⟩

/-- A program takes nothing away, and asks for nothing that matters. -/
def Passive (self : Dongle) (thread : Nat) (operation : Operation) (program : Python α) : Prop :=
  ∀ kept, Lasting self thread kept →
    Leads (conduct self thread operation) kept program (fun _ => kept) (fun _ => kept)

theorem Passive.confined {program : Python α} (confined : Program.Confined Neutral program) :
    Passive self thread operation program := by
  intro kept lasting state holds
  refine (Safe.confined confined ?_ holds).mono ?_
  · intro state middle op holds expected neutral
    exact ⟨neutral_allowed neutral, fun reply last answered => (neutral_kept lasting neutral holds expected answered).2⟩
  · intro outcome last holds
    cases outcome <;> exact holds

theorem Passive.gentle {program : Python α} (gentle : Gentle program) : Passive self thread operation program :=
  .confined (gentle.mono mild_neutral)

/-! What the owner of the lock knows, from the liveness check to the installation. -/

structure Facing (thread session : Nat) (shared : Shared) : Prop where
  holder : shared.holder = some thread
  current : shared.current = session

structure Found (thread session : Nat) (shared : Shared) : Prop where
  facing : Facing thread session shared
  dead : Dead shared session

structure Doomed (thread session : Nat) (shared : Shared) : Prop where
  facing : Facing thread session shared
  shut : shared.shut session = true
  lost : shared.readerDead session = true ∨ shared.attributes.closed = true

/-- The `Dongle` was open after the close, so that the session has lost its reader. -/
structure Ready (thread session : Nat) (shared : Shared) : Prop where
  facing : Facing thread session shared
  shut : shared.shut session = true
  lost : shared.readerDead session = true

structure Brought (thread session fresh : Nat) (shared : Shared) : Prop where
  ready : Ready thread session shared
  absent : fresh ∉ shared.installs
  placed : fresh < shared.opened
  unshut : shared.shut fresh = false

theorem free_lasting : Lasting self thread fun shared => shared.holder ≠ some thread :=
  fun _ _ free _ relies held => free (relies.holder.mp held)

theorem owner_lasting : Lasting self thread fun shared => shared.holder = some thread :=
  fun _ _ held _ relies => relies.holder.mpr held

theorem facing_lasting (session : Nat) : Lasting self thread (Facing thread session) :=
  fun _ _ facing _ relies =>
    ⟨relies.holder.mpr facing.holder, (relies.guarded facing.holder).2.2.trans facing.current⟩

theorem found_lasting (session : Nat) : Lasting self thread (Found thread session) :=
  fun _ _ found coherent relies =>
    ⟨facing_lasting session _ _ found.facing coherent relies,
      found.dead.imp (relies.readerDead session) (relies.shut session)⟩

theorem doomed_lasting (session : Nat) : Lasting self thread (Doomed thread session) :=
  fun _ _ doomed coherent relies =>
    ⟨facing_lasting session _ _ doomed.facing coherent relies, relies.shut session doomed.shut,
      doomed.lost.imp (relies.readerDead session) relies.closed⟩

theorem ready_lasting (session : Nat) : Lasting self thread (Ready thread session) :=
  fun _ _ ready coherent relies =>
    ⟨facing_lasting session _ _ ready.facing coherent relies, relies.shut session ready.shut,
      relies.readerDead session ready.lost⟩

theorem brought_lasting (session fresh : Nat) : Lasting self thread (Brought thread session fresh) := by
  intro shared later brought coherent relies
  have held := brought.ready.facing.holder
  obtain ⟨installs, opened, _⟩ := relies.guarded held
  exact {
    ready := ready_lasting session shared later brought.ready coherent relies
    absent := installs ▸ brought.absent
    placed := opened ▸ brought.placed
    unshut := (relies.apart held fresh brought.absent).trans brought.unshut }

theorem Doomed.ready {session : Nat} (doomed : Doomed thread session shared) (running : shared.attributes.closed = false) :
    Ready thread session shared := by
  refine ⟨doomed.facing, doomed.shut, doomed.lost.resolve_right ?_⟩
  rw [running]
  exact nofun

theorem Ready.doomed {session : Nat} (ready : Ready thread session shared) : Doomed thread session shared :=
  ⟨ready.facing, ready.shut, Or.inl ready.lost⟩

theorem openSession_leads {session transport : Nat} : Leads (conduct self thread operation) (Ready thread session)
    (openSession transport) (fun fresh => Brought thread session fresh) raises := by
  apply Leads.request
  intro shared middle holds ⟨coherent, relies⟩
  have ready := ready_lasting session shared middle holds coherent relies
  refine ⟨ready.facing.holder, ?_⟩
  intro fresh last answered
  obtain ⟨next, rfl⟩ := answered
  have same : fresh = middle.opened := next
  subst same
  have absent : middle.opened ∉ middle.installs := fun member => absurd (coherent.placed _ member) (Nat.lt_irrefl _)
  exact ⟨⟨⟨ready.facing.holder, ready.facing.current⟩, ready.shut, ready.lost⟩, absent, Nat.lt_succ_self _,
    coherent.fresh _ (Nat.le_refl _)⟩

theorem discard_leads {session fresh : Nat} : Leads (conduct self thread operation) (Brought thread session fresh)
    (closeSession fresh) (fun _ => Ready thread session) raises := by
  apply Leads.request
  intro shared middle holds ⟨coherent, relies⟩
  have brought := brought_lasting session fresh shared middle holds coherent relies
  refine ⟨Or.inl ⟨brought.absent, brought.ready.facing.holder, brought.placed⟩, ?_⟩
  intro reply last answered
  obtain ⟨_, rfl⟩ := answered
  exact ⟨⟨brought.ready.facing.holder, brought.ready.facing.current⟩,
    flag_later fresh session brought.ready.shut, brought.ready.lost⟩

theorem closingOnError_leads {session fresh : Nat} {body : Python α} (passive : Passive self thread operation body) :
    Leads (conduct self thread operation) (Brought thread session fresh) (closingOnError fresh body)
      (fun _ => Brought thread session fresh) (fun _ => Ready thread session) := by
  apply Leads.tryCatch (passive _ (brought_lasting session fresh))
  intro exc
  apply Leads.ite
  · intro _
    exact .bind discard_leads fun _ => .throw fun _ ready => ready
  · intro _
    exact .throw fun _ brought => brought.ready

theorem refuse_leads {session fresh : Nat} {exc : Exc} {returns : α → Shared → Prop} :
    Leads (conduct self thread operation) (Brought thread session fresh)
      (do
        closeSession fresh
        throw exc) returns (fun _ => Ready thread session) :=
  .bind discard_leads fun _ => .throw fun _ ready => ready

theorem bringUp_leads {session : Nat} (transport : Nat) (timeout : Rat) (requested : Option Modulation) :
    Leads (conduct self thread operation) (Ready thread session) (bringUp transport timeout requested)
      (fun bringup => Brought thread session bringup.1) (fun _ => Ready thread session) := by
  apply Leads.bind openSession_leads
  intro fresh
  apply Leads.bind (closingOnError_leads (.gentle (command_gentle _ _ _)))
  intro answer
  cases answer with
  | none => exact refuse_leads
  | some info =>
    apply Leads.ite
    · intro _
      exact refuse_leads
    · intro _
      cases requested with
      | none => exact .pure fun _ brought => brought
      | some modulation =>
        apply Leads.bind (closingOnError_leads (.gentle (configured_gentle info modulation fresh timeout)))
        exact fun _ => .pure fun _ brought => brought

theorem openAndInit_leads {session : Nat} (settings : Settings) : Leads (conduct self thread operation)
    (Ready thread session) (openAndInit settings) (fun bringup => Brought thread session bringup.1)
      (fun _ => Ready thread session) := by
  apply Leads.bind _ fun transport => bringUp_leads transport _ _
  apply Leads.fallible
  intro shared middle holds ⟨coherent, relies⟩
  have ready := ready_lasting session shared middle holds coherent relies
  refine ⟨ready.facing.holder, ?_⟩
  intro reply last answered
  obtain ⟨_, rfl⟩ := answered
  cases reply <;> exact ready

/-- What the reconnect loop knows after one call of the reopener. -/
def Reopened (thread session : Nat) (bringup : Option Bringup) (shared : Shared) : Prop :=
  match bringup with
  | some (fresh, _, _) => Brought thread session fresh shared
  | none => Ready thread session shared

theorem reopen_leads {session : Nat} (settings : Settings) : Leads (conduct self thread operation)
    (Ready thread session) (Dongle.reopen settings) (Reopened thread session) (fun _ => Ready thread session) := by
  apply Leads.tryCatch
  · exact .bind (openAndInit_leads settings) fun _ => .pure fun _ brought => brought
  · intro exc
    exact .ite (fun _ => .pure fun _ ready => ready) fun _ => .throw fun _ ready => ready

theorem install_leads {session fresh : Nat} (info : Info) (applied : Option Modulation) :
    Leads (conduct self thread operation) (Brought thread session fresh) (Dongle.install fresh info applied)
      (fun _ shared => shared.holder = some thread) (fun _ shared => shared.holder = some thread) := by
  have first : Leads (conduct self thread operation) (Brought thread session fresh)
      (Python.assign fun attributes => { attributes with session := fresh })
      (fun _ shared => shared.holder = some thread) (fun _ shared => shared.holder = some thread) := by
    apply Leads.request
    intro shared middle holds ⟨coherent, relies⟩
    have brought := brought_lasting session fresh shared middle holds coherent relies
    obtain ⟨⟨⟨holder, current⟩, shut, lost⟩, absent, placed, unshut⟩ := brought
    refine ⟨Or.inr (Or.inr ⟨fresh, ?_⟩), ?_⟩
    · exact ⟨fun _ => ⟨rfl, rfl⟩, holder, absent, placed, unshut, current ▸ ⟨lost, shut⟩⟩
    · intro reply last answered
      obtain ⟨_, rfl⟩ := answered
      exact holder
  exact first.bind fun _ => Passive.gentle (installed_gentle fresh info applied) _ owner_lasting

theorem read_leads (lasting : Lasting self thread kept) (field : Attributes → α) :
    Leads (conduct self thread operation) kept (Python.read field)
      (fun value shared => kept shared ∧ Coherent self shared ∧ value = field shared.attributes) raises := by
  have first : Leads (conduct self thread operation) kept (Program.request Op.read : Python Attributes)
      (fun attributes shared => kept shared ∧ Coherent self shared ∧ attributes = shared.attributes) raises := by
    apply Leads.request
    intro shared middle holds ⟨coherent, relies⟩
    refine ⟨trivial, fun attributes last answered => ?_⟩
    have seen : attributes = middle.attributes := answered.1
    have same : last = middle := answered.2
    rw [seen, same]
    exact ⟨lasting shared middle holds coherent relies, coherent, rfl⟩
  exact first.bind fun attributes => .pure fun _ ⟨holds, coherent, same⟩ => ⟨holds, coherent, congrArg field same⟩

theorem readClosed_leads {session : Nat} : Leads (conduct self thread operation) (Doomed thread session)
    (Python.read Attributes.closed)
    (fun closed shared => Doomed thread session shared ∧ (closed = false → Ready thread session shared)) raises :=
  (read_leads (doomed_lasting session) _).weaken (fun _ doomed => doomed)
    (fun _ _ ⟨doomed, _, same⟩ => ⟨doomed, fun running => doomed.ready (same.symm.trans running)⟩) fun _ _ raised => raised

theorem reconnect_leads {session : Nat} (settings : Settings) (attempts : Nat) (backoff : Rat) :
    Leads (conduct self thread operation) (Doomed thread session) (Dongle.reconnect settings attempts backoff)
      (fun _ shared => shared.holder = some thread) (fun _ shared => shared.holder = some thread) := by
  induction attempts generalizing backoff with
  | zero => exact .unfinished
  | succ attempts ih =>
    apply Leads.bind readClosed_leads
    intro closed
    have known : Lasting self thread fun shared =>
        Doomed thread session shared ∧ (closed = false → Ready thread session shared) :=
      fun shared later holds coherent relies =>
        ⟨doomed_lasting session shared later holds.1 coherent relies,
          fun running => ready_lasting session shared later (holds.2 running) coherent relies⟩
    apply Leads.bind ((Passive.gentle (read_gentle _) _ known).weaken (fun _ holds => holds) (fun _ _ holds => holds)
      fun _ _ holds => holds.1.facing.holder)
    intro stopped
    apply Leads.ite
    · exact fun _ => .pure fun _ holds => holds.1.facing.holder
    · intro running
      have still : closed = false := by
        cases closed
        · rfl
        · exact absurd rfl running
      apply Leads.bind ((reopen_leads settings).weaken (fun _ holds => holds.2 still) (fun _ _ reopened => reopened)
        fun _ _ ready => ready.facing.holder)
      intro bringup
      cases bringup with
      | some bringup => exact install_leads _ _
      | none =>
        have waited : Passive self thread operation (waitStop backoff) := .gentle (.request trivial)
        apply Leads.bind ((waited _ (ready_lasting session)).weaken (fun _ ready => ready) (fun _ _ ready => ready)
          fun _ _ ready => ready.facing.holder)
        intro stop
        apply Leads.ite
        · exact fun _ => .pure fun _ ready => ready.facing.holder
        · exact fun _ => (ih _).weaken (fun _ ready => ready.doomed) (fun _ _ held => held) fun _ _ held => held

theorem isAlive_leads {session : Nat} : Leads (conduct self thread operation) (Facing thread session)
    (Python.isAlive session)
    (fun living shared => Facing thread session shared ∧ (living = false → Dead shared session)) raises := by
  apply Leads.request
  intro shared middle holds ⟨coherent, relies⟩
  have facing := facing_lasting session shared middle holds coherent relies
  refine ⟨trivial, fun living last answered => ?_⟩
  have seen : living = middle.isAlive session := answered.1
  have same : last = middle := answered.2
  rw [seen, same]
  exact ⟨facing, dead_iff.mp⟩

theorem closeOld_leads (reopens : self.reopener.isSome = true) {session : Nat} :
    Leads (conduct self thread operation) (Found thread session) (closeSession session)
      (fun _ => Doomed thread session) raises := by
  apply Leads.request
  intro shared middle holds ⟨coherent, relies⟩
  obtain ⟨facing, dead⟩ := found_lasting session shared middle holds coherent relies
  have member : session ∈ middle.installs := facing.current ▸ coherent.current
  refine ⟨Or.inr ⟨member, Or.inl dead⟩, ?_⟩
  intro reply last answered
  obtain ⟨_, rfl⟩ := answered
  exact ⟨⟨facing.holder, facing.current⟩, Function.update_self _ _ _, coherent.lost reopens member dead⟩

theorem recoverSessionLocked_leads (reopens : self.reopener.isSome = true) (settings : Settings) {session : Nat} :
    Leads (conduct self thread operation) (Found thread session) (self.recoverSessionLocked settings)
      (fun _ shared => shared.holder = some thread) (fun _ shared => shared.holder = some thread) := by
  apply Leads.bind (read_leads (found_lasting session) _)
  intro old
  have closed : Leads (conduct self thread operation)
      (fun shared => Found thread session shared ∧ Coherent self shared ∧ old = shared.attributes.session) (closeSession old)
      (fun _ => Doomed thread session) (fun _ shared => shared.holder = some thread) := by
    intro shared ⟨found, _, same⟩
    have current : old = session := same.trans found.facing.current
    subst current
    exact closeOld_leads reopens shared found
  exact closed.bind fun _ => reconnect_leads settings _ _

theorem withLock_leads {body : Python α}
    (leads : Leads (conduct self thread operation) (fun shared => shared.holder = some thread) body
      (fun _ shared => shared.holder = some thread) (fun _ shared => shared.holder = some thread)) :
    Leads (conduct self thread operation) (fun shared => shared.holder ≠ some thread) (withLock body)
      (fun _ shared => shared.holder ≠ some thread) (fun _ shared => shared.holder ≠ some thread) := by
  have taken : Leads (conduct self thread operation) (fun shared => shared.holder ≠ some thread) acquire
      (fun _ shared => shared.holder = some thread) (fun _ shared => shared.holder ≠ some thread) := by
    apply Leads.request
    intro shared middle _ _
    refine ⟨trivial, ?_⟩
    intro reply last answered
    obtain ⟨_, rfl⟩ := answered
    rfl
  have given : Leads (conduct self thread operation) (fun shared => shared.holder = some thread) release
      (fun _ shared => shared.holder ≠ some thread) (fun _ shared => shared.holder ≠ some thread) := by
    apply Leads.request
    intro shared middle held ⟨_, relies⟩
    refine ⟨relies.holder.mpr held, ?_⟩
    intro reply last answered
    obtain ⟨_, rfl⟩ := answered
    exact nofun
  apply Leads.bind taken
  intro _
  apply Leads.bind
  · exact .tryCatch leads fun exc => .bind given fun _ => .throw fun _ free => free
  · exact fun value => .bind given fun _ => .pure fun _ free => free

/-- A program that has given the lock back whenever it ends. -/
def Careful (self : Dongle) (thread : Nat) (operation : Operation) (program : Python α) : Prop :=
  Leads (conduct self thread operation) (fun shared => shared.holder ≠ some thread) program
    (fun _ shared => shared.holder ≠ some thread) (fun _ shared => shared.holder ≠ some thread)

theorem Passive.careful {program : Python α} (passive : Passive self thread operation program) :
    Careful self thread operation program := passive _ free_lasting

namespace Careful

theorem bind {program : Python α} {next : α → Python β} (first : Careful self thread operation program)
    (rest : ∀ value, Careful self thread operation (next value)) : Careful self thread operation (program >>= next) :=
  Leads.bind first rest

theorem tryCatch {program : Python α} {handler : Exc → Python α} (body : Careful self thread operation program)
    (handled : ∀ exc, Careful self thread operation (handler exc)) :
    Careful self thread operation (tryCatch program handler) :=
  Leads.tryCatch body handled

theorem ite {condition : Prop} [Decidable condition] {first second : Python α}
    (holds : Careful self thread operation first) (fails : Careful self thread operation second) :
    Careful self thread operation (if condition then first else second) :=
  Leads.ite (fun _ => holds) fun _ => fails

end Careful

theorem recheck_leads {settings : Settings} (configured : self.reopener = some settings) :
    Leads (conduct self thread operation) (fun shared => shared.holder = some thread)
      (do
        if ← Python.isAlive (← Python.read Attributes.session) then return ()
        else self.recoverSessionLocked settings)
      (fun _ shared => shared.holder = some thread) (fun _ shared => shared.holder = some thread) := by
  apply Leads.bind ((read_leads owner_lasting Attributes.session).weaken (fun _ held => held)
    (fun session shared known => (⟨known.1, known.2.2.symm⟩ : Facing thread session shared)) fun _ _ raised => raised)
  intro session
  apply Leads.bind isAlive_leads
  intro living
  apply Leads.ite
  · exact fun _ => .pure fun _ known => known.1.holder
  · intro dead
    have reopens : self.reopener.isSome = true := by rw [configured]; rfl
    apply (recoverSessionLocked_leads reopens settings).weaken _ (fun _ _ held => held) fun _ _ held => held
    · exact session
    · exact fun shared known => ⟨known.1, known.2 (Bool.eq_false_of_not_eq_true dead)⟩

theorem Careful.gentle {program : Python α} (gentle : Gentle program) : Careful self thread operation program :=
  (Passive.gentle gentle).careful

theorem ensureSessionAlive_careful : Careful self thread operation self.ensureSessionAlive := by
  apply Careful.bind (.gentle (read_gentle _))
  intro session
  apply Careful.bind (.gentle (isAlive_gentle _))
  intro living
  apply Careful.ite (.gentle (.pure ()))
  cases configured : self.reopener with
  | none => exact .gentle (.throw _)
  | some settings => exact withLock_leads (recheck_leads configured)

theorem careful_composes : Composes self fun {_} program => Careful self thread operation program where
  gentle := .gentle
  bind := .bind
  tryCatch := .tryCatch
  ite := .ite
  revives := ensureSessionAlive_careful

theorem next_careful (timeout : Option Rat) : Careful self thread operation (Dongle.next timeout) := by
  have asked (session : Nat) : Passive self thread operation (nextRx session timeout) := .confined (.request trivial)
  exact .bind (.gentle (read_gentle _)) fun session => (asked session).careful

theorem recv_careful (timeout : Option Rat) : Careful self thread operation (self.recv timeout) := by
  apply Careful.bind (.gentle checkOpen_gentle)
  intro _
  apply Careful.bind ensureSessionAlive_careful
  intro _
  apply Careful.bind careful_composes.startRx
  intro _
  apply Careful.bind (next_careful timeout)
  intro pkt
  apply Careful.ite _ (.gentle (.pure pkt))
  apply Careful.bind (.gentle (read_gentle _))
  intro session
  apply Careful.bind (.gentle (isAlive_gentle _))
  intro living
  exact .ite (.bind ensureSessionAlive_careful fun _ => .gentle (.pure pkt)) (.gentle (.pure pkt))

structure Closing (thread : Nat) (shared : Shared) : Prop where
  free : shared.holder ≠ some thread
  closed : shared.attributes.closed = true

structure Fetched (thread session : Nat) (shared : Shared) : Prop where
  closing : Closing thread shared
  listed : session ∈ shared.installs

theorem closing_lasting : Lasting self thread (Closing thread) :=
  fun shared later closing coherent relies =>
    ⟨free_lasting shared later closing.free coherent relies, relies.closed closing.closed⟩

theorem fetched_lasting (session : Nat) : Lasting self thread (Fetched thread session) :=
  fun shared later fetched coherent relies =>
    ⟨closing_lasting shared later fetched.closing coherent relies, relies.listed session fetched.listed⟩

theorem close_careful : Careful self thread .close Dongle.close := by
  have flagged : Leads (conduct self thread .close) (fun shared => shared.holder ≠ some thread)
      (Python.assign fun attributes => { attributes with closed := true }) (fun _ => Closing thread)
      (fun _ shared => shared.holder ≠ some thread) := by
    apply Leads.request
    intro shared middle holds ⟨coherent, relies⟩
    have free := free_lasting shared middle holds coherent relies
    refine ⟨Or.inr (Or.inl ⟨rfl, fun _ => ⟨rfl, rfl⟩⟩), ?_⟩
    intro reply last answered
    obtain ⟨_, rfl⟩ := answered
    exact ⟨free, rfl⟩
  have stopped : Passive self thread .close (Python.assign fun attributes => { attributes with keepaliveStop := true }) :=
    .gentle (assign_gentle fun _ => ⟨rfl, rfl⟩)
  have fetched : Leads (conduct self thread .close) (Closing thread) (Python.read Attributes.session)
      (fun session => Fetched thread session) (fun _ shared => shared.holder ≠ some thread) :=
    (read_leads closing_lasting _).weaken (fun _ closing => closing)
      (fun session shared ⟨closing, coherent, same⟩ => ⟨closing, same ▸ coherent.current⟩) fun _ _ raised => raised
  have closed (session : Nat) : Leads (conduct self thread .close) (Fetched thread session) (closeSession session)
      (fun _ shared => shared.holder ≠ some thread) (fun _ shared => shared.holder ≠ some thread) := by
    apply Leads.request
    intro shared middle holds ⟨coherent, relies⟩
    have known := fetched_lasting session shared middle holds coherent relies
    refine ⟨Or.inr ⟨known.listed, Or.inr ⟨rfl, known.closing.closed⟩⟩, ?_⟩
    intro reply last answered
    obtain ⟨_, rfl⟩ := answered
    exact known.closing.free
  apply Careful.bind (.gentle (read_gentle _))
  intro already
  apply Careful.ite _ (.gentle (.pure ()))
  apply Leads.bind flagged
  intro _
  apply Leads.bind ((stopped _ closing_lasting).weaken (fun _ closing => closing) (fun _ _ closing => closing)
    fun _ _ closing => closing.free)
  intro _
  exact fetched.bind closed

theorem serve_careful (operation : Operation) : Careful self thread operation (self.serve operation) := by
  cases operation with
  | next timeout => exact next_careful timeout
  | recv timeout => exact recv_careful timeout
  | close => exact .bind close_careful fun _ => .gentle (.pure _)
  | tx | rx | rxStop | setConfig | ping | keepalive =>
    exact .bind (careful_composes.call trivial) fun _ => .gentle (.pure none)

theorem disciplined (self : Dongle) : Disciplined self.system (discipline self) where
  refl := Relies.refl
  trans _ _ _ _ := Relies.trans
  stable _ _ _ free relies held := free (relies.holder.mp held)
  answered := by
    intro thread operation shared op reply after coherent allowed answered
    obtain ⟨permitted, rfl⟩ := answered
    exact ⟨Coherent.after coherent allowed reply permitted, fun other apart => relies_after allowed reply permitted apart⟩
  stirred _ _ _ coherent stirs := SharedDiscipline.stirred coherent stirs
  safe thread operation shared free := (serve_careful operation shared free).mono fun outcome _ ended => by
    cases outcome <;> exact ended

theorem started_coherent {start : Shared} (started : self.Started start) : Coherent self start where
  head := by rw [started.installed]; rfl
  once := by rw [started.installed]; exact List.nodup_singleton _
  placed := by
    rw [started.installed]
    exact List.forall_mem_singleton.mpr started.placed
  replaced := by
    rw [started.installed]
    exact List.forall_mem_singleton.mpr fun apart => absurd rfl apart
  settled := by
    rw [started.installed]
    intro reopens session member shut
    rw [List.mem_singleton.mp member, started.unshut reopens] at shut
    cases shut
  fresh session unopened := (started.fresh session unopened).2.1

theorem kept_run {start : Shared} {events : List ThreadEvent} {pool : Threading} (started : self.Started start)
    (run : self.Runs start events pool) : Kept self.system (discipline self) pool := by
  apply (disciplined self).kept_run (started_coherent started) _ run
  intro thread held
  rw [started.unlocked] at held
  cases held

theorem built_started {law : World → Exchange → Prop} {world : World} (built : Dongle.Built law self world) :
    self.Started (Shared.of world) := by
  have started (running : world.attributes.closed = false) (placed : world.attributes.session < world.opened) :
      self.Started (Shared.of world) := by
    refine ⟨running, rfl, placed, rfl, fun _ => rfl, fun session unopened => ⟨?_, rfl, rfl⟩⟩
    have absent : ¬ session < world.opened := Nat.not_lt.mpr unopened
    simp only [Shared.of, absent, decide_false, Bool.false_and]
  have brought {requested : Option Modulation} {before up : World} {result : Bringup}
      (brought : DongleRecovery.BroughtUp law requested before result up) (fresh : DongleRecovery.Fresh result up world) :
      self.Started (Shared.of world) := by
    apply started
    · exact (Bool.or_eq_false_iff.mp fresh.running).1
    · rw [fresh.session, brought.session, fresh.opened, brought.opened]
      exact Nat.lt_succ_self _
  cases built with
  | connect vacant executed =>
    obtain ⟨result, up, ready, fresh⟩ := (DongleRecovery.connect_ensures _ _).returned executed
    exact brought ready fresh
  | sessionOn vacant executed =>
    obtain ⟨result, up, ready, fresh⟩ := (DongleRecovery.sessionOn_ensures _ _).returned executed
    exact brought ready fresh
  | @manual session _ info appliedConfig start _ vacant opened executed =>
    have placed : Program.Ensures (Answers law) (Dongle.init session info appliedConfig)
        (fun _ after => after.attributes.closed = false ∧ after.attributes.session < after.opened) (fun _ _ => True)
        start := by
      simp only [Dongle.init, Program.ensures_bind, DongleLogic.ensures_now, DongleLogic.ensures_assign]
      exact fun _ => ⟨rfl, opened⟩
    obtain ⟨running, inside⟩ := placed.returned executed
    exact started running inside

theorem connected_started : (⟨some {}, 1⟩ : Dongle).Started (Shared.of DongleLogic.connected) := by
  have built : Dongle.Built Unrestricted ⟨some {}, 1⟩ DongleLogic.connected :=
    .connect DongleLogic.unconnected_vacant (DongleLogic.executes (fun _ _ _ => trivial) DongleLogic.connect_connected)
  exact built_started built

theorem scheduled {device : (request : Request) → Except Exc request.Value} {admits : Threading → Threading → Bool}
    {start : Shared} {turns : List (Turn Operation Disturbance)} {β : Type} {summary : List ThreadEvent × Threading → β}
    {value : β}
    (computed : ((Shared.scheduler device admits).play self.system.program ⟨start, fun _ => none⟩ turns).map summary =
      some value) :
    ∃ events pool, self.Runs start events pool ∧ Transition.Run (fun before event after =>
      Threads.Step self.system before event after ∧ admits before after = true) ⟨start, fun _ => none⟩ events pool ∧
        summary (events, pool) = value := by
  obtain ⟨events, pool, run, same⟩ := Scheduler.play_summary (Shared.scheduler_follows self admits) computed
  exact ⟨events, pool, run.mono fun _ _ _ taken => taken.1, run, same⟩

end DongloraClient.Proofs.SharedPrograms
