import DongloraClient.Foundation.Budget
import DongloraClient.Proofs.RecoveryRequests
import DongloraClient.Proofs.SharedClose

/-! `close` ends the reconnects. Once `_closed` is set, a thread opens at most the transport
that it was about to open. -/

namespace DongloraClient.Proofs.SharedStop
open Python Threads Transition SharedDiscipline SharedMethods RecoveryRequests Budget

variable {self : Dongle} {α β : Type}

def Fits : (op : Op) → Reply op → Prop
  | .read, attributes => attributes.closed = true
  | _, _ => True

def cost : Op → Nat
  | .openTransport _ _ => 1
  | _ => 0

abbrev Settles (program : Python α) : Prop := Sparing Fits cost 1 program.run

abbrev Costless (program : Python α) : Prop := Program.Confined (fun op => cost op = 0) program

theorem gentle_costless {program : Python α} (gentle : Gentle program) : Costless program :=
  gentle.mono fun op mild => by cases op <;> first | rfl | exact mild.elim

theorem brings_costless (op : Op) (brings : Brings op) : cost op = 0 := by
  cases op <;> first | rfl | exact brings.elim

theorem costless_settles {program : Python α} (costless : Costless program) : Settles program := .requests costless

theorem gentle_settles {program : Python α} (gentle : Gentle program) : Settles program :=
  costless_settles (gentle_costless gentle)

theorem reopen_every (settings : Settings) : (Dongle.reopen settings).run.Everywhere (Affords Fits cost 1) := by
  have brought (transport : Except Exc Nat) : Sparing Fits cost 1 (ExceptT.run do
      let transport ← (ExceptT.mk (.pure transport) : Python Nat)
      bringUp transport (max settings.timeout 2) settings.requested) := by
    cases transport with
    | ok transport => exact costless_settles ((bringUp_brings _ _ _).mono brings_costless)
    | error exc => exact .pure _
  have opened : (openAndInit settings).run.Everywhere (Affords Fits cost 1) :=
    ⟨⟨Nat.le_refl _, fun reply _ => (brought reply).fresh⟩, fun reply => (brought reply).every⟩
  refine every_tryCatch (every_sequence opened fun _ => .pure _) fun exc => ?_
  split <;> exact .pure _

/-- With `_closed` set the loop ends before its next attempt. -/
theorem reconnect_settles (settings : Settings) (attempts : Nat) (backoff : Rat) :
    Settles (Dongle.reconnect settings attempts backoff) := by
  induction attempts generalizing backoff with
  | zero => exact ⟨trivial, trivial⟩
  | succ attempts ih =>
    constructor
    · refine ⟨Nat.le_refl _, fun attributes closed => ⟨Nat.le_refl _, fun later _ => ?_⟩⟩
      have closed : attributes.closed = true := closed
      change Affords Fits cost 0 (ExceptT.run (if (attributes.closed || later.keepaliveStop) = true then _ else _))
      rw [closed]
      trivial
    · refine every_later (gentle_costless (read_gentle _)) fun closed => ?_
      refine every_later (gentle_costless (read_gentle _)) fun stopped => ?_
      split
      next => trivial
      next =>
        refine every_sequence (reopen_every settings) fun bringup => ?_
        cases bringup with
        | some bringup => exact costless_settles (.bind (.request rfl) fun _ => gentle_costless (installed_gentle _ _ _))
        | none =>
          refine .sequence (costless_settles (.request rfl)) fun stopped => ?_
          split
          next => exact .pure _
          next => exact ih _

theorem ensureSessionAlive_settles : Settles self.ensureSessionAlive := by
  have checked {program : Python Unit} (settles : Settles program) : Settles (do
      if ← Python.isAlive (← Python.read Attributes.session) then return () else program) := by
    refine .sequence (gentle_settles (read_gentle _)) fun _ => ?_
    refine .sequence (gentle_settles (isAlive_gentle _)) fun living => ?_
    cases living with
    | false => exact settles
    | true => exact .pure _
  refine checked ?_
  cases self.reopener with
  | none => exact .pure _
  | some settings =>
    refine .sequence (costless_settles (.request rfl)) fun _ => .sequence (.tryCatch (checked ?_) fun exc => ?_) fun _ => ?_
    · refine .sequence (gentle_settles (read_gentle _)) fun _ => .sequence (costless_settles (.request rfl)) fun _ => ?_
      exact reconnect_settles _ _ _
    · exact costless_settles (.bind (.request rfl) fun _ => .throw exc)
    · exact costless_settles (.bind (.request rfl) fun _ => .pure _)

theorem settles_composes : Composes self fun {_} program => Settles program where
  gentle := gentle_settles
  bind := .sequence
  tryCatch := .tryCatch
  ite first second := by split <;> assumption
  revives := ensureSessionAlive_settles

theorem close_costless : Costless Dongle.close :=
  close_closes.mono fun op closes => by cases op <;> first | rfl | exact closes.elim

theorem serve_settles (operation : Operation) : Settles (self.serve operation) :=
  settles_composes.serve (fun _ _ => costless_settles (.request rfl)) (costless_settles close_costless) operation

section Runs

variable {start : Shared} {events later : List ThreadEvent} {pool last : Threading}

theorem fitting_run (kept : Kept self.system (discipline self) pool) (closed : pool.shared.attributes.closed = true)
    (run : Run (Threads.Step self.system) pool later last) :
    (Kept self.system (discipline self) last ∧ last.shared.attributes.closed = true) ∧
      Run (Transition.Guarded (Threads.Step self.system) (Fitting Fits)) pool later last := by
  induction run with
  | nil => exact ⟨⟨kept, closed⟩, .nil⟩
  | snoc _ taken ih =>
    obtain ⟨⟨kept, closed⟩, along⟩ := ih
    refine ⟨⟨(SharedPrograms.disciplined self).kept_step kept taken, SharedClose.closed_later kept taken closed⟩, along.snoc ⟨taken, ?_⟩⟩
    cases taken with
    | start | finish | stir => trivial
    | @perform thread task op following reply after running answered =>
      cases op with
      | read =>
        have same : reply = _ := answered.1
        rw [Fitting, Fits, same]
        exact closed
      | _ => trivial

/-- After `_closed` is set no thread opens a transport, but one that has already decided to
open one. -/
theorem reconnects_stop (started : self.Started start) (run : self.Runs start events pool)
    (closed : pool.shared.attributes.closed = true) (after : Run (Threads.Step self.system) pool later last) (thread : Nat) :
    spent cost thread later ≤ 1 ∧ (pool.threads thread = none → spent cost thread later = 0) := by
  have fresh (operation : Operation) : Affords Fits cost 0 (self.system.program operation) := (serve_settles operation).fresh
  have along := (fitting_run (SharedPrograms.kept_run started run) closed after).2
  constructor
  · have every : ∀ thread running, pool.threads thread = some running → running.rest.Everywhere (Affords Fits cost 1) :=
      residual_run (fun operation => (serve_settles operation).every) (fun _ _ _ reply every => every.2 reply) run
    exact (spent_run fresh (fun running runs => (every thread running runs).now) along).1
  · intro idle
    have nothing : ∀ running, pool.threads thread = some running → Affords Fits cost 0 running.rest :=
      fun running runs => nomatch idle.symm.trans runs
    exact Nat.le_zero.mp (spent_run fresh nothing along).1

end Runs

/-- The ping has found its session dead, and is about to open a transport. -/
def deciding : List (Turn Operation Disturbance) :=
  [.start 0 .ping, .advance 0, .stir (.die 1)] ++ List.replicate 9 (.advance 0) ++ [.start 1 .close] ++
    List.replicate 5 (.advance 1) ++ [.finish 1]

theorem reconnects_stop_deciding : ∃ events later pool last,
    (⟨some {}, 1⟩ : Dongle).Runs (Shared.of DongleLogic.connected) events pool ∧ pool.shared.attributes.closed = true ∧
      Run (Threads.Step (⟨some {}, 1⟩ : Dongle).system) pool later last ∧ spent cost 0 later = 1 ∧ spent cost 1 later = 0 := by
  have computed : ((Shared.scheduler DongleLogic.obliging fun _ _ => true).play (⟨some {}, 1⟩ : Dongle).system.program
      ⟨Shared.of DongleLogic.connected, fun _ => none⟩ deciding).bind (fun middle =>
        ((Shared.scheduler DongleLogic.obliging fun _ _ => true).play (⟨some {}, 1⟩ : Dongle).system.program middle.2
          (List.replicate 12 (.advance 0))).map fun ended =>
            (middle.2.shared.attributes.closed, spent cost 0 ended.1, (middle.2.threads 1).isNone)) = some (true, 1, true) := by
    decide +kernel
  obtain ⟨⟨events, pool⟩, played, rest⟩ := Option.bind_eq_some_iff.mp computed
  obtain ⟨⟨later, last⟩, replayed, same⟩ := Option.map_eq_some_iff.mp rest
  obtain ⟨closed, counts⟩ := Prod.mk.inj same
  obtain ⟨one, idle⟩ := Prod.mk.inj counts
  have follows : (Shared.scheduler DongleLogic.obliging fun _ _ => true).Follows (⟨some {}, 1⟩ : Dongle).system :=
    Shared.scheduler_follows _ _
  have run := (Scheduler.play_run follows played).mono fun _ _ _ taken => taken.1
  have after := (Scheduler.play_run follows replayed).mono fun _ _ _ taken => taken.1
  refine ⟨events, later, pool, last, run, closed, after, one, ?_⟩
  exact (reconnects_stop SharedPrograms.connected_started run closed after 1).2 (Option.isNone_iff_eq_none.mp idle)

end DongloraClient.Proofs.SharedStop
