import DongloraClient.Foundation.Journal
import DongloraClient.Proofs.RecoveryRequests
import DongloraClient.Proofs.SharedPrograms

/-! What `tx` sends, whatever the other threads do. A second transmission has a failed first
one before it, and a reason to expect more of the second. -/

namespace DongloraClient.Proofs.Transmissions
open Python Program Journal Threads RecoveryRequests

variable {self : Dongle} {α β : Type} {log : List (Sigma Reply)}
variable {data : Wire.Bytes} {skipCad : Bool} {timeout : Rat}

def Silent : Op → Prop
  | .command _ (.transmit _ _) _ => False
  | _ => True

def Quiet (log : List (Sigma Reply)) : Prop := ∀ entry ∈ log, Silent entry.1

/-- The session is read, and the packet transmitted on it. The latest request comes first. -/
def attempt (data : Wire.Bytes) (skipCad : Bool) (timeout : Rat) (attributes : Attributes) (reply : Except Exc TxDone) :
    List (Sigma Reply) :=
  [⟨.command attributes.session (.transmit data skipCad) (some timeout), reply⟩, ⟨.read, attributes⟩]

def Lost (exc : Exc) (after : List (Sigma Reply)) : Prop :=
  exc.isNotConfigured = true ∨ exc.isDonglora = true ∧ ∃ session, (⟨.isAlive session, false⟩ : Sigma Reply) ∈ after

/-- A `SET_CONFIG` was answered with `OK`. -/
def Reconfigured (requests : List (Sigma Reply)) : Prop :=
  ∃ session config timeout result, (⟨.command session (.setConfig config) timeout, .ok result⟩ : Sigma Reply) ∈ requests

/-- The requests of a call of `tx` until it returns or raises. -/
inductive Course (data : Wire.Bytes) (skipCad : Bool) (timeout : Rat) : List (Sigma Reply) → Except Exc TxDone → Prop where
  | unsent {before : List (Sigma Reply)} {exc : Exc} : Quiet before → Course data skipCad timeout before (.error exc)
  | once {before after : List (Sigma Reply)} {attributes : Attributes} {reply : Except Exc TxDone} : Quiet before →
      Quiet after → Course data skipCad timeout (after ++ (attempt data skipCad timeout attributes reply ++ before)) reply
  | abandoned {before after : List (Sigma Reply)} {attributes : Attributes} {exc other : Exc} : Quiet before →
      Quiet after → Lost exc after →
      Course data skipCad timeout (after ++ (attempt data skipCad timeout attributes (.error exc) ++ before)) (.error other)
  | twice {before between : List (Sigma Reply)} {first second : Attributes} {exc : Exc} {reply : Except Exc TxDone} :
      Quiet before → Quiet between → Lost exc between → (exc.isNotConfigured = true → Reconfigured between) →
      Course data skipCad timeout (attempt data skipCad timeout second reply ++
        (between ++ (attempt data skipCad timeout first (.error exc) ++ before))) reply

theorem quiet_nil : Quiet [] := fun _ listed => nomatch listed

theorem quiet_cons {entry : Sigma Reply} (silent : Silent entry.1) (quiet : Quiet log) : Quiet (entry :: log) :=
  List.forall_mem_cons.mpr ⟨silent, quiet⟩

theorem quiet_append {first second : List (Sigma Reply)} (quiet : Quiet first) (rest : Quiet second) :
    Quiet (first ++ second) :=
  List.forall_mem_append.mpr ⟨quiet, rest⟩

theorem revives_silent (op : Op) (revives : Revives op) : Silent op := by
  cases op with
  | command session request => cases request <;> trivial
  | _ => trivial

theorem ensureSessionAlive_silent : Confined Silent self.ensureSessionAlive :=
  ensureSessionAlive_revives.mono revives_silent

theorem before_sending {program : Python α} {next : α → Python β} {returns : β → List (Sigma Reply) → Prop}
    {raises : Exc → List (Sigma Reply) → Prop} (silent : Confined Silent program) (quiet : Quiet log)
    (raised : ∀ exc last, Quiet last → raises exc last)
    (rest : ∀ value last, Quiet last → Ensures Noted (next value) returns raises last) :
    Ensures Noted (program >>= next) returns raises log := by
  refine (ensures_bind _ _).mpr ((confined_noted silent).mono ?_ ?_)
  · rintro value _ ⟨added, rfl, more⟩
    exact rest value _ (quiet_append more quiet)
  · rintro exc _ ⟨added, rfl, more⟩
    exact raised exc _ (quiet_append more quiet)

theorem attempt_noted : Ensures Noted (do transmit (← Python.read Attributes.session) data skipCad timeout)
    (fun done last => ∃ attributes, last = attempt data skipCad timeout attributes (.ok done) ++ log)
    (fun exc last => ∃ attributes, last = attempt data skipCad timeout attributes (.error exc) ++ log) log := by
  rintro attributes _ rfl reply _ rfl
  cases reply with
  | ok done => exact ⟨attributes, rfl⟩
  | error exc => exact ⟨attributes, rfl⟩

theorem reapplyConfig_noted : Ensures Noted Dongle.reapplyConfig
    (fun _ last => ∃ added, last = added ++ log ∧ Quiet added ∧ Reconfigured added)
    (fun _ last => ∃ added, last = added ++ log ∧ Quiet added) log := by
  rintro placed _ rfl ⟨session, info, appliedConfig, rxStarted, closed, lastWriteTime, keepaliveStop⟩ _ rfl
  have reads (attributes : Attributes) : Quiet [⟨.read, attributes⟩, ⟨.read, placed⟩] :=
    quiet_cons trivial (quiet_cons trivial quiet_nil)
  cases appliedConfig with
  | none => exact ⟨_, rfl, reads _⟩
  | some config =>
    rintro reply _ rfl
    have quiet (attributes : Attributes) :
        Quiet (⟨.command placed.session (.setConfig config) (some 2), reply⟩ :: [⟨.read, attributes⟩, ⟨.read, placed⟩]) :=
      quiet_cons trivial (reads attributes)
    cases reply with
    | ok result => exact ⟨_, rfl, quiet _, placed.session, config, some 2, result, .head _⟩
    | error exc => exact ⟨_, rfl, quiet _⟩

theorem again_course {program : Python Unit} {before between : List (Sigma Reply)} {attributes : Attributes} {exc : Exc}
    (quiet : Quiet before) (waited : Quiet between)
    (recovers : Ensures Noted program
      (fun _ last => ∃ added, last = added ++ log ∧ Quiet added ∧ Lost exc (added ++ between) ∧
        (exc.isNotConfigured = true → Reconfigured (added ++ between)))
      (fun _ last => ∃ added, last = added ++ log ∧ Quiet added ∧ Lost exc (added ++ between)) log)
    (same : log = between ++ (attempt data skipCad timeout attributes (.error exc) ++ before)) :
    Ensures Noted (do
      program
      transmit (← Python.read Attributes.session) data skipCad timeout)
      (fun done last => Course data skipCad timeout last (.ok done))
      (fun exc last => Course data skipCad timeout last (.error exc)) log := by
  subst same
  refine (ensures_bind _ _).mpr (recovers.mono ?_ ?_)
  · rintro _ _ ⟨added, rfl, more, lost, configured⟩
    refine attempt_noted.mono ?_ ?_
    · rintro done _ ⟨later, rfl⟩
      rw [← List.append_assoc added]
      exact .twice quiet (quiet_append more waited) lost configured
    · rintro other _ ⟨later, rfl⟩
      rw [← List.append_assoc added]
      exact .twice quiet (quiet_append more waited) lost configured
  · rintro other _ ⟨added, rfl, more, lost⟩
    rw [← List.append_assoc added]
    exact .abandoned quiet (quiet_append more waited) lost

theorem handler_course {before : List (Sigma Reply)} {attributes : Attributes} {exc : Exc} (quiet : Quiet before)
    (same : log = attempt data skipCad timeout attributes (.error exc) ++ before) :
    Ensures Noted (do
      if exc.isNotConfigured then
        if (← Python.read Attributes.appliedConfig).isNone then throw exc
        else
          Dongle.reapplyConfig
          transmit (← Python.read Attributes.session) data skipCad timeout
      else if exc.isDonglora then
        if !(← Python.isAlive (← Python.read Attributes.session)) && self.reopener.isSome then
          self.ensureSessionAlive
          transmit (← Python.read Attributes.session) data skipCad timeout
        else throw exc
      else throw exc)
      (fun done last => Course data skipCad timeout last (.ok done))
      (fun exc last => Course data skipCad timeout last (.error exc)) log := by
  subst same
  have one {after : List (Sigma Reply)} (waited : Quiet after) :
      Course data skipCad timeout (after ++ (attempt data skipCad timeout attributes (.error exc) ++ before)) (.error exc) :=
    .once quiet waited
  refine (ensures_ite _ _ _).mpr ⟨fun unconfigured => ?_, fun configured => (ensures_ite _ _ _).mpr ⟨fun donglora => ?_, fun _ => ?_⟩⟩
  · rintro present _ rfl
    have reads : Quiet [⟨.read, present⟩] := quiet_cons trivial quiet_nil
    refine (ensures_ite _ _ _).mpr ⟨fun _ => one reads, fun _ => ?_⟩
    refine again_course quiet reads (reapplyConfig_noted.mono ?_ ?_) rfl
    · rintro _ _ ⟨added, rfl, more, reconfigured⟩
      refine ⟨added, rfl, more, .inl unconfigured, fun _ => ?_⟩
      obtain ⟨session, config, limit, result, listed⟩ := reconfigured
      exact ⟨session, config, limit, result, List.mem_append_left _ listed⟩
    · rintro _ _ ⟨added, rfl, more⟩
      exact ⟨added, rfl, more, .inl unconfigured⟩
  · rintro present _ rfl living _ rfl
    have looks : Quiet [⟨.isAlive present.session, living⟩, ⟨.read, present⟩] :=
      quiet_cons trivial (quiet_cons trivial quiet_nil)
    refine (ensures_ite _ _ _).mpr ⟨fun dead => ?_, fun _ => one looks⟩
    have lost (added : List (Sigma Reply)) : Lost exc (added ++ [⟨.isAlive present.session, living⟩, ⟨.read, present⟩]) := by
      cases living with
      | true => cases dead
      | false => exact .inr ⟨donglora, present.session, List.mem_append_right _ (.head _)⟩
    refine again_course quiet looks ((confined_noted ensureSessionAlive_silent).mono ?_ ?_) rfl
    · rintro _ _ ⟨added, rfl, more⟩
      exact ⟨added, rfl, more, lost added, fun unconfigured => absurd unconfigured configured⟩
    · rintro _ _ ⟨added, rfl, more⟩
      exact ⟨added, rfl, more, lost added⟩
  · exact one quiet_nil

theorem tx_course : Ensures Noted (self.tx data skipCad timeout)
    (fun done last => Course data skipCad timeout last (.ok done))
    (fun exc last => Course data skipCad timeout last (.error exc)) [] := by
  refine before_sending ?_ quiet_nil (fun _ _ => .unsent) fun _ _ quiet => ?_
  · exact .bind (read_confined trivial _) fun _ => .ite (.throw _) (.pure ())
  refine before_sending ?_ quiet (fun _ _ => .unsent) fun _ _ quiet => ?_
  · exact .bind (.request trivial) fun _ => .request trivial
  refine before_sending ensureSessionAlive_silent quiet (fun _ _ => .unsent) fun _ _ quiet => ?_
  refine (ensures_tryCatch _ _).mpr (attempt_noted.mono ?_ ?_)
  · rintro done _ ⟨attributes, rfl⟩
    exact .once quiet quiet_nil
  · rintro exc _ ⟨attributes, rfl⟩
    exact handler_course quiet rfl

section Runs

variable {start : Shared} {events : List ThreadEvent} {pool next : Threading} {thread : Nat}
  {outcome : Except Exc (Option RxEvent)}

def Sends (data : Wire.Bytes) (skipCad : Bool) (timeout : Rat) (outcome : Except Exc (Option RxEvent))
    (log : List (Sigma Reply)) : Prop :=
  ∃ result, Course data skipCad timeout log result ∧ outcome = result.map fun _ => none

theorem serve_sends : Always Noted (Sends data skipCad timeout) (self.serve (.tx data skipCad timeout)).run [] := by
  have called : Ensures Noted (self.serve (.tx data skipCad timeout))
      (fun packet => Sends data skipCad timeout (.ok packet)) (fun exc => Sends data skipCad timeout (.error exc)) [] := by
    refine (ensures_bind _ _).mpr ((ensures_bind _ _).mpr (tx_course.mono ?_ ?_))
    · exact fun done last course => ⟨.ok done, course, rfl⟩
    · exact fun exc last course => ⟨.error exc, course, rfl⟩
  refine Always.mono called fun outcome last ended => ?_
  cases outcome <;> exact ended

/-- A packet is sent at most twice, and the second time only after a first attempt that
failed for a reason that the caller has then seen to. The outcome is that of the last
attempt, or of seeing to it. -/
theorem resends_excused (run : self.Runs start events pool)
    (ended : Threads.Step self.system pool (.finish thread (.tx data skipCad timeout) outcome) next) :
    Sends data skipCad timeout outcome (journal thread events) := by
  have ensures (operation : Operation) : Always Noted
      (fun outcome last => ∀ data skipCad timeout, operation = .tx data skipCad timeout → Sends data skipCad timeout outcome last)
      (self.system.program operation) [] := by
    by_cases sends : ∃ data skipCad timeout, operation = .tx data skipCad timeout
    · obtain ⟨data, skipCad, timeout, rfl⟩ := sends
      refine serve_sends.mono fun outcome last ended data skipCad timeout same => ?_
      cases same
      exact ended
    · refine always_iff.mpr fun _ _ _ data skipCad timeout same => ?_
      exact absurd ⟨data, skipCad, timeout, same⟩ sends
  exact journal_finish ensures run ended data skipCad timeout rfl

end Runs

def deaf : (request : Request) → Except Exc request.Value
  | .transmit _ _ => .error (.timeoutError "TX tag=3 timed out waiting for TX_DONE")
  | request => DongleLogic.obliging request

/-- The session dies while the caller waits for `TX_DONE`. -/
def resending : List (Turn Operation Disturbance) :=
  [.start 0 (.tx [7] false 10)] ++ List.replicate 7 (.advance 0) ++ [.stir (.die 1)] ++ List.replicate 22 (.advance 0)

def transmissions (log : List (Sigma Reply)) : Nat :=
  log.countP fun
    | ⟨.command _ (.transmit _ _) _, _⟩ => true
    | _ => false

def raisedBy : Option (Running Op Reply Operation (Except Exc (Option RxEvent))) → Option (Wire.Bytes × Rat × Exc)
  | some ⟨.tx data false timeout, .pure (.error exc)⟩ => some (data, timeout, exc)
  | _ => none

theorem resends_excused_resending : ∃ events pool next, (⟨some {}, 1⟩ : Dongle).Runs (Shared.of DongleLogic.connected) events pool ∧
    Threads.Step (⟨some {}, 1⟩ : Dongle).system pool
      (.finish 0 (.tx [7] false 10) (.error (.timeoutError "TX tag=3 timed out waiting for TX_DONE"))) next ∧
    transmissions (journal 0 events) = 2 ∧
    Sends [7] false 10 (.error (.timeoutError "TX tag=3 timed out waiting for TX_DONE")) (journal 0 events) := by
  have computed : ((Shared.scheduler deaf fun _ _ => true).play (⟨some {}, 1⟩ : Dongle).system.program
      ⟨Shared.of DongleLogic.connected, fun _ => none⟩ resending).map
        (fun ended => (transmissions (journal 0 ended.1), raisedBy (ended.2.threads 0))) =
      some (2, some ([7], 10, .timeoutError "TX tag=3 timed out waiting for TX_DONE")) := by decide +kernel
  obtain ⟨events, pool, run, same⟩ := Scheduler.play_summary (Shared.scheduler_follows _ _) computed
  obtain ⟨twice, raised⟩ := Prod.mk.inj same
  have run := run.mono fun _ _ _ taken => taken.1
  have running : pool.threads 0 = some ⟨.tx [7] false 10, .pure (.error (.timeoutError "TX tag=3 timed out waiting for TX_DONE"))⟩ := by
    generalize pool.threads 0 = running at raised
    unfold raisedBy at raised
    split at raised <;> cases raised
    rfl
  exact ⟨events, pool, _, run, .finish running, twice, resends_excused run (.finish running)⟩

end DongloraClient.Proofs.Transmissions
