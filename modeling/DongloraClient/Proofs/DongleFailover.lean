import DongloraClient.Failover
import DongloraClient.Proofs.SessionAttempts
import DongloraClient.Proofs.SessionDeath

/-! `Dongle.tx` on a session whose transport fails: when the failure is masked by a
reconnect and one more attempt, and when it reaches the caller. -/

namespace DongloraClient.Proofs.DongleFailover
open Program Python SessionReplies SessionAttempts Transition

variable {failover : Failover} {self : Dongle} {settings : Settings} {world : World} {data : Wire.Bytes}
  {skipCad : Bool} {done : TxDone} {α : Type}

abbrev Yields (failover : Failover) (program : Python α) (returns : α → World → Prop) (raises : Exc → World → Prop)
    (world : World) : Prop :=
  Program.Yields failover.respond program returns raises world

section Requests
variable {raises : Exc → World → Prop}

theorem yields_op {op : Op} {reply : Reply op} (replied : failover.reply world op = some reply)
    {returns : Reply op → World → Prop} :
    Yields failover (Program.request op) returns raises world ↔ returns reply (world.after op reply) := by
  apply yields_request
  rw [Failover.respond, replied]
  rfl

@[simp] theorem yields_read (field : Attributes → α) {returns : α → World → Prop} :
    Yields failover (Python.read field) returns raises world ↔ returns (field world.attributes) world :=
  (yields_bind _ _).trans ((yields_op rfl).trans (yields_pure _))

@[simp] theorem yields_assign (change : Attributes → Attributes) {returns : Unit → World → Prop} :
    Yields failover (assign change) returns raises world ↔ returns () (world.assign change) :=
  yields_op rfl

theorem yields_acquire (free : world.locked = false) {returns : Unit → World → Prop} :
    Yields failover acquire returns raises world ↔ returns () { world with locked := true } := by
  refine yields_op ?_
  rw [Failover.reply, free]
  rfl

@[simp] theorem yields_release {returns : Unit → World → Prop} :
    Yields failover release returns raises world ↔ returns () { world with locked := false } :=
  yields_op rfl

@[simp] theorem yields_now {returns : Rat → World → Prop} :
    Yields failover now returns raises world ↔ returns (failover.clock world) world :=
  yields_op rfl

@[simp] theorem yields_openTransport (port : Option String) (timeout : Rat) {returns : Nat → World → Prop} :
    Yields failover (openTransport port timeout) returns raises world ↔ returns failover.transport world := by
  constructor
  · intro ⟨result, last, ran, ended⟩
    cases ran
    exact ended
  · exact fun holds => ⟨_, _, rfl, holds⟩

@[simp] theorem yields_openSession (transport : Nat) {returns : Nat → World → Prop} :
    Yields failover (openSession transport) returns raises world ↔
      returns world.opened
        { world with alive := Function.update world.alive world.opened true, opened := world.opened + 1 } :=
  yields_op rfl

@[simp] theorem yields_isAlive (session : Nat) {returns : Bool → World → Prop} :
    Yields failover (isAlive session) returns raises world ↔
      returns (failover.isAlive world session) (if failover.isAlive world session then world else world.kill session) :=
  yields_op rfl

@[simp] theorem yields_closeSession (session : Nat) {returns : Unit → World → Prop} :
    Yields failover (closeSession session) returns raises world ↔ returns () (world.kill session) :=
  yields_op rfl

@[simp] theorem yields_command (session : Nat) (request : Request) (timeout : Option Rat)
    {returns : request.Value → World → Prop} :
    Yields failover (command session request timeout) returns raises world ↔
      Outcomes returns raises (failover.answer world session request)
        (world.exchange ⟨session, request, failover.answer world session request⟩) := by
  have ran : outcome failover.respond (command session request timeout) world =
      some (failover.answer world session request,
        world.exchange ⟨session, request, failover.answer world session request⟩) := rfl
  constructor
  · intro ⟨result, last, began, ended⟩
    cases ran.symm.trans began
    exact ended
  · exact fun holds => ⟨_, _, ran, holds⟩

end Requests

theorem yields_answered {session : Nat} (other : session ≠ failover.session) {request : Request}
    {value : request.Value} (answered : failover.device request = .ok value) (timeout : Option Rat)
    {returns : request.Value → World → Prop} {raises : Exc → World → Prop} :
    Yields failover (command session request timeout) returns raises world ↔
      returns value (world.exchange ⟨session, request, .ok value⟩) := by
  have answer : failover.answer world session request = .ok value := by
    rw [Failover.answer, if_neg other, answered]
  rw [yields_command, answer]
  rfl

theorem openAndInit_yields (healthy : failover.Healthy settings data skipCad done)
    (placed : failover.session < world.opened) :
    Yields failover (openAndInit settings)
      (fun bringup last => bringup.1 = world.opened ∧ last.attributes = world.attributes) (fun _ _ => False) world := by
  obtain ⟨info, told, version, configures⟩ := healthy.ready
  have other : world.opened ≠ failover.session := Nat.ne_of_gt placed
  simp only [openAndInit, bringUp, closingOnError, getInfo, setConfig, yields_bind, yields_openTransport,
    yields_openSession, yields_tryCatch, yields_answered other told]
  rw [if_neg (not_not.mpr version)]
  cases requested : settings.requested with
  | none =>
    simp only [yields_pure]
    exact ⟨trivial, rfl⟩
  | some modulation =>
    obtain ⟨prepared, result, fits, applied⟩ := configures modulation requested
    have lifted : (liftExcept (prepareConfig info modulation) : Python Modulation) = Pure.pure prepared := by
      rw [fits]
      rfl
    simp only [lifted, yields_bind, yields_tryCatch, yields_pure]
    exact (yields_answered other applied _).mpr ⟨trivial, rfl⟩

theorem install_yields (healthy : failover.Healthy settings data skipCad done) {fresh : Nat} (info : Info)
    (applied : Option Modulation) (other : fresh ≠ failover.session) :
    Yields failover (Dongle.install fresh info applied) (fun _ last => last.attributes.session = fresh) (fun _ _ => False)
      world := by
  have restarted (world : World) (installed : world.attributes.session = fresh) :
      Yields failover (Dongle.restartRx fresh) (fun _ last => last.attributes.session = fresh) (fun _ _ => False)
        world := by
    simp only [Dongle.restartRx, rxStart, yields_bind, yields_read]
    split
    · rw [yields_tryCatch]
      exact (yields_answered other healthy.receives _).mpr installed
    · exact (yields_pure ()).mpr installed
  cases applied with
  | none =>
    simp only [Dongle.install, yields_bind, yields_assign]
    exact restarted _ rfl
  | some config =>
    simp only [Dongle.install, yields_bind, yields_assign]
    exact restarted _ rfl

/-- The installed session is dead, and nothing keeps a reconnect from replacing it. -/
structure Fallen (failover : Failover) (world : World) : Prop where
  installed : world.attributes.session = failover.session
  notClosed : world.attributes.closed = false
  running : world.attributes.keepaliveStop = false
  placed : failover.session < world.opened
  dead : failover.isAlive world failover.session = false

/-- Neither the lock nor `close` on the session matters to that. -/
theorem Fallen.aside (fallen : Fallen failover world) {locked : Bool} {alive : Nat → Bool} :
    Fallen failover { world with locked, alive } := by
  refine { fallen with dead := ?_ }
  have dead := fallen.dead
  rw [Failover.isAlive, if_pos rfl] at dead ⊢
  exact dead

theorem reconnect_yields (healthy : failover.Healthy settings data skipCad done) (fallen : Fallen failover world)
    (attempts : Nat) (backoff : Rat) :
    Yields failover (Dongle.reconnect settings (attempts + 1) backoff)
      (fun _ last => last.attributes.session = world.opened) (fun _ _ => False) world := by
  simp only [Dongle.reconnect, Dongle.reopen, yields_bind, yields_read, fallen.notClosed, fallen.running, Bool.or_self,
    Bool.false_eq_true, if_false, yields_tryCatch]
  refine (openAndInit_yields healthy fallen.placed).mono ?_ fun _ _ raised => raised.elim
  intro bringup last ended
  obtain ⟨session, info, applied⟩ := bringup
  have same : session = world.opened := ended.1
  rw [yields_pure, same]
  exact install_yields healthy info applied (Nat.ne_of_gt fallen.placed)

theorem recoverSessionLocked_yields (attempts : 0 < self.attempts)
    (healthy : failover.Healthy settings data skipCad done) (fallen : Fallen failover world) :
    Yields failover (self.recoverSessionLocked settings) (fun _ last => last.attributes.session = world.opened)
      (fun _ _ => False) world := by
  obtain ⟨more, bound⟩ := Nat.exists_eq_succ_of_ne_zero (Nat.ne_of_gt attempts)
  have killed : Fallen failover (world.kill world.attributes.session) := fallen.aside
  simp only [Dongle.recoverSessionLocked, yields_bind, yields_read, yields_closeSession, bound]
  exact reconnect_yields healthy killed more _

theorem recheck_yields (attempts : 0 < self.attempts) (healthy : failover.Healthy settings data skipCad done)
    (fallen : Fallen failover world) :
    Yields failover (do
        if ← Python.isAlive (← Python.read Attributes.session) then return ()
        else self.recoverSessionLocked settings)
      (fun _ last => last.attributes.session = world.opened) (fun _ _ => False) world := by
  have killed : Fallen failover (world.kill failover.session) := fallen.aside
  simp only [yields_bind, yields_read, yields_isAlive, fallen.installed, fallen.dead]
  exact recoverSessionLocked_yields attempts healthy killed

theorem ensureSessionAlive_yields (reopener : self.reopener = some settings) (attempts : 0 < self.attempts)
    (healthy : failover.Healthy settings data skipCad done) (fallen : Fallen failover world)
    (unlocked : world.locked = false) :
    Yields failover self.ensureSessionAlive (fun _ last => last.attributes.session = world.opened) (fun _ _ => False)
      world := by
  have held : Fallen failover { world.kill failover.session with locked := true } := fallen.aside
  have free : (world.kill failover.session).locked = false := unlocked
  simp only [Dongle.ensureSessionAlive, yields_bind, yields_read, yields_isAlive, fallen.installed, fallen.dead]
  rw [if_neg Bool.false_ne_true, reopener]
  simp only [withLock, yields_bind]
  refine (yields_acquire free).mpr ?_
  rw [yields_tryCatch]
  refine (recheck_yields attempts healthy held).mono ?_ fun _ _ raised => raised.elim
  exact fun _ _ replaced => yields_release.mpr ((yields_pure _).mpr replaced)

theorem alive_yields (living : failover.isAlive world world.attributes.session = true) {returns : Unit → World → Prop}
    {raises : Exc → World → Prop} :
    Yields failover self.ensureSessionAlive returns raises world ↔ returns () world := by
  simp only [Dongle.ensureSessionAlive, yields_bind, yields_read, yields_isAlive, living, if_true, yields_pure]

def send (data : Wire.Bytes) (skipCad : Bool) (timeout : Rat) : Python TxDone := do
  transmit (← read Attributes.session) data skipCad timeout

/-- The device behind the new session has reported the end of the transmission. -/
structure Delivered (fresh : Nat) (data : Wire.Bytes) (skipCad : Bool) (done value : TxDone) (last : World) : Prop where
  value : value = done
  installed : last.attributes.session = fresh
  reported : last.history.head? = some ⟨fresh, .transmit data skipCad, .ok done⟩

theorem send_delivered (healthy : failover.Healthy settings data skipCad done)
    (other : world.attributes.session ≠ failover.session) (timeout : Rat) :
    Yields failover (send data skipCad timeout) (Delivered world.attributes.session data skipCad done) (fun _ _ => False)
      world := by
  simp only [send, transmit, yields_bind, yields_read]
  exact (yields_answered other healthy.transmits _).mpr ⟨rfl, rfl, rfl⟩

theorem send_failing {fresh : Nat} (installed : world.attributes.session = failover.session)
    (placed : failover.session < fresh) (timeout : Rat) :
    Yields failover (send data skipCad timeout) (fun value last => ¬ Delivered fresh data skipCad done value last)
      (fun _ _ => True) world := by
  simp only [send, transmit, yields_bind, yields_read]
  refine (yields_command _ _ _).mpr ?_
  cases failover.answer world world.attributes.session (.transmit data skipCad) with
  | error exc => trivial
  | ok value =>
    intro delivered
    have same : world.attributes.session = fresh := delivered.installed
    rw [← same, installed] at placed
    exact absurd placed (Nat.lt_irrefl _)

theorem reapplyConfig_failing (installed : world.attributes.session = failover.session) :
    Yields failover Dongle.reapplyConfig (fun _ last => last.attributes.session = failover.session) (fun _ _ => True)
      world := by
  simp only [Dongle.reapplyConfig, setConfig, yields_bind, yields_read]
  cases world.attributes.appliedConfig with
  | none => exact (yields_throw _).mpr trivial
  | some config =>
    refine (yields_bind _ _).mpr ((yields_command _ _ _).mpr ?_)
    cases failover.answer world world.attributes.session (.setConfig config) with
    | error exc => trivial
    | ok result => exact (yields_pure ()).mpr installed

def marked (failover : Failover) (world : World) : World :=
  world.assign fun attributes => { attributes with lastWriteTime := failover.clock world }

theorem tx_enters (notClosed : world.attributes.closed = false) (timeout : Rat) {returns : TxDone → World → Prop}
    {raises : Exc → World → Prop} :
    Yields failover (self.tx data skipCad timeout) returns raises world ↔
      Yields failover (self.withRecovery (send data skipCad timeout)) returns raises (marked failover world) := by
  simp only [Dongle.tx, Dongle.checkOpen, Dongle.markWrite, yields_bind, yields_read, yields_now, yields_assign, notClosed,
    Bool.false_eq_true, if_false, yields_pure]
  rfl

theorem replaced_yields (reopener : self.reopener = some settings) (attempts : 0 < self.attempts)
    (healthy : failover.Healthy settings data skipCad done) (fallen : Fallen failover world)
    (unlocked : world.locked = false) (timeout : Rat) :
    Yields failover (do
        self.ensureSessionAlive
        send data skipCad timeout)
      (Delivered world.opened data skipCad done) (fun _ _ => False) world := by
  refine (yields_bind _ _).mpr ?_
  refine (ensureSessionAlive_yields reopener attempts healthy fallen unlocked).mono ?_ fun _ _ raised => raised
  intro _ last replaced
  have other : last.attributes.session ≠ failover.session := replaced ▸ Nat.ne_of_gt fallen.placed
  have delivered := send_delivered healthy other timeout
  rwa [replaced] at delivered

def Retryable (reply : Except Exc TxDone) : Prop :=
  ∃ exc, reply = .error exc ∧ exc.isDonglora = true ∧ exc.isNotConfigured = false

def attempted (failover : Failover) (world : World) (data : Wire.Bytes) (skipCad : Bool) : World :=
  (marked failover world).exchange ⟨failover.session, .transmit data skipCad, failover.attempt (.transmit data skipCad)⟩

section Begun
variable (begins : failover.Begins world)
include begins

theorem living_check : failover.isAlive (marked failover world) failover.session = failover.living := by
  rw [Failover.isAlive, if_pos rfl]
  exact if_pos begins.sent

theorem lasting_check : failover.isAlive (attempted failover world data skipCad) failover.session = failover.lasting := by
  rw [Failover.isAlive, if_pos rfl]
  refine if_neg ?_
  have longer : (attempted failover world data skipCad).history.length = world.history.length + 1 := rfl
  rw [longer, begins.sent]
  exact Nat.succ_ne_self _

theorem attempt_yields (timeout : Rat) {returns : TxDone → World → Prop} {raises : Exc → World → Prop} :
    Yields failover (send data skipCad timeout) returns raises (marked failover world) ↔
      Outcomes returns raises (failover.attempt (.transmit data skipCad)) (attempted failover world data skipCad) := by
  have installed : (marked failover world).attributes.session = failover.session := begins.installed
  have answered : failover.answer (marked failover world) failover.session (.transmit data skipCad) =
      failover.attempt (.transmit data skipCad) := by
    rw [Failover.answer, if_pos rfl]
    exact if_pos begins.sent
  simp only [send, transmit, yields_bind, yields_read, installed]
  rw [attempted, ← answered]
  exact yields_command _ _ _

theorem marked_fallen (dead : failover.living = false) : Fallen failover (marked failover world) :=
  ⟨begins.installed, begins.notClosed, begins.running, begins.placed, (living_check begins).trans dead⟩

theorem attempted_fallen (dead : failover.lasting = false) : Fallen failover (attempted failover world data skipCad) :=
  ⟨begins.installed, begins.notClosed, begins.running, begins.placed, (lasting_check begins).trans dead⟩

theorem tx_living (living : failover.living = true) (timeout : Rat) {returns : TxDone → World → Prop}
    {raises : Exc → World → Prop} :
    Yields failover (self.tx data skipCad timeout) returns raises world ↔
      Outcomes returns (fun exc last =>
          Yields failover (SessionDeath.recovering self (send data skipCad timeout) exc) returns raises last)
        (failover.attempt (.transmit data skipCad)) (attempted failover world data skipCad) := by
  have installed : (marked failover world).attributes.session = failover.session := begins.installed
  have alive : failover.isAlive (marked failover world) (marked failover world).attributes.session = true := by
    rw [installed, living_check begins, living]
  refine (tx_enters begins.notClosed timeout).trans ?_
  rw [SessionDeath.withRecovery_recovering]
  refine (yields_bind _ _).trans ((alive_yields alive).trans ?_)
  exact (yields_tryCatch _ _).trans (attempt_yields begins timeout)

theorem tx_delivers (reopener : self.reopener = some settings) (attempts : 0 < self.attempts)
    (healthy : failover.Healthy settings data skipCad done) (timeout : Rat)
    (masked : failover.living = false ∨
      Retryable (failover.attempt (.transmit data skipCad)) ∧ failover.lasting = false) :
    Yields failover (self.tx data skipCad timeout) (Delivered world.opened data skipCad done) (fun _ _ => False) world := by
  cases living : failover.living with
  | false =>
    have fallen := marked_fallen begins living
    refine (tx_enters begins.notClosed timeout).mpr ?_
    rw [SessionDeath.withRecovery_recovering]
    refine (yields_bind _ _).mpr ?_
    refine (ensureSessionAlive_yields reopener attempts healthy fallen begins.unlocked).mono ?_ fun _ _ raised => raised
    intro _ last replaced
    have other : last.attributes.session ≠ failover.session := replaced ▸ Nat.ne_of_gt begins.placed
    have delivered := send_delivered healthy other timeout
    rw [replaced] at delivered
    exact (yields_tryCatch _ _).mpr (delivered.mono (fun _ _ ended => ended) fun _ _ raised => raised.elim)
  | true =>
    obtain ⟨⟨exc, failed, donglora, configured⟩, dead⟩ := masked.resolve_left (by rw [living]; exact nofun)
    have fallen : Fallen failover (attempted failover world data skipCad) := attempted_fallen begins dead
    have killed : Fallen failover ((attempted failover world data skipCad).kill
        (attempted failover world data skipCad).attributes.session) := fallen.aside
    refine (tx_living begins living timeout).mpr ?_
    rw [failed]
    have found : failover.isAlive (attempted failover world data skipCad)
        (attempted failover world data skipCad).attributes.session = false := by
      rw [fallen.installed, fallen.dead]
    simp only [Outcomes, SessionDeath.recovering, configured, donglora, Bool.false_eq_true, if_false, if_true, yields_bind,
      yields_read, yields_isAlive, found]
    have reconnects : (!false && self.reopener.isSome) = true := by
      rw [reopener]
      rfl
    rw [if_pos reconnects]
    exact replaced_yields reopener attempts healthy killed begins.unlocked timeout

theorem tx_fails (timeout : Rat) (living : failover.living = true)
    (unmasked : ¬ (Retryable (failover.attempt (.transmit data skipCad)) ∧ failover.lasting = false)) :
    Yields failover (self.tx data skipCad timeout)
      (fun value last => ¬ Delivered world.opened data skipCad done value last) (fun _ _ => True) world := by
  refine (tx_living begins living timeout).mpr ?_
  cases failed : failover.attempt (.transmit data skipCad) with
  | ok value =>
    intro delivered
    have same : failover.session = world.opened := begins.installed.symm.trans delivered.installed
    have placed := begins.placed
    rw [same] at placed
    exact absurd placed (Nat.lt_irrefl _)
  | error exc =>
    have installed : (attempted failover world data skipCad).attributes.session = failover.session := begins.installed
    simp only [Outcomes, SessionDeath.recovering]
    by_cases configured : exc.isNotConfigured = true
    · rw [if_pos configured]
      simp only [yields_bind, yields_read]
      split
      · exact (yields_throw _).mpr trivial
      · refine (yields_bind _ _).mpr ?_
        refine (reapplyConfig_failing installed).mono ?_ fun _ _ _ => trivial
        exact fun _ _ still => send_failing still begins.placed timeout
    · rw [if_neg configured]
      by_cases donglora : exc.isDonglora = true
      · rw [if_pos donglora]
        have retryable : Retryable (failover.attempt (.transmit data skipCad)) :=
          ⟨exc, failed, donglora, Bool.eq_false_of_not_eq_true configured⟩
        have lasting : failover.lasting = true := by
          apply Bool.eq_true_of_not_eq_false
          exact fun dead => unmasked ⟨retryable, dead⟩
        have found : failover.isAlive (attempted failover world data skipCad)
            (attempted failover world data skipCad).attributes.session = true := by
          rw [installed, lasting_check begins, lasting]
        simp only [yields_bind, yields_read, yields_isAlive, found, Bool.not_true, Bool.false_and, Bool.false_eq_true,
          if_false, yields_throw]
      · rw [if_neg donglora]
        exact (yields_throw _).mpr trivial

end Begun

section Runs
variable {cobs : Cobs.Codec} {id : Nat} {steps : List Step} {atCheck entered ended atLook : Session}

/-- The first attempt can be made up for if and only if it is never settled. -/
theorem retryable_iff (check : ∃ earlier, Run (Steps (Session.step cobs)) {} earlier atCheck)
    (attempts : failover.Attempts cobs data skipCad id steps atCheck entered ended atLook) :
    Retryable (failover.attempt (.transmit data skipCad)) ↔
      Run (Guarded (Steps (Session.step cobs)) (Unsettled cobs id)) entered steps ended := by
  obtain ⟨earlier, check⟩ := check
  have begun : Begun (entered.calls id) ∧ (entered.calls id).pc = .entered := by
    cases SessionSteps.stepped attempts.begun with
    | rejected _ refused => cases refused
    | entered =>
      rw [SessionSteps.setCall_calls, if_pos rfl]
      exact ⟨⟨nofun, rfl⟩, rfl⟩
    | moved move => cases move
  have running : Favourable (entered.calls id) := favourable_running begun.2 rfl
  rw [← recoverable_iff (check.snoc attempts.begun) begun.1 running attempts.attempt,
    favourable_ended (Or.inr attempts.finished)]
  cases replied : failover.attempt (.transmit data skipCad) with
  | ok value => exact iff_of_false nofun fun recoverable => recoverable
  | error exc =>
    constructor
    · intro ⟨_, same, recoverable⟩
      cases same
      exact recoverable
    · exact fun recoverable => ⟨exc, rfl, recoverable⟩

end Runs

/-- `tx` has returned what the new device reported. -/
def Masked (fresh : Nat) (data : Wire.Bytes) (skipCad : Bool) (done : TxDone) (result : Except Exc TxDone) (last : World) :
    Prop :=
  ∃ value, result = .ok value ∧ Delivered fresh data skipCad done value last

/-- A failure of the transport is masked from `tx` if and only if the session is dead
already when `tx` looks, or the attempt is never settled and the session dead when the
handler looks. -/
theorem transport_failure_masked_iff {cobs : Cobs.Codec} {id : Nat} {steps : List Step}
    {atCheck entered ended atLook : Session} (reopener : self.reopener = some settings) (attempts : 0 < self.attempts)
    (begins : failover.Begins world) (healthy : failover.Healthy settings data skipCad done)
    (lives : failover.Lives cobs data skipCad id steps atCheck entered ended atLook) (timeout : Rat) :
    ∃ result last, outcome failover.respond (self.tx data skipCad timeout) world = some (result, last) ∧
      (Masked world.opened data skipCad done result last ↔ atCheck.isAlive = false ∨
        Run (Guarded (Steps (Session.step cobs)) (Unsettled cobs id)) entered steps ended ∧ atLook.isAlive = false) := by
  have masked (condition : failover.living = false ∨
      Retryable (failover.attempt (.transmit data skipCad)) ∧ failover.lasting = false) :
      ∃ result last, outcome failover.respond (self.tx data skipCad timeout) world = some (result, last) ∧
        Masked world.opened data skipCad done result last := by
    obtain ⟨result, last, ran, ended⟩ := tx_delivers begins reopener attempts healthy timeout condition
    cases result with
    | ok value => exact ⟨_, last, ran, value, rfl, ended⟩
    | error exc => exact ended.elim
  cases alive : atCheck.isAlive with
  | false =>
    obtain ⟨result, last, ran, delivered⟩ := masked (Or.inl (lives.living.trans alive))
    exact ⟨result, last, ran, iff_of_true delivered (Or.inl rfl)⟩
  | true =>
    have attempt := lives.attempts alive
    rw [← retryable_iff lives.check attempt, ← attempt.lasting, or_iff_right Bool.noConfusion]
    by_cases condition : Retryable (failover.attempt (.transmit data skipCad)) ∧ failover.lasting = false
    · obtain ⟨result, last, ran, delivered⟩ := masked (Or.inr condition)
      exact ⟨result, last, ran, iff_of_true delivered condition⟩
    · obtain ⟨result, last, ran, ended⟩ := tx_fails begins timeout (lives.living.trans alive) condition
      refine ⟨result, last, ran, iff_of_false ?_ condition⟩
      intro ⟨value, same, delivered⟩
      subst same
      exact ended delivered

section Executions
open DongleLogic SessionReader

theorem lives_of_execution {cobs : Cobs.Codec} {id : Nat} {earlier steps later : List Step}
    (computed : ((execute (Session.step cobs) {} earlier).bind fun atCheck =>
      (Session.step cobs atCheck (.begin id (.transmit data skipCad) true)).bind fun entered =>
        (execute (Session.step cobs) entered steps).bind fun ended =>
          (execute (Session.step cobs) ended later).map fun atLook =>
            (atCheck.isAlive, (ended.calls id).pc, atLook.isAlive)) =
      some (failover.living, .finished ((failover.attempt (.transmit data skipCad)).map .txDone), failover.lasting)) :
    ∃ atCheck entered ended atLook, failover.Lives cobs data skipCad id steps atCheck entered ended atLook := by
  obtain ⟨atCheck, checked, rest⟩ := Option.bind_eq_some_iff.mp computed
  obtain ⟨entered, begun, rest⟩ := Option.bind_eq_some_iff.mp rest
  obtain ⟨ended, attempted, rest⟩ := Option.bind_eq_some_iff.mp rest
  obtain ⟨atLook, looked, same⟩ := Option.map_eq_some_iff.mp rest
  obtain ⟨living, same⟩ := Prod.mk.inj same
  obtain ⟨finished, lasting⟩ := Prod.mk.inj same
  exact ⟨atCheck, entered, ended, atLook, ⟨earlier, execute_run checked⟩, living.symm, fun _ =>
    ⟨begun, execute_run attempted, finished, ⟨later, execute_run looked⟩, lasting.symm⟩⟩

def failing (exc : Exc) : Failover where
  session := 1
  sent := 2
  living := true
  attempt _ := .error exc
  lasting := false
  further _ := .error exc
  transport := 0
  device := obliging
  clock _ := 0

def transmitted : TxDone := ⟨.transmitted, 30976⟩

theorem failing_begins (exc : Exc) : (failing exc).Begins connected := ⟨rfl, rfl, rfl, rfl, Nat.one_lt_two, rfl⟩

theorem failing_healthy (exc : Exc) : (failing exc).Healthy {} [1] false transmitted := by
  refine ⟨⟨stockInfo, rfl, rfl, fun requested same => ?_⟩, rfl, rfl⟩
  cases same
  exact ⟨.lora LoRaConfig.default, some ⟨.applied, .mine, .lora LoRaConfig.default⟩, rfl, rfl⟩

/-- The reader meets the failure while the caller waits, and exits before it wakes. -/
def lostWhileWaiting : List Step :=
  [.alloc 0, .register 0, .write 0 none, .hangup, .shutdown, .act .reader, .act .reader, .act .reader, .act .reader,
    .wake 0, .readErr 0, .forget 0]

theorem transport_failure_masked_lost : ∃ result last,
    outcome (failing lostTransport).respond ((⟨some {}, 1⟩ : Dongle).tx [1] false 2) connected = some (result, last) ∧
      Masked 2 [1] false transmitted result last := by
  have computed : ((execute (Session.step Cobs.standard) {} [.poll]).bind fun atCheck =>
      (Session.step Cobs.standard atCheck (.begin 0 (.transmit [1] false) true)).bind fun entered =>
        (execute (Session.step Cobs.standard) entered lostWhileWaiting).bind fun ended =>
          (execute (Session.step Cobs.standard) ended []).map fun atLook =>
            (atCheck.isAlive, (ended.calls 0).pc, atLook.isAlive)) =
      some (true, .finished (.error lostTransport), false) := by decide +kernel
  obtain ⟨atCheck, entered, ended, atLook, lives⟩ : ∃ atCheck entered ended atLook, (failing lostTransport).Lives
      Cobs.standard [1] false 0 lostWhileWaiting atCheck entered ended atLook := lives_of_execution computed
  have reopener : (⟨some {}, 1⟩ : Dongle).reopener = some {} := rfl
  obtain ⟨result, last, ran, masked⟩ := transport_failure_masked_iff reopener Nat.one_pos (failing_begins lostTransport)
    (failing_healthy lostTransport) lives 2
  have attempts := lives.attempts lives.living.symm
  have retryable : Retryable ((failing lostTransport).attempt (.transmit [1] false)) := ⟨lostTransport, rfl, rfl, rfl⟩
  exact ⟨result, last, ran,
    masked.mpr (Or.inr ⟨(retryable_iff lives.check attempts).mp retryable, attempts.lasting.symm⟩)⟩

def writeFails : List Step := [.alloc 0, .register 0, .write 0 (some "unplugged"), .forget 0]

theorem write_failure_escapes : ¬ ∀ (failover : Failover) (steps : List Step) (atCheck entered ended atLook : Session),
    failover.Begins connected → failover.Healthy {} [1] false transmitted →
      failover.Lives Cobs.standard [1] false 0 steps atCheck entered ended atLook →
        ∃ result last, outcome failover.respond ((⟨some {}, 1⟩ : Dongle).tx [1] false 2) connected = some (result, last) ∧
          Masked 2 [1] false transmitted result last := by
  intro claim
  have computed : ((execute (Session.step Cobs.standard) {} [.poll]).bind fun atCheck =>
      (Session.step Cobs.standard atCheck (.begin 0 (.transmit [1] false) true)).bind fun entered =>
        (execute (Session.step Cobs.standard) entered writeFails).bind fun ended =>
          (execute (Session.step Cobs.standard) ended [.hangup, .shutdown, .act .reader, .act .reader]).map fun atLook =>
            (atCheck.isAlive, (ended.calls 0).pc, atLook.isAlive)) =
      some (true, .finished (.error (.osError "unplugged")), false) := by decide +kernel
  obtain ⟨atCheck, entered, ended, atLook, lives⟩ : ∃ atCheck entered ended atLook, (failing (.osError "unplugged")).Lives
      Cobs.standard [1] false 0 writeFails atCheck entered ended atLook := lives_of_execution computed
  obtain ⟨result, last, ran, value, same, _⟩ := claim (failing (.osError "unplugged")) writeFails atCheck entered ended atLook
    (failing_begins _) (failing_healthy _) lives
  have escaped : (outcome (failing (.osError "unplugged")).respond ((⟨some {}, 1⟩ : Dongle).tx [1] false 2) connected).map
      Prod.fst = some (.error (.osError "unplugged")) := rfl
  rw [ran, same] at escaped
  cases escaped

end Executions

end DongloraClient.Proofs.DongleFailover
