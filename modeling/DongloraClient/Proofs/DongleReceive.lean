import DongloraClient.Foundation.Transition
import DongloraClient.Proofs.DongleRecovery

/-! The flag `_rx_started` and the device's continuous-receive bit. The flag claims no
more than the device does as long as no recovery from `ENOTCONFIGURED` happens while it
is set: the recoveries send `SET_CONFIG` and do not clear it. -/

namespace DongloraClient.Proofs.DongleReceive
open Python Transition DongleLogic DongleRecovery
open Program (Keeps Executes ensures_bind ensures_ite ensures_pure ensures_throw ensures_tryCatch)

variable {law : World → Exchange → Prop} {world next : World}

/-- A set flag on a live session means that its device receives. -/
def Truthful (world : World) : Prop :=
  world.attributes.rxStarted = true → world.alive world.attributes.session = true →
    receiving world.attributes.session world.history = true

/-- No transmission and no `PING` is answered with `ENOTCONFIGURED` while the flag is set. -/
def Configured (world : World) : Exchange → Prop
  | ⟨_, .transmit _ _, .error exc⟩ | ⟨_, .ping, .error exc⟩ =>
    world.attributes.rxStarted = true → exc.isNotConfigured = false
  | _ => True

/-- The flag is right, dead sessions included. -/
structure Sound (world : World) : Prop where
  placed : world.attributes.session < world.opened
  received : world.attributes.rxStarted = true → receiving world.attributes.session world.history = true

structure Idle (world : World) : Prop where
  placed : world.attributes.session < world.opened
  stopped : world.attributes.rxStarted = false

theorem Idle.sound (idle : Idle world) : Sound world where
  placed := idle.placed
  received started := by
    rw [idle.stopped] at started
    cases started

theorem receiving_append {session : Nat} {fresh history : List Exchange}
    (silent : ∀ done ∈ fresh, done.session = session → done.receiving = none) :
    receiving session (fresh ++ history) = receiving session history :=
  congrArg (fun bit => bit.getD false) (observed_on_append silent)

theorem receiving_aside (aside : Aside world next) {session : Nat} (old : session < world.opened) :
    receiving session next.history = receiving session world.history := by
  obtain ⟨fresh, grown, outside⟩ := aside.history
  rw [grown]
  exact receiving_append fun done member same => absurd (same ▸ (outside done member).1) (Nat.not_le_of_lt old)

namespace Sound

theorem aside (sound : Sound world) (aside : Aside world next) : Sound next where
  placed := by
    rw [aside.attributes]
    exact Nat.lt_of_lt_of_le sound.placed aside.opened
  received := by
    rw [aside.attributes, receiving_aside aside sound.placed]
    exact sound.received

theorem of_same (sound : Sound world) (session : next.attributes.session = world.attributes.session)
    (started : next.attributes.rxStarted = world.attributes.rxStarted) (opened : next.opened = world.opened)
    (history : next.history = world.history) : Sound next where
  placed := by
    rw [session, opened]
    exact sound.placed
  received := by
    rw [session, started, history]
    exact sound.received

theorem exchange (sound : Sound world) {done : Exchange} (silent : done.receiving = none) :
    Sound (world.exchange done) where
  placed := sound.placed
  received started :=
    (receiving_append (List.forall_mem_singleton.mpr fun _ => silent)).trans (sound.received started)

theorem failed (sound : Sound world) (done : Exchange) {exc : Exc}
    (cleared : done.receiving = if exc.isNotConfigured then some false else none)
    (allowed : world.attributes.rxStarted = true → exc.isNotConfigured = false) :
    Sound (world.exchange done) ∧ (exc.isNotConfigured = true → Idle (world.exchange done)) := by
  cases unconfigured : exc.isNotConfigured with
  | false =>
    rw [unconfigured] at cleared
    exact ⟨sound.exchange cleared, nofun⟩
  | true =>
    have stopped : world.attributes.rxStarted = false := by
      by_contra started
      rw [allowed (Bool.eq_true_of_not_eq_false started)] at unconfigured
      cases unconfigured
    have idle : Idle (world.exchange done) := ⟨sound.placed, stopped⟩
    exact ⟨idle.sound, fun _ => idle⟩

theorem installed {requested : Option Modulation} {outcome : Except Exc Unit}
    (installed : Installed law requested world outcome next)
    (tolerated : ∀ exc, outcome = .error exc → exc.isDonglora = true) : Sound next := by
  obtain ⟨middle, result, up, kept, exchanges, _, brought, restart, attributes, opened, history⟩ := installed.steps
  have placed : result.1 < up.opened := by
    rw [brought.session, brought.opened]
    exact Nat.lt_succ_self _
  refine ⟨by rw [attributes, opened]; exact placed, ?_⟩
  rw [attributes, history]
  generalize middle.attributes.rxStarted = wanted at restart
  cases restart with
  | unneeded | refused => exact nofun
  | acknowledged => exact fun _ => by simp [receiving, Exchange.on, Exchange.receiving, reconnected]
  | raised foreign =>
    rw [tolerated _ rfl] at foreign
    cases foreign

theorem revived {self : Dongle} {outcome : Except Exc Unit} (sound : Sound world)
    (revived : Revived law self world outcome next) (tolerated : ∀ exc, outcome = .error exc → exc.isDonglora = true) :
    Sound next := by
  rcases revived with aside | ⟨_, _, installed⟩
  · exact sound.aside aside
  · exact .installed installed tolerated

theorem built {self : Dongle} (built : Dongle.Built law self world) : Sound world := by
  obtain ⟨_, _, ⟨_, result, up, brought, fresh⟩ | ⟨_, placed, stopped⟩⟩ := built_cases built
  · have placed : world.attributes.session < world.opened := by
      rw [fresh.session, fresh.opened, brought.session, brought.opened]
      exact Nat.lt_succ_self _
    exact Idle.sound ⟨placed, fresh.idle⟩
  · exact Idle.sound ⟨placed, stopped⟩

end Sound

namespace Idle

theorem exchange (idle : Idle world) (done : Exchange) : Idle (world.exchange done) := ⟨idle.placed, idle.stopped⟩

theorem revived {self : Dongle} {outcome : Except Exc Unit} (idle : Idle world)
    (revived : Revived law self world outcome next) : Idle next := by
  rcases revived with aside | ⟨_, _, installed⟩
  · exact ⟨(idle.sound.aside aside).placed, by rw [aside.attributes]; exact idle.stopped⟩
  · obtain ⟨middle, result, up, kept, exchanges, failed, brought, restart, attributes, opened, _⟩ := installed.steps
    have stopped : middle.attributes.rxStarted = false := by
      rw [failed.attributes]
      exact idle.stopped
    rw [stopped] at restart
    cases restart
    refine ⟨?_, by rw [attributes]⟩
    rw [attributes, opened, brought.opened]
    exact Nat.lt_succ_of_le (Nat.le_of_eq brought.session)

end Idle

abbrev KeepsFlag (program : Python α) : Prop := Keeps (Answers Configured) Sound (fun _ _ => True) program

theorem indifferent : Indifferent Sound where
  kill _ _ sound := sound.of_same rfl rfl rfl rfl
  mark _ _ sound := sound.of_same rfl rfl rfl rfl
  close _ sound := sound.of_same rfl rfl rfl rfl
  stop _ sound := sound.of_same rfl rfl rfl rfl

theorem entry_keeps : KeepsFlag Dongle.checkOpen := checkOpen_keeps fun _ _ _ => trivial

theorem ensureSessionAlive_keeps (self : Dongle) : KeepsFlag self.ensureSessionAlive := by
  intro world sound
  exact (ensureSessionAlive_ensures self world).mono (fun _ _ revived => sound.revived revived nofun)
    fun _ _ _ => trivial

theorem reapplyConfig_idle (idle : Idle world) :
    Ensures law Dongle.reapplyConfig (fun _ => Idle) (fun _ => Idle) world := by
  simp only [Dongle.reapplyConfig, ensures_bind, ensures_read]
  cases world.attributes.appliedConfig with
  | none => exact idle
  | some config =>
    simp only [ensures_bind, ensures_setConfig, ensures_pure]
    exact ⟨fun _ _ => idle.exchange _, fun _ _ => idle.exchange _⟩

theorem tx_keeps (self : Dongle) (data : Wire.Bytes) (skipCad : Bool) (timeout : Rat) :
    KeepsFlag (self.tx data skipCad timeout) := by
  refine entry_keeps.bind fun _ => indifferent.markWrite_keeps.bind fun _ => ?_
  intro world sound
  apply withRecovery_ensures self (fun _ _ sound => sound.of_same rfl rfl rfl rfl) (fun _ _ _ => trivial)
    (ensureSessionAlive_keeps self) ?_
    (fun world idle => (reapplyConfig_idle idle).mono (fun _ _ idle => idle.sound) fun _ _ _ => trivial) sound
  intro world sound
  -- An attempt that finds the device unconfigured finds the flag cleared.
  simp only [ensures_bind, ensures_read, ensures_transmit]
  refine ⟨fun done _ => sound.exchange rfl, ?_⟩
  intro exc allowed
  obtain ⟨kept, idle⟩ := sound.failed ⟨_, .transmit data skipCad, .error exc⟩ rfl allowed
  exact ⟨trivial, idle, fun _ => kept⟩

/-- The flag is set once an `RX_START` was acknowledged on the session in use. -/
theorem startRx_keeps (self : Dongle) : KeepsFlag self.startRx := by
  intro world sound
  simp only [Dongle.startRx, ensures_bind, ensures_read, ensures_ite, ensures_pure, Dongle.markWrite, ensures_now,
    ensures_assign]
  refine ⟨fun stopped time => ?_, fun _ => sound⟩
  have marked : Idle (world.assign fun attributes => { attributes with lastWriteTime := time }) :=
    ⟨sound.placed, by simpa [World.assign] using stopped⟩
  refine withRecovery_ensures self (fun _ _ idle => ⟨idle.placed, idle.stopped⟩) (fun _ _ _ => trivial)
    (fun world idle => (ensureSessionAlive_ensures self world).mono (fun _ _ => idle.revived) fun _ _ _ => trivial)
    (fun world idle => ?_)
    (fun world idle => (reapplyConfig_idle idle).mono (fun _ _ idle => idle) fun _ _ _ => trivial) marked
  simp only [ensures_bind, ensures_read, ensures_rxStart]
  refine ⟨fun _ _ => ⟨idle.placed, fun _ => ?_⟩, fun exc _ =>
    ⟨trivial, fun _ => idle.exchange _, fun _ => idle.exchange _⟩⟩
  simp [receiving, Exchange.on, Exchange.receiving, World.exchange, World.assign]

theorem rxStop_keeps (self : Dongle) : KeepsFlag self.rxStop := by
  apply indifferent.entered_keeps (fun _ _ _ => trivial) (ensureSessionAlive_keeps self)
  intro world sound
  simp only [ensures_bind, ensures_read, ensures_rxStop, ensures_assign]
  exact ⟨fun _ _ => Idle.sound ⟨sound.placed, rfl⟩, fun _ _ => trivial⟩

theorem setConfig_keeps (self : Dongle) (config : Modulation) : KeepsFlag (self.setConfig config) := by
  apply indifferent.entered_keeps (fun _ _ _ => trivial) (ensureSessionAlive_keeps self)
  intro world sound
  simp only [ensures_bind, ensures_read, ensures_setConfig, ensures_assign]
  exact ⟨fun _ _ => Idle.sound ⟨sound.placed, rfl⟩, fun _ _ => trivial⟩

theorem ping_keeps (self : Dongle) : KeepsFlag self.ping := by
  apply indifferent.entered_keeps (fun _ _ _ => trivial) (ensureSessionAlive_keeps self)
  intro world sound
  simp only [ensures_bind, ensures_read, ensures_ping]
  exact ⟨fun _ _ => sound.exchange rfl, fun _ _ => trivial⟩

theorem keepaliveIteration_keeps (self : Dongle) : KeepsFlag self.keepaliveIteration := by
  refine (read_keeps _).bind fun session => (indifferent.isAlive_keeps session).bind fun _ => .ite ?_ ?_
  · intro world sound
    refine (ensures_tryCatch _ _).mpr ((ensureSessionAlive_ensures self world).mono
      (fun _ _ revived => sound.revived revived nofun) fun exc after revived => ?_)
    simp only [ensures_ite, ensures_pure, ensures_throw]
    refine ⟨fun donglora => sound.revived revived ?_, fun _ => trivial⟩
    rintro _ ⟨⟩
    exact donglora
  · refine now_keeps.bind fun _ => (read_keeps _).bind fun _ =>
      .ite (.pure ()) fun world sound => ?_
    simp only [ensures_tryCatch, ensures_bind, ensures_read, ensures_ping, Dongle.markWrite, ensures_now, ensures_assign]
    refine ⟨fun _ _ time => (sound.exchange rfl).of_same rfl rfl rfl rfl, ?_⟩
    intro exc allowed
    obtain ⟨kept, idle⟩ := sound.failed ⟨_, .ping, .error exc⟩ rfl allowed
    simp only [Dongle.keepaliveReapply, ensures_ite, ensures_bind, ensures_read, ensures_tryCatch, ensures_pure]
    refine ⟨fun unconfigured => ⟨fun _ => ?_, fun _ => kept⟩, fun _ => kept⟩
    exact (reapplyConfig_idle (idle unconfigured)).mono (fun _ _ idle => idle.sound) fun _ _ idle => idle.sound

theorem call_keeps (self : Dongle) (operation : Operation) : KeepsFlag (self.call operation) := by
  cases operation with
  | tx data skipCad timeout => exact (tx_keeps self data skipCad timeout).bind fun _ => .pure ()
  | rx timeout =>
    exact (entry_keeps.bind fun _ => (startRx_keeps self).bind fun _ => .pure _).bind fun _ => .pure ()
  | next timeout =>
    exact ((read_keeps _).bind fun session => nextRx_keeps session timeout).bind fun _ => .pure ()
  | recv timeout =>
    exact (indifferent.recv_keeps (fun _ _ _ => trivial) (ensureSessionAlive_keeps self) (startRx_keeps self)
      timeout).bind fun _ => .pure ()
  | rxStop => exact rxStop_keeps self
  | setConfig config => exact setConfig_keeps self config
  | ping => exact ping_keeps self
  | close => exact indifferent.close_keeps
  | keepalive => exact keepaliveIteration_keeps self

theorem Sound.reachable {self : Dongle} {start : World} {operations : List Operation}
    (built : Dongle.Built Configured self start) (run : Run (self.Returns Configured) start operations world) :
    Sound world := by
  induction run with
  | nil => exact .built built
  | @snoc _ _ _ operation _ returned ih => exact (call_keeps self operation _ ih).returned returned

/-- In every run of operations that return normally, a set flag on a live session means
that its device receives. -/
theorem rxStarted_receiving {self : Dongle} {start : World} {operations : List Operation}
    (built : Dongle.Built Configured self start) (run : Run (self.Returns Configured) start operations world) :
    Truthful world := by
  intro started _
  exact (Sound.reachable built run).received started

theorem obliging_configured (world : World) (session : Nat) (request : Request) :
    Configured world ⟨session, request, obliging request⟩ := by
  cases request <;> trivial

/-- A transmission between two receptions. -/
theorem rxStarted_receiving_tx :
    ∃ world, Run (Dongle.Returns ⟨some {}, 1⟩ Configured) connected [.rx none, .tx [1] false 10, .next none] world ∧
      world.attributes.rxStarted = true ∧ world.alive world.attributes.session = true ∧
      receiving world.attributes.session world.history = true := by
  have computed : (execute (returning (fun _ => obliging) ⟨some {}, 1⟩) connected
      [.rx none, .tx [1] false 10, .next none]).map
        (fun world => (world.attributes.rxStarted, world.alive world.attributes.session)) = some (true, true) := rfl
  obtain ⟨world, run, same⟩ := run_returning obliging_configured computed
  obtain ⟨started, living⟩ := Prod.mk.inj same
  have built : Dongle.Built Configured ⟨some {}, 1⟩ connected :=
    .connect unconnected_vacant (executes obliging_configured connect_connected)
  exact ⟨world, run, started, living, rxStarted_receiving built run started living⟩

/-- A device whose inactivity timer has fired while it was receiving. -/
def timedOut (world : World) : (request : Request) → Except Exc request.Value
  | .transmit data skipCad =>
    if receiving world.attributes.session world.history then .error (deviceError (.named .enotConfigured) (some 1))
    else obliging (.transmit data skipCad)
  | request => obliging request

/-- The recovery of a transmission leaves the receiver off and the flag set. -/
theorem recovery_stops_receiver :
    ∃ world, Dongle.Built Unrestricted ⟨some {}, 1⟩ connected ∧
      Run (Dongle.Returns ⟨some {}, 1⟩ Unrestricted) connected [.rx none, .tx [1] false 10] world ∧
      ¬ Truthful world := by
  have computed : (execute (returning timedOut ⟨some {}, 1⟩) connected [.rx none, .tx [1] false 10]).map
      (fun world => (world.attributes.rxStarted, world.alive world.attributes.session,
        receiving world.attributes.session world.history)) = some (true, true, false) := rfl
  have lawful (world : World) (session : Nat) (request : Request) :
      Unrestricted world ⟨session, request, timedOut world request⟩ := trivial
  obtain ⟨world, run, same⟩ := run_returning lawful computed
  simp only [Prod.mk.injEq] at same
  obtain ⟨started, living, deaf⟩ := same
  refine ⟨world, .connect unconnected_vacant (executes (fun _ _ _ => trivial) connect_connected), run, ?_⟩
  intro truthful
  rw [truthful started living] at deaf
  cases deaf

end DongloraClient.Proofs.DongleReceive
