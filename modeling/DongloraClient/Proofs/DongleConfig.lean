import DongloraClient.Foundation.Transition
import DongloraClient.Proofs.DongleRecovery

/-! The cached configuration. `Dongle.config` is what the device last answered as long as
the device stores what `set_config` asks for, because `set_config` and the two recoveries
from `ENOTCONFIGURED` do not look at the answer. -/

namespace DongloraClient.Proofs.DongleConfig
open Python Transition DongleLogic DongleRecovery
open Program (Keeps ensures_bind ensures_ite ensures_pure ensures_throw)

variable {world next : World}

/-- The cache holds the `current` of the most recent `SetConfigResult`. -/
def Cached (world : World) : Prop :=
  ∀ result, lastResult world.history = some result → Dongle.config world = some result.current

/-- What a device answers to a `SET_CONFIG`: on the session in use, that it holds what it
was asked for. An answer without a `SetConfigResult`, on any session, comes only when what
is asked for is what the last result reported. -/
def Echoed (world : World) : Exchange → Prop
  | ⟨session, .setConfig modulation, .ok (some result)⟩ =>
    session = world.attributes.session → result.current = modulation
  | ⟨_, .setConfig modulation, .ok none⟩ =>
    ∀ result, lastResult world.history = some result → result.current = modulation
  | _ => True

theorem result_of_applied {done : Exchange} (silent : done.applied = none) : done.result = none := by
  match done with
  | ⟨_, .setConfig _, .ok _⟩ => cases silent
  | ⟨_, .setConfig _, .error _⟩ => rfl
  | ⟨_, .ping, _⟩ | ⟨_, .getInfo, _⟩ | ⟨_, .transmit _ _, _⟩ | ⟨_, .rxStart, _⟩ | ⟨_, .rxStop, _⟩ => rfl

theorem lastResult_append {fresh history : List Exchange} (silent : ∀ done ∈ fresh, done.applied = none) :
    lastResult (fresh ++ history) = lastResult history :=
  observed_append fun done member => result_of_applied (silent done member)

/-- Bringing up a session yields no configuration and no result, or what the last result
reported. -/
theorem broughtUp_reports {requested : Option Modulation} {result : Bringup}
    (brought : BroughtUp Echoed requested world result next) :
    result.2.2 = none ∧ lastResult next.history = lastResult world.history ∨
      ∃ config, result.2.2 = some config ∧
        ∀ received, lastResult next.history = some received → received.current = config := by
  have configured := brought.configured
  cases requested with
  | none =>
    obtain ⟨applied, grown⟩ := configured
    exact .inl ⟨applied, by rw [grown]; rfl⟩
  | some requested =>
    obtain ⟨prepared, reply, asked, _, law, _, _, applied, grown⟩ := configured
    refine .inr ⟨_, applied, ?_⟩
    intro received last
    rw [grown] at last
    cases reply with
    | some reply =>
      cases last
      rfl
    | none => exact law received last

namespace Cached

theorem of_same (cached : Cached world) (history : next.history = world.history)
    (config : Dongle.config next = Dongle.config world) : Cached next := by
  intro result received
  rw [config]
  exact cached result (history ▸ received)

theorem silent (cached : Cached world) {done : Exchange} (silent : done.applied = none) :
    Cached (world.exchange done) := by
  intro result received
  have same : lastResult ([done] ++ world.history) = lastResult world.history :=
    lastResult_append (by simpa using silent)
  exact cached result (same ▸ received)

theorem aside (cached : Cached world) (aside : Aside world next) : Cached next := by
  obtain ⟨fresh, grown, outside⟩ := aside.history
  intro result received
  rw [grown, lastResult_append fun done member => (outside done member).2.2] at received
  rw [Dongle.config, aside.attributes]
  exact cached result received

theorem installed {requested : Option Modulation} {outcome : Except Exc Unit} (cached : Cached world)
    (installed : Installed Echoed requested world outcome next) : Cached next := by
  obtain ⟨middle, result, up, kept, exchanges, failed, brought, restart, attributes, _, history⟩ := installed.steps
  intro received last
  rw [history, lastResult_append fun done member => (restart.silent done member).2.1] at last
  rw [Dongle.config, attributes]
  change result.2.2.or (Dongle.config middle) = some received.current
  rcases broughtUp_reports brought with ⟨applied, same⟩ | ⟨config, applied, reported⟩
  · rw [applied, Option.none_or]
    exact cached.aside failed received (same ▸ last)
  · rw [applied, reported received last]
    rfl

theorem revived {self : Dongle} {outcome : Except Exc Unit} (cached : Cached world)
    (revived : Revived Echoed self world outcome next) : Cached next := by
  rcases revived with aside | ⟨_, _, installed⟩
  · exact cached.aside aside
  · exact cached.installed installed

theorem stored {modulation : Modulation} {reply : Option SetConfigResult}
    (law : Echoed world ⟨world.attributes.session, .setConfig modulation, .ok reply⟩)
    (history : next.history = ⟨world.attributes.session, .setConfig modulation, .ok reply⟩ :: world.history)
    (config : Dongle.config next = some modulation) : Cached next := by
  intro received last
  rw [history] at last
  rw [config]
  cases reply with
  | some reply =>
    cases last
    rw [law rfl]
  | none => rw [law received last]

end Cached

abbrev KeepsCache (program : Python α) : Prop := Keeps (Answers Echoed) Cached (fun _ => Cached) program

theorem indifferent : Indifferent Cached where
  kill _ _ cached := cached.of_same rfl rfl
  mark _ _ cached := cached.of_same rfl rfl
  close _ cached := cached.of_same rfl rfl
  stop _ cached := cached.of_same rfl rfl

theorem assign_keeps {change : Attributes → Attributes}
    (same : ∀ attributes, (change attributes).appliedConfig = attributes.appliedConfig) :
    KeepsCache (assign change) :=
  fun world cached => (ensures_assign change).mpr (cached.of_same rfl (same world.attributes))

theorem command_keeps (session : Nat) {request : Request} (timeout : Option Rat)
    (silent : ∀ reply, Exchange.applied ⟨session, request, reply⟩ = none) :
    KeepsCache (command session request timeout) := by
  intro world cached
  apply (ensures_command session request timeout).mpr
  exact ⟨fun _ _ => cached.silent (silent _), fun _ _ => cached.silent (silent _)⟩

theorem entry_keeps : KeepsCache Dongle.checkOpen := checkOpen_keeps fun _ _ cached => cached

theorem ensureSessionAlive_keeps (self : Dongle) : KeepsCache self.ensureSessionAlive := by
  intro world cached
  exact (ensureSessionAlive_ensures self world).mono (fun _ _ => cached.revived) fun _ _ => cached.revived

theorem reapplyConfig_keeps : KeepsCache Dongle.reapplyConfig := by
  intro world cached
  simp only [Dongle.reapplyConfig, ensures_bind, ensures_read]
  cases held : world.attributes.appliedConfig with
  | none => exact cached
  | some config =>
    simp only [ensures_bind, ensures_setConfig, ensures_pure]
    exact ⟨fun reply law => .stored law rfl held, fun exc _ => cached.silent rfl⟩

theorem withRecovery_keeps (self : Dongle) {op : Python α} (attempt : KeepsCache op) :
    KeepsCache (self.withRecovery op) := by
  intro world cached
  apply withRecovery_ensures self (fun _ _ cached => cached.of_same rfl rfl) (fun _ _ cached => cached)
    (ensureSessionAlive_keeps self) ?_ reapplyConfig_keeps cached
  intro before cached
  apply (attempt before cached).mono (fun _ _ kept => kept)
  intro exc after kept
  exact ⟨kept, fun _ => kept, fun _ => kept⟩

theorem tx_keeps (self : Dongle) (data : Wire.Bytes) (skipCad : Bool) (timeout : Rat) :
    KeepsCache (self.tx data skipCad timeout) := by
  have attempt : KeepsCache (do transmit (← Python.read Attributes.session) data skipCad timeout) :=
    (read_keeps _).bind fun session => command_keeps session _ fun _ => rfl
  apply entry_keeps.bind
  intro _
  exact indifferent.markWrite_keeps.bind fun _ => withRecovery_keeps self attempt

theorem startRx_keeps (self : Dongle) : KeepsCache self.startRx := by
  have attempt : KeepsCache (do Python.rxStart (← Python.read Attributes.session)) :=
    (read_keeps _).bind fun session => command_keeps session _ fun _ => rfl
  apply (read_keeps _).bind
  intro started
  refine .ite (indifferent.markWrite_keeps.bind fun _ => ?_) (.pure ())
  exact (withRecovery_keeps self attempt).bind fun _ => assign_keeps fun _ => rfl

theorem entered_keeps (self : Dongle) {body : Python α} (kept : KeepsCache body) :
    KeepsCache (do
      Dongle.checkOpen
      self.ensureSessionAlive
      Dongle.markWrite
      body) :=
  indifferent.entered_keeps (fun _ _ cached => cached) (ensureSessionAlive_keeps self) kept

theorem rxStop_keeps (self : Dongle) : KeepsCache self.rxStop := by
  apply entered_keeps self
  apply (read_keeps _).bind
  intro session
  exact (command_keeps session _ fun _ => rfl).bind fun _ => assign_keeps fun _ => rfl

theorem setConfig_keeps (self : Dongle) (config : Modulation) : KeepsCache (self.setConfig config) := by
  apply entered_keeps self
  intro world cached
  simp only [ensures_bind, ensures_read, ensures_setConfig, ensures_assign]
  exact ⟨fun reply law => .stored law rfl rfl, fun exc _ => cached.silent rfl⟩

theorem ping_keeps (self : Dongle) : KeepsCache self.ping := by
  apply entered_keeps self
  exact (read_keeps _).bind fun session => command_keeps session _ fun _ => rfl

theorem keepaliveIteration_keeps (self : Dongle) : KeepsCache self.keepaliveIteration := by
  have pinged : KeepsCache (do
      Python.ping (← Python.read Attributes.session)
      Dongle.markWrite) :=
    (read_keeps _).bind fun session => (command_keeps session _ fun _ => rfl).bind fun _ => indifferent.markWrite_keeps
  have reapplied : KeepsCache Dongle.keepaliveReapply :=
    (read_keeps _).bind fun _ => .ite (reapplyConfig_keeps.tryCatch fun _ _ cached => cached) (.pure ())
  refine (read_keeps _).bind fun session => (indifferent.isAlive_keeps session).bind fun _ => .ite ?_ ?_
  · apply (ensureSessionAlive_keeps self).tryCatch
    intro exc state cached
    simp only [ensures_ite, ensures_pure, ensures_throw]
    exact ⟨fun _ => cached, fun _ => cached⟩
  · refine now_keeps.bind fun _ => (read_keeps _).bind fun _ => .ite (.pure ()) ?_
    exact pinged.tryCatch fun exc => Keeps.ite reapplied (.pure ())

theorem call_keeps (self : Dongle) (operation : Operation) : KeepsCache (self.call operation) := by
  cases operation with
  | tx data skipCad timeout => exact (tx_keeps self data skipCad timeout).bind fun _ => .pure ()
  | rx timeout =>
    exact (entry_keeps.bind fun _ => (startRx_keeps self).bind fun _ => .pure _).bind fun _ => .pure ()
  | next timeout => exact ((read_keeps _).bind fun session => nextRx_keeps session timeout).bind fun _ => .pure ()
  | recv timeout =>
    exact (indifferent.recv_keeps (fun _ _ cached => cached) (ensureSessionAlive_keeps self) (startRx_keeps self)
      timeout).bind fun _ => .pure ()
  | rxStop => exact rxStop_keeps self
  | setConfig config => exact setConfig_keeps self config
  | ping => exact ping_keeps self
  | close => exact indifferent.close_keeps
  | keepalive => exact keepaliveIteration_keeps self

theorem Cached.built {self : Dongle} (built : Dongle.Built Echoed self world) : Cached world := by
  intro received last
  obtain ⟨start, vacant, ⟨requested, result, up, brought, fresh⟩ | ⟨silent, _⟩⟩ := built_cases built
  · rw [fresh.history] at last
    rw [fresh.config]
    rcases broughtUp_reports brought with ⟨_, same⟩ | ⟨config, applied, reported⟩
    · rw [same, vacant.silent] at last
      cases last
    · rw [applied, reported received last]
  · rw [silent] at last
    cases last

theorem Cached.reachable {self : Dongle} {start : World} {operations : List Operation}
    (built : Dongle.Built Echoed self start) (run : Run (self.Completes Echoed) start operations world) :
    Cached world := by
  induction run with
  | nil => exact .built built
  | @snoc _ _ _ operation _ taken ih =>
    obtain ⟨outcome, ended⟩ := taken
    have kept := call_keeps self operation _ ih
    cases outcome with
    | ok value => exact kept.returned ended
    | error exc => exact kept.raised ended

/-- In every run of operations that return or raise, `config` is what the device last
reported. -/
theorem config_last_result {self : Dongle} {start : World} {operations : List Operation}
    (built : Dongle.Built Echoed self start) (run : Run (self.Completes Echoed) start operations world)
    {result : SetConfigResult} (received : lastResult world.history = some result) :
    Dongle.config world = some result.current :=
  Cached.reachable built run result received

theorem obliging_echoes (world : World) (session : Nat) (request : Request) :
    Echoed world ⟨session, request, obliging request⟩ := by
  cases request with
  | setConfig modulation => exact fun _ => rfl
  | ping | getInfo | transmit | rxStart | rxStop => trivial

/-- `connect` and then `set_config`. -/
theorem config_last_result_custom :
    ∃ world result, Run (Dongle.Completes ⟨some {}, 1⟩ Echoed) connected [.setConfig customConfig] world ∧
      lastResult world.history = some result ∧ result.current = customConfig ∧
      Dongle.config world = some result.current := by
  have built : Dongle.Built Echoed ⟨some {}, 1⟩ connected :=
    .connect unconnected_vacant (executes obliging_echoes connect_connected)
  have computed : (execute (returning (fun _ => obliging) ⟨some {}, 1⟩) connected [.setConfig customConfig]).map
      (fun world => lastResult world.history) = some (some ⟨.applied, .mine, customConfig⟩) := rfl
  obtain ⟨world, run, received⟩ := run_returning obliging_echoes computed
  have completes := completes_of_returns run
  exact ⟨world, _, completes, received, rfl, config_last_result built completes received⟩

/-- A device that another client of the multiplexer has locked to the default. -/
def locked : (request : Request) → Except Exc request.Value
  | .setConfig _ => .ok (some ⟨.lockedMismatch, .other, .lora LoRaConfig.default⟩)
  | request => obliging request

/-- `set_config` caches what it asked for although the device refused it. -/
theorem refused_config_cached :
    ∃ world result, Dongle.Built Unrestricted ⟨some {}, 1⟩ connected ∧
      Run (Dongle.Completes ⟨some {}, 1⟩ Unrestricted) connected [.setConfig customConfig] world ∧
      lastResult world.history = some result ∧ result.current = .lora LoRaConfig.default ∧
      Dongle.config world = some customConfig := by
  have built : Dongle.Built Unrestricted ⟨some {}, 1⟩ connected :=
    .connect unconnected_vacant (executes (fun _ _ _ => trivial) connect_connected)
  have computed : (execute (returning (fun _ => locked) ⟨some {}, 1⟩) connected [.setConfig customConfig]).map
      (fun world => (lastResult world.history, Dongle.config world)) =
        some (some ⟨.lockedMismatch, .other, .lora LoRaConfig.default⟩, some customConfig) := rfl
  have lawful (world : World) (session : Nat) (request : Request) :
      Unrestricted world ⟨session, request, locked request⟩ := trivial
  obtain ⟨world, run, same⟩ := run_returning lawful computed
  obtain ⟨received, cached⟩ := Prod.mk.inj same
  exact ⟨world, _, built, completes_of_returns run, received, rfl, cached⟩

end DongloraClient.Proofs.DongleConfig
