import DongloraClient.Foundation.Transition
import DongloraClient.Proofs.DongleRecovery

/-! What a reconnect does to the radio configuration. The reopener applies the arguments
of `connect` again, not the configuration in use, so the two are preserved exactly when
they are the same. -/

namespace DongloraClient.Proofs.DongleReconnect
open Python Transition DongleLogic DongleRecovery
open Program (Keeps Executes ensures_bind ensures_ite ensures_pure ensures_throw)

variable {law : World → Exchange → Prop} {world next : World}

/-- A device that stores exactly what a `SET_CONFIG` asks for. -/
def Obedient (_ : World) : Exchange → Prop
  | ⟨_, .setConfig modulation, .ok (some result)⟩ => result.current = modulation
  | _ => True

def prepared (settings : Settings) (info : Info) : Option Modulation :=
  settings.requested.bind fun requested => (prepareConfig info requested).toOption

/-- The configuration in use before a session died is the one applied on the new session
and the one that is cached. -/
def Preserved (before after : World) : Prop :=
  lastApplied after.attributes.session after.history = Dongle.config before ∧
    Dongle.config after = Dongle.config before

/-- A `Dongle` that has not been closed; its sessions and all others in the history are
older than the next one to be opened. -/
structure Ready (world : World) : Prop where
  running : (world.attributes.closed || world.attributes.keepaliveStop) = false
  placed : world.attributes.session < world.opened
  past : ∀ done ∈ world.history, done.session < world.opened

theorem lastApplied_append {session : Nat} {fresh history : List Exchange}
    (silent : ∀ done ∈ fresh, done.session = session → done.applied = none) :
    lastApplied session (fresh ++ history) = lastApplied session history :=
  observed_on_append silent

theorem lastApplied_past {session : Nat} {history : List Exchange} (past : ∀ done ∈ history, done.session < session) :
    lastApplied session history = none := by
  have older : lastApplied session (history ++ []) = lastApplied session [] :=
    lastApplied_append fun done member same => absurd same (Nat.ne_of_lt (past done member))
  rwa [List.append_nil] at older

/-- A session is brought up with what `connect`'s arguments come to on its device. -/
theorem broughtUp_applied {settings : Settings} {result : Bringup}
    (brought : BroughtUp Obedient settings.requested world result next)
    (past : ∀ done ∈ world.history, done.session < world.opened) :
    result.2.2 = prepared settings result.2.1 ∧ lastApplied result.1 next.history = prepared settings result.2.1 := by
  have configured := brought.configured
  unfold prepared
  cases requested : settings.requested with
  | none =>
    rw [requested] at configured
    obtain ⟨applied, grown⟩ := configured
    have silent : lastApplied result.1 next.history = lastApplied result.1 world.history := by
      rw [grown]
      exact lastApplied_append (List.forall_mem_singleton.mpr fun _ => rfl)
    exact ⟨applied, silent.trans (lastApplied_past (brought.session ▸ past))⟩
  | some modulation =>
    rw [requested] at configured
    obtain ⟨config, reply, asked, accepted, law, _, _, applied, grown⟩ := configured
    have same : (some modulation).bind (fun requested => (prepareConfig result.2.1 requested).toOption) = some config := by
      simp [accepted, Except.toOption]
    rw [same, applied, grown]
    constructor
    · cases reply with
      | none => rfl
      | some reply => exact congrArg some law
    · simp [lastApplied, Exchange.on, Exchange.applied]

theorem broughtUp_told {requested : Option Modulation} {result : Bringup}
    (brought : BroughtUp law requested world result next) :
    lastInfo result.1 next.history = some result.2.1 := by
  have configured := brought.configured
  cases requested with
  | none =>
    obtain ⟨_, grown⟩ := configured
    rw [grown]
    simp [lastInfo, Exchange.on, Exchange.info]
  | some requested =>
    obtain ⟨_, _, _, _, _, _, informed, _, grown⟩ := configured
    rw [grown, informed]
    simp [lastInfo, Exchange.on, Exchange.info]

theorem broughtUp_past {requested : Option Modulation} {result : Bringup}
    (brought : BroughtUp law requested world result next)
    (past : ∀ done ∈ world.history, done.session < world.opened) :
    ∀ done ∈ next.history, done.session < next.opened := by
  have configured := brought.configured
  have current : result.1 < next.opened := by
    rw [brought.session, brought.opened]
    exact Nat.lt_succ_self _
  have older (done : Exchange) (member : done ∈ world.history) : done.session < next.opened := by
    rw [brought.opened]
    exact Nat.lt_succ_of_lt (past done member)
  cases requested with
  | none =>
    obtain ⟨_, grown⟩ := configured
    rw [grown]
    exact List.forall_mem_cons.mpr ⟨current, older⟩
  | some requested =>
    obtain ⟨_, _, _, _, _, _, informed, _, grown⟩ := configured
    rw [grown, informed]
    exact List.forall_mem_cons.mpr ⟨current, List.forall_mem_cons.mpr ⟨current, older⟩⟩

namespace Ready

theorem aside (ready : Ready world) (aside : Aside world next) : Ready next := by
  obtain ⟨fresh, grown, outside⟩ := aside.history
  refine ⟨by rw [aside.attributes]; exact ready.running, ?_, fun done member => ?_⟩
  · rw [aside.attributes]
    exact Nat.lt_of_lt_of_le ready.placed aside.opened
  · rw [grown] at member
    rcases List.mem_append.mp member with new | old
    · exact (outside done new).2.1
    · exact Nat.lt_of_lt_of_le (ready.past done old) aside.opened

theorem installed {requested : Option Modulation} {outcome : Except Exc Unit} (ready : Ready world)
    (installed : Installed law requested world outcome next) : Ready next := by
  obtain ⟨middle, result, up, kept, exchanges, failed, brought, restart, attributes, opened, history⟩ := installed.steps
  have waiting := ready.aside failed
  have current : result.1 < up.opened := by
    rw [brought.session, brought.opened]
    exact Nat.lt_succ_self _
  refine ⟨by rw [attributes]; exact waiting.running, by rw [attributes, opened]; exact current, ?_⟩
  intro done member
  rw [history] at member
  rw [opened]
  rcases List.mem_append.mp member with new | old
  · rw [(restart.silent done new).1]
    exact current
  · exact broughtUp_past brought waiting.past done old

theorem revived {self : Dongle} {outcome : Except Exc Unit} (ready : Ready world)
    (revived : Revived law self world outcome next) : Ready next := by
  rcases revived with aside | ⟨_, _, installed⟩
  · exact ready.aside aside
  · exact ready.installed installed

theorem of_same (ready : Ready world)
    (running : (next.attributes.closed || next.attributes.keepaliveStop) =
      (world.attributes.closed || world.attributes.keepaliveStop))
    (session : next.attributes.session = world.attributes.session) (opened : next.opened = world.opened)
    (history : next.history = world.history) : Ready next :=
  ⟨running.trans ready.running, by rw [session, opened]; exact ready.placed, by
    rw [history, opened]
    exact ready.past⟩

theorem exchange (ready : Ready world) (request : Request) (reply : Except Exc request.Value) :
    Ready (world.exchange ⟨world.attributes.session, request, reply⟩) :=
  ⟨ready.running, ready.placed, List.forall_mem_cons.mpr ⟨ready.placed, ready.past⟩⟩

theorem connected {settings : Settings} {start : World} (vacant : Dongle.Vacant start)
    (connects : Executes (Answers law) (connect settings).run start (.ok ()) world) : Ready world := by
  obtain ⟨result, up, brought, fresh⟩ := (connect_ensures settings start).returned connects
  have past : ∀ done ∈ start.history, done.session < start.opened := by
    rw [vacant.silent]
    exact List.forall_mem_nil _
  refine ⟨fresh.running, ?_, ?_⟩
  · rw [fresh.session, fresh.opened, brought.session, brought.opened]
    exact Nat.lt_succ_self _
  · rw [fresh.history, fresh.opened]
    exact broughtUp_past brought past

end Ready

theorem setConfig_ensures (self : Dongle) (config : Modulation) (ready : Ready world) :
    Ensures law (self.setConfig config) (fun _ after => Ready after ∧ Dongle.config after = some config)
      (fun _ _ => True) world := by
  simp only [Dongle.setConfig, Dongle.checkOpen, Dongle.markWrite, ensures_bind, ensures_read, ensures_ite,
    ensures_throw, ensures_pure]
  refine ⟨fun _ => trivial, ?_⟩
  intro _
  refine (ensureSessionAlive_ensures self world).mono (fun _ middle revived => ?_) fun _ _ _ => trivial
  have ready := ready.revived revived
  simp only [ensures_now, ensures_assign, ensures_setConfig]
  refine fun time => ⟨fun reply _ => ⟨?_, rfl⟩, fun _ _ => trivial⟩
  exact (ready.exchange (.setConfig config) (.ok reply)).of_same rfl rfl rfl rfl

theorem configs_applied {self : Dongle} {configs : List Modulation} {start : World} (ready : Ready start)
    (run : Run (self.Returns law) start (configs.map .setConfig) world) :
    Ready world ∧ Dongle.config world = configs.getLast?.or (Dongle.config start) := by
  generalize calls : configs.map Operation.setConfig = operations at run
  induction run generalizing configs with
  | nil =>
    obtain rfl := List.map_eq_nil_iff.mp calls
    exact ⟨ready, rfl⟩
  | snoc _ taken ih =>
    obtain ⟨earlier, last, rfl, same, single⟩ := List.map_eq_append_iff.mp calls
    obtain ⟨config, rfl, rfl⟩ := List.map_eq_singleton_iff.mp single
    obtain ⟨ready', cached⟩ := (setConfig_ensures self config (ih same).1).returned taken
    exact ⟨ready', by rw [cached, List.getLast?_concat, Option.some_or]⟩

theorem installed_applied {settings : Settings} {outcome : Except Exc Unit} {info : Info} (ready : Ready world)
    (installed : Installed Obedient settings.requested world outcome next)
    (told : lastInfo next.attributes.session next.history = some info) :
    lastApplied next.attributes.session next.history = prepared settings info ∧
      Dongle.config next = (prepared settings info).or (Dongle.config world) := by
  obtain ⟨middle, result, up, kept, exchanges, failed, brought, restart, attributes, _, history⟩ := installed.steps
  obtain ⟨cached, applied⟩ := broughtUp_applied brought (ready.aside failed).past
  have same : result.2.1 = info := by
    rw [history, attributes] at told
    have answered : lastInfo result.1 (exchanges ++ up.history) = lastInfo result.1 up.history :=
      observed_on_append fun done member _ => (restart.silent done member).2.2
    exact Option.some.inj ((broughtUp_told brought).symm.trans (answered.symm.trans told))
  rw [← same, history, attributes]
  constructor
  · exact (lastApplied_append fun done member _ => (restart.silent done member).2.1).trans applied
  · have before : Dongle.config world = Dongle.config middle :=
      congrArg Attributes.appliedConfig failed.attributes.symm
    rw [Dongle.config, attributes, before]
    exact congrArg (fun config => config.or (Dongle.config middle)) cached

theorem connected_config {settings : Settings} {start : World} {info : Info} (vacant : Dongle.Vacant start)
    (connects : Executes (Answers Obedient) (connect settings).run start (.ok ()) world)
    (told : lastInfo world.attributes.session world.history = some info) :
    Dongle.config world = prepared settings info := by
  obtain ⟨result, up, brought, fresh⟩ := (connect_ensures settings start).returned connects
  have past : ∀ done ∈ start.history, done.session < start.opened := by
    rw [vacant.silent]
    exact List.forall_mem_nil _
  rw [fresh.session, fresh.history, broughtUp_told brought] at told
  rw [fresh.config, ← Option.some.inj told]
  exact (broughtUp_applied brought past).1

/-- A session of a `Dongle` built by `connect` dies after any number of successful
`set_config` calls, and the reconnect succeeds. The configuration survives exactly when
the one in use is what `connect`'s own arguments come to on the device found again: the
last argument of `set_config`, or what `connect` itself applied. -/
theorem reconnect_preserves_iff {settings : Settings} {attempts : Nat} {configs : List Modulation}
    {first found : Info} {start connected before after : World} (vacant : Dongle.Vacant start)
    (connects : Executes (Answers Obedient) (connect settings).run start (.ok ()) connected)
    (configures : Run (Dongle.Returns ⟨some settings, attempts⟩ Obedient) connected (configs.map .setConfig) before)
    (recovers : Executes (Answers Obedient) (Dongle.recoverSessionLocked ⟨some settings, attempts⟩ settings).run
      (before.kill before.attributes.session) (.ok ()) after)
    (told : lastInfo connected.attributes.session connected.history = some first)
    (told' : lastInfo after.attributes.session after.history = some found) :
    Preserved before after ↔ configs.getLast?.or (prepared settings first) = prepared settings found := by
  have held := connected_config vacant connects told
  obtain ⟨ready, cached⟩ := configs_applied (Ready.connected vacant connects) configures
  have dead : Ready (before.kill before.attributes.session) := ready.of_same rfl rfl rfl rfl
  rcases (recoverSessionLocked_ensures _ settings _).returned recovers with installed | ⟨_, stopped⟩
  · obtain ⟨applied, kept⟩ := installed_applied dead installed told'
    rw [← held, ← cached, Preserved, applied, kept]
    constructor
    · rintro ⟨same, _⟩
      exact same.symm
    · intro same
      rw [← same]
      exact ⟨rfl, Option.or_self⟩
  · rw [dead.running] at stopped
    cases stopped

theorem obliging_obeys (world : World) (session : Nat) (request : Request) :
    Obedient world ⟨session, request, obliging request⟩ := by
  cases request with
  | setConfig modulation => rfl
  | ping | getInfo | transmit | rxStart | rxStop => trivial

def stock : Dongle := ⟨some {}, 1⟩

/-- The death of the session in use and the reconnect after it. -/
def revive (before : World) : Option (Except Exc Unit × World) :=
  Program.execute (respond fun _ => obliging) (stock.recoverSessionLocked {}).run
    (before.kill before.attributes.session)

/-- `set_config` calls of which the last goes back to the default. -/
theorem reconnect_preserves_default :
    ∃ before after,
      Run (stock.Returns Obedient) connected ([customConfig, .lora LoRaConfig.default].map .setConfig) before ∧
      Executes (Answers Obedient) (stock.recoverSessionLocked {}).run (before.kill before.attributes.session)
        (.ok ()) after ∧
      Preserved before after := by
  have computed : (execute (returning (fun _ => obliging) stock) connected
      ([customConfig, .lora LoRaConfig.default].map .setConfig)).map
        (fun before => (revive before).map fun ended =>
          (ended.1, lastInfo ended.2.attributes.session ended.2.history)) =
      some (some (.ok (), some stockInfo)) := rfl
  obtain ⟨before, run, same⟩ := run_returning obliging_obeys computed
  obtain ⟨⟨outcome, after⟩, recovered, same⟩ := Option.map_eq_some_iff.mp same
  obtain ⟨rfl, told⟩ := Prod.mk.inj same
  have recovers := executes obliging_obeys recovered
  refine ⟨before, after, run, recovers, ?_⟩
  exact (reconnect_preserves_iff unconnected_vacant (executes obliging_obeys connect_connected) run recovers
    rfl told).mpr rfl

/-- The default of `connect()` replaces the configuration that was set later. -/
theorem reconnect_reverts_config :
    ∃ before after, Dongle.Vacant unconnected ∧
      Executes (Answers Obedient) (connect {}).run unconnected (.ok ()) connected ∧
      Run (stock.Returns Obedient) connected ([customConfig].map .setConfig) before ∧
      Executes (Answers Obedient) (stock.recoverSessionLocked {}).run (before.kill before.attributes.session)
        (.ok ()) after ∧
      ¬ Preserved before after := by
  have computed : (execute (returning (fun _ => obliging) stock) connected ([customConfig].map .setConfig)).map
        (fun before => (Dongle.config before, (revive before).map fun ended => (ended.1, Dongle.config ended.2))) =
      some (some customConfig, some (.ok (), some (.lora LoRaConfig.default))) := rfl
  obtain ⟨before, run, same⟩ := run_returning obliging_obeys computed
  obtain ⟨held, same⟩ := Prod.mk.inj same
  obtain ⟨⟨outcome, after⟩, recovered, same⟩ := Option.map_eq_some_iff.mp same
  obtain ⟨rfl, reverted⟩ := Prod.mk.inj same
  refine ⟨before, after, unconnected_vacant, executes obliging_obeys connect_connected, run,
    executes obliging_obeys recovered, fun preserved => ?_⟩
  rw [Preserved, held, reverted] at preserved
  exact absurd preserved.2 (by decide)

end DongloraClient.Proofs.DongleReconnect
