import DongloraClient.Device
import DongloraClient.Proofs.DongleLogic

/-! What bringing up a session, reconnecting and retrying can do to the world. Every
invariant of a `Dongle` is derived from these descriptions. -/

namespace DongloraClient.Proofs.DongleRecovery
open Program Python DongleLogic

variable {law : World → Exchange → Prop} {world first second third : World} {session : Nat}

/-- Nothing the `Dongle` knows has changed: sessions may have died, and sessions that it
does not use may have been opened, on which no `SET_CONFIG` was acknowledged. -/
structure Aside (before after : World) : Prop where
  attributes : after.attributes = before.attributes
  opened : before.opened ≤ after.opened
  history : ∃ fresh, after.history = fresh ++ before.history ∧
    ∀ done ∈ fresh, before.opened ≤ done.session ∧ done.session < after.opened ∧ done.applied = none

namespace Aside

theorem refl (world : World) : Aside world world := ⟨rfl, Nat.le_refl _, [], rfl, by simp⟩

theorem trans (early : Aside first second) (late : Aside second third) : Aside first third := by
  obtain ⟨fresh, grown, outside⟩ := early.history
  obtain ⟨fresh', grown', outside'⟩ := late.history
  refine ⟨late.attributes.trans early.attributes, early.opened.trans late.opened, fresh' ++ fresh, ?_, ?_⟩
  · rw [grown', grown, List.append_assoc]
  · intro done member
    rcases List.mem_append.mp member with new | old
    · exact ⟨early.opened.trans (outside' done new).1, (outside' done new).2⟩
    · exact ⟨(outside done old).1, Nat.lt_of_lt_of_le (outside done old).2.1 late.opened, (outside done old).2.2⟩

theorem kill (aside : Aside first second) (session : Nat) : Aside first (second.kill session) :=
  ⟨aside.attributes, aside.opened, aside.history⟩

theorem lock (aside : Aside first second) (locked : Bool) : Aside first { second with locked } :=
  ⟨aside.attributes, aside.opened, aside.history⟩

theorem opening (aside : Aside first second) (alive : Nat → Bool) :
    Aside first { second with alive, opened := second.opened + 1 } := by
  obtain ⟨fresh, grown, outside⟩ := aside.history
  refine ⟨aside.attributes, aside.opened.trans (Nat.le_succ _), fresh, grown, ?_⟩
  intro done member
  exact ⟨(outside done member).1, (outside done member).2.1.trans (Nat.lt_succ_self _), (outside done member).2.2⟩

theorem exchange (aside : Aside first second) (done : Exchange) (outside : first.opened ≤ done.session)
    (opened : done.session < second.opened) (silent : done.applied = none) :
    Aside first (second.exchange done) := by
  obtain ⟨fresh, grown, others⟩ := aside.history
  refine ⟨aside.attributes, aside.opened, done :: fresh, by simp [World.exchange, grown], ?_⟩
  intro other member
  rcases List.mem_cons.mp member with rfl | member
  · exact ⟨outside, opened, silent⟩
  · exact others other member

end Aside

/-- A session has been brought up; `info` and `applied` are what its device said. -/
structure BroughtUp (law : World → Exchange → Prop) (requested : Option Modulation) (before : World)
    (result : Bringup) (after : World) : Prop where
  session : result.1 = before.opened
  attributes : after.attributes = before.attributes
  opened : after.opened = before.opened + 1
  configured : match requested with
    | none => result.2.2 = none ∧ after.history = ⟨result.1, .getInfo, .ok (some result.2.1)⟩ :: before.history
    | some requested => ∃ prepared reply asked,
      prepareConfig result.2.1 requested = .ok prepared ∧
      law asked ⟨result.1, .setConfig prepared, .ok reply⟩ ∧
      asked.attributes = before.attributes ∧
      asked.history = ⟨result.1, .getInfo, .ok (some result.2.1)⟩ :: before.history ∧
      result.2.2 = some (reply.elim prepared SetConfigResult.current) ∧
      after.history = ⟨result.1, .setConfig prepared, .ok reply⟩ :: asked.history

theorem Aside.killIf {condition : Bool} (aside : Aside first second) (session : Nat) :
    Aside first (if condition then second.kill session else second) := by
  cases condition with
  | true => exact aside.kill session
  | false => exact aside

theorem bringUp_ensures (transport : Nat) (timeout : Rat) (requested : Option Modulation) (world : World) :
    Ensures law (bringUp transport timeout requested)
      (BroughtUp law requested world) (fun _ after => Aside world after) world := by
  have opening := (Aside.refl world).opening (Function.update world.alive world.opened true)
  simp only [bringUp, ensures_bind, ensures_openSession, ensures_closingOnError, ensures_getInfo]
  refine ⟨fun info _ => ?_, fun exc _ => (opening.exchange _ (Nat.le_refl _) (Nat.lt_succ_self _) rfl).killIf _⟩
  have informed := opening.exchange ⟨world.opened, .getInfo, .ok info⟩ (Nat.le_refl _)
    (Nat.lt_succ_self _) rfl
  cases info with
  | none =>
    simp only [ensures_bind, ensures_closeSession, ensures_throw]
    exact informed.kill _
  | some info =>
    simp only [ensures_ite, ensures_bind, ensures_closeSession, ensures_throw]
    refine ⟨fun _ => informed.kill _, ?_⟩
    intro _
    cases requested with
    | none => exact ⟨rfl, rfl, rfl, rfl, rfl⟩
    | some requested =>
      simp only [ensures_bind, ensures_closingOnError, ensures_liftExcept, ensures_setConfig, ensures_pure]
      refine ⟨fun prepared accepted => ⟨fun result allowed => ?_, fun exc _ => ?_⟩, fun exc _ => informed.killIf _⟩
      · exact ⟨rfl, rfl, rfl, prepared, result, _, accepted, allowed, rfl, rfl, rfl, rfl⟩
      · exact (informed.exchange _ (Nat.le_refl _) (Nat.lt_succ_self _) rfl).killIf _

theorem openAndInit_ensures (settings : Settings) (world : World) :
    Ensures law (openAndInit settings) (BroughtUp law settings.requested world)
      (fun _ after => Aside world after) world := by
  simp only [openAndInit, ensures_bind, ensures_openTransport]
  exact ⟨fun transport => bringUp_ensures transport _ _ world, fun _ => Aside.refl world⟩

structure Fresh (result : Bringup) (up world : World) : Prop where
  session : world.attributes.session = result.1
  info : world.attributes.info = result.2.1
  config : Dongle.config world = result.2.2
  idle : world.attributes.rxStarted = false
  running : (world.attributes.closed || world.attributes.keepaliveStop) = false
  opened : world.opened = up.opened
  history : world.history = up.history

theorem connect_ensures (settings : Settings) (world : World) :
    Ensures law (connect settings)
      (fun _ after => ∃ result up, BroughtUp law settings.requested world result up ∧ Fresh result up after)
      (fun _ _ => True) world := by
  refine (ensures_bind _ _).mpr ((openAndInit_ensures settings world).mono (fun result up brought => ?_)
    fun _ _ _ => trivial)
  simp only [Dongle.init, ensures_bind, ensures_now, ensures_assign]
  exact fun _ => ⟨result, up, brought, rfl, rfl, rfl, rfl, rfl, rfl, rfl⟩

theorem sessionOn_ensures (transport : Nat) (world : World) :
    Ensures law (sessionOn transport)
      (fun _ after => ∃ result up,
        BroughtUp law (some (.lora LoRaConfig.default)) world result up ∧ Fresh result up after)
      (fun _ _ => True) world := by
  refine (ensures_bind _ _).mpr ((bringUp_ensures transport 2 _ world).mono (fun result up brought => ?_)
    fun _ _ _ => trivial)
  simp only [Dongle.init, ensures_bind, ensures_now, ensures_assign]
  exact fun _ => ⟨result, up, brought, rfl, rfl, rfl, rfl, rfl, rfl, rfl⟩

theorem built_cases {self : Dongle} (built : Dongle.Built law self world) :
    ∃ start, Dongle.Vacant start ∧
      ((∃ requested result up, BroughtUp law requested start result up ∧ Fresh result up world) ∨
        world.history = [] ∧ world.attributes.session < world.opened ∧ world.attributes.rxStarted = false) := by
  cases built with
  | connect vacant executed =>
    obtain ⟨result, up, brought, fresh⟩ := (connect_ensures _ _).returned executed
    exact ⟨_, vacant, .inl ⟨_, result, up, brought, fresh⟩⟩
  | sessionOn vacant executed =>
    obtain ⟨result, up, brought, fresh⟩ := (sessionOn_ensures _ _).returned executed
    exact ⟨_, vacant, .inl ⟨_, result, up, brought, fresh⟩⟩
  | @manual session _ info appliedConfig start _ vacant opened executed =>
    have placed : Ensures law (Dongle.init session info appliedConfig)
        (fun _ after => after.history = [] ∧ after.attributes.session < after.opened ∧
          after.attributes.rxStarted = false) (fun _ _ => True) start := by
      simp only [Dongle.init, ensures_bind, ensures_now, ensures_assign]
      exact fun _ => ⟨vacant.silent, opened, rfl⟩
    exact ⟨start, vacant, .inr (placed.returned executed)⟩

def reconnected (attributes : Attributes) (result : Bringup) : Attributes :=
  { attributes with
    session := result.1
    info := result.2.1
    appliedConfig := result.2.2.or attributes.appliedConfig }

/-- The `RX_START` on a new session: whether it is wanted, whether `_rx_started` is set
afterwards, what was exchanged and how it ended. -/
inductive Restart (session : Nat) : Bool → Bool → List Exchange → Except Exc Unit → Prop where
  | unneeded : Restart session false false [] (.ok ())
  | acknowledged : Restart session true true [⟨session, .rxStart, .ok ()⟩] (.ok ())
  | refused {exc : Exc} (donglora : exc.isDonglora = true) :
      Restart session true false [⟨session, .rxStart, .error exc⟩] (.ok ())
  | raised {exc : Exc} (foreign : exc.isDonglora = false) :
      Restart session true true [⟨session, .rxStart, .error exc⟩] (.error exc)

theorem Restart.silent {wanted kept : Bool} {exchanges : List Exchange} {outcome : Except Exc Unit}
    (restart : Restart session wanted kept exchanges outcome) :
    ∀ done ∈ exchanges, done.session = session ∧ done.applied = none ∧ done.info = none := by
  cases restart <;> simp [Exchange.applied, Exchange.info]

/-- A reconnect, after any number of failed attempts. -/
structure Installed (law : World → Exchange → Prop) (requested : Option Modulation) (before : World)
    (outcome : Except Exc Unit) (after : World) : Prop where
  steps : ∃ middle result up kept exchanges,
    Aside before middle ∧ BroughtUp law requested middle result up ∧
    Restart result.1 middle.attributes.rxStarted kept exchanges outcome ∧
    after.attributes = { reconnected middle.attributes result with rxStarted := kept } ∧
    after.opened = up.opened ∧ after.history = exchanges ++ up.history

theorem Installed.lock {requested : Option Modulation} {outcome : Except Exc Unit}
    (installed : Installed law requested first outcome second) (locked : Bool) :
    Installed law requested first outcome { second with locked } :=
  ⟨installed.steps⟩

theorem Installed.after_aside {requested : Option Modulation} {outcome : Except Exc Unit}
    (aside : Aside first second) (installed : Installed law requested second outcome third) :
    Installed law requested first outcome third := by
  obtain ⟨middle, result, up, kept, exchanges, failed, rest⟩ := installed.steps
  exact ⟨middle, result, up, kept, exchanges, aside.trans failed, rest⟩

theorem reopen_ensures (settings : Settings) (world : World) :
    Ensures law (Dongle.reopen settings)
      (fun result after => match result with
        | some result => BroughtUp law settings.requested world result after
        | none => Aside world after)
      (fun _ after => Aside world after) world := by
  simp only [Dongle.reopen, ensures_tryCatch, ensures_bind, ensures_pure, ensures_ite, ensures_throw]
  exact (openAndInit_ensures settings world).mono (fun _ _ up => up) fun _ _ aside => ⟨fun _ => aside, fun _ => aside⟩

theorem restart_ensures {requested : Option Modulation} {result : Bringup} {up ready : World}
    (aside : Aside world first) (brought : BroughtUp law requested first result up)
    (attributes : ready.attributes = reconnected first.attributes result) (opened : ready.opened = up.opened)
    (history : ready.history = up.history) :
    Ensures law (Dongle.restartRx result.1)
      (fun _ => Installed law requested world (.ok ())) (fun exc => Installed law requested world (.error exc))
      ready := by
  have installed {wanted kept : Bool} {exchanges : List Exchange} {outcome : Except Exc Unit} {after : World}
      (started : ready.attributes.rxStarted = wanted) (restart : Restart result.1 wanted kept exchanges outcome)
      (changed : after.attributes = { ready.attributes with rxStarted := kept })
      (opened' : after.opened = ready.opened) (grown : after.history = exchanges ++ ready.history) :
      Installed law requested world outcome after := by
    rw [attributes] at started changed
    subst started
    exact ⟨first, result, up, kept, exchanges, aside, brought, restart, changed, opened'.trans opened,
      by rw [grown, history]⟩
  simp only [Dongle.restartRx, ensures_bind, ensures_read, ensures_ite, ensures_pure, ensures_tryCatch, ensures_rxStart,
    ensures_assign, ensures_throw]
  refine ⟨fun started => ⟨fun _ _ => ?_, fun exc _ => ⟨fun donglora => ?_, fun foreign => ?_⟩⟩, fun idle => ?_⟩
  · exact installed started .acknowledged (by rw [← started]; rfl) rfl rfl
  · exact installed started (.refused donglora) rfl rfl rfl
  · exact installed started (.raised (Bool.eq_false_of_not_eq_true foreign)) (by rw [← started]; rfl) rfl rfl
  · have idle := Bool.eq_false_of_not_eq_true idle
    exact installed idle .unneeded (by rw [← idle]) rfl rfl

theorem install_ensures {requested : Option Modulation} {result : Bringup} {up : World} (aside : Aside world first)
    (brought : BroughtUp law requested first result up) :
    Ensures law (Dongle.install result.1 result.2.1 result.2.2)
      (fun _ => Installed law requested world (.ok ())) (fun exc => Installed law requested world (.error exc))
      up := by
  obtain ⟨newSession, newInfo, applied⟩ := result
  have same := brought.attributes
  cases applied with
  | none =>
    simp only [Dongle.install, ensures_bind, ensures_assign]
    exact restart_ensures aside brought (by simp [World.assign, same, reconnected]) rfl rfl
  | some config =>
    simp only [Dongle.install, ensures_bind, ensures_assign]
    exact restart_ensures aside brought (by simp [World.assign, same, reconnected]) rfl rfl

theorem reconnect_ensures (settings : Settings) (attempts : Nat) (backoff : Rat) (world : World) :
    Ensures law (Dongle.reconnect settings attempts backoff)
      (fun _ after => Installed law settings.requested world (.ok ()) after ∨
        Aside world after ∧ (world.attributes.closed || world.attributes.keepaliveStop) = true)
      (fun exc after => Installed law settings.requested world (.error exc) after ∨ Aside world after) world := by
  induction attempts generalizing backoff world with
  | zero => exact ensures_unfinished
  | succ attempts ih =>
    simp only [Dongle.reconnect, ensures_bind, ensures_read, ensures_ite, ensures_pure]
    refine ⟨fun stopped => .inr ⟨Aside.refl world, stopped⟩, ?_⟩
    intro _
    refine (reopen_ensures settings world).mono (fun result middle opened => ?_) fun _ _ aside => .inr aside
    cases result with
    | some result =>
      exact (install_ensures (Aside.refl world) opened).mono (fun _ _ => .inl) fun _ _ => .inl
    | none =>
      simp only [ensures_bind, ensures_waitStop, ensures_ite, ensures_pure]
      have same := opened.attributes
      refine ⟨fun stopped => .inr ⟨opened, by simp [← same, stopped]⟩, ?_⟩
      intro _
      refine (ih _ middle).mono (fun _ after ended => ?_) fun _ after ended => ?_
      · rcases ended with installed | ⟨aside, stopped⟩
        · exact .inl (installed.after_aside opened)
        · exact .inr ⟨opened.trans aside, same ▸ stopped⟩
      · exact ended.imp (fun installed => installed.after_aside opened) opened.trans

theorem recoverSessionLocked_ensures (self : Dongle) (settings : Settings) (world : World) :
    Ensures law (self.recoverSessionLocked settings)
      (fun _ after => Installed law settings.requested world (.ok ()) after ∨
        Aside world after ∧ (world.attributes.closed || world.attributes.keepaliveStop) = true)
      (fun exc after => Installed law settings.requested world (.error exc) after ∨ Aside world after) world := by
  have killed := (Aside.refl world).kill world.attributes.session
  simp only [Dongle.recoverSessionLocked, ensures_bind, ensures_read, ensures_closeSession]
  refine (reconnect_ensures settings self.attempts _ _).mono (fun _ after ended => ?_) fun _ after ended => ?_
  · rcases ended with installed | ⟨aside, stopped⟩
    · exact .inl (installed.after_aside killed)
    · exact .inr ⟨killed.trans aside, stopped⟩
  · exact ended.imp (fun installed => installed.after_aside killed) killed.trans

def Revived (law : World → Exchange → Prop) (self : Dongle) (before : World) (outcome : Except Exc Unit)
    (after : World) : Prop :=
  Aside before after ∨
    ∃ settings, self.reopener = some settings ∧ Installed law settings.requested before outcome after

theorem Revived.lock {self : Dongle} {outcome : Except Exc Unit} (revived : Revived law self first outcome second)
    (locked : Bool) : Revived law self first outcome { second with locked } := by
  rcases revived with aside | ⟨settings, known, installed⟩
  · exact .inl (aside.lock locked)
  · exact .inr ⟨settings, known, installed.lock locked⟩

theorem ensureSessionAlive_ensures (self : Dongle) (world : World) :
    Ensures law self.ensureSessionAlive (fun _ => Revived law self world (.ok ()))
      (fun exc => Revived law self world (.error exc)) world := by
  have killed := (Aside.refl world).kill world.attributes.session
  simp only [Dongle.ensureSessionAlive, ensures_bind, ensures_read, ensures_isAlive, ↓reduceIte, Bool.false_eq_true,
    ensures_pure]
  refine ⟨fun _ => .inl (Aside.refl world), ?_⟩
  cases known : self.reopener with
  | none => exact .inl killed
  | some settings =>
    have locked := killed.lock true
    simp only [ensures_withLock, ensures_bind, ensures_read, ensures_isAlive, ↓reduceIte, Bool.false_eq_true,
      ensures_pure]
    refine fun _ => ⟨fun _ => .inl (locked.lock false), ?_⟩
    have found := locked.kill world.attributes.session
    refine (recoverSessionLocked_ensures self settings _).mono (fun _ after ended => ?_) fun exc after ended => ?_
    · have revived : Revived law self world (.ok ()) after := by
        rcases ended with installed | ⟨aside, _⟩
        · exact .inr ⟨settings, known, installed.after_aside found⟩
        · exact .inl (found.trans aside)
      exact revived.lock false
    · have revived : Revived law self world (.error exc) after := by
        rcases ended with installed | aside
        · exact .inr ⟨settings, known, installed.after_aside found⟩
        · exact .inl (found.trans aside)
      exact revived.lock false

/-- The rule for `_with_recovery`. `ready` is what an attempt needs, `refused` what is
known once the device has answered that it is not configured. -/
theorem withRecovery_ensures {α : Type} (self : Dongle) {op : Python α} {ready refused : World → Prop}
    {returns : α → World → Prop} {raises : Exc → World → Prop}
    (killed : ∀ world session, ready world → ready (world.kill session))
    (raised : ∀ exc world, ready world → raises exc world)
    (alive : ∀ world, ready world → Ensures law self.ensureSessionAlive (fun _ => ready) raises world)
    (attempt : ∀ world, ready world → Ensures law op returns
      (fun exc after => raises exc after ∧ (exc.isNotConfigured = true → refused after) ∧
        (exc.isDonglora = true → ready after)) world)
    (reapply : ∀ world, refused world → Ensures law Dongle.reapplyConfig (fun _ => ready) raises world)
    (holds : ready world) : Ensures law (self.withRecovery op) returns raises world := by
  have again {world : World} (holds : ready world) : Ensures law op returns raises world :=
    (attempt world holds).mono (fun _ _ returned => returned) fun _ _ failed => failed.1
  simp only [Dongle.withRecovery, ensures_bind, ensures_tryCatch]
  refine (alive world holds).mono (fun _ middle holds => ?_) fun _ _ failed => failed
  apply (attempt middle holds).mono (fun _ _ returned => returned)
  intro exc after ended
  obtain ⟨failed, refusal, donglora⟩ := ended
  simp only [ensures_ite, ensures_bind, ensures_read, ensures_isAlive, ensures_throw, Bool.not_true, Bool.false_and,
    Bool.false_eq_true, Bool.not_false, Bool.true_and, false_imp_iff, not_false_eq_true, true_imp_iff, true_and]
  refine ⟨fun unconfigured => ⟨fun _ => failed, fun _ => ?_⟩, fun _ => ⟨fun own => ?_, fun _ => failed⟩⟩
  · exact (reapply after (refusal unconfigured)).mono (fun _ _ holds => again holds) fun _ _ failed => failed
  · have dead := killed after after.attributes.session (donglora own)
    refine ⟨fun _ => failed, fun _ => ?_, fun _ => raised exc _ dead⟩
    exact (alive _ dead).mono (fun _ _ holds => again holds) fun _ _ failed => failed

end DongloraClient.Proofs.DongleRecovery
