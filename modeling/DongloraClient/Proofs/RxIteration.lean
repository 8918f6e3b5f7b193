import DongloraClient.Surroundings
import DongloraClient.Proofs.SessionDeath

/-! `recv` beside `next(iter(rx()))`: when the two receive paths agree. -/

namespace DongloraClient.Proofs.RxIteration
open Program Python Dongle

variable {η : Type} {surroundings : Surroundings η} {self : Dongle} {settings : Settings} {scene : Scene η}
  {timeout : Option Rat} {time : Rat} {α : Type}

section Stamps
/-! No receive path reads `_last_write_time`. -/

@[simp] theorem stamp_moment : (scene.stamp time).moment = scene.moment := rfl

theorem stamp_inj {earlier later : Rat} : scene.stamp earlier = scene.stamp later ↔ earlier = later :=
  ⟨congrArg fun scene : Scene η => scene.attributes.lastWriteTime, congrArg fun time => scene.stamp time⟩

abbrev Blind (surroundings : Surroundings η) (time : Rat) (program : Python α) : Prop :=
  Commutes surroundings.respond (Scene.stamp time) program

theorem op_blind {op : Op} (blind : ∀ scene, surroundings.respond (scene.stamp time) op =
      (surroundings.respond scene op).map (Prod.map id (Scene.stamp time))) :
    Blind surroundings time (request op) := by
  intro scene
  rw [outcome_request, outcome_request, blind, Option.map_map, Option.map_map]
  rfl

theorem read_blind {field : Attributes → α}
    (other : ∀ attributes, field { attributes with lastWriteTime := time } = field attributes) :
    Blind surroundings time (Python.read field) := by
  intro scene
  have same := other scene.attributes
  change some (Except.ok (field { scene.attributes with lastWriteTime := time }), scene.stamp time) = _
  rw [same]
  rfl

theorem assign_blind {change : Attributes → Attributes}
    (other : ∀ attributes, change { attributes with lastWriteTime := time } =
      { change attributes with lastWriteTime := time }) : Blind surroundings time (assign change) := by
  refine op_blind fun scene => ?_
  simp only [Surroundings.respond, Scene.assign, Scene.stamp, other, Option.map_some, Prod.map, id]

theorem acquire_blind : Blind surroundings time acquire := by
  refine op_blind fun scene => ?_
  obtain ⟨attributes, locked, moment⟩ := scene
  cases locked <;> rfl

theorem release_blind : Blind surroundings time release := op_blind fun _ => rfl

theorem waitStop_blind (backoff : Rat) : Blind surroundings time (waitStop backoff) := op_blind fun _ => rfl

theorem isAlive_blind (session : Nat) : Blind surroundings time (isAlive session) := op_blind fun _ => rfl

theorem openSession_blind (transport : Nat) : Blind surroundings time (openSession transport) := op_blind fun _ => rfl

theorem closeSession_blind (session : Nat) : Blind surroundings time (closeSession session) := op_blind fun _ => rfl

theorem openTransport_blind (port : Option String) (limit : Rat) :
    Blind surroundings time (openTransport port limit) := fun _ => rfl

theorem command_blind (session : Nat) (request : Request) (limit : Option Rat) :
    Blind surroundings time (command session request limit) := fun _ => rfl

theorem nextRx_blind (session : Nat) : Blind surroundings time (nextRx session timeout) := by
  refine op_blind fun scene => ?_
  simp only [Surroundings.respond, stamp_moment, Option.map_map]
  rfl

theorem liftExcept_blind (result : Except Exc α) : Blind surroundings time (liftExcept result : Python α) := by
  cases result with
  | ok value => exact .pure value
  | error exc => exact .throw exc

theorem setConfig_blind (session : Nat) (modulation : Modulation) (limit : Rat) :
    Blind surroundings time (Python.setConfig session modulation limit) := command_blind _ _ _

theorem rxStart_blind (session : Nat) (limit : Rat) : Blind surroundings time (rxStart session limit) :=
  command_blind _ _ _

theorem closingOnError_blind {session : Nat} {body : Python α} (blind : Blind surroundings time body) :
    Blind surroundings time (closingOnError session body) :=
  .tryCatch blind fun _ => .ite (.bind (closeSession_blind session) fun _ => .throw _) (.throw _)

theorem bringUp_blind (transport : Nat) (limit : Rat) (requested : Option Modulation) :
    Blind surroundings time (bringUp transport limit requested) := by
  refine .bind (openSession_blind transport) fun session => .bind (closingOnError_blind (command_blind _ _ _)) ?_
  intro told
  cases told with
  | none => exact .bind (closeSession_blind session) fun _ => .throw _
  | some info =>
    refine .ite (.bind (closeSession_blind session) fun _ => .throw _) ?_
    cases requested with
    | none => exact .pure _
    | some requested =>
      exact .bind (closingOnError_blind (.bind (liftExcept_blind _) fun _ => .bind (setConfig_blind _ _ _) fun _ =>
        .pure _)) fun _ => .pure _

theorem openAndInit_blind (settings : Settings) : Blind surroundings time (openAndInit settings) :=
  .bind (openTransport_blind _ _) fun _ => bringUp_blind _ _ _

theorem restartRx_blind (fresh : Nat) : Blind surroundings time (restartRx fresh) := by
  refine .bind (read_blind fun _ => rfl) fun started => .ite ?_ (.pure _)
  exact .tryCatch (rxStart_blind _ _) fun _ => .ite (assign_blind fun _ => rfl) (.throw _)

theorem install_blind (fresh : Nat) (info : Info) (applied : Option Modulation) :
    Blind surroundings time (install fresh info applied) := by
  refine .bind (assign_blind fun _ => rfl) fun _ => .bind (assign_blind fun _ => rfl) fun _ => ?_
  cases applied with
  | none => exact restartRx_blind fresh
  | some config => exact .bind (assign_blind fun _ => rfl) fun _ => restartRx_blind fresh

theorem reconnect_blind (settings : Settings) (attempts : Nat) (backoff : Rat) :
    Blind surroundings time (reconnect settings attempts backoff) := by
  induction attempts generalizing backoff with
  | zero => exact fun _ => rfl
  | succ attempts ih =>
    have reopens : Blind surroundings time (reopen settings) :=
      .tryCatch (.bind (openAndInit_blind settings) fun _ => .pure _) fun _ => .ite (.pure _) (.throw _)
    refine .bind (read_blind fun _ => rfl) fun closed => .bind (read_blind fun _ => rfl) fun stopped => ?_
    refine .ite (.pure _) (.bind reopens fun reopened => ?_)
    cases reopened with
    | none => exact .bind (waitStop_blind backoff) fun _ => .ite (.pure _) (ih _)
    | some bringup => exact install_blind _ _ _

theorem withLock_blind {body : Python α} (blind : Blind surroundings time body) :
    Blind surroundings time (withLock body) :=
  .bind acquire_blind fun _ =>
    .bind (.tryCatch blind fun _ => .bind release_blind fun _ => .throw _) fun _ => .bind release_blind fun _ => .pure _

theorem ensureSessionAlive_blind : Blind surroundings time self.ensureSessionAlive := by
  refine .bind (read_blind fun _ => rfl) fun session => .bind (isAlive_blind session) fun living => .ite (.pure _) ?_
  cases self.reopener with
  | none => exact .throw _
  | some settings =>
    refine withLock_blind (.bind (read_blind fun _ => rfl) fun session => .bind (isAlive_blind session) fun living => ?_)
    exact .ite (.pure _) (.bind (read_blind fun _ => rfl) fun old => .bind (closeSession_blind old) fun _ =>
      reconnect_blind _ _ _)

theorem reapplyConfig_blind : Blind surroundings time reapplyConfig := by
  refine .bind (read_blind fun _ => rfl) fun session => .bind (read_blind fun _ => rfl) fun applied => ?_
  cases applied with
  | none => exact .throw _
  | some config => exact .bind (setConfig_blind _ _ _) fun _ => .pure _

end Stamps

section Reconnects
/-! A reconnect that returns has installed a live session. -/

abbrev Ensures (surroundings : Surroundings η) (program : Python α) (returns : α → Scene η → Prop)
    (raises : Exc → Scene η → Prop) (scene : Scene η) : Prop :=
  Program.Ensures (Decides surroundings.respond) program returns raises scene

variable {raises : Exc → Scene η → Prop}

@[simp] theorem ensures_read (field : Attributes → α) {returns : α → Scene η → Prop} :
    Ensures surroundings (Python.read field) returns raises scene ↔ returns (field scene.attributes) scene :=
  (ensures_bind _ _).trans ((ensures_decided rfl).trans (ensures_pure _))

@[simp] theorem ensures_assign (change : Attributes → Attributes) {returns : Unit → Scene η → Prop} :
    Ensures surroundings (assign change) returns raises scene ↔ returns () (scene.assign change) :=
  ensures_decided rfl

@[simp] theorem ensures_waitStop (backoff : Rat) {returns : Bool → Scene η → Prop} :
    Ensures surroundings (waitStop backoff) returns raises scene ↔
      returns scene.attributes.keepaliveStop { scene with moment := surroundings.waitStop scene.moment backoff } :=
  ensures_decided rfl

@[simp] theorem ensures_openSession (transport : Nat) {returns : Nat → Scene η → Prop} :
    Ensures surroundings (openSession transport) returns raises scene ↔
      returns (surroundings.openSession scene.moment transport).1
        { scene with moment := (surroundings.openSession scene.moment transport).2 } :=
  ensures_decided rfl

@[simp] theorem ensures_isAlive (session : Nat) {returns : Bool → Scene η → Prop} :
    Ensures surroundings (isAlive session) returns raises scene ↔
      returns (surroundings.living scene.moment session) scene :=
  ensures_decided rfl

@[simp] theorem ensures_closeSession (session : Nat) {returns : Unit → Scene η → Prop} :
    Ensures surroundings (closeSession session) returns raises scene ↔
      returns () { scene with moment := surroundings.closeSession scene.moment session } :=
  ensures_decided rfl

@[simp] theorem ensures_release {returns : Unit → Scene η → Prop} :
    Ensures surroundings release returns raises scene ↔ returns () { scene with locked := false } :=
  ensures_decided rfl

theorem ensures_acquire {returns : Unit → Scene η → Prop} (holds : returns () { scene with locked := true }) :
    Ensures surroundings acquire returns raises scene := by
  intro reply middle responded
  simp only [Decides, Surroundings.respond] at responded
  split at responded
  · cases responded
  · cases responded
    exact holds

@[simp] theorem ensures_openTransport (port : Option String) (limit : Rat) {returns : Nat → Scene η → Prop} :
    Ensures surroundings (openTransport port limit) returns raises scene ↔
      Outcomes returns raises (surroundings.openTransport scene.moment port limit).1
        { scene with moment := (surroundings.openTransport scene.moment port limit).2 } := by
  have decided : surroundings.respond scene (.openTransport port limit) =
      some ((surroundings.openTransport scene.moment port limit).1, _) := rfl
  exact ensures_decided_outcome decided id

@[simp] theorem ensures_command (session : Nat) (request : Request) (limit : Option Rat)
    {returns : request.Value → Scene η → Prop} :
    Ensures surroundings (command session request limit) returns raises scene ↔
      Outcomes returns raises (surroundings.command scene.moment session request limit).1
        { scene with moment := (surroundings.command scene.moment session request limit).2 } := by
  have decided : surroundings.respond scene (.command session request limit) =
      some ((surroundings.command scene.moment session request limit).1, _) := rfl
  exact ensures_decided_outcome decided id

theorem command_answered (session : Nat) (request : Request) (limit : Option Rat) {attributes : Attributes}
    (same : scene.attributes = attributes) :
    Ensures surroundings (command session request limit)
      (fun _ last => last.attributes = attributes ∧ surroundings.living last.moment session = true)
      (fun _ last => last.attributes = attributes) scene := by
  refine (ensures_command _ _ _).mpr ?_
  cases answered : (surroundings.command scene.moment session request limit).1 with
  | error exc => exact same
  | ok value => exact ⟨same, surroundings.answered _ _ _ _ _ answered⟩

theorem closingOnError_ensures (session : Nat) {body : Python α} {attributes : Attributes}
    {returns : α → Scene η → Prop}
    (ensures : Ensures surroundings body returns (fun _ last => last.attributes = attributes) scene) :
    Ensures surroundings (closingOnError session body) returns (fun _ last => last.attributes = attributes) scene := by
  refine (ensures_tryCatch _ _).mpr (ensures.mono (fun _ _ returned => returned) ?_)
  intro exc last same
  simp only [ensures_ite, ensures_bind, ensures_closeSession, ensures_throw]
  exact ⟨fun _ => same, fun _ => same⟩

theorem bringUp_living (transport : Nat) (limit : Rat) (requested : Option Modulation) {attributes : Attributes}
    (same : scene.attributes = attributes) :
    Ensures surroundings (bringUp transport limit requested)
      (fun bringup last => last.attributes = attributes ∧ surroundings.living last.moment bringup.1 = true)
      (fun _ last => last.attributes = attributes) scene := by
  simp only [bringUp, ensures_bind, ensures_openSession]
  generalize surroundings.openSession scene.moment transport = opened
  obtain ⟨session, moment⟩ := opened
  have told : Ensures surroundings (closingOnError session (getInfo session limit))
      (fun _ last => last.attributes = attributes ∧ surroundings.living last.moment session = true)
      (fun _ last => last.attributes = attributes) { scene with moment } :=
    closingOnError_ensures _ (command_answered _ _ _ same)
  refine told.mono ?_ fun _ _ raised => raised
  intro answer last answered
  obtain ⟨unchanged, living⟩ := answered
  cases answer with
  | none =>
    simp only [ensures_bind, ensures_closeSession, ensures_throw]
    exact unchanged
  | some info =>
    simp only [ensures_ite, ensures_bind, ensures_closeSession, ensures_throw]
    refine ⟨fun _ => unchanged, fun _ => ?_⟩
    cases requested with
    | none => exact ⟨unchanged, living⟩
    | some requested =>
      refine (ensures_bind _ _).mpr ((closingOnError_ensures session ?_).mono (fun _ _ returned => returned)
        fun _ _ raised => raised)
      cases prepareConfig info requested with
      | error exc => exact unchanged
      | ok prepared =>
        refine (ensures_bind _ _).mpr ((ensures_pure prepared).mpr ((ensures_bind _ _).mpr ?_))
        exact (command_answered session _ _ unchanged).mono (fun _ _ returned => returned) fun _ _ raised => raised

theorem openAndInit_living {attributes : Attributes} (same : scene.attributes = attributes) :
    Ensures surroundings (openAndInit settings)
      (fun bringup last => last.attributes = attributes ∧ surroundings.living last.moment bringup.1 = true)
      (fun _ last => last.attributes = attributes) scene := by
  simp only [openAndInit, ensures_bind, ensures_openTransport]
  cases (surroundings.openTransport scene.moment settings.port settings.timeout).1 with
  | error exc => exact same
  | ok transport => exact bringUp_living _ _ _ same

structure Ready (surroundings : Surroundings η) (scene : Scene η) : Prop where
  living : surroundings.Living scene
  stopped : scene.attributes.rxStarted = false

theorem install_ready (fresh : Nat) (info : Info) (applied : Option Modulation)
    (stopped : scene.attributes.rxStarted = false) (living : surroundings.living scene.moment fresh = true) :
    Ensures surroundings (install fresh info applied) (fun _ last => Ready surroundings last) raises scene := by
  cases applied <;>
    · simp only [install, restartRx, ensures_bind, ensures_assign, ensures_read, Scene.assign, stopped,
        Bool.false_eq_true, if_false, ensures_pure]
      exact ⟨living, rfl⟩

structure Waiting (scene : Scene η) : Prop where
  isOpen : scene.Open
  stopped : scene.attributes.rxStarted = false

theorem Waiting.of_same {other : Scene η} (waiting : Waiting scene) (same : other.attributes = scene.attributes) :
    Waiting other where
  isOpen := ⟨same ▸ waiting.isOpen.notClosed, same ▸ waiting.isOpen.running⟩
  stopped := same ▸ waiting.stopped

theorem reconnect_ready (waiting : Waiting scene) (attempts : Nat) (backoff : Rat) :
    Ensures surroundings (reconnect settings attempts backoff) (fun _ last => Ready surroundings last)
      (fun _ _ => True) scene := by
  induction attempts generalizing scene backoff with
  | zero => trivial
  | succ attempts ih =>
    simp only [reconnect, reopen, ensures_bind, ensures_read, waiting.isOpen.notClosed, waiting.isOpen.running,
      Bool.or_self, Bool.false_eq_true, if_false, ensures_tryCatch]
    refine (openAndInit_living rfl).mono ?_ ?_
    · intro bringup last opened
      obtain ⟨same, living⟩ := opened
      exact install_ready _ _ _ (same ▸ waiting.stopped) living
    · intro exc last same
      have again : Waiting last := waiting.of_same same
      simp only [ensures_ite, ensures_pure, ensures_throw, ensures_bind, ensures_waitStop, again.isOpen.running,
        Bool.false_eq_true, false_implies, true_and]
      have later : Waiting { last with moment := surroundings.waitStop last.moment backoff } := again.of_same rfl
      exact ⟨fun _ _ => ih later _, fun _ => trivial⟩

theorem ensureSessionAlive_ready (reopener : self.reopener = some settings) (waiting : Waiting scene) :
    Ensures surroundings self.ensureSessionAlive (fun _ last => Ready surroundings last) (fun _ _ => True) scene := by
  simp only [ensureSessionAlive, ensures_bind, ensures_read, ensures_isAlive, ensures_ite, ensures_pure, reopener,
    withLock, ensures_tryCatch]
  refine ⟨fun living => ⟨living, waiting.stopped⟩, fun _ => ensures_acquire ?_⟩
  simp only [ensures_release, ensures_throw, recoverSessionLocked, ensures_bind, ensures_read, ensures_closeSession]
  refine ⟨fun living => ⟨living, waiting.stopped⟩, fun _ => ?_⟩
  have closed : Waiting (Scene.mk scene.attributes true
      (surroundings.closeSession scene.moment scene.attributes.session)) := waiting.of_same rfl
  refine (reconnect_ready closed _ _).mono ?_ fun _ _ _ => trivial
  exact fun _ _ ready => ⟨ready.living, ready.stopped⟩

end Reconnects

section Paths
/-! The two receive paths, taken apart at the reconnect they may begin with. -/

variable {β : Type}

/-- The rest of a call, from where its first part has ended. -/
def resumed (surroundings : Surroundings η) (next : α → Python β) :
    Except Exc α × Scene η → Option (Except Exc β × Scene η)
  | (.ok value, last) => surroundings.ending (next value) last
  | (.error exc, last) => some (.error exc, last)

theorem ending_bind (program : Python α) (next : α → Python β) :
    surroundings.ending (program >>= next) scene = (surroundings.ending program scene).bind (resumed surroundings next) := by
  refine (outcome_bind program next).trans (congrArg _ ?_)
  funext ended
  obtain ⟨exc | value, last⟩ := ended <;> rfl

theorem resumed_bind {γ : Type} (first : α → Python β) (rest : β → Python γ) (ended : Except Exc α × Scene η) :
    (resumed surroundings first ended).bind (resumed surroundings rest) =
      resumed surroundings (fun value => first value >>= rest) ended := by
  obtain ⟨exc | value, last⟩ := ended
  · rfl
  · exact (ending_bind _ _).symm

theorem ending_bind_assoc {γ : Type} (program : Python α) (first : α → Python β) (rest : β → Python γ) :
    surroundings.ending (program >>= first >>= rest) scene =
      surroundings.ending (program >>= fun value => first value >>= rest) scene := by
  rw [ending_bind, ending_bind, ending_bind, Option.bind_assoc]
  exact congrArg _ (funext (resumed_bind first rest))

theorem ending_bind_of {program : Python α} {next : α → Python β} {value : α}
    (idle : surroundings.ending program scene = some (.ok value, scene)) :
    surroundings.ending (program >>= next) scene = surroundings.ending (next value) scene := by
  rw [ending_bind, idle]
  rfl

theorem checkOpen_open (isOpen : scene.Open) : surroundings.ending checkOpen scene = some (.ok (), scene) := by
  change surroundings.ending (if scene.attributes.closed then throw _ else Pure.pure ()) scene = _
  rw [isOpen.notClosed]
  rfl

theorem ensureSessionAlive_living (living : surroundings.Living scene) :
    surroundings.ending self.ensureSessionAlive scene = some (.ok (), scene) := by
  have found : surroundings.ending (do isAlive (← Python.read Attributes.session)) scene = some (.ok true, scene) :=
    congrArg (fun living => some (Except.ok living, scene)) living
  exact ending_bind_of found

/-- What follows the stamp and the reconnect in the lazy `RX_START`. -/
def starting (self : Dongle) : Python Unit := do
  let op : Python Unit := do rxStart (← Python.read Attributes.session)
  tryCatch op (SessionDeath.recovering self op)
  assign fun attributes => { attributes with rxStarted := true }

def awaiting (self : Dongle) (timeout : Option Rat) : Python (Option RxEvent) := do
  let pkt ← nextRx (← Python.read Attributes.session) timeout
  if pkt.isNone then
    if !(← isAlive (← Python.read Attributes.session)) then self.ensureSessionAlive
  return pkt

theorem recv_open (isOpen : scene.Open) :
    surroundings.ending (self.recv timeout) scene = (surroundings.ending self.ensureSessionAlive scene).bind
      (resumed surroundings fun _ => self.startRx >>= fun _ => awaiting self timeout) :=
  (ending_bind_of (checkOpen_open isOpen)).trans (ending_bind _ _)

theorem nextOfRx_open (isOpen : scene.Open) :
    surroundings.ending (self.nextOfRx timeout) scene =
      surroundings.ending (self.startRx >>= fun _ => next timeout) scene := by
  refine (ending_bind_assoc _ _ _).trans ((ending_bind_of (checkOpen_open isOpen)).trans ?_)
  exact ending_bind_assoc _ _ _

theorem startRx_started (started : scene.attributes.rxStarted = true) :
    surroundings.ending self.startRx scene = some (.ok (), scene) := by
  change surroundings.ending (if !scene.attributes.rxStarted then _ else Pure.pure ()) scene = _
  rw [started]
  rfl

theorem startRx_stopped (stopped : scene.attributes.rxStarted = false) :
    surroundings.ending self.startRx scene = surroundings.ending (self.ensureSessionAlive >>= fun _ => starting self)
      (scene.stamp (surroundings.clock scene.moment)) := by
  have entered : surroundings.ending self.startRx scene = surroundings.ending (do
      self.withRecovery do rxStart (← Python.read Attributes.session)
      assign fun attributes => { attributes with rxStarted := true })
      (scene.stamp (surroundings.clock scene.moment)) := by
    change surroundings.ending (if !scene.attributes.rxStarted then _ else Pure.pure ()) scene = _
    rw [stopped]
    rfl
  rw [entered]
  exact ending_bind_assoc _ _ _

theorem starting_blind : Blind surroundings time (starting self) := by
  have op : Blind surroundings time (do rxStart (← Python.read Attributes.session)) :=
    .bind (read_blind fun _ => rfl) fun _ => rxStart_blind _ _
  refine .bind (.tryCatch op fun exc => .ite ?_ (.ite ?_ (.throw exc))) fun _ => assign_blind fun _ => rfl
  · exact .bind (read_blind fun _ => rfl) fun _ => .ite (.throw exc) (.bind reapplyConfig_blind fun _ => op)
  · refine .bind (read_blind fun _ => rfl) fun session => .bind (isAlive_blind session) fun _ => ?_
    exact .ite (.bind ensureSessionAlive_blind fun _ => op) (.throw exc)

theorem next_blind : Blind surroundings time (next timeout) :=
  .bind (read_blind fun _ => rfl) fun _ => nextRx_blind _

theorem awaiting_blind : Blind surroundings time (awaiting self timeout) := by
  refine .bind (read_blind fun _ => rfl) fun session => .bind (nextRx_blind session) fun pkt => .ite ?_ (.pure _)
  refine .bind (read_blind fun _ => rfl) fun session => .bind (isAlive_blind session) fun living => ?_
  exact .ite (.bind ensureSessionAlive_blind fun _ => .pure _) (.pure _)

theorem resumed_stamp {next : α → Python β} (blind : ∀ value, Blind surroundings time (next value))
    (ended : Except Exc α × Scene η) :
    resumed surroundings next (ended.1, ended.2.stamp time) =
      (resumed surroundings next ended).map (Prod.map id (Scene.stamp time)) := by
  obtain ⟨exc | value, last⟩ := ended
  · rfl
  · exact blind value last

/-- `recv` stamps after the reconnect. -/
theorem recv_stopped (reopener : self.reopener = some settings) (isOpen : scene.Open)
    (stopped : scene.attributes.rxStarted = false) :
    surroundings.ending (self.recv timeout) scene =
      (surroundings.ending self.ensureSessionAlive scene).bind fun reconnected =>
        (resumed surroundings (fun _ => starting self >>= fun _ => awaiting self timeout) reconnected).map
          (Prod.map id (Scene.stamp (surroundings.stampAfter reconnected))) := by
  rw [recv_open isOpen]
  refine Option.bind_congr fun reconnected ended => ?_
  have ready := (ensureSessionAlive_ready reopener ⟨isOpen, stopped⟩).ended ended
  obtain ⟨exc | _, last⟩ := reconnected
  · rfl
  · have ready : Ready surroundings last := ready
    have living : surroundings.Living (last.stamp (surroundings.clock last.moment)) := ready.living
    have blind : Blind surroundings (surroundings.clock last.moment) (starting self >>= fun _ => awaiting self timeout) :=
      .bind starting_blind fun _ => awaiting_blind
    change surroundings.ending (self.startRx >>= fun _ => awaiting self timeout) last = _
    rw [ending_bind, startRx_stopped ready.stopped, ending_bind_of (ensureSessionAlive_living living), ← ending_bind]
    exact blind last

/-- `rx` stamps before it. -/
theorem startRx_reconnects (stopped : scene.attributes.rxStarted = false) :
    surroundings.ending self.startRx scene =
      (surroundings.ending self.ensureSessionAlive scene).bind fun reconnected =>
        (resumed surroundings (fun _ => starting self) reconnected).map
          (Prod.map id (Scene.stamp (surroundings.clock scene.moment))) := by
  rw [startRx_stopped stopped, ending_bind, Surroundings.ending, ensureSessionAlive_blind scene, Option.bind_map]
  exact Option.bind_congr fun reconnected _ => resumed_stamp (fun _ => starting_blind) reconnected

theorem nextOfRx_stopped (isOpen : scene.Open) (stopped : scene.attributes.rxStarted = false) :
    surroundings.ending (self.nextOfRx timeout) scene =
      (surroundings.ending self.ensureSessionAlive scene).bind fun reconnected =>
        (resumed surroundings (fun _ => starting self >>= fun _ => next timeout) reconnected).map
          (Prod.map id (Scene.stamp (surroundings.clock scene.moment))) := by
  rw [nextOfRx_open isOpen, ending_bind, startRx_stopped stopped, ← ending_bind, ending_bind_assoc, ending_bind,
    Surroundings.ending, ensureSessionAlive_blind scene, Option.bind_map]
  exact Option.bind_congr fun reconnected _ =>
    resumed_stamp (fun _ => .bind starting_blind fun _ => next_blind) reconnected

end Paths

section Agreement

theorem next_ending :
    surroundings.ending (next timeout) scene =
      (surroundings.nextRx scene.moment scene.attributes.session timeout).map fun (event, moment) =>
        (.ok event, { scene with moment }) := by
  refine (outcome_request _).trans ?_
  simp only [Surroundings.respond, Option.map_map]
  rfl

/-- A session that is alive when the wait ends makes the end of `recv` a no-op. -/
theorem awaiting_next (survives : ∀ event moment,
      surroundings.nextRx scene.moment scene.attributes.session timeout = some (event, moment) →
        surroundings.living moment scene.attributes.session = true) :
    surroundings.ending (awaiting self timeout) scene = surroundings.ending (next timeout) scene := by
  have parts : awaiting self timeout = (do
      let pkt ← next timeout
      if pkt.isNone then
        if !(← isAlive (← Python.read Attributes.session)) then self.ensureSessionAlive
      return pkt) := rfl
  rw [parts, ending_bind, next_ending]
  cases waited : surroundings.nextRx scene.moment scene.attributes.session timeout with
  | none => rfl
  | some ended =>
    obtain ⟨event, moment⟩ := ended
    cases event with
    | some event => rfl
    | none =>
      have living := survives none moment waited
      change surroundings.ending (if !surroundings.living moment scene.attributes.session then _ else _) _ = _
      rw [living]
      rfl

/-- The session on which `start` leaves the `Dongle` receiving is alive when the wait ends. -/
def Outlasts (surroundings : Surroundings η) (start : Python Unit) (timeout : Option Rat) (scene : Scene η) : Prop :=
  ∀ started event moment, surroundings.ending start scene = some (.ok (), started) →
    surroundings.nextRx started.moment started.attributes.session timeout = some (event, moment) →
    surroundings.living moment started.attributes.session = true

theorem started_agree {start : Python Unit} (outlasts : Outlasts surroundings start timeout scene) :
    surroundings.ending (start >>= fun _ => awaiting self timeout) scene =
      surroundings.ending (start >>= fun _ => next timeout) scene := by
  rw [ending_bind, ending_bind]
  refine Option.bind_congr fun ended started => ?_
  obtain ⟨exc | _, last⟩ := ended
  · rfl
  · exact awaiting_next fun event moment waited => outlasts last event moment started waited

/-- A reconnect does not come between the session and the wait for it. -/
theorem outlasts_reconnected (stopped : scene.attributes.rxStarted = false)
    (survives : surroundings.Survives self timeout scene) {last : Scene η}
    (reconnected : surroundings.ending self.ensureSessionAlive scene = some (.ok (), last)) :
    Outlasts surroundings (starting self) timeout last := by
  intro started event moment began waited
  refine survives (started.stamp (surroundings.clock scene.moment)) event moment ?_ waited
  rw [startRx_reconnects stopped, reconnected]
  change (surroundings.ending (starting self) last).map _ = _
  rw [began]
  rfl

/-- What `rx` and the wait come to after the reconnect, whichever path it is on. -/
theorem resumed_agree (stopped : scene.attributes.rxStarted = false)
    (survives : surroundings.Survives self timeout scene) {reconnected : Except Exc Unit × Scene η}
    (ended : surroundings.ending self.ensureSessionAlive scene = some reconnected) :
    resumed surroundings (fun _ => starting self >>= fun _ => awaiting self timeout) reconnected =
      resumed surroundings (fun _ => starting self >>= fun _ => next timeout) reconnected := by
  obtain ⟨exc | _, last⟩ := reconnected
  · rfl
  · exact started_agree (outlasts_reconnected stopped survives ended)

theorem recv_living (isOpen : scene.Open) (living : surroundings.Living scene)
    (survives : surroundings.Survives self timeout scene) :
    surroundings.ending (self.recv timeout) scene = surroundings.ending (self.nextOfRx timeout) scene := by
  rw [recv_open isOpen, ensureSessionAlive_living living, nextOfRx_open isOpen]
  exact started_agree survives

theorem unstamped_living {first second : Scene η} (same : first.unstamped = second.unstamped) :
    surroundings.Living first ↔ surroundings.Living second := by
  have alike : surroundings.Living first.unstamped = surroundings.Living second.unstamped := congrArg _ same
  exact iff_of_eq alike

theorem iterated_living (isOpen : scene.Open) (survives : surroundings.Survives self timeout scene)
    {event : Option RxEvent} {last : Scene η}
    (returned : surroundings.ending (self.nextOfRx timeout) scene = some (.ok event, last)) :
    surroundings.Living last := by
  rw [nextOfRx_open isOpen] at returned
  obtain ⟨_, started, began, rest⟩ := outcome_bind_ok returned
  obtain ⟨⟨given, moment⟩, waited, same⟩ := Option.map_eq_some_iff.mp (next_ending.symm.trans rest)
  cases same
  exact survives started event moment began waited

theorem survives_of_iterated (isOpen : scene.Open)
    (iterated : ∀ event last, surroundings.ending (self.nextOfRx timeout) scene = some (.ok event, last) →
      surroundings.Living last) : surroundings.Survives self timeout scene := by
  intro started event moment began waited
  refine iterated event { started with moment } ?_
  rw [nextOfRx_open isOpen, ending_bind, began]
  refine next_ending.trans ?_
  rw [waited]
  rfl

theorem living_of_started (started : scene.attributes.rxStarted = true)
    (survives : surroundings.Survives self timeout scene) : surroundings.Living scene := by
  refine Bool.eq_true_of_not_eq_false fun dead => ?_
  obtain ⟨⟨event, moment⟩, waited⟩ := Option.isSome_iff_exists.mp (surroundings.ends _ _ timeout dead)
  have living := survives scene event moment (startRx_started started) waited
  rw [surroundings.lasting _ _ _ _ _ waited dead] at living
  cases living

theorem agrees_of_same {view : Scene η → Scene η} (isOpen : scene.Open)
    (blind : ∀ scene : Scene η, (view scene).unstamped = scene.unstamped)
    (survives : surroundings.Survives self timeout scene)
    (same : (surroundings.ending (self.recv timeout) scene).map (Prod.map id view) =
      (surroundings.ending (self.nextOfRx timeout) scene).map (Prod.map id view)) :
    surroundings.Agrees view self timeout scene where
  same := same
  iterated _ _ := iterated_living isOpen survives
  received event last returned := by
    rw [returned] at same
    obtain ⟨⟨result, other⟩, iterated, alike⟩ := Option.map_eq_some_iff.mp same.symm
    obtain ⟨rfl, seen⟩ := Prod.mk.inj alike
    refine (unstamped_living ?_).mp (iterated_living isOpen survives iterated)
    rw [← blind other, ← blind last]
    exact congrArg Scene.unstamped seen

/-- Whatever of the scene is in view, the paths can only agree in these cases. -/
theorem survives_of_agrees {view : Scene η → Scene η} (isOpen : scene.Open)
    (agrees : surroundings.Agrees view self timeout scene) :
    (surroundings.Living scene ∨ scene.attributes.rxStarted = false) ∧ surroundings.Survives self timeout scene := by
  have survives := survives_of_iterated isOpen agrees.iterated
  refine ⟨?_, survives⟩
  cases started : scene.attributes.rxStarted with
  | false => exact Or.inr rfl
  | true => exact Or.inl (living_of_started started survives)

/-- Where RX is not started, the paths differ in nothing but the stamp. -/
theorem unstamped_agree (reopener : self.reopener = some settings) (isOpen : scene.Open)
    (stopped : scene.attributes.rxStarted = false) (survives : surroundings.Survives self timeout scene) :
    (surroundings.ending (self.recv timeout) scene).map (Prod.map id Scene.unstamped) =
      (surroundings.ending (self.nextOfRx timeout) scene).map (Prod.map id Scene.unstamped) := by
  rw [recv_stopped reopener isOpen stopped, nextOfRx_stopped isOpen stopped, Option.map_bind, Option.map_bind]
  refine Option.bind_congr fun reconnected ended => ?_
  simp only [Function.comp_apply, Option.map_map, resumed_agree stopped survives ended]
  rfl

theorem same_iff_punctual (reopener : self.reopener = some settings) (isOpen : scene.Open)
    (stopped : scene.attributes.rxStarted = false) (survives : surroundings.Survives self timeout scene) :
    surroundings.ending (self.recv timeout) scene = surroundings.ending (self.nextOfRx timeout) scene ↔
      surroundings.Punctual self timeout scene := by
  rw [Surroundings.Punctual, recv_stopped reopener isOpen stopped, nextOfRx_stopped isOpen stopped]
  cases ended : surroundings.ending self.ensureSessionAlive scene with
  | none => simp
  | some reconnected =>
    simp only [Option.bind_some, Option.some.injEq, forall_eq', resumed_agree stopped survives ended]
    cases resumed surroundings (fun _ => starting self >>= fun _ => next timeout) reconnected with
    | none => simp
    | some rest =>
      simp only [Option.map_some, Option.some.injEq, Option.isSome_some, forall_const, Prod.map, Prod.mk.injEq,
        stamp_inj, true_and]

/-- `recv` agrees with `next(iter(rx()))` if and only if the session is alive or RX not
started when they are called, and the session alive when the wait ends. The stamps agree
too if and only if, on a session that is not alive, the clock stands still. -/
theorem recv_agrees_iff (reopener : self.reopener = some settings) (isOpen : scene.Open) (timeout : Option Rat) :
    (surroundings.Agrees Scene.unstamped self timeout scene ↔
      (surroundings.Living scene ∨ scene.attributes.rxStarted = false) ∧ surroundings.Survives self timeout scene) ∧
    (surroundings.Agrees id self timeout scene ↔
      (surroundings.Living scene ∨
        scene.attributes.rxStarted = false ∧ surroundings.Punctual self timeout scene) ∧
      surroundings.Survives self timeout scene) := by
  refine ⟨⟨survives_of_agrees isOpen, ?_⟩, ⟨?_, ?_⟩⟩
  · intro ⟨entry, survives⟩
    refine agrees_of_same isOpen (fun _ => rfl) survives ?_
    cases entry with
    | inl living => rw [recv_living isOpen living survives]
    | inr stopped => exact unstamped_agree reopener isOpen stopped survives
  · intro agrees
    obtain ⟨entry, survives⟩ := survives_of_agrees isOpen agrees
    refine ⟨entry.imp_right fun stopped => ⟨stopped, ?_⟩, survives⟩
    have same := agrees.same
    rw [Prod.map_id, Option.map_id] at same
    exact (same_iff_punctual reopener isOpen stopped survives).mp same
  · intro ⟨entry, survives⟩
    refine agrees_of_same isOpen (fun _ => rfl) survives ?_
    rw [Prod.map_id, Option.map_id]
    cases entry with
    | inl living => exact recv_living isOpen living survives
    | inr late => exact (same_iff_punctual reopener isOpen late.1 survives).mpr late.2

end Agreement

section Executions
open DongleLogic

/-- Sessions with an obliging device behind them. A moment counts the sessions that have
been opened and those that have died, which are the first. A wait finds no packet, and
`failing` kills the session that it is on. -/
def silent (failing : Bool) : Surroundings (Nat × Nat) where
  living moment session := decide (moment.2 ≤ session ∧ session < moment.1)
  clock _ := 0
  waitStop moment _ := moment
  openTransport moment _ _ := (.ok 0, moment)
  openSession moment _ := (moment.1, moment.1 + 1, moment.2)
  closeSession moment session := (moment.1, max moment.2 (session + 1))
  command moment session request _ :=
    (if moment.2 ≤ session ∧ session < moment.1 then obliging request else .error SessionReader.lostTransport, moment)
  nextRx moment _ _ := some (none, if failing then (moment.1, moment.1) else moment)
  answered moment session request timeout value replied := by
    by_cases alive : moment.2 ≤ session ∧ session < moment.1
    · exact decide_eq_true alive
    · rw [if_neg alive] at replied
      cases replied
  lasting moment session timeout event later waited dead := by
    cases waited
    cases failing with
    | false => exact dead
    | true => exact decide_eq_false fun alive => absurd alive.2 (Nat.not_lt_of_le alive.1)
  ends _ _ _ _ := rfl

def listener (rxStarted : Bool) (died : Nat) : Scene (Nat × Nat) where
  attributes := { session := 1, info := stockInfo, appliedConfig := some (.lora LoRaConfig.default), rxStarted }
  moment := (2, died)

/-- RX is not started on a dead session. -/
theorem recv_agrees_iff_ok :
    (silent false).Agrees Scene.unstamped ⟨some {}, 1⟩ (some 1) (listener false 2) ∧
      (silent false).Agrees id ⟨some {}, 1⟩ (some 1) (listener false 2) := by
  have survives : (silent false).Survives ⟨some {}, 1⟩ (some 1) (listener false 2) := by
    intro started event moment began waited
    cases began
    cases waited
    rfl
  have punctual : (silent false).Punctual ⟨some {}, 1⟩ (some 1) (listener false 2) := by
    intro _ reconnected ended
    cases ended
    rfl
  constructor
  · exact (recv_agrees_iff rfl ⟨rfl, rfl⟩ (some 1)).1.mpr ⟨Or.inr rfl, survives⟩
  · exact (recv_agrees_iff rfl ⟨rfl, rfl⟩ (some 1)).2.mpr ⟨Or.inr ⟨rfl, punctual⟩, survives⟩

/-- The iterator leaves the session dead that was dead before or dies in the wait. -/
theorem iterator_leaves_dead :
    ((listener true 2).Open ∧ ¬ (silent false).Agrees Scene.unstamped ⟨some {}, 1⟩ (some 1) (listener true 2)) ∧
      (listener true 0).Open ∧ ¬ (silent true).Agrees Scene.unstamped ⟨some {}, 1⟩ (some 1) (listener true 0) := by
  refine ⟨⟨⟨rfl, rfl⟩, fun agrees => ?_⟩, ⟨rfl, rfl⟩, fun agrees => ?_⟩
  · exact absurd (agrees.iterated none _ rfl) Bool.false_ne_true
  · exact absurd (agrees.iterated none _ rfl) Bool.false_ne_true

end Executions
end DongloraClient.Proofs.RxIteration
