import DongloraClient.Dongle
import DongloraClient.Foundation.Transition

/-! The rules by which the methods of `Dongle` are executed symbolically: what each
request to the surroundings ensures, and which invariants a program keeps. -/

namespace DongloraClient.Proofs.DongleLogic
open Program Python

variable {law : World → Exchange → Prop} {world : World} {α β : Type}

abbrev Ensures (law : World → Exchange → Prop) (program : Python α) (returns : α → World → Prop)
    (raises : Exc → World → Prop) (world : World) : Prop :=
  Program.Ensures (Answers law) program returns raises world

section Requests
variable {raises : Exc → World → Prop}

theorem ensures_op (op : Op) {returns : Reply op → World → Prop} :
    Ensures law (Program.request op) returns raises world ↔
      ∀ reply, world.Permits law op reply → returns reply (world.after op reply) := by
  constructor
  · intro ensures reply permitted
    exact ensures reply _ ⟨permitted, rfl⟩
  · rintro holds reply middle ⟨permitted, rfl⟩
    exact holds reply permitted

@[simp] theorem ensures_read (field : Attributes → α) {returns : α → World → Prop} :
    Ensures law (Python.read field) returns raises world ↔ returns (field world.attributes) world := by
  refine (ensures_bind _ _).trans ((ensures_op .read).trans ?_)
  exact forall_eq

@[simp] theorem ensures_assign (change : Attributes → Attributes) {returns : Unit → World → Prop} :
    Ensures law (assign change) returns raises world ↔ returns () (world.assign change) :=
  (ensures_op (.assign change)).trans ⟨fun holds => holds () trivial, fun holds _ _ => holds⟩

@[simp] theorem ensures_acquire {returns : Unit → World → Prop} :
    Ensures law acquire returns raises world ↔
      (world.locked = false → returns () { world with locked := true }) :=
  (ensures_op .acquire).trans ⟨fun holds => holds (), fun holds _ => holds⟩

@[simp] theorem ensures_release {returns : Unit → World → Prop} :
    Ensures law release returns raises world ↔ returns () { world with locked := false } :=
  (ensures_op .release).trans ⟨fun holds => holds () trivial, fun holds _ _ => holds⟩

@[simp] theorem ensures_now {returns : Rat → World → Prop} :
    Ensures law now returns raises world ↔ ∀ time, returns time world :=
  (ensures_op .now).trans ⟨fun holds time => holds time trivial, fun holds time _ => holds time⟩

@[simp] theorem ensures_waitStop (timeout : Rat) {returns : Bool → World → Prop} :
    Ensures law (waitStop timeout) returns raises world ↔ returns world.attributes.keepaliveStop world :=
  (ensures_op (.waitStop timeout)).trans forall_eq

@[simp] theorem ensures_openTransport (port : Option String) (timeout : Rat) {returns : Nat → World → Prop} :
    Ensures law (openTransport port timeout) returns raises world ↔
      (∀ transport, returns transport world) ∧ ∀ exc, raises exc world := by
  constructor
  · intro ensures
    exact ⟨fun transport => ensures (.ok transport) world ⟨trivial, rfl⟩,
      fun exc => ensures (.error exc) world ⟨trivial, rfl⟩⟩
  · rintro ⟨returned, raised⟩ (exc | transport) middle ⟨_, rfl⟩
    · exact raised exc
    · exact returned transport

@[simp] theorem ensures_openSession (transport : Nat) {returns : Nat → World → Prop} :
    Ensures law (openSession transport) returns raises world ↔
      returns world.opened
        { world with alive := Function.update world.alive world.opened true, opened := world.opened + 1 } :=
  (ensures_op (.openSession transport)).trans forall_eq

@[simp] theorem ensures_isAlive (session : Nat) {returns : Bool → World → Prop} :
    Ensures law (isAlive session) returns raises world ↔
      (world.alive session = true → returns true world) ∧ returns false (world.kill session) := by
  refine (ensures_op (.isAlive session)).trans (Bool.forall_bool.trans ?_)
  simp [World.Permits, World.after, and_comm]

@[simp] theorem ensures_closeSession (session : Nat) {returns : Unit → World → Prop} :
    Ensures law (closeSession session) returns raises world ↔ returns () (world.kill session) :=
  (ensures_op (.closeSession session)).trans ⟨fun holds => holds () trivial, fun holds _ _ => holds⟩

@[simp] theorem ensures_command (session : Nat) (request : Request) (timeout : Option Rat)
    {returns : request.Value → World → Prop} :
    Ensures law (command session request timeout) returns raises world ↔
      (∀ value, law world ⟨session, request, .ok value⟩ →
        returns value (world.exchange ⟨session, request, .ok value⟩)) ∧
      ∀ exc, law world ⟨session, request, .error exc⟩ →
        raises exc (world.exchange ⟨session, request, .error exc⟩) := by
  constructor
  · intro ensures
    exact ⟨fun value allowed => ensures (.ok value) _ ⟨allowed, rfl⟩,
      fun exc allowed => ensures (.error exc) _ ⟨allowed, rfl⟩⟩
  · rintro ⟨returned, raised⟩ (exc | value) middle ⟨allowed, rfl⟩
    · exact raised exc allowed
    · exact returned value allowed

@[simp] theorem ensures_nextRx (session : Nat) (timeout : Option Rat) {returns : Option RxEvent → World → Prop} :
    Ensures law (nextRx session timeout) returns raises world ↔ ∀ event, returns event world :=
  (ensures_op (.nextRx session timeout)).trans ⟨fun holds event => holds event trivial, fun holds event _ => holds event⟩

@[simp] theorem ensures_getInfo (session : Nat) (timeout : Rat) {returns : Option Info → World → Prop} :
    Ensures law (getInfo session timeout) returns raises world ↔
      (∀ info, law world ⟨session, .getInfo, .ok info⟩ →
        returns info (world.exchange ⟨session, .getInfo, .ok info⟩)) ∧
      ∀ exc, law world ⟨session, .getInfo, .error exc⟩ →
        raises exc (world.exchange ⟨session, .getInfo, .error exc⟩) :=
  ensures_command session .getInfo (some timeout)

@[simp] theorem ensures_setConfig (session : Nat) (modulation : Modulation) (timeout : Rat)
    {returns : Option SetConfigResult → World → Prop} :
    Ensures law (Python.setConfig session modulation timeout) returns raises world ↔
      (∀ result, law world ⟨session, .setConfig modulation, .ok result⟩ →
        returns result (world.exchange ⟨session, .setConfig modulation, .ok result⟩)) ∧
      ∀ exc, law world ⟨session, .setConfig modulation, .error exc⟩ →
        raises exc (world.exchange ⟨session, .setConfig modulation, .error exc⟩) :=
  ensures_command session (.setConfig modulation) (some timeout)

@[simp] theorem ensures_transmit (session : Nat) (data : Wire.Bytes) (skipCad : Bool) (timeout : Rat)
    {returns : TxDone → World → Prop} :
    Ensures law (transmit session data skipCad timeout) returns raises world ↔
      (∀ done, law world ⟨session, .transmit data skipCad, .ok done⟩ →
        returns done (world.exchange ⟨session, .transmit data skipCad, .ok done⟩)) ∧
      ∀ exc, law world ⟨session, .transmit data skipCad, .error exc⟩ →
        raises exc (world.exchange ⟨session, .transmit data skipCad, .error exc⟩) :=
  ensures_command session (.transmit data skipCad) (some timeout)

@[simp] theorem ensures_ping (session : Nat) (timeout : Rat) {returns : Unit → World → Prop} :
    Ensures law (Python.ping session timeout) returns raises world ↔
      (∀ value, law world ⟨session, .ping, .ok value⟩ →
        returns value (world.exchange ⟨session, .ping, .ok value⟩)) ∧
      ∀ exc, law world ⟨session, .ping, .error exc⟩ →
        raises exc (world.exchange ⟨session, .ping, .error exc⟩) :=
  ensures_command session .ping (some timeout)

@[simp] theorem ensures_rxStart (session : Nat) (timeout : Rat) {returns : Unit → World → Prop} :
    Ensures law (Python.rxStart session timeout) returns raises world ↔
      (∀ value, law world ⟨session, .rxStart, .ok value⟩ →
        returns value (world.exchange ⟨session, .rxStart, .ok value⟩)) ∧
      ∀ exc, law world ⟨session, .rxStart, .error exc⟩ →
        raises exc (world.exchange ⟨session, .rxStart, .error exc⟩) :=
  ensures_command session .rxStart (some timeout)

@[simp] theorem ensures_rxStop (session : Nat) (timeout : Rat) {returns : Unit → World → Prop} :
    Ensures law (Python.rxStop session timeout) returns raises world ↔
      (∀ value, law world ⟨session, .rxStop, .ok value⟩ →
        returns value (world.exchange ⟨session, .rxStop, .ok value⟩)) ∧
      ∀ exc, law world ⟨session, .rxStop, .error exc⟩ →
        raises exc (world.exchange ⟨session, .rxStop, .error exc⟩) :=
  ensures_command session .rxStop (some timeout)

@[simp] theorem ensures_closingOnError (session : Nat) (body : Python α) {returns : α → World → Prop} :
    Ensures law (closingOnError session body) returns raises world ↔
      Ensures law body returns
        (fun exc middle => raises exc (if exc.isDonglora then middle.kill session else middle)) world := by
  refine (ensures_tryCatch body _).trans (iff_of_eq ?_)
  congr 1
  funext exc middle
  cases donglora : exc.isDonglora <;> simp

@[simp] theorem ensures_withLock (body : Python α) {returns : α → World → Prop} :
    Ensures law (withLock body) returns raises world ↔
      (world.locked = false → Ensures law body (fun value middle => returns value { middle with locked := false })
        (fun exc middle => raises exc { middle with locked := false }) { world with locked := true }) := by
  simp only [withLock, ensures_bind, ensures_acquire, ensures_tryCatch, ensures_release, ensures_throw, ensures_pure]

@[simp] theorem ensures_liftExcept (result : Except Exc α) {returns : α → World → Prop} :
    Ensures law (liftExcept result : Python α) returns raises world ↔
      (∀ value, result = .ok value → returns value world) ∧ ∀ exc, result = .error exc → raises exc world := by
  cases result <;> simp [liftExcept]

@[simp] theorem ensures_unfinished {returns : α → World → Prop} :
    Ensures law (Python.unfinished : Python α) returns raises world :=
  trivial

end Requests

/-- An invariant that does not depend on which sessions are alive, on the time of the last
write and on whether the `Dongle` is closed. -/
structure Indifferent (invariant : World → Prop) : Prop where
  kill : ∀ world session, invariant world → invariant (world.kill session)
  mark : ∀ world time, invariant world →
    invariant (world.assign fun attributes => { attributes with lastWriteTime := time })
  close : ∀ world, invariant world → invariant (world.assign fun attributes => { attributes with closed := true })
  stop : ∀ world, invariant world →
    invariant (world.assign fun attributes => { attributes with keepaliveStop := true })

section Invariants
variable {invariant : World → Prop} {raises : Exc → World → Prop}

theorem read_keeps (field : Attributes → α) : Keeps (Answers law) invariant raises (Python.read field) :=
  fun _ holds => (ensures_read field).mpr holds

theorem now_keeps : Keeps (Answers law) invariant raises now :=
  fun _ holds => ensures_now.mpr fun _ => holds

theorem nextRx_keeps (session : Nat) (timeout : Option Rat) :
    Keeps (Answers law) invariant raises (nextRx session timeout) :=
  fun _ holds => (ensures_nextRx session timeout).mpr fun _ => holds

theorem checkOpen_keeps (raised : ∀ exc world, invariant world → raises exc world) :
    Keeps (Answers law) invariant raises Dongle.checkOpen :=
  (read_keeps _).bind fun _ => .ite (.throw (raised _)) (.pure ())

namespace Indifferent

theorem isAlive_keeps (indifferent : Indifferent invariant) (session : Nat) :
    Keeps (Answers law) invariant raises (isAlive session) :=
  fun world holds => (ensures_isAlive session).mpr ⟨fun _ => holds, indifferent.kill world session holds⟩

theorem markWrite_keeps (indifferent : Indifferent invariant) :
    Keeps (Answers law) invariant raises Dongle.markWrite :=
  now_keeps.bind fun time world holds => (ensures_assign _).mpr (indifferent.mark world time holds)

theorem close_keeps (indifferent : Indifferent invariant) :
    Keeps (Answers law) invariant raises Dongle.close := by
  intro world holds
  simp only [Dongle.close, ensures_bind, ensures_read, ensures_ite, ensures_assign, ensures_closeSession, ensures_pure]
  refine ⟨fun _ => indifferent.kill _ _ (indifferent.stop _ (indifferent.close world holds)), fun _ => holds⟩

/-- `rx_stop`, `set_config` and `ping` enter in the same way. -/
theorem entered_keeps (indifferent : Indifferent invariant) {self : Dongle} {body : Python α}
    (raised : ∀ exc world, invariant world → raises exc world)
    (revives : Keeps (Answers law) invariant raises self.ensureSessionAlive)
    (kept : Keeps (Answers law) invariant raises body) :
    Keeps (Answers law) invariant raises (do
      Dongle.checkOpen
      self.ensureSessionAlive
      Dongle.markWrite
      body) :=
  (checkOpen_keeps raised).bind fun _ => revives.bind fun _ => indifferent.markWrite_keeps.bind fun _ => kept

theorem recv_keeps (indifferent : Indifferent invariant) {self : Dongle}
    (raised : ∀ exc world, invariant world → raises exc world)
    (revives : Keeps (Answers law) invariant raises self.ensureSessionAlive)
    (starts : Keeps (Answers law) invariant raises self.startRx) (timeout : Option Rat) :
    Keeps (Answers law) invariant raises (self.recv timeout) :=
  (checkOpen_keeps raised).bind fun _ => revives.bind fun _ => starts.bind fun _ =>
    (read_keeps _).bind fun session => (nextRx_keeps session timeout).bind fun _ => .ite
      ((read_keeps _).bind fun session => (indifferent.isAlive_keeps session).bind fun _ =>
        .ite (revives.bind fun _ => .pure _) (.pure _))
      (.pure _)

end Indifferent
end Invariants

section Executions
/-! Runs by evaluation. -/

variable {device : World → (request : Request) → Except Exc request.Value}

theorem executes (lawful : ∀ world session request, law world ⟨session, request, device world request⟩)
    {program : Python α} {value : Except Exc α} {last : World}
    (executed : Program.execute (respond device) program.run world = some (value, last)) :
    Executes (Answers law) program.run world value last :=
  execute_executes (respond_answers lawful) executed

def returning (device : World → (request : Request) → Except Exc request.Value) (self : Dongle) (world : World)
    (operation : Operation) : Option World :=
  match Program.execute (respond device) (self.call operation).run world with
  | some (.ok (), next) => some next
  | _ => none

theorem run_returning (lawful : ∀ world session request, law world ⟨session, request, device world request⟩)
    {self : Dongle} {operations : List Operation} {β : Type} {summary : World → β} {value : β}
    (computed : (Transition.execute (returning device self) world operations).map summary = some value) :
    ∃ last, Transition.Run (self.Returns law) world operations last ∧ summary last = value := by
  obtain ⟨last, run, same⟩ := Transition.execute_summary computed
  refine ⟨last, run.mono fun before operation next taken => ?_, same⟩
  unfold Transition.Steps returning at taken
  split at taken
  next middle executed =>
    cases taken
    exact executes lawful executed
  next => cases taken

theorem completes_of_returns {self : Dongle} {operations : List Operation} {last : World}
    (run : Transition.Run (self.Returns law) world operations last) :
    Transition.Run (self.Completes law) world operations last :=
  run.mono fun _ _ _ returned => ⟨.ok (), returned⟩

def stockInfo : Info where
  protoMajor := 1
  protoMinor := 0
  fwMajor := 1
  fwMinor := 0
  fwPatch := 0
  radioChipId := 1
  capabilityBitmap := 1
  supportedSfBitmap := 0x1FE0
  supportedBwBitmap := 0x03FF
  maxPayloadBytes := 255
  rxQueueCapacity := 8
  txQueueCapacity := 8
  freqMinHz := 863000000
  freqMaxHz := 928000000
  txPowerMinDbm := -9
  txPowerMaxDbm := 22
  mcuUid := []
  radioUid := []

/-- A device that does what it is asked. -/
def obliging : (request : Request) → Except Exc request.Value
  | .ping | .rxStart | .rxStop => .ok ()
  | .getInfo => .ok (some stockInfo)
  | .setConfig modulation => .ok (some ⟨.applied, .mine, modulation⟩)
  | .transmit _ _ => .ok ⟨.transmitted, 30976⟩

def unconnected : World where
  attributes := { session := 0, info := stockInfo, appliedConfig := none }
  opened := 1

theorem unconnected_vacant : Dongle.Vacant unconnected := ⟨rfl, Nat.one_pos⟩

def connected : World where
  attributes := { session := 1, info := stockInfo, appliedConfig := some (.lora LoRaConfig.default) }
  alive := Function.update (fun _ => false) 1 true
  opened := 2
  history := [
    ⟨1, .setConfig (.lora LoRaConfig.default), .ok (some ⟨.applied, .mine, .lora LoRaConfig.default⟩)⟩,
    ⟨1, .getInfo, .ok (some stockInfo)⟩]

theorem connect_connected :
    Program.execute (respond fun _ => obliging) (connect {}).run unconnected = some (.ok (), connected) := rfl

def customConfig : Modulation := .lora { LoRaConfig.default with freqHz := 915000000, sf := 10 }

end Executions

end DongloraClient.Proofs.DongleLogic
