import DongloraClient.Connect

/-! The methods of `Dongle`. They are run by one thread at a time. -/

namespace DongloraClient
open Python

/-- What a `Dongle` is built with and never reassigns. Its reopener, if it has one, is
the `_open_and_init` of the `connect` call that built it. `attempts` bounds the attempts
of one reconnect. -/
structure Dongle where
  reopener : Option Settings
  attempts : Nat

namespace Dongle

variable (self : Dongle)

/-- The property `config`. -/
def config (world : World) : Option Modulation := world.attributes.appliedConfig

/-- `__init__`. -/
def init (session : Nat) (info : Info) (appliedConfig : Option Modulation) : Python Unit := do
  let lastWriteTime ← now
  assign fun _ => { session, info, appliedConfig, lastWriteTime }

def checkOpen : Python Unit := do
  if ← read Attributes.closed then throw (.dongloraError "dongle is closed")

def markWrite : Python Unit := do
  let time ← now
  assign fun attributes => { attributes with lastWriteTime := time }

/-- The reopener's result, or `none` for an exception that the reconnect loop retries. -/
def reopen (settings : Settings) : Python (Option Bringup) :=
  tryCatch (do return some (← openAndInit settings)) fun exc =>
    if exc.isDonglora || exc.isOSError then return none else throw exc

/-- Restart RX if the caller had it running. -/
def restartRx (newSession : Nat) : Python Unit := do
  if ← read Attributes.rxStarted then
    tryCatch (rxStart newSession) fun exc =>
      if exc.isDonglora then assign fun attributes => { attributes with rxStarted := false }
      else throw exc

/-- The body of the reconnect loop once the reopener has succeeded. -/
def install (newSession : Nat) (newInfo : Info) (applied : Option Modulation) : Python Unit := do
  assign fun attributes => { attributes with session := newSession }
  assign fun attributes => { attributes with info := newInfo }
  match applied with
  | some config => assign fun attributes => { attributes with appliedConfig := some config }
  | none => pure ()
  restartRx newSession

/-- The `while` loop of `_recover_session_locked`. -/
def reconnect (settings : Settings) : Nat → Rat → Python Unit
  | 0, _ => unfinished
  | attempts + 1, backoff => do
    if (← read Attributes.closed) || (← read Attributes.keepaliveStop) then return ()
    else match ← reopen settings with
    | some (newSession, newInfo, applied) => install newSession newInfo applied
    | none =>
      if ← waitStop backoff then return ()
      else reconnect settings attempts (min (backoff * (3 / 2)) 2)

/-- `_recover_session_locked`. Its assertion that there is a reopener is its argument. -/
def recoverSessionLocked (settings : Settings) : Python Unit := do
  closeSession (← read Attributes.session)
  reconnect settings self.attempts (1 / 2)

def ensureSessionAlive : Python Unit := do
  if ← isAlive (← read Attributes.session) then return ()
  else match self.reopener with
  | none => throw (.dongloraError "session closed; no reopener configured")
  | some settings =>
    withLock do
      -- Another thread may have reconnected before the lock was free.
      if ← isAlive (← read Attributes.session) then return ()
      else self.recoverSessionLocked settings

/-- `self._session.set_config(self._applied_config)`. -/
def reapplyConfig : Python Unit := do
  let session ← read Attributes.session
  match ← read Attributes.appliedConfig with
  | some config => let _ ← setConfig session config
  | none => throw (.typeError "unknown modulation type: <class 'NoneType'>")

def withRecovery (op : Python α) : Python α := do
  self.ensureSessionAlive
  tryCatch op fun exc => do
    if exc.isNotConfigured then
      if (← read Attributes.appliedConfig).isNone then throw exc
      else
        reapplyConfig
        op
    else if exc.isDonglora then
      if !(← isAlive (← read Attributes.session)) && self.reopener.isSome then
        self.ensureSessionAlive
        op
      else throw exc
    else throw exc

def tx (data : Wire.Bytes) (skipCad : Bool) (timeout : Rat) : Python TxDone := do
  checkOpen
  markWrite
  self.withRecovery do transmit (← read Attributes.session) data skipCad timeout

/-- The lazy `RX_START` of `rx` and `recv`. -/
def startRx : Python Unit := do
  if !(← read Attributes.rxStarted) then
    markWrite
    self.withRecovery do rxStart (← read Attributes.session)
    assign fun attributes => { attributes with rxStarted := true }

/-- The iterator that `rx` returns keeps the timeout of its calls to `next`. -/
def rx (timeout : Option Rat) : Python (Option Rat) := do
  checkOpen
  self.startRx
  return timeout

/-- `_RxIterator.__next__`, where `none` is `StopIteration`. -/
def next (timeout : Option Rat) : Python (Option RxEvent) := do
  nextRx (← read Attributes.session) timeout

def recv (timeout : Option Rat) : Python (Option RxEvent) := do
  checkOpen
  self.ensureSessionAlive
  self.startRx
  let pkt ← nextRx (← read Attributes.session) timeout
  if pkt.isNone then
    if !(← isAlive (← read Attributes.session)) then self.ensureSessionAlive
  return pkt

def rxStop : Python Unit := do
  checkOpen
  self.ensureSessionAlive
  markWrite
  Python.rxStop (← read Attributes.session)
  assign fun attributes => { attributes with rxStarted := false }

def setConfig (config : Modulation) : Python Unit := do
  checkOpen
  self.ensureSessionAlive
  markWrite
  let _ ← Python.setConfig (← read Attributes.session) config
  assign fun attributes => { attributes with appliedConfig := some config }
  assign fun attributes => { attributes with rxStarted := false }

def ping : Python Unit := do
  checkOpen
  self.ensureSessionAlive
  markWrite
  Python.ping (← read Attributes.session)

def close : Python Unit := do
  if !(← read Attributes.closed) then
    assign fun attributes => { attributes with closed := true }
    assign fun attributes => { attributes with keepaliveStop := true }
    closeSession (← read Attributes.session)

/-- `_KEEPALIVE_INTERVAL_S`. -/
def keepaliveInterval : Rat := 1 / 2

/-- What `_keepalive_loop` does for `NotConfiguredError`. -/
def keepaliveReapply : Python Unit := do
  if (← read Attributes.appliedConfig).isSome then
    tryCatch reapplyConfig fun _ => return ()

/-- One iteration of `_keepalive_loop` after its wait has timed out. -/
def keepaliveIteration : Python Unit := do
  if !(← isAlive (← read Attributes.session)) && self.reopener.isSome then
    tryCatch self.ensureSessionAlive fun exc => if exc.isDonglora then return () else throw exc
  else
    let since := (← now) - (← read Attributes.lastWriteTime)
    if since < keepaliveInterval then return ()
    else
      tryCatch (do
          Python.ping (← read Attributes.session)
          markWrite)
        fun exc => if exc.isNotConfigured then keepaliveReapply else return ()

def keepaliveLoop : Nat → Python Unit
  | 0 => unfinished
  | iterations + 1 => do
    if ← waitStop keepaliveInterval then return ()
    else
      self.keepaliveIteration
      keepaliveLoop iterations

end Dongle

def connect (settings : Settings) : Python Unit := do
  let (session, info, applied) ← openAndInit settings
  Dongle.init session info applied

/-- `_session_on`. -/
def sessionOn (transport : Nat) : Python Unit := do
  let (session, info, applied) ← bringUp transport 2 (some (.lora LoRaConfig.default))
  Dongle.init session info applied

/-- What a thread can do with a `Dongle`; `keepalive` is an iteration of its own thread. -/
inductive Operation where
  | tx (data : Wire.Bytes) (skipCad : Bool) (timeout : Rat)
  | rx (timeout : Option Rat)
  | next (timeout : Option Rat)
  | recv (timeout : Option Rat)
  | rxStop
  | setConfig (config : Modulation)
  | ping
  | close
  | keepalive

namespace Dongle

def call (self : Dongle) : Operation → Python Unit
  | .tx data skipCad timeout => do let _ ← self.tx data skipCad timeout
  | .rx timeout => do let _ ← self.rx timeout
  | .next timeout => do let _ ← next timeout
  | .recv timeout => do let _ ← self.recv timeout
  | .rxStop => self.rxStop
  | .setConfig config => self.setConfig config
  | .ping => self.ping
  | .close => close
  | .keepalive => self.keepaliveIteration

/-- An operation that ends with an outcome. -/
def Ends (self : Dongle) (law : World → Exchange → Prop) (outcome : Except Exc Unit) (world : World)
    (operation : Operation) (next : World) : Prop :=
  Program.Executes (Answers law) (self.call operation).run world outcome next

/-- An operation that returns normally. -/
def Returns (self : Dongle) (law : World → Exchange → Prop) : World → Operation → World → Prop :=
  self.Ends law (.ok ())

/-- An operation that returns or raises. -/
def Completes (self : Dongle) (law : World → Exchange → Prop) (world : World) (operation : Operation)
    (next : World) : Prop :=
  ∃ outcome, self.Ends law outcome world operation next

/-- A world in which the `Dongle` does not exist yet: nothing has been exchanged and the
attributes are placeholders. -/
structure Vacant (start : World) : Prop where
  silent : start.history = []
  placed : start.attributes.session < start.opened

/-- The ways to a new `Dongle`: `connect`, the functions that call `_session_on`, and the
constructor on a session that is already open. -/
inductive Built (law : World → Exchange → Prop) : Dongle → World → Prop where
  | connect {settings : Settings} {attempts : Nat} {start world : World} : Vacant start →
      Program.Executes (Answers law) (connect settings).run start (.ok ()) world →
      Built law ⟨some settings, attempts⟩ world
  | sessionOn {transport attempts : Nat} {start world : World} : Vacant start →
      Program.Executes (Answers law) (sessionOn transport).run start (.ok ()) world →
      Built law ⟨none, attempts⟩ world
  | manual {session attempts : Nat} {info : Info} {appliedConfig : Option Modulation} {start world : World} :
      Vacant start → session < start.opened →
      Program.Executes (Answers law) (init session info appliedConfig).run start (.ok ()) world →
      Built law ⟨none, attempts⟩ world

end Dongle
end DongloraClient
