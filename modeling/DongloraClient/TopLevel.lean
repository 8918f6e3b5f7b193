import DongloraClient.Dongle
import DongloraClient.Foundation.Threads

/-! The functions of `_top_level`, and the one `Dongle` that all threads of a process share
through them. -/

namespace DongloraClient

/-- What a method of the default `Dongle` returns. -/
inductive MethodValue where
  | sent (done : TxDone)
  | iterator (timeout : Option Rat)
  | packet (event : Option RxEvent)
  deriving DecidableEq

/-- What the code asks of the rest of the process. Calling a method of `None` is one of the
things that it could ask. -/
inductive TopOp where
  | acquire
  | release
  | readDefault
  | assignDefault (value : Option Nat)
  | connect
  | register
  | closeDongle (dongle : Nat)
  | operate (dongle : Option Nat) (operation : Operation)

def TopReply : TopOp → Type
  | .readDefault => Option Nat
  | .connect => Except Exc Nat
  | .closeDongle _ => Except Exc Unit
  | .operate _ _ => Except Exc MethodValue
  | .acquire | .release | .assignDefault _ | .register => Unit

abbrev TopLevel := ExceptT Exc (Program TopOp TopReply)

namespace TopLevel

variable {α : Type}

def acquire : TopLevel Unit := Program.request TopOp.acquire

def release : TopLevel Unit := Program.request TopOp.release

def readDefault : TopLevel (Option Nat) := Program.request TopOp.readDefault

def assignDefault (value : Option Nat) : TopLevel Unit := Program.request (TopOp.assignDefault value)

def connect : TopLevel Nat := ExceptT.mk (.perform .connect .pure)

/-- `atexit.register(_cleanup)`. -/
def register : TopLevel Unit := Program.request TopOp.register

def closeDongle (dongle : Nat) : TopLevel Unit := ExceptT.mk (.perform (.closeDongle dongle) .pure)

def operate (dongle : Option Nat) (operation : Operation) : TopLevel MethodValue :=
  ExceptT.mk (.perform (.operate dongle operation) .pure)

/-- `with _lock:`. -/
def withLock (body : TopLevel α) : TopLevel α := do
  acquire
  let value ← tryCatch body fun exc => do
    release
    throw exc
  release
  return value

/-- `_get_default`. -/
def getDefault : TopLevel (Option Nat) :=
  withLock do
    if (← readDefault).isNone then
      let dongle ← connect
      assignDefault (some dongle)
      register
    readDefault

/-- `_cleanup`. -/
def cleanup : TopLevel Unit := do
  let dongle ← withLock do
    let dongle ← readDefault
    assignDefault none
    return dongle
  match dongle with
  | some dongle => tryCatch (closeDongle dongle) fun _ => return ()
  | none => return ()

def tx (data : Wire.Bytes) (skipCad : Bool := false) (timeout : Rat := 10) : TopLevel MethodValue := do
  operate (← getDefault) (.tx data skipCad timeout)

def rx (timeout : Option Rat := none) : TopLevel MethodValue := do
  operate (← getDefault) (.rx timeout)

def recv (timeout : Option Rat := none) : TopLevel MethodValue := do
  operate (← getDefault) (.recv timeout)

def close : TopLevel Unit := cleanup

end TopLevel

/-- What `_lock` guards: `_default`, how many dongles `connect` has returned and how many
times `_cleanup` has been registered. `cleared` has the dongles that were taken out of
`_default`, each with the thread that did it. -/
structure Defaults where
  default : Option Nat := none
  made : Nat := 0
  hooks : Nat := 0
  cleared : List (Nat × Nat) := []

/-- `holder` owns the lock. `closed` has the dongles that a thread has called `close` on,
`left` what `_default` was when a thread last released the lock. -/
structure Process where
  defaults : Defaults := {}
  holder : Option Nat := none
  closed : List (Nat × Nat) := []
  left : Nat → Option Nat := fun _ => none

def Defaults.assign (thread : Nat) (defaults : Defaults) : Option Nat → Defaults
  | some dongle => { defaults with default := some dongle }
  | none => { defaults with default := none, cleared := defaults.default.toList.map (thread, ·) ++ defaults.cleared }

namespace Process

def after (thread : Nat) (process : Process) : (op : TopOp) → TopReply op → Process
  | .acquire, _ => { process with holder := some thread }
  | .release, _ => { process with holder := none, left := Function.update process.left thread process.defaults.default }
  | .assignDefault value, _ => { process with defaults := process.defaults.assign thread value }
  | .connect, .ok dongle => { process with defaults := { process.defaults with made := dongle + 1 } }
  | .register, _ => { process with defaults := { process.defaults with hooks := process.defaults.hooks + 1 } }
  | .closeDongle dongle, _ => { process with closed := (thread, dongle) :: process.closed }
  | .connect, .error _ | .readDefault, _ | .operate _ _, _ => process

/-- Dongles are numbered as `connect` returns them. -/
def Permits (process : Process) : (op : TopOp) → TopReply op → Prop
  | .acquire, _ => process.holder = none
  | .readDefault, value => value = process.defaults.default
  | .connect, .ok dongle => dongle = process.defaults.made
  | .connect, .error _ | .release, _ | .assignDefault _, _ | .register, _ | .closeDongle _, _ | .operate _ _, _ => True

end Process

/-- What a thread can do with the module. A callback of `atexit` does what `close` does. -/
inductive TopCall where
  | tx (data : Wire.Bytes) (skipCad : Bool) (timeout : Rat)
  | rx (timeout : Option Rat)
  | recv (timeout : Option Rat)
  | close

namespace TopCall

def serve : TopCall → TopLevel (Option MethodValue)
  | .tx data skipCad timeout => some <$> TopLevel.tx data skipCad timeout
  | .rx timeout => some <$> TopLevel.rx timeout
  | .recv timeout => some <$> TopLevel.recv timeout
  | .close => do
    TopLevel.close
    return none

def system : Threads.System TopOp TopReply Process TopCall Empty (Except Exc (Option MethodValue)) where
  program call := call.serve.run
  starts _ _ := True
  answers thread process op reply next := process.Permits op reply ∧ next = process.after thread op reply
  stirs _ _ _ := False

end TopCall

abbrev TopPool := Threads.Pool TopOp TopReply Process TopCall (Except Exc (Option MethodValue))

abbrev TopEvent := Threads.Event TopOp TopReply TopCall Empty (Except Exc (Option MethodValue))

/-- No thread has used the module yet. -/
def TopPool.fresh : TopPool := ⟨{}, fun _ => none⟩

end DongloraClient
