import DongloraClient.Foundation.Program
import DongloraClient.Session
import Mathlib.Data.Rat.Defs
import Mathlib.Logic.Function.Basic

/-! What the code above `Session` works with: the attributes of one `Dongle`, the sessions
opened for it and the commands sent on them. Sessions are named by number in the order in
which they are opened. -/

namespace DongloraClient

/-- What the method of `Session` for a command returns. The `None` of `get_info` and
`set_config` is an `OkValue.none`. -/
@[reducible] def Request.Value : Request → Type
  | ping | rxStart | rxStop => Unit
  | getInfo => Option Info
  | setConfig _ => Option SetConfigResult
  | transmit _ _ => TxDone

/-- One command with its outcome. -/
structure Exchange where
  session : Nat
  request : Request
  reply : Except Exc request.Value

/-- The attributes of a `Dongle` that change. -/
structure Attributes where
  session : Nat
  info : Info
  appliedConfig : Option Modulation
  rxStarted : Bool := false
  closed : Bool := false
  lastWriteTime : Rat := 0
  keepaliveStop : Bool := false
  deriving DecidableEq

/-- The requests of a thread to its surroundings. Times are in seconds. -/
inductive Op where
  | read
  | assign (change : Attributes → Attributes)
  | acquire
  | release
  | now
  | waitStop (timeout : Rat)
  | openTransport (port : Option String) (timeout : Rat)
  | openSession (transport : Nat)
  | isAlive (session : Nat)
  | closeSession (session : Nat)
  | command (session : Nat) (request : Request) (timeout : Option Rat)
  | nextRx (session : Nat) (timeout : Option Rat)

@[reducible] def Reply : Op → Type
  | .read => Attributes
  | .assign _ | .acquire | .release | .closeSession _ => Unit
  | .now => Rat
  | .waitStop _ | .isAlive _ => Bool
  | .openTransport _ _ => Except Exc Nat
  | .openSession _ => Nat
  | .command _ request _ => Except Exc request.Value
  | .nextRx _ _ => Option RxEvent

/-- `alive` is what `is_alive` may still report; `history` has the latest exchange first. -/
structure World where
  attributes : Attributes
  locked : Bool := false
  alive : Nat → Bool := fun _ => false
  opened : Nat := 0
  history : List Exchange := []

namespace World

def assign (world : World) (change : Attributes → Attributes) : World :=
  { world with attributes := change world.attributes }

def kill (world : World) (session : Nat) : World :=
  { world with alive := Function.update world.alive session false }

def exchange (world : World) (done : Exchange) : World := { world with history := done :: world.history }

def after (world : World) : (op : Op) → Reply op → World
  | .assign change, _ => world.assign change
  | .acquire, _ => { world with locked := true }
  | .release, _ => { world with locked := false }
  | .openSession _, session =>
    { world with alive := Function.update world.alive session true, opened := session + 1 }
  | .isAlive session, living => if living then world else world.kill session
  | .closeSession session, _ => world.kill session
  | .command session request _, reply => world.exchange ⟨session, request, reply⟩
  | .read, _ | .now, _ | .waitStop _, _ | .openTransport _ _, _ | .nextRx _ _, _ => world

/-- Which replies a request can get. A session may be found dead at any time and then
stays dead. A command may have any outcome that the `law` allows. -/
def Permits (law : World → Exchange → Prop) (world : World) : (op : Op) → Reply op → Prop
  | .read, attributes => attributes = world.attributes
  | .acquire, _ => world.locked = false
  | .waitStop _, stopped => stopped = world.attributes.keepaliveStop
  | .openSession _, session => session = world.opened
  | .isAlive session, living => living = true → world.alive session = true
  | .command session request _, reply => law world ⟨session, request, reply⟩
  | .assign _, _ | .release, _ | .now, _ | .openTransport _ _, _ | .closeSession _, _ | .nextRx _ _, _ => True

end World

/-- The surroundings of a single thread. -/
def Answers (law : World → Exchange → Prop) (world : World) (op : Op) (reply : Reply op) (next : World) : Prop :=
  world.Permits law op reply ∧ next = world.after op reply

/-- Devices that may answer anything. -/
def Unrestricted (_ : World) (_ : Exchange) : Prop := True

/-- Surroundings in which no transport fails and no session dies by itself. The device
behind the sessions decides about the commands. -/
def reply (device : World → (request : Request) → Except Exc request.Value) (world : World) :
    (op : Op) → Option (Reply op)
  | .read => some world.attributes
  | .acquire => if world.locked then none else some ()
  | .assign _ | .release | .closeSession _ => some ()
  | .now => some 0
  | .waitStop _ => some world.attributes.keepaliveStop
  | .openTransport _ _ => some (.ok 0)
  | .openSession _ => some world.opened
  | .isAlive session => some (world.alive session)
  | .command _ request _ => some (device world request)
  | .nextRx _ _ => some none

def respond (device : World → (request : Request) → Except Exc request.Value) (world : World) (op : Op) :
    Option (Reply op × World) :=
  (reply device world op).map fun answer => (answer, world.after op answer)

theorem respond_answers {law : World → Exchange → Prop}
    {device : World → (request : Request) → Except Exc request.Value}
    (lawful : ∀ world session request, law world ⟨session, request, device world request⟩)
    (world : World) (op : Op) (answer : Reply op) (next : World)
    (responded : respond device world op = some (answer, next)) : Answers law world op answer next := by
  obtain ⟨given, replied, same⟩ := Option.map_eq_some_iff.mp responded
  cases same
  refine ⟨?_, rfl⟩
  cases op with
  | acquire =>
    simp only [reply] at replied
    split at replied
    next => cases replied
    next free => exact Bool.eq_false_of_not_eq_true free
  | command session request timeout =>
    cases replied
    exact lawful world session request
  | read | waitStop | openSession | isAlive =>
    cases replied
    first | rfl | exact id
  | assign | release | now | openTransport | closeSession | nextRx => trivial

/-- Python code with access to one `Dongle` and its surroundings. -/
abbrev Python := ExceptT Exc (Program Op Reply)

namespace Python

def read (field : Attributes → α) : Python α := return field (← Program.request Op.read)

def assign (change : Attributes → Attributes) : Python Unit := Program.request (Op.assign change)

def acquire : Python Unit := Program.request Op.acquire

def release : Python Unit := Program.request Op.release

/-- `_now()`. -/
def now : Python Rat := Program.request Op.now

/-- `self._keepalive_stop.wait(timeout)`. -/
def waitStop (timeout : Rat) : Python Bool := Program.request (Op.waitStop timeout)

def openTransport (port : Option String) (timeout : Rat) : Python Nat :=
  ExceptT.mk (Program.perform (Op.openTransport port timeout) .pure)

/-- `Session(transport)`. -/
def openSession (transport : Nat) : Python Nat := Program.request (Op.openSession transport)

def isAlive (session : Nat) : Python Bool := Program.request (Op.isAlive session)

def closeSession (session : Nat) : Python Unit := Program.request (Op.closeSession session)

def command (session : Nat) (request : Request) (timeout : Option Rat) : Python request.Value :=
  ExceptT.mk (Program.perform (Op.command session request timeout) .pure)

def nextRx (session : Nat) (timeout : Option Rat) : Python (Option RxEvent) :=
  Program.request (Op.nextRx session timeout)

/-- A loop that has used up its bound. -/
def unfinished : Python α := ExceptT.mk .unfinished

/-! The methods of `Session`, with their default timeouts. -/

def ping (session : Nat) (timeout : Rat := 2) : Python Unit := command session .ping (some timeout)

def getInfo (session : Nat) (timeout : Rat := 2) : Python (Option Info) := command session .getInfo (some timeout)

def setConfig (session : Nat) (modulation : Modulation) (timeout : Rat := 2) : Python (Option SetConfigResult) :=
  command session (.setConfig modulation) (some timeout)

def transmit (session : Nat) (data : Wire.Bytes) (skipCad : Bool) (timeout : Rat) : Python TxDone :=
  command session (.transmit data skipCad) (some timeout)

def rxStart (session : Nat) (timeout : Rat := 2) : Python Unit := command session .rxStart (some timeout)

def rxStop (session : Nat) (timeout : Rat := 2) : Python Unit := command session .rxStop (some timeout)

/-- `with self._recover_lock:`. -/
def withLock (body : Python α) : Python α := do
  acquire
  let value ← tryCatch body fun exc => do
    release
    throw exc
  release
  return value

end Python
end DongloraClient
