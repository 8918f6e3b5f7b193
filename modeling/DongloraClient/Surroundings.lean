import DongloraClient.Dongle

/-! Surroundings in which one thread has a `Dongle` to itself, and `recv` beside what its
docstring says it is. -/

namespace DongloraClient
open Program

/-- What is outside the `Dongle`, at the moments `η`. Only opening, closing, a command and
a wait pass the time. A session that has just answered a command is alive. One that has
died stays dead, and a wait for its packets ends. -/
structure Surroundings (η : Type) where
  living : η → Nat → Bool
  clock : η → Rat
  waitStop : η → Rat → η
  openTransport : η → Option String → Rat → Except Exc Nat × η
  openSession : η → Nat → Nat × η
  closeSession : η → Nat → η
  command : η → Nat → (request : Request) → Option Rat → Except Exc request.Value × η
  nextRx : η → Nat → Option Rat → Option (Option RxEvent × η)
  answered : ∀ moment session request timeout value, (command moment session request timeout).1 = .ok value →
    living (command moment session request timeout).2 session = true
  lasting : ∀ moment session timeout event later, nextRx moment session timeout = some (event, later) →
    living moment session = false → living later session = false
  ends : ∀ moment session timeout, living moment session = false → (nextRx moment session timeout).isSome

structure Scene (η : Type) where
  attributes : Attributes
  locked : Bool := false
  moment : η

variable {η : Type}

namespace Scene

def assign (scene : Scene η) (change : Attributes → Attributes) : Scene η :=
  { scene with attributes := change scene.attributes }

/-- A `_last_write_time` of one's own. -/
def stamp (time : Rat) (scene : Scene η) : Scene η :=
  scene.assign fun attributes => { attributes with lastWriteTime := time }

/-- The scene but for its `_last_write_time`. -/
def unstamped : Scene η → Scene η := stamp 0

structure Open (scene : Scene η) : Prop where
  notClosed : scene.attributes.closed = false
  running : scene.attributes.keepaliveStop = false

end Scene

namespace Surroundings

variable (surroundings : Surroundings η)

def respond (scene : Scene η) : (op : Op) → Option (Reply op × Scene η)
  | .read => some (scene.attributes, scene)
  | .assign change => some ((), scene.assign change)
  | .acquire => if scene.locked then none else some ((), { scene with locked := true })
  | .release => some ((), { scene with locked := false })
  | .now => some (surroundings.clock scene.moment, scene)
  | .waitStop timeout =>
    some (scene.attributes.keepaliveStop, { scene with moment := surroundings.waitStop scene.moment timeout })
  | .openTransport port timeout =>
    let (transport, moment) := surroundings.openTransport scene.moment port timeout
    some (transport, { scene with moment })
  | .openSession transport =>
    let (session, moment) := surroundings.openSession scene.moment transport
    some (session, { scene with moment })
  | .isAlive session => some (surroundings.living scene.moment session, scene)
  | .closeSession session => some ((), { scene with moment := surroundings.closeSession scene.moment session })
  | .command session request timeout =>
    let (answer, moment) := surroundings.command scene.moment session request timeout
    some (answer, { scene with moment })
  | .nextRx session timeout =>
    (surroundings.nextRx scene.moment session timeout).map fun (event, moment) => (event, { scene with moment })

/-- How a call ends, and where. -/
def ending (program : Python α) (scene : Scene η) : Option (Except Exc α × Scene η) :=
  outcome surroundings.respond program scene

/-- The session of the `Dongle` is alive. -/
def Living (scene : Scene η) : Prop := surroundings.living scene.moment scene.attributes.session = true

end Surroundings

/-- `next(iter(d.rx(timeout)))`. -/
def Dongle.nextOfRx (self : Dongle) (timeout : Option Rat) : Python (Option RxEvent) := do
  next (← self.rx timeout)

/-- The two receive paths have one outcome and leave the same of the `Dongle` in view, and
with a live session if they return. -/
structure Surroundings.Agrees (surroundings : Surroundings η) (view : Scene η → Scene η) (dongle : Dongle)
    (timeout : Option Rat) (scene : Scene η) : Prop where
  same : (surroundings.ending (dongle.recv timeout) scene).map (Prod.map id view) =
    (surroundings.ending (dongle.nextOfRx timeout) scene).map (Prod.map id view)
  received : ∀ event last, surroundings.ending (dongle.recv timeout) scene = some (.ok event, last) →
    surroundings.Living last
  iterated : ∀ event last, surroundings.ending (dongle.nextOfRx timeout) scene = some (.ok event, last) →
    surroundings.Living last

/-- The session on which RX is running is alive when the wait for a packet ends. -/
def Surroundings.Survives (surroundings : Surroundings η) (self : Dongle) (timeout : Option Rat) (scene : Scene η) :
    Prop :=
  ∀ started event moment, surroundings.ending self.startRx scene = some (.ok (), started) →
    surroundings.nextRx started.moment started.attributes.session timeout = some (event, moment) →
    surroundings.living moment started.attributes.session = true

/-- The time at which a call of `_mark_write` after a reconnect would stamp it, or the
stamp there is if an exception comes before the call. -/
def Surroundings.stampAfter (surroundings : Surroundings η) : Except Exc Unit × Scene η → Rat
  | (.ok (), last) => surroundings.clock last.moment
  | (.error _, last) => last.attributes.lastWriteTime

/-- It makes no difference to `_last_write_time` whether the reconnect comes before or
after the stamp. -/
def Surroundings.Punctual (surroundings : Surroundings η) (self : Dongle) (timeout : Option Rat) (scene : Scene η) :
    Prop :=
  (surroundings.ending (self.recv timeout) scene).isSome →
    ∀ reconnected, surroundings.ending self.ensureSessionAlive scene = some reconnected →
      surroundings.stampAfter reconnected = surroundings.clock scene.moment

end DongloraClient
