import DongloraClient.Dongle
import DongloraClient.Foundation.Threads

/-! One `Dongle` in the hands of any number of threads, its keepalive thread among them.
Each request of a method is one step. Sessions die and packets arrive between any two. -/

namespace DongloraClient

/-- What the threads share: the attributes of the `Dongle`, the owner of `_recover_lock`,
and of every session whether its reader has died, whether `close` has been called on it,
and its queue. `installs` has every value of `_session`, the latest first. -/
structure Shared where
  attributes : Attributes
  holder : Option Nat := none
  opened : Nat
  readerDead : Nat → Bool := fun _ => false
  shut : Nat → Bool := fun _ => false
  queue : Nat → List RxEvent := fun _ => []
  installs : List Nat

namespace Shared

/-- The session that is installed. -/
def current (shared : Shared) : Nat := shared.attributes.session

def isAlive (shared : Shared) (session : Nat) : Bool := !shared.readerDead session && !shared.shut session

def assign (shared : Shared) (change : Attributes → Attributes) : Shared :=
  let attributes := change shared.attributes
  { shared with
    attributes
    installs := if attributes.session = shared.current then shared.installs else attributes.session :: shared.installs }

def after (thread : Nat) (shared : Shared) : (op : Op) → Reply op → Shared
  | .assign change, _ => shared.assign change
  | .acquire, _ => { shared with holder := some thread }
  | .release, _ => { shared with holder := none }
  | .openSession _, session => { shared with opened := session + 1 }
  | .closeSession session, _ => { shared with shut := Function.update shared.shut session true }
  | .nextRx session _, some _ =>
    { shared with queue := Function.update shared.queue session (shared.queue session).tail }
  | .nextRx _ _, none | .read, _ | .now, _ | .waitStop _, _ | .openTransport _ _, _ | .isAlive _, _
  | .command _ _ _, _ => shared

/-- Which replies a request can get. A session number is given out once. An empty queue
gives nothing after a timeout, or once the reader has left its sentinel. -/
def Permits (shared : Shared) : (op : Op) → Reply op → Prop
  | .read, attributes => attributes = shared.attributes
  | .acquire, _ => shared.holder = none
  | .waitStop _, stopped => stopped = shared.attributes.keepaliveStop
  | .openSession _, session => session = shared.opened
  | .isAlive session, living => living = shared.isAlive session
  | .nextRx session _, some event => (shared.queue session).head? = some event
  | .nextRx session timeout, none =>
    shared.queue session = [] ∧ (timeout.isSome = true ∨ shared.readerDead session = true)
  | .assign _, _ | .release, _ | .now, _ | .openTransport _ _, _ | .closeSession _, _ | .command _ _ _, _ => True

def Answers (thread : Nat) (shared : Shared) (op : Op) (reply : Reply op) (next : Shared) : Prop :=
  shared.Permits op reply ∧ next = shared.after thread op reply

end Shared

/-- What no thread of the `Dongle` does: a reader exits, or puts a packet on its queue
before that. -/
inductive Disturbance where
  | die (session : Nat)
  | arrive (session : Nat) (event : RxEvent)
  deriving DecidableEq, Repr

namespace Shared

def stir (shared : Shared) : Disturbance → Option Shared
  | .die session =>
    if session < shared.opened then
      some { shared with readerDead := Function.update shared.readerDead session true }
    else none
  | .arrive session event =>
    if session < shared.opened ∧ shared.readerDead session = false then
      some { shared with queue := Function.update shared.queue session (shared.queue session ++ [event]) }
    else none

/-- The keepalive thread begins an iteration only if its wait has not found it stopped. -/
def Starts (shared : Shared) : Operation → Prop
  | .keepalive => shared.attributes.keepaliveStop = false
  | _ => True

/-- The surroundings that a `Dongle` has just been built in. -/
def of (world : World) : Shared where
  attributes := world.attributes
  opened := world.opened
  readerDead session := decide (session < world.opened) && !world.alive session
  installs := [world.attributes.session]

end Shared

namespace Dongle

variable (self : Dongle)

/-- An operation with the packet it returns. -/
def serve : Operation → Python (Option RxEvent)
  | .next timeout => next timeout
  | .recv timeout => self.recv timeout
  | operation => do
    self.call operation
    return none

def system : Threads.System Op Reply Shared Operation Disturbance (Except Exc (Option RxEvent)) where
  program operation := (self.serve operation).run
  starts := Shared.Starts
  answers := Shared.Answers
  stirs shared disturbance next := shared.stir disturbance = some next

/-- The pool before the first operation. -/
structure Started (dongle : Dongle) (start : Shared) : Prop where
  notClosed : start.attributes.closed = false
  unlocked : start.holder = none
  placed : start.current < start.opened
  installed : start.installs = [start.current]
  unshut : dongle.reopener.isSome = true → start.shut start.current = false
  fresh : ∀ session, start.opened ≤ session →
    start.readerDead session = false ∧ start.shut session = false ∧ start.queue session = []

end Dongle

/-- The threads of a `Dongle`. -/
abbrev Threading := Threads.Pool Op Reply Shared Operation (Except Exc (Option RxEvent))

abbrev ThreadEvent := Threads.Event Op Reply Operation Disturbance (Except Exc (Option RxEvent))

/-- The runs in which any threads do anything with a `Dongle` from a state in which none
does. -/
abbrev Dongle.Runs (self : Dongle) (start : Shared) (events : List ThreadEvent) (pool : Threading) : Prop :=
  Transition.Run (Threads.Step self.system) ⟨start, fun _ => none⟩ events pool


/-! Surroundings that decide, with a device that answers every command the same way. -/

namespace Shared

variable (device : (request : Request) → Except Exc request.Value)

def reply (shared : Shared) : (op : Op) → Option (Reply op)
  | .read => some shared.attributes
  | .acquire => if shared.holder = none then some () else none
  | .assign _ | .release | .closeSession _ => some ()
  | .now => some 0
  | .waitStop _ => some shared.attributes.keepaliveStop
  | .openTransport _ _ => some (.ok 0)
  | .openSession _ => some shared.opened
  | .isAlive session => some (shared.isAlive session)
  | .command _ request _ => some (device request)
  | .nextRx session timeout =>
    match shared.queue session with
    | event :: _ => some (some event)
    | [] => if timeout.isSome || shared.readerDead session then some none else none

/-- What a schedule of a `Dongle` runs on. `admits` may refuse a step. -/
def scheduler (admits : Threading → Threading → Bool) :
    Threads.Scheduler Op Reply Shared Operation Disturbance (Except Exc (Option RxEvent)) where
  starts shared operation :=
    match operation with
    | .keepalive => !shared.attributes.keepaliveStop
    | _ => true
  respond thread shared op := (shared.reply device op).map fun answer => (answer, shared.after thread op answer)
  stir := stir
  admits := admits

variable {device}

theorem reply_permits {shared : Shared} {op : Op} {answer : Reply op} (replied : shared.reply device op = some answer) :
    shared.Permits op answer := by
  cases op with
  | read | waitStop | openSession | isAlive =>
    cases replied
    rfl
  | acquire =>
    simp only [reply] at replied
    split at replied
    next free => exact free
    next => cases replied
  | nextRx session timeout =>
    simp only [reply] at replied
    split at replied
    next event rest queued =>
      cases replied
      simp only [Permits, queued, List.head?_cons]
    next empty =>
      split at replied <;> cases replied
      next ended => exact ⟨empty, by simpa using ended⟩
  | assign | release | now | openTransport | closeSession | command => trivial

theorem scheduler_follows (self : Dongle) (admits : Threading → Threading → Bool) :
    (scheduler device admits).Follows self.system where
  starts shared operation started := by
    cases operation with
    | keepalive => simpa [Shared.scheduler, Dongle.system, Starts] using started
    | tx | rx | next | recv | rxStop | setConfig | ping | close => trivial
  answers thread shared op answer after responded := by
    obtain ⟨given, replied, same⟩ := Option.map_eq_some_iff.mp responded
    cases same
    exact ⟨reply_permits replied, rfl⟩
  stirs _ _ _ stirred := stirred

end Shared

end DongloraClient
