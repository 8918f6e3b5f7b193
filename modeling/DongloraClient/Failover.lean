import DongloraClient.Dongle
import DongloraClient.Foundation.Transition

/-! The surroundings of one thread whose session fails under a call, and whose reopener
works. What the failing session replies is left open. -/

namespace DongloraClient
open Transition

/-- `living` is what `is_alive` of the failing session says before the first command of
the call is sent on it, and `lasting` what it says after that. `attempt` has the outcome
of that command, and `further` those of any others. The sessions that are opened to
replace it have `device` behind them. -/
structure Failover where
  session : Nat
  sent : Nat
  living : Bool
  attempt : (request : Request) → Except Exc request.Value
  lasting : Bool
  further : (request : Request) → Except Exc request.Value
  transport : Nat
  device : (request : Request) → Except Exc request.Value
  clock : World → Rat

namespace Failover

variable (failover : Failover)

def isAlive (world : World) (session : Nat) : Bool :=
  if session = failover.session then
    if world.history.length = failover.sent then failover.living else failover.lasting
  else world.alive session

def answer (world : World) (session : Nat) (request : Request) : Except Exc request.Value :=
  if session = failover.session then
    if world.history.length = failover.sent then failover.attempt request else failover.further request
  else failover.device request

def reply (world : World) : (op : Op) → Option (Reply op)
  | .read => some world.attributes
  | .acquire => if world.locked then none else some ()
  | .assign _ | .release | .closeSession _ => some ()
  | .now => some (failover.clock world)
  | .waitStop _ => some world.attributes.keepaliveStop
  | .openTransport _ _ => some (.ok failover.transport)
  | .openSession _ => some world.opened
  | .isAlive session => some (failover.isAlive world session)
  | .command session request _ => some (failover.answer world session request)
  | .nextRx _ _ => some none

def respond (world : World) (op : Op) : Option (Reply op × World) :=
  (failover.reply world op).map fun answer => (answer, world.after op answer)

end Failover

/-- The call begins while the `Dongle` is open and no other thread reconnects. -/
structure Failover.Begins (failover : Failover) (world : World) : Prop where
  installed : world.attributes.session = failover.session
  notClosed : world.attributes.closed = false
  running : world.attributes.keepaliveStop = false
  unlocked : world.locked = false
  placed : failover.session < world.opened
  sent : world.history.length = failover.sent

/-- The reopener yields a configured session on which the packet is transmitted. -/
structure Failover.Healthy (failover : Failover) (settings : Settings) (data : Wire.Bytes) (skipCad : Bool)
    (done : TxDone) : Prop where
  ready : ∃ info, failover.device .getInfo = .ok (some info) ∧ info.protoMajor = 1 ∧
    ∀ requested, settings.requested = some requested → ∃ prepared result,
      prepareConfig info requested = .ok prepared ∧ failover.device (.setConfig prepared) = .ok result
  receives : failover.device .rxStart = .ok ()
  transmits : failover.device (.transmit data skipCad) = .ok done

/-- The attempt to transmit on the failing session, as the command `id` of a run in which
all its threads take part, and the session when the handler of `_with_recovery` looks. -/
structure Failover.Attempts (failover : Failover) (cobs : Cobs.Codec) (data : Wire.Bytes) (skipCad : Bool) (id : Nat)
    (steps : List Step) (atCheck entered ended atLook : Session) : Prop where
  begun : Session.step cobs atCheck (.begin id (.transmit data skipCad) true) = some entered
  attempt : Run (Steps (Session.step cobs)) entered steps ended
  finished : (ended.calls id).pc = .finished ((failover.attempt (.transmit data skipCad)).map .txDone)
  look : ∃ later, Run (Steps (Session.step cobs)) ended later atLook
  lasting : failover.lasting = atLook.isAlive

/-- What the failing session replies comes from one run of it. -/
structure Failover.Lives (failover : Failover) (cobs : Cobs.Codec) (data : Wire.Bytes) (skipCad : Bool) (id : Nat)
    (steps : List Step) (atCheck entered ended atLook : Session) : Prop where
  check : ∃ earlier, Run (Steps (Session.step cobs)) {} earlier atCheck
  living : failover.living = atCheck.isAlive
  attempts : atCheck.isAlive = true → failover.Attempts cobs data skipCad id steps atCheck entered ended atLook

end DongloraClient
