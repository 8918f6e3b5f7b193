import DongloraClient.World

/-! What the exchanges with the devices behind a `Dongle`'s sessions leave behind. -/

namespace DongloraClient

namespace Exchange

def info : Exchange → Option Info
  | ⟨_, .getInfo, .ok info⟩ => info
  | _ => none

/-- The configuration of an acknowledged `SET_CONFIG`. -/
def applied : Exchange → Option Modulation
  | ⟨_, .setConfig modulation, .ok _⟩ => some modulation
  | _ => none

def result : Exchange → Option SetConfigResult
  | ⟨_, .setConfig _, .ok result⟩ => result
  | _ => none

/-- What the exchange makes of the device's continuous-receive bit, if it sets it. -/
def receiving : Exchange → Option Bool
  | ⟨_, .rxStart, .ok _⟩ => some true
  | ⟨_, .rxStop, .ok _⟩ => some false
  | ⟨_, .setConfig _, .ok _⟩ => some false
  | ⟨_, _, .error exc⟩ => if exc.isNotConfigured then some false else none
  | _ => none

def on (session : Nat) (observe : Exchange → Option α) (done : Exchange) : Option α :=
  if done.session = session then observe done else none

end Exchange

section Observations
variable {fresh history : List Exchange} {session : Nat}

theorem observed_append {observe : Exchange → Option α} (silent : ∀ done ∈ fresh, observe done = none) :
    (fresh ++ history).findSome? observe = history.findSome? observe := by
  rw [List.findSome?_append, List.findSome?_eq_none_iff.mpr silent]
  rfl

theorem observed_on_append {observe : Exchange → Option α}
    (silent : ∀ done ∈ fresh, done.session = session → observe done = none) :
    (fresh ++ history).findSome? (Exchange.on session observe) = history.findSome? (Exchange.on session observe) := by
  apply observed_append
  intro done member
  unfold Exchange.on
  split
  next same => exact silent done member same
  next => rfl

end Observations

/-- What the device behind a session has said about itself. -/
def lastInfo (session : Nat) (history : List Exchange) : Option Info :=
  history.findSome? (Exchange.on session Exchange.info)

/-- The last configuration applied on a session. -/
def lastApplied (session : Nat) (history : List Exchange) : Option Modulation :=
  history.findSome? (Exchange.on session Exchange.applied)

/-- The most recent `SetConfigResult` received on any session. -/
def lastResult (history : List Exchange) : Option SetConfigResult := history.findSome? Exchange.result

/-- Whether the device behind a session is in continuous receive. -/
def receiving (session : Nat) (history : List Exchange) : Bool :=
  (history.findSome? (Exchange.on session Exchange.receiving)).getD false

end DongloraClient
