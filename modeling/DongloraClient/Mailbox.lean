import DongloraClient.Shared

/-! What the threads of a `Dongle` see of one session: whether its reader has exited,
whether it has been closed, and the packets on its queue. -/

namespace DongloraClient

structure Mailbox where
  readerDead : Bool := false
  shut : Bool := false
  queue : List RxEvent := []
  deriving DecidableEq

/-- What happens to a session. `taker` is whoever calls `next_rx`; `expired` is set only
when the call had a timeout. -/
inductive Post where
  | arrive (event : RxEvent)
  | die
  | close
  | living (answer : Bool)
  | give (taker : Nat) (expired : Bool) (event : Option RxEvent)
  deriving DecidableEq

namespace Mailbox

def isAlive (mailbox : Mailbox) : Bool := !mailbox.readerDead && !mailbox.shut

def step (mailbox : Mailbox) : Post → Option Mailbox
  | .arrive event =>
    if mailbox.readerDead = false then some { mailbox with queue := mailbox.queue ++ [event] } else none
  | .die => some { mailbox with readerDead := true }
  | .close => some { mailbox with shut := true }
  | .living answer => if answer = mailbox.isAlive then some mailbox else none
  | .give _ _ (some event) =>
    if mailbox.queue.head? = some event then some { mailbox with queue := mailbox.queue.tail } else none
  | .give _ expired none =>
    if mailbox.queue = [] ∧ (expired = true ∨ mailbox.readerDead = true) then some mailbox else none

end Mailbox

/-- One session of those that the threads share. -/
def Shared.mailbox (shared : Shared) (session : Nat) : Mailbox where
  readerDead := shared.readerDead session
  shut := shared.shut session
  queue := shared.queue session

/-- What the threads and their surroundings do to one session. -/
def Shared.Serves (session : Nat) (shared : Shared) : Post → Shared → Prop
  | .arrive event, next => shared.stir (.arrive session event) = some next
  | .die, next => shared.stir (.die session) = some next
  | .close, next => ∃ thread, Shared.Answers thread shared (.closeSession session) () next
  | .living answer, next => ∃ thread, Shared.Answers thread shared (.isAlive session) answer next
  | .give taker expired event, next =>
    ∃ timeout : Option Rat, timeout.isSome = expired ∧ Shared.Answers taker shared (.nextRx session timeout) event next

end DongloraClient
