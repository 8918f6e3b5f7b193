import DongloraClient.Dongle
import DongloraClient.Foundation.Polling

/-! A `Dongle` and its keepalive thread against a clock that counts milliseconds. Commands
take no time, and the session stays alive. -/

namespace DongloraClient

/-- `wakes` is when the wait of the keepalive thread expires, and `sent` when the last frame
was sent to the device. -/
structure Timeline where
  attributes : Attributes
  now : Nat
  wakes : Nat
  sent : Nat

namespace Timeline

/-- What `_now()` reads. -/
def seconds (milliseconds : Nat) : Rat := milliseconds / 1000

/-- `_KEEPALIVE_INTERVAL_S`. -/
def interval : Nat := 500

def after (timeline : Timeline) : (op : Op) → Reply op → Timeline
  | .assign change, _ => { timeline with attributes := change timeline.attributes }
  | .command _ _ _, _ => { timeline with sent := timeline.now }
  | .read, _ | .acquire, _ | .release, _ | .now, _ | .waitStop _, _ | .openTransport _ _, _ | .openSession _, _
  | .isAlive _, _ | .closeSession _, _ | .nextRx _ _, _ => timeline

/-- A command is sent, whatever is answered. -/
def Permits (timeline : Timeline) : (op : Op) → Reply op → Prop
  | .read, attributes => attributes = timeline.attributes
  | .now, time => time = seconds timeline.now
  | .waitStop _, stopped => stopped = timeline.attributes.keepaliveStop
  | .isAlive _, living => living = true
  | .assign _, _ | .acquire, _ | .release, _ | .openTransport _ _, _ | .openSession _, _ | .closeSession _, _
  | .command _ _ _, _ | .nextRx _ _, _ => True

def Answers (timeline : Timeline) (op : Op) (reply : Reply op) (next : Timeline) : Prop :=
  timeline.Permits op reply ∧ next = timeline.after op reply

/-- The calls that send a command. -/
def Commands (timeline : Timeline) : Operation → Prop
  | .tx _ _ _ | .rxStop | .setConfig _ | .ping => True
  | .rx _ | .recv _ => timeline.attributes.rxStarted = false
  | .next _ | .close | .keepalive => False

/-- The time since the last frame. -/
def silence (timeline : Timeline) : Nat := timeline.now - timeline.sent

/-- The keepalive thread starts to wait when the `Dongle` is built. -/
structure Begins (begun : Nat) (timeline : Timeline) : Prop where
  now : timeline.now = begun
  wakes : timeline.wakes = begun + interval
  sent : timeline.sent = begun
  marked : timeline.attributes.lastWriteTime = seconds begun
  isOpen : timeline.attributes.closed = false

end Timeline

inductive Happening where
  | tick
  | wake
  | command (operation : Operation)

/-- What happens to a schedule of commands, for one who does not look at the replies. -/
def Happening.view : Happening → Polling.Event
  | tick => .tick
  | wake => .poll
  | command _ => .act

/-- A millisecond passes only while the thread has to wait. When its wait has expired, it
runs the rest of its iteration and waits again. -/
inductive Dongle.Passes (self : Dongle) : Timeline → Happening → Timeline → Prop where
  | tick {timeline : Timeline} : timeline.now < timeline.wakes →
      Passes self timeline .tick { timeline with now := timeline.now + 1 }
  | wake {timeline next : Timeline} {result : Except Exc Unit} : timeline.now = timeline.wakes →
      Program.Executes Timeline.Answers self.keepaliveIteration.run timeline result next →
      Passes self timeline .wake { next with wakes := next.now + Timeline.interval }
  | command {timeline next : Timeline} {operation : Operation} {result : Except Exc Unit} :
      timeline.Commands operation → Program.Executes Timeline.Answers (self.call operation).run timeline result next →
      Passes self timeline (.command operation) next

end DongloraClient
