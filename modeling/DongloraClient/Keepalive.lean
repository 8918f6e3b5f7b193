import DongloraClient.Dongle

/-! The keepalive thread beside the other threads of its `Dongle`. A record of its
requests and their replies, the latest first, is a run. -/

namespace DongloraClient

/-- Whatever other threads do between two requests. -/
def Interleaved (_ : World) (op : Op) (reply : Reply op) (next : World) : Prop :=
  ∃ world, Answers Unrestricted world op reply next

namespace Keepalive

abbrev Record := List (Sigma Reply)

/-- The thread has `_recover_lock`. -/
def holding : Record → Bool
  | [] => false
  | ⟨.acquire, _⟩ :: _ => true
  | ⟨.release, _⟩ :: _ => false
  | _ :: earlier => holding earlier

/-- What the `except` clause around the reopener catches. -/
def retried (exc : Exc) : Bool := exc.isDonglora || exc.isOSError

/-- What a request has raised is what the code around it catches while it reconnects:
around the restart of RX that is less than around the reopener. An answer to `GET_INFO`
makes `_prepare_config` raise nothing else. -/
def Covered (requested : Option Modulation) : Sigma Reply → Prop
  | ⟨.openTransport _ _, .error exc⟩ => retried exc = true
  | ⟨.command _ .rxStart _, .error exc⟩ => exc.isDonglora = true
  | ⟨.command _ .getInfo _, .ok (some info)⟩ => info.protoMajor = 1 →
    ∀ modulation exc, requested = some modulation → prepareConfig info modulation = .error exc → retried exc = true
  | ⟨.command _ _ _, .error exc⟩ => retried exc = true
  | _ => True

/-- Everything that was asked under the lock is covered. -/
def Contained (requested : Option Modulation) : Record → Prop
  | [] => True
  | entry :: earlier => (holding earlier = true → Covered requested entry) ∧ Contained requested earlier

end Keepalive

/-- What the reopener applies to a session. -/
def Dongle.reapplied (self : Dongle) : Option Modulation := self.reopener.bind Settings.requested

/-- The keepalive thread has left its loop. -/
def Dongle.LeavesLoop (self : Dongle) (result : Except Exc Unit) (last : World) (record : Keepalive.Record) : Prop :=
  ∃ iterations start, Program.Executes (Program.Logged Interleaved) (self.keepaliveLoop iterations).run (start, []) result
    (last, record)

end DongloraClient
