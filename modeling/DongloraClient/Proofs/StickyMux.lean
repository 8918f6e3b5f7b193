import DongloraClient.Transport

/-! The sticky reconnect against the first choice of a transport, in surroundings that
stay as they are. -/

namespace DongloraClient.Proofs.StickyMux
open Program Net

/-- Environment variables, existing paths, what accepts connections (with the exception
of what does not), what `find_port` finds, and the timeouts that a socket accepts. -/
structure Setting where
  environ : String → Option String
  present : String → Bool
  refuses : Endpoint → Option Exc
  port : Option String
  accepts : Rat → Bool := fun timeout => decide (0 ≤ timeout)

structure Process where
  usedMux : Bool := false
  slept : Bool := false
  deriving DecidableEq

namespace Setting
variable (setting : Setting)

def respond (process : Process) : (op : NetOp) → Option (NetReply op × Process)
  | .usedMux => some (process.usedMux, process)
  | .setUsedMux => some ((), { process with usedMux := true })
  | .getenv name => some (setting.environ name, process)
  | .exists path => some (setting.present path, process)
  | .connect endpoint =>
    some (match setting.refuses endpoint with
      | none => .ok ()
      | some exc => .error exc, process)
  | .settimeout timeout =>
    some (if setting.accepts timeout then .ok () else .error (.valueError "Timeout value out of range"), process)
  | .sleep _ => some ((), { process with slept := true })
  | .findPort => some (setting.port, process)

def value (name : String) : Option String := truthy (setting.environ name)

def defaultSocket : String :=
  match setting.value "DONGLORA_MUX", setting.value "XDG_RUNTIME_DIR" with
  | some env, _ => env
  | none, some xdg => xdgSocket xdg
  | none, none => tmpSocket

def muxSocket : Option String :=
  match setting.value "DONGLORA_MUX", setting.value "XDG_RUNTIME_DIR" with
  | some env, _ => if setting.present env then some env else none
  | none, some xdg =>
    if setting.present (xdgSocket xdg) then some (xdgSocket xdg)
    else if setting.present tmpSocket then some tmpSocket
    else none
  | none, none => if setting.present tmpSocket then some tmpSocket else none

/-- `DONGLORA_MUX_TCP` leads to a connection. -/
def TcpMux (int : String → Option Int) : Prop :=
  ∃ addr port, setting.value "DONGLORA_MUX_TCP" = some addr ∧ int (splitAddress addr).2 = some port ∧
    setting.refuses (.tcp (splitAddress addr).1 port) = none

/-- The socket in `XDG_RUNTIME_DIR` is not passed over for the one in `/tmp`. -/
def Straight : Prop :=
  setting.value "DONGLORA_MUX" = none → ∀ xdg, setting.value "XDG_RUNTIME_DIR" = some xdg →
    setting.present (xdgSocket xdg) = true

end Setting

section Requests
variable {setting : Setting} {process : Process}

@[simp] theorem outcome_usedMux :
    outcome setting.respond usedMux process = some (.ok process.usedMux, process) := rfl

@[simp] theorem outcome_getenv (name : String) :
    outcome setting.respond (getenv name) process = some (.ok (setting.environ name), process) := rfl

@[simp] theorem outcome_pathExists (path : String) :
    outcome setting.respond (pathExists path) process = some (.ok (setting.present path), process) := rfl

@[simp] theorem outcome_dial (endpoint : Endpoint) :
    outcome setting.respond (dial endpoint) process = some (match setting.refuses endpoint with
      | none => .ok ()
      | some exc => .error exc, process) := rfl

@[simp] theorem outcome_settimeout (timeout : Rat) :
    outcome setting.respond (settimeout timeout) process =
      some (if setting.accepts timeout then .ok () else .error (.valueError "Timeout value out of range"), process) := rfl

@[simp] theorem outcome_sleep (time : Rat) :
    outcome setting.respond (sleep time) process = some (.ok (), { process with slept := true }) := rfl

theorem outcome_defaultSocketPath :
    outcome setting.respond defaultSocketPath process = some (.ok setting.defaultSocket, process) := by
  simp only [defaultSocketPath, outcome_bind, outcome_getenv, Option.bind_some, Setting.defaultSocket, Setting.value]
  cases truthy (setting.environ "DONGLORA_MUX") with
  | some env => rfl
  | none =>
    simp only [outcome_bind, outcome_getenv, Option.bind_some]
    cases truthy (setting.environ "XDG_RUNTIME_DIR") <;> rfl

theorem outcome_findMuxSocket :
    outcome setting.respond findMuxSocket process = some (.ok setting.muxSocket, process) := by
  simp only [findMuxSocket, outcome_bind, outcome_getenv, Option.bind_some, Setting.muxSocket, Setting.value]
  cases truthy (setting.environ "DONGLORA_MUX") with
  | some env =>
    simp only [outcome_bind, outcome_pathExists, Option.bind_some]
    cases setting.present env <;> rfl
  | none =>
    simp only [outcome_bind, outcome_getenv, Option.bind_some]
    cases truthy (setting.environ "XDG_RUNTIME_DIR") with
    | some xdg =>
      simp only [outcome_bind, outcome_pathExists, Option.bind_some]
      cases setting.present (xdgSocket xdg) with
      | true => rfl
      | false =>
        simp only [Bool.false_eq_true, if_false, outcome_bind, outcome_pathExists, Option.bind_some]
        cases setting.present tmpSocket <;> rfl
    | none =>
      simp only [outcome_bind, outcome_pathExists, Option.bind_some]
      cases setting.present tmpSocket <;> rfl

/-- A socket that is there is not waited for; one that is not there in surroundings that
stay as they are is waited for. -/
theorem outcome_waitForMux (path : String) (attempts : Nat) :
    (setting.present path = true → outcome setting.respond (waitForMux path attempts) process = some (.ok (), process)) ∧
      (setting.present path = false → outcome setting.respond (waitForMux path attempts) process = none) := by
  induction attempts generalizing process with
  | zero =>
    simp only [waitForMux, outcome_bind, outcome_pathExists, Option.bind_some]
    constructor <;> intro there <;> rw [there] <;> rfl
  | succ attempts ih =>
    simp only [waitForMux, outcome_bind, outcome_pathExists, Option.bind_some]
    constructor <;> intro there <;> rw [there]
    · rfl
    · simp only [Bool.false_eq_true, if_false, outcome_bind, outcome_sleep, Option.bind_some]
      exact ih.2 there

end Requests

section Calls
variable {int : String → Option Int} {setting : Setting} {process last : Process} {transport : Transport}
  {attempts : Nat} {timeout : Rat}

theorem dial_ok {endpoint : Endpoint} {value : Unit}
    (dialled : outcome setting.respond (dial endpoint) process = some (.ok value, last)) :
    last = process ∧ setting.refuses endpoint = none := by
  rw [outcome_dial] at dialled
  split at dialled
  next accepted =>
    cases dialled
    exact ⟨rfl, accepted⟩
  next => cases dialled

theorem outcome_muxConnection (endpoint : Endpoint) :
    outcome setting.respond (muxConnection endpoint timeout) process =
      some (if setting.accepts timeout then .ok ⟨endpoint, timeout⟩
        else .error (.valueError "Timeout value out of range"), process) := by
  rw [muxConnection, outcome_bind, outcome_settimeout]
  cases setting.accepts timeout <;> rfl

theorem muxConnection_ok {endpoint : Endpoint}
    (made : outcome setting.respond (muxConnection endpoint timeout) process = some (.ok transport, last)) :
    last = process ∧ transport = ⟨endpoint, timeout⟩ ∧ setting.accepts timeout = true := by
  rw [outcome_muxConnection] at made
  split at made
  next accepted =>
    cases made
    exact ⟨rfl, rfl, accepted⟩
  next => cases made

theorem openUnix_ok {path : String}
    (opened : outcome setting.respond (openUnix path timeout) process = some (.ok transport, last)) :
    last = { process with usedMux := true } ∧ transport.endpoint = .unix path ∧ setting.refuses (.unix path) = none ∧
      setting.accepts timeout = true := by
  obtain ⟨_, middle, dialled, rest⟩ := outcome_bind_ok opened
  obtain ⟨rfl, reached⟩ := dial_ok dialled
  obtain ⟨_, after, marked, rest⟩ := outcome_bind_ok rest
  cases marked
  obtain ⟨rfl, rfl, accepted⟩ := muxConnection_ok rest
  exact ⟨rfl, rfl, reached, accepted⟩

theorem tcpMux_iff {addr : String} {port : Int} (set : setting.value "DONGLORA_MUX_TCP" = some addr)
    (parsed : int (splitAddress addr).2 = some port) :
    setting.TcpMux int ↔ setting.refuses (.tcp (splitAddress addr).1 port) = none := by
  constructor
  · intro ⟨other, number, same, digits, accepted⟩
    cases set.symm.trans same
    cases parsed.symm.trans digits
    exact accepted
  · exact fun accepted => ⟨addr, port, set, parsed, accepted⟩

theorem not_tcpMux (missing : ∀ addr, setting.value "DONGLORA_MUX_TCP" = some addr → int (splitAddress addr).2 = none) :
    ¬ setting.TcpMux int := by
  intro ⟨addr, port, set, digits, _⟩
  cases (missing addr set).symm.trans digits

theorem outcome_tryTcpMux {addr : String} (set : setting.value "DONGLORA_MUX_TCP" = some addr)
    {found : Option Transport}
    (tried : outcome setting.respond (tryTcpMux int addr timeout) process = some (.ok found, last)) :
    last = process ∧ (found = none → ¬ setting.TcpMux int) ∧
      ∀ transport, found = some transport → setting.TcpMux int ∧ (∃ host port, transport.endpoint = .tcp host port) ∧
        setting.accepts timeout = true := by
  unfold tryTcpMux at tried
  cases parsed : int (splitAddress addr).2 with
  | none =>
    simp only [parsed, outcome_pure] at tried
    cases tried
    refine ⟨rfl, fun _ => not_tcpMux fun other same => ?_, nofun⟩
    cases set.symm.trans same
    exact parsed
  | some port =>
    simp only [parsed, outcome_tryCatch, outcome_bind, outcome_dial, Option.bind_some] at tried
    cases refused : setting.refuses (.tcp (splitAddress addr).1 port) with
    | none =>
      simp only [refused, outcome_muxConnection] at tried
      split at tried
      next accepted =>
        cases tried
        refine ⟨rfl, nofun, ?_⟩
        rintro transport ⟨⟩
        exact ⟨⟨addr, port, set, parsed, refused⟩, ⟨_, _, rfl⟩, accepted⟩
      next => cases tried
    | some exc =>
      simp only [refused, Option.bind_some] at tried
      split at tried
      · cases tried
        refine ⟨rfl, fun _ reached => ?_, nofun⟩
        cases refused.symm.trans ((tcpMux_iff set parsed).mp reached)
      · cases tried

theorem outcome_openTcpMux {found : Option Transport}
    (tried : outcome setting.respond (openTcpMux int timeout) process = some (.ok found, last)) :
    last = process ∧ (found = none → ¬ setting.TcpMux int) ∧
      ∀ transport, found = some transport → setting.TcpMux int ∧ (∃ host port, transport.endpoint = .tcp host port) ∧
        setting.accepts timeout = true := by
  simp only [openTcpMux, outcome_bind, outcome_getenv, Option.bind_some] at tried
  cases set : setting.value "DONGLORA_MUX_TCP" with
  | some addr =>
    rw [← Setting.value, set] at tried
    exact outcome_tryTcpMux set tried
  | none =>
    rw [← Setting.value, set] at tried
    cases tried
    refine ⟨rfl, fun _ => not_tcpMux fun addr same => ?_, nofun⟩
    cases set.symm.trans same

theorem outcome_openUnixMux {found : Option Transport}
    (tried : outcome setting.respond (openUnixMux timeout) process = some (.ok found, last)) :
    (found = none → last = process) ∧ ∀ transport, found = some transport →
      last = { process with usedMux := true } ∧ (∃ path, transport.endpoint = .unix path ∧
        setting.muxSocket = some path ∧ setting.refuses (.unix path) = none) ∧ setting.accepts timeout = true := by
  simp only [openUnixMux, outcome_bind, outcome_findMuxSocket, Option.bind_some] at tried
  cases socket : setting.muxSocket with
  | none =>
    rw [socket] at tried
    cases tried
    exact ⟨fun _ => rfl, nofun⟩
  | some path =>
    rw [socket] at tried
    obtain ⟨conn, middle, opened, rest⟩ := outcome_bind_ok tried
    obtain ⟨rfl, unix, reached, accepted⟩ := openUnix_ok opened
    cases rest
    refine ⟨nofun, ?_⟩
    rintro transport ⟨⟩
    exact ⟨rfl, ⟨path, unix, rfl, reached⟩, accepted⟩

theorem outcome_openSerial {port : String}
    (opened : outcome setting.respond (openSerial port timeout) process = some (.ok transport, last)) :
    transport.endpoint = .serial port := by
  obtain ⟨_, middle, _, rest⟩ := outcome_bind_ok opened
  cases rest
  rfl

theorem outcome_openUsb (opened : outcome setting.respond (openUsb attempts timeout) process = some (.ok transport, last)) :
    ∃ port, transport.endpoint = .serial port := by
  obtain ⟨found, middle, _, rest⟩ := outcome_bind_ok opened
  cases found with
  | some port => exact ⟨port, outcome_openSerial rest⟩
  | none =>
    obtain ⟨port, after, _, rest⟩ := outcome_bind_ok rest
    exact ⟨port, outcome_openSerial rest⟩

/-- The first choice of a mux. -/
structure Chosen (int : String → Option Int) (setting : Setting) (endpoint : Endpoint) : Prop where
  tcp : setting.TcpMux int → ∃ host port, endpoint = .tcp host port
  unix : ¬ setting.TcpMux int → ∃ path, endpoint = .unix path ∧ setting.muxSocket = some path ∧
    setting.refuses (.unix path) = none

theorem first_call (fresh : process.usedMux = false) (mux : ∀ port, transport.endpoint ≠ .serial port)
    (opened : outcome setting.respond (openTransport int attempts none timeout) process = some (.ok transport, last)) :
    last = { process with usedMux := true } ∧ Chosen int setting transport.endpoint ∧ setting.accepts timeout = true := by
  obtain ⟨used, middle, asked, rest⟩ := outcome_bind_ok opened
  cases asked
  simp only [fresh, Bool.false_eq_true, if_false] at rest
  obtain ⟨found, middle, tried, rest⟩ := outcome_bind_ok rest
  obtain ⟨rfl, missed, reached⟩ := outcome_openTcpMux tried
  cases found with
  | some conn =>
    obtain ⟨_, after, marked, rest⟩ := outcome_bind_ok rest
    cases marked
    cases rest
    obtain ⟨tcp, same, accepted⟩ := reached transport rfl
    exact ⟨rfl, ⟨fun _ => same, fun missing => absurd tcp missing⟩, accepted⟩
  | none =>
    obtain ⟨found, middle, tried, rest⟩ := outcome_bind_ok rest
    obtain ⟨_, socket⟩ := outcome_openUnixMux tried
    cases found with
    | some conn =>
      cases rest
      obtain ⟨rfl, unix, accepted⟩ := socket transport rfl
      exact ⟨rfl, ⟨fun tcp => absurd tcp (missed rfl), fun _ => unix⟩, accepted⟩
    | none =>
      obtain ⟨port, serial⟩ := outcome_openUsb rest
      exact absurd serial (mux port)

/-- The sticky branch goes to the default socket, at once if it is there. -/
theorem sticky_call (used : process.usedMux = true) :
    (setting.present setting.defaultSocket = true → setting.refuses (.unix setting.defaultSocket) = none →
      setting.accepts timeout = true → outcome setting.respond (openTransport int attempts none timeout) process =
        some (.ok ⟨.unix setting.defaultSocket, timeout⟩, process)) ∧
    ∀ transport last,
      outcome setting.respond (openTransport int attempts none timeout) process = some (.ok transport, last) →
      transport.endpoint = .unix setting.defaultSocket ∧ setting.present setting.defaultSocket = true := by
  have branch : outcome setting.respond (openTransport int attempts none timeout) process =
      outcome setting.respond (reopenMux attempts timeout) process := by
    apply (outcome_bind usedMux _).trans
    simp only [outcome_usedMux, used, Option.bind_some, if_true]
  rw [branch]
  constructor
  · intro there reached accepted
    simp only [reopenMux, outcome_bind, outcome_defaultSocketPath, Option.bind_some,
      (outcome_waitForMux _ attempts).1 there, outcome_dial, reached, outcome_muxConnection, accepted, if_true]
  · intro transport last opened
    obtain ⟨path, middle, asked, rest⟩ := outcome_bind_ok opened
    rw [outcome_defaultSocketPath] at asked
    cases asked
    obtain ⟨_, middle, waited, rest⟩ := outcome_bind_ok rest
    obtain ⟨_, after, _, rest⟩ := outcome_bind_ok rest
    obtain ⟨_, rfl, _⟩ := muxConnection_ok rest
    refine ⟨rfl, ?_⟩
    by_contra missing
    rw [(outcome_waitForMux _ attempts).2 (by simpa using missing)] at waited
    cases waited

/-- The socket that is found is the default one, unless the one in `XDG_RUNTIME_DIR` is
passed over; and it is there. -/
theorem muxSocket_default {path : String} (found : setting.muxSocket = some path) :
    setting.present path = true ∧ (path = setting.defaultSocket ∨ setting.present setting.defaultSocket = false) ∧
      (setting.Straight ↔ setting.present setting.defaultSocket = true) := by
  unfold Setting.muxSocket at found
  unfold Setting.Straight Setting.defaultSocket
  cases mux : setting.value "DONGLORA_MUX" with
  | some env =>
    simp only [mux] at found
    split at found <;> cases found
    next there => simp [there]
  | none =>
    cases runtime : setting.value "XDG_RUNTIME_DIR" with
    | none =>
      simp only [mux, runtime] at found
      split at found <;> cases found
      next there => simp [there]
    | some xdg =>
      simp only [mux, runtime] at found
      split at found
      next there =>
        cases found
        simp [there]
      next missing =>
        split at found <;> cases found
        next there => simp [there, missing]

/-- The sticky branch, in the same surroundings, goes back to the endpoint of the first
choice without waiting. -/
def Returns (int : String → Option Int) (setting : Setting) (timeout : Rat) (endpoint : Endpoint) (process : Process) : Prop :=
  ∀ attempts, ∃ transport, outcome setting.respond (openTransport int attempts none timeout) process =
    some (.ok transport, process) ∧ transport.endpoint = endpoint

/-- It does so exactly when `DONGLORA_MUX_TCP` does not lead to a connection and the socket
in `XDG_RUNTIME_DIR` has not been passed over. -/
theorem sticky_returns_iff {first : Transport}
    (opened : outcome setting.respond (openTransport int attempts none timeout) {} = some (.ok first, process))
    (mux : ∀ port, first.endpoint ≠ .serial port) :
    Returns int setting timeout first.endpoint process ↔ ¬ setting.TcpMux int ∧ setting.Straight := by
  obtain ⟨rfl, chosen, accepts⟩ := first_call rfl mux opened
  constructor
  · intro returns
    obtain ⟨again, reopened, same⟩ := returns 0
    obtain ⟨default, there⟩ := (sticky_call rfl).2 again _ reopened
    have direct : ¬ setting.TcpMux int := by
      intro reached
      obtain ⟨host, port, tcp⟩ := chosen.tcp reached
      cases tcp.symm.trans (same.symm.trans default)
    obtain ⟨path, _, found, _⟩ := chosen.unix direct
    exact ⟨direct, (muxSocket_default found).2.2.mpr there⟩
  · rintro ⟨direct, straight⟩ attempts
    obtain ⟨path, unix, found, accepted⟩ := chosen.unix direct
    obtain ⟨_, default, there⟩ := muxSocket_default found
    have present := there.mp straight
    obtain rfl : path = setting.defaultSocket := default.resolve_right (by simp [present])
    exact ⟨_, (sticky_call rfl).1 present accepted accepts, unix.symm⟩

end Calls

/-- Surroundings in which certain variables are set and certain endpoints are there. -/
def only (environ : List (String × String)) (endpoints : List Endpoint) : Setting where
  environ name := environ.lookup name
  present path := decide (.unix path ∈ endpoints)
  refuses endpoint := if endpoint ∈ endpoints then none else some (.osError "refused")
  port := none

def portNumber (text : String) : Option Int :=
  if text = "5741" then some 5741 else if text = "7000" then some 7000 else none

/-- `DONGLORA_MUX` names a socket on which the mux listens. -/
def named : Setting := only [("DONGLORA_MUX", "/run/mux.sock")] [.unix "/run/mux.sock"]

theorem sticky_returns_iff_named :
    Returns portNumber named 2 (.unix "/run/mux.sock") { usedMux := true } ↔
      ¬ named.TcpMux portNumber ∧ named.Straight := by
  have opened : outcome named.respond (openTransport portNumber 0 none 2) {} =
      some (.ok ⟨.unix "/run/mux.sock", 2⟩, { usedMux := true }) := by decide +kernel
  exact sticky_returns_iff opened nofun

/-- A mux on TCP, and a socket in `/tmp`. -/
def remote : Setting :=
  only [("DONGLORA_MUX_TCP", ":5741")] [.tcp "localhost" 5741, .unix "/tmp/donglora-mux.sock"]

/-- There is no socket in `XDG_RUNTIME_DIR`, but one in `/tmp`. -/
def passedOver : Setting := only [("XDG_RUNTIME_DIR", "/run/user/1000")] [.unix "/tmp/donglora-mux.sock"]

/-- The first is left for the second, and the second for one that does not exist. -/
theorem sticky_leaves_mux :
    (outcome remote.respond (openTransport portNumber 0 none 2) {} =
        some (.ok ⟨.tcp "localhost" 5741, 2⟩, { usedMux := true }) ∧
      outcome remote.respond (openTransport portNumber 0 none 2) { usedMux := true } =
        some (.ok ⟨.unix "/tmp/donglora-mux.sock", 2⟩, { usedMux := true })) ∧
    outcome passedOver.respond (openTransport portNumber 0 none 2) {} =
        some (.ok ⟨.unix "/tmp/donglora-mux.sock", 2⟩, { usedMux := true }) ∧
      ¬ Returns portNumber passedOver 2 (.unix "/tmp/donglora-mux.sock") { usedMux := true } := by
  refine ⟨⟨by decide +kernel, by decide +kernel⟩, by decide +kernel, ?_⟩
  intro returns
  obtain ⟨transport, reopened, _⟩ := returns 0
  have waits : outcome passedOver.respond (openTransport portNumber 0 none 2) { usedMux := true } = none := by
    decide +kernel
  rw [waits] at reopened
  cases reopened

end DongloraClient.Proofs.StickyMux
