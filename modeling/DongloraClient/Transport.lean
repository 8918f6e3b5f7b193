import DongloraClient.Errors
import DongloraClient.Foundation.Program
import Mathlib.Data.Rat.Defs

/-! How `_open_transport` and the calls beside it find their transport: an explicit port,
the mux that has been used before, the mux of the environment, or a USB device. -/

namespace DongloraClient

/-- What a transport is connected to. -/
inductive Endpoint where
  | serial (port : String)
  | unix (path : String)
  | tcp (host : String) (port : Int)
  deriving DecidableEq, Repr

/-- `serial.Serial` and `MuxConnection`. -/
structure Transport where
  endpoint : Endpoint
  timeout : Rat
  deriving DecidableEq

/-- What the module asks of its process and of the operating system. The first two
requests are the accesses to `_used_mux`. -/
inductive NetOp where
  | usedMux
  | setUsedMux
  | getenv (name : String)
  | exists (path : String)
  | connect (endpoint : Endpoint)
  | settimeout (timeout : Rat)
  | sleep (time : Rat)
  | findPort

@[reducible] def NetReply : NetOp → Type
  | .usedMux | .exists _ => Bool
  | .setUsedMux | .sleep _ => Unit
  | .getenv _ | .findPort => Option String
  | .connect _ | .settimeout _ => Except Exc Unit

abbrev Net := ExceptT Exc (Program NetOp NetReply)

namespace Net

def usedMux : Net Bool := Program.request NetOp.usedMux

def setUsedMux : Net Unit := Program.request NetOp.setUsedMux

def getenv (name : String) : Net (Option String) := Program.request (NetOp.getenv name)

def pathExists (path : String) : Net Bool := Program.request (NetOp.exists path)

def dial (endpoint : Endpoint) : Net Unit := ExceptT.mk (Program.perform (NetOp.connect endpoint) .pure)

def settimeout (timeout : Rat) : Net Unit := ExceptT.mk (Program.perform (NetOp.settimeout timeout) .pure)

def sleep (time : Rat) : Net Unit := Program.request (NetOp.sleep time)

def findPort : Net (Option String) := Program.request NetOp.findPort

def unfinished : Net α := ExceptT.mk .unfinished

/-- The values that pass an `if`. -/
def truthy (value : Option String) : Option String := value.filter fun text => text ≠ ""

/-- `os.path.join` of two components. -/
def pathJoin (first second : String) : String :=
  if second.toList.head? = some '/' then second
  else if first = "" ∨ first.toList.getLast? = some '/' then first ++ second
  else first ++ "/" ++ second

def xdgSocket (xdg : String) : String := pathJoin (pathJoin xdg "donglora") "mux.sock"

def tmpSocket : String := "/tmp/donglora-mux.sock"

def defaultSocketPath : Net String := do
  match truthy (← getenv "DONGLORA_MUX") with
  | some env => return env
  | none =>
    match truthy (← getenv "XDG_RUNTIME_DIR") with
    | some xdg => return xdgSocket xdg
    | none => return tmpSocket

def findMuxSocket : Net (Option String) := do
  match truthy (← getenv "DONGLORA_MUX") with
  | some env => if ← pathExists env then return some env else return none
  | none =>
    match truthy (← getenv "XDG_RUNTIME_DIR") with
    | some xdg =>
      if ← pathExists (xdgSocket xdg) then return some (xdgSocket xdg)
      else if ← pathExists tmpSocket then return some tmpSocket
      else return none
    | none => if ← pathExists tmpSocket then return some tmpSocket else return none

/-- The host and the text of the port in a `DONGLORA_MUX_TCP` address. -/
def splitAddress (addr : String) : String × String :=
  if ':' ∈ addr.toList then
    let reversed := addr.toList.reverse
    let host := ((reversed.dropWhile fun letter => letter ≠ ':').drop 1).reverse
    let port := (reversed.takeWhile fun letter => letter ≠ ':').reverse
    (if host = [] then "localhost" else String.ofList host, String.ofList port)
  else ("localhost", addr)

/-- `while not os.path.exists(mux_path)`. -/
def waitForMux (muxPath : String) : Nat → Net Unit
  | 0 => do if ← pathExists muxPath then return () else unfinished
  | attempts + 1 => do
    if ← pathExists muxPath then return ()
    else
      sleep (1 / 2)
      waitForMux muxPath attempts

def waitForDevice : Nat → Net String
  | 0 => unfinished
  | attempts + 1 => do
    match truthy (← findPort) with
    | some port =>
      sleep (3 / 10)
      return port
    | none =>
      sleep (1 / 2)
      waitForDevice attempts

/-- `MuxConnection(sock, timeout)`, on a socket that is connected. -/
def muxConnection (endpoint : Endpoint) (timeout : Rat) : Net Transport := do
  settimeout timeout
  return ⟨endpoint, timeout⟩

/-- What all calls do with the path of a mux. -/
def openUnix (path : String) (timeout : Rat) : Net Transport := do
  dial (.unix path)
  setUsedMux
  muxConnection (.unix path) timeout

section Transports
variable (int : String → Option Int)

/-- `int` is the built-in function, without a result where it raises `ValueError`. -/
def tryTcpMux (addr : String) (timeout : Rat) : Net (Option Transport) := do
  let (host, portStr) := splitAddress addr
  match int portStr with
  | none => return none
  | some port =>
    tryCatch (do
        dial (.tcp host port)
        return some (← muxConnection (.tcp host port) timeout))
      fun exc => if exc.isOSError then return none else throw exc

/-- The attempt with `DONGLORA_MUX_TCP`. -/
def openTcpMux (timeout : Rat) : Net (Option Transport) := do
  match truthy (← getenv "DONGLORA_MUX_TCP") with
  | some tcp => tryTcpMux int tcp timeout
  | none => return none

/-- The attempt with `_find_mux_socket`. -/
def openUnixMux (timeout : Rat) : Net (Option Transport) := do
  match ← findMuxSocket with
  | some sockPath => return some (← openUnix sockPath timeout)
  | none => return none

/-- `serial.Serial(port, baudrate=115200, timeout=timeout)`. -/
def openSerial (port : String) (timeout : Rat) : Net Transport := do
  dial (.serial port)
  return ⟨.serial port, timeout⟩

/-- USB auto-detection. -/
def openUsb (attempts : Nat) (timeout : Rat) : Net Transport := do
  match ← findPort with
  | some portPath => openSerial portPath timeout
  | none => openSerial (← waitForDevice attempts) timeout

/-- The sticky branch. -/
def reopenMux (attempts : Nat) (timeout : Rat) : Net Transport := do
  let muxPath ← defaultSocketPath
  waitForMux muxPath attempts
  dial (.unix muxPath)
  muxConnection (.unix muxPath) timeout

/-- `_open_transport`. `attempts` bounds the rounds of its waiting loops. -/
def openTransport (attempts : Nat) (port : Option String) (timeout : Rat) : Net Transport := do
  match port with
  | some port => openSerial port timeout
  | none =>
    if ← usedMux then reopenMux attempts timeout
    else
      match ← openTcpMux int timeout with
      | some conn =>
        setUsedMux
        return conn
      | none =>
        match ← openUnixMux timeout with
        | some conn => return conn
        | none => openUsb attempts timeout

/-- `connect_mux_auto`, as far as its transport. -/
def connectMuxAuto (timeout : Rat) : Net Transport := do
  match ← openTcpMux int timeout with
  | some conn =>
    setUsedMux
    return conn
  | none =>
    match ← openUnixMux timeout with
    | some conn => return conn
    | none => throw (.osError "no mux socket found")

/-- `try_connect`, as far as its transport. -/
def tryConnect (timeout : Rat) : Net Transport := do
  if ← usedMux then connectMuxAuto int timeout
  else
    match ← openTcpMux int timeout with
    | some conn =>
      setUsedMux
      return conn
    | none =>
      match ← openUnixMux timeout with
      | some conn => return conn
      | none =>
        match ← findPort with
        | none => throw (.osError "no DongLoRa device found (no mux, no USB device)")
        | some portPath => openSerial portPath timeout

end Transports

/-- `mux_connect`, as far as its transport. -/
def muxConnect (path : Option String) (timeout : Rat) : Net Transport := do
  let found ← match path with
    | some path => pure (some path)
    | none => findMuxSocket
  match found with
  | none => throw (.osError "no mux socket found")
  | some path => openUnix path timeout

/-- `mux_tcp_connect`, as far as its transport. -/
def muxTcpConnect (host : String) (port : Int) (timeout : Rat) : Net Transport := do
  dial (.tcp host port)
  setUsedMux
  muxConnection (.tcp host port) timeout

/-- The calls that are not told which serial port to open. -/
inductive EntryPoint where
  | connect (timeout : Rat)
  | tryConnect (timeout : Rat)
  | connectMuxAuto (timeout : Rat)
  | muxConnect (path : Option String) (timeout : Rat)
  | muxTcpConnect (host : String) (port : Int) (timeout : Rat)
  deriving DecidableEq

/-- The transport of a call. Bringing up a session on it opens nothing else. -/
def EntryPoint.opens (int : String → Option Int) (attempts : Nat) : EntryPoint → Net Transport
  | connect timeout => openTransport int attempts none timeout
  | tryConnect timeout => Net.tryConnect int timeout
  | connectMuxAuto timeout => Net.connectMuxAuto int timeout
  | muxConnect path timeout => Net.muxConnect path timeout
  | muxTcpConnect host port timeout => Net.muxTcpConnect host port timeout

/-- The timeout with which a call tries `DONGLORA_MUX_TCP`, if it does. -/
def EntryPoint.tcpTimeout : EntryPoint → Option Rat
  | connect timeout | tryConnect timeout | connectMuxAuto timeout => some timeout
  | muxConnect _ _ | muxTcpConnect _ _ _ => none

end Net
end DongloraClient
