import DongloraClient.Errors
import DongloraClient.Foundation.Program
import Mathlib.Data.String.Basic

/-! `find_port`: the serial ports of the machine, and what `udevadm` says about each. -/

namespace DongloraClient

inductive UdevOp where
  | glob (pattern : String)
  | udevadm (path : String)

/-- `udevadm` prints its properties, or cannot be run. -/
def UdevReply : UdevOp → Type
  | .glob _ => List String
  | .udevadm _ => Except Exc String

abbrev Udev := ExceptT Exc (Program UdevOp UdevReply)

namespace Udev

def glob (pattern : String) : Udev (List String) := Program.request (UdevOp.glob pattern)

/-- The standard output of `udevadm info --query=property --name={path}`. -/
def udevadm (path : String) : Udev String := ExceptT.mk (.perform (.udevadm path) .pure)

end Udev

/-- `USB_VID_PID`. -/
def usbVidPid : String := "1209:5741"

/-- `BRIDGE_VID_PIDS`. -/
def bridgeVidPids : List String := ["10c4:ea60", "1a86:55d4", "1a86:7522", "1a86:7523", "0403:6001"]

/-- Where `str.splitlines` splits. -/
def isLineBreak (letter : Char) : Bool :=
  ['\n', '\r', '\x0b', '\x0c', '\x1c', '\x1d', '\x1e', '\u0085', '\u2028', '\u2029'].contains letter

/-- `str.splitlines`, with the line that has been begun. -/
def splitLines (line : List Char) : List Char → List (List Char)
  | [] => if line = [] then [] else [line]
  | '\r' :: '\n' :: rest => line :: splitLines [] rest
  | letter :: rest => if isLineBreak letter then line :: splitLines [] rest else splitLines (line ++ [letter]) rest

/-- `line.split("=", 1)` for a line with a `=`. -/
def splitProperty (line : List Char) : Option (String × String) :=
  if '=' ∈ line then
    some (String.ofList (line.takeWhile (· ≠ '=')), String.ofList (line.dropWhile (· ≠ '=')).tail)
  else none

/-- `dict(...).get(key, "")` of the lines that have a `=`: the last entry of a key counts. -/
def property (stdout : String) (key : String) : String :=
  let entries := (splitLines [] stdout.toList).filterMap splitProperty
  ((entries.filter fun entry => entry.1 = key).getLast?.map Prod.snd).getD ""

/-- `str.lower`, as far as a comparison with digits and the letters from `a` to `f` goes. -/
def lower (text : String) : String := String.ofList (text.toList.map Char.toLower)

def vidPid (stdout : String) : String :=
  lower (property stdout "ID_VENDOR_ID") ++ ":" ++ lower (property stdout "ID_MODEL_ID")

/-- `sorted(glob.glob("/dev/ttyACM*")) + sorted(glob.glob("/dev/ttyUSB*"))`. -/
def serialPorts : Udev (List String) := do
  let acm ← Udev.glob "/dev/ttyACM*"
  let usb ← Udev.glob "/dev/ttyUSB*"
  return acm.mergeSort ++ usb.mergeSort

/-- The loop of `find_port`, and what follows it. -/
def probePorts (bridgeMatch : Option String) : List String → Udev (Option String)
  | [] => do
    match bridgeMatch with
    | some path => return some path
    | none => return (← serialPorts).head?
  | path :: rest => do
    match ← tryCatch (do return some (← Udev.udevadm path)) fun _ => return none with
    | none => probePorts bridgeMatch rest
    | some stdout =>
      if vidPid stdout = usbVidPid then return some path
      else if bridgeMatch.isNone ∧ vidPid stdout ∈ bridgeVidPids then probePorts (some path) rest
      else probePorts bridgeMatch rest

def findPort : Udev (Option String) := do probePorts none (← serialPorts)

end DongloraClient
