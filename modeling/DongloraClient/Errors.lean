import Mathlib.Data.List.Basic

/-! Wire error codes and the exceptions that cross the client's interfaces. -/

namespace DongloraClient

inductive ErrorCode where
  | eparam | elength | enotConfigured | emodulation | eunknownCmd | ebusy
  | eradio | eframe | einternal
  deriving DecidableEq, Repr

namespace ErrorCode

def value : ErrorCode → Nat
  | eparam => 0x0001
  | elength => 0x0002
  | enotConfigured => 0x0003
  | emodulation => 0x0004
  | eunknownCmd => 0x0005
  | ebusy => 0x0006
  | eradio => 0x0101
  | eframe => 0x0102
  | einternal => 0x0103

def members : List ErrorCode :=
  [eparam, elength, enotConfigured, emodulation, eunknownCmd, ebusy, eradio, eframe, einternal]

end ErrorCode

/-- An `ErrorCode` or, where the number has no name, the number itself. -/
inductive DeviceCode where
  | named (code : ErrorCode)
  | raw (number : Nat)
  deriving DecidableEq, Repr

def DeviceCode.value : DeviceCode → Nat
  | named code => code.value
  | raw number => number

def ErrorCode.fromU16 (raw : Nat) : DeviceCode :=
  match members.find? (fun code => code.value == raw) with
  | some code => .named code
  | none => .raw raw

/-- `DeviceError` and its subclasses. -/
inductive DeviceErrorClass where
  | deviceError | notConfiguredError | busyError | paramError | lengthError | modulationError
  | unknownCommandError | radioError | internalError
  deriving DecidableEq, Repr

/-- The Python exceptions the modelled code raises, catches or passes on. A
`DongloraError` of no subclass of its own is `dongloraError`. -/
inductive Exc where
  | dongloraError (message : String)
  | configNotSupported (message : String)
  | frameError (message : String)
  | timeoutError (message : String)
  | deviceError (cls : DeviceErrorClass) (code : DeviceCode) (tag : Option Nat)
  | channelBusy
  | cancelled
  | valueError (message : String)
  | keyError (message : String)
  | indexError (message : String)
  | structError
  | osError (message : String)
  | typeError (message : String)
  deriving DecidableEq, Repr

namespace Exc

/-- `isinstance(exc, DongloraError)`. -/
def isDonglora : Exc → Bool
  | dongloraError _ | configNotSupported _ | frameError _ | timeoutError _ | deviceError _ _ _
  | channelBusy | cancelled => true
  | _ => false

/-- `isinstance(exc, NotConfiguredError)`. -/
def isNotConfigured : Exc → Bool
  | deviceError .notConfiguredError _ _ => true
  | _ => false

def isOSError : Exc → Bool
  | osError _ => true
  | _ => false

end Exc

def specialisations : List (Nat × DeviceErrorClass) :=
  [(ErrorCode.eparam.value, .paramError),
   (ErrorCode.elength.value, .lengthError),
   (ErrorCode.enotConfigured.value, .notConfiguredError),
   (ErrorCode.emodulation.value, .modulationError),
   (ErrorCode.eunknownCmd.value, .unknownCommandError),
   (ErrorCode.ebusy.value, .busyError),
   (ErrorCode.eradio.value, .radioError),
   (ErrorCode.einternal.value, .internalError)]

/-- The most specific `DeviceError` subclass for a code. -/
def deviceError (code : DeviceCode) (tag : Option Nat) : Exc :=
  .deviceError ((specialisations.lookup code.value).getD .deviceError) code tag

/-- Upper-case hexadecimal digits, padded on the left with zeros. -/
def hexText (width number : Nat) : String :=
  let digits := (Nat.toDigits 16 number).map Char.toUpper
  String.ofList (List.replicate (width - digits.length) '0' ++ digits)

end DongloraClient
