import DongloraClient.Commands
import DongloraClient.Info
import Mathlib.Data.Rat.Defs

/-! Device-to-host message payloads. -/

namespace DongloraClient
open Wire

def typeOk : Nat := 0x80
def typeErr : Nat := 0x81
def typeRx : Nat := 0xC0
def typeTxDone : Nat := 0xC1

inductive SetConfigResultCode where
  | applied | alreadyMatched | lockedMismatch
  deriving DecidableEq, Repr

instance : IntEnum SetConfigResultCode where
  className := "SetConfigResultCode"
  members := [.applied, .alreadyMatched, .lockedMismatch]
  value
    | .applied => 0 | .alreadyMatched => 1 | .lockedMismatch => 2

inductive Owner where
  | none | mine | other
  deriving DecidableEq, Repr

instance : IntEnum Owner where
  className := "Owner"
  members := [.none, .mine, .other]
  value
    | .none => 0 | .mine => 1 | .other => 2

structure SetConfigResult where
  result : SetConfigResultCode
  owner : Owner
  current : Modulation
  deriving DecidableEq, Repr

def SetConfigResult.encode (result : SetConfigResult) : Except Exc Bytes := do
  let code ← byteOf (IntEnum.value result.result)
  let owner ← byteOf (IntEnum.value result.owner)
  return code ++ owner ++ (← encodeModulation result.current)

def SetConfigResult.decode (data : Bytes) : Except Exc SetConfigResult :=
  if data.length < 2 then .error (.valueError "SetConfigResult too short")
  else do
    let result ← IntEnum.ofValue SetConfigResultCode (← byteAt data 0)
    let owner ← IntEnum.ofValue Owner (← byteAt data 1)
    let current ← decodeModulation (data.drop 2)
    return { result, owner, current }

inductive TxResult where
  | transmitted | channelBusy | cancelled
  deriving DecidableEq, Repr

instance : IntEnum TxResult where
  className := "TxResult"
  members := [.transmitted, .channelBusy, .cancelled]
  value
    | .transmitted => 0 | .channelBusy => 1 | .cancelled => 2

structure TxDone where
  result : TxResult
  airtimeUs : Nat
  deriving DecidableEq, Repr

def TxDone.encode (done : TxDone) : Except Exc Bytes := do
  let result ← byteOf (IntEnum.value done.result)
  return result ++ (← packUnsigned 4 done.airtimeUs)

def TxDone.decode (data : Bytes) : Except Exc TxDone :=
  if data.length ≠ 5 then .error (.valueError s!"TxDone wire size must be 5, got {data.length}")
  else do
    let result ← IntEnum.ofValue TxResult (← byteAt data 0)
    let airtimeUs ← unpackUnsigned 4 1 data
    return { result, airtimeUs }

inductive RxOrigin where
  | ota | localLoopback
  deriving DecidableEq, Repr

instance : IntEnum RxOrigin where
  className := "RxOrigin"
  members := [.ota, .localLoopback]
  value
    | .ota => 0 | .localLoopback => 1

/-- Signal levels are tenths of a dB on the wire and rationals here. -/
structure RxEvent where
  rssiDbm : Rat
  snrDb : Rat
  freqErrHz : Int
  timestampUs : Nat
  crcValid : Bool
  packetsDropped : Nat
  origin : RxOrigin
  data : Bytes
  deriving DecidableEq, Repr

def RxEvent.metadataSize : Nat := 20

/-- Python's `round`: to the nearest integer, and half way to the even one. -/
def roundEven (number : Rat) : Int :=
  let low := number.floor
  if number - low < 1 / 2 then low
  else if number - low > 1 / 2 then low + 1
  else if low % 2 = 0 then low else low + 1

def RxEvent.encode (event : RxEvent) : Except Exc Bytes := do
  let rssi ← packSigned 2 (roundEven (event.rssiDbm * 10))
  let snr ← packSigned 2 (roundEven (event.snrDb * 10))
  let freqErrHz ← packSigned 4 event.freqErrHz
  let timestampUs ← packUnsigned 8 event.timestampUs
  let packetsDropped ← packUnsigned 2 event.packetsDropped
  let origin ← byteOf (IntEnum.value event.origin)
  return rssi ++ snr ++ freqErrHz ++ timestampUs ++ [if event.crcValid then 1 else 0] ++ packetsDropped
    ++ origin ++ event.data

def RxEvent.decode (data : Bytes) : Except Exc RxEvent :=
  if data.length < metadataSize then
    .error (.valueError s!"RxEvent payload too short: {data.length}")
  else do
    let rssiRaw ← unpackSigned 2 0 data
    let snrRaw ← unpackSigned 2 2 data
    let freqErrHz ← unpackSigned 4 4 data
    let timestampUs ← unpackUnsigned 8 8 data
    let crcValid ← byteAt data 16
    if crcValid > 1 then .error (.valueError "crc_valid must be 0 or 1")
    else
      let packetsDropped ← unpackUnsigned 2 17 data
      let origin ← IntEnum.ofValue RxOrigin (← byteAt data 19)
      return {
        rssiDbm := rssiRaw / 10
        snrDb := snrRaw / 10
        freqErrHz, timestampUs
        crcValid := crcValid != 0
        packetsDropped, origin
        data := data.drop metadataSize }

/-- What the payload of an `OK` parses to. The empty payload of `PING`, `TX`,
`RX_START` and `RX_STOP` parses to Python's `None`. -/
inductive OkValue where
  | none
  | info (info : Info)
  | setConfig (result : SetConfigResult)
  deriving DecidableEq, Repr

def parseOkPayload (originatingCmdType : Nat) (payload : Bytes) : Except Exc OkValue :=
  if originatingCmdType ∈ [typePing, typeTx, typeRxStart, typeRxStop] then
    if payload ≠ [] then
      let shown := hexText 2 originatingCmdType
      .error (.valueError s!"expected empty OK payload for cmd 0x{shown}")
    else return .none
  else if originatingCmdType = typeGetInfo then return .info (← Info.decode payload)
  else if originatingCmdType = typeSetConfig then return .setConfig (← SetConfigResult.decode payload)
  else
    let shown := hexText 2 originatingCmdType
    .error (.valueError s!"no OK shape for originating cmd 0x{shown}")

def encodeErrPayload (code : DeviceCode) : Except Exc Bytes := packUnsigned 2 code.value

def decodeErrPayload (data : Bytes) : Except Exc DeviceCode :=
  if data.length ≠ 2 then .error (.valueError s!"ERR payload must be 2 bytes, got {data.length}")
  else return ErrorCode.fromU16 (← unpackUnsigned 2 0 data)

end DongloraClient
