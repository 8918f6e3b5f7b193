import DongloraClient.Encoding

/-! The `GET_INFO` response. -/

namespace DongloraClient
open Wire

def maxMcuUidLen : Nat := 32
def maxRadioUidLen : Nat := 16

structure Info where
  protoMajor : Nat
  protoMinor : Nat
  fwMajor : Nat
  fwMinor : Nat
  fwPatch : Nat
  radioChipId : Nat
  capabilityBitmap : Nat
  supportedSfBitmap : Nat
  supportedBwBitmap : Nat
  maxPayloadBytes : Nat
  rxQueueCapacity : Nat
  txQueueCapacity : Nat
  freqMinHz : Nat
  freqMaxHz : Nat
  txPowerMinDbm : Int
  txPowerMaxDbm : Int
  mcuUid : Bytes
  radioUid : Bytes
  deriving DecidableEq, Repr

namespace Info

/-- The header is the packed struct `<BBBBBHQHHHHHIIbbB` of 36 bytes. -/
def encode (info : Info) : Except Exc Bytes :=
  if info.mcuUid.length > maxMcuUidLen then .error (.valueError s!"mcu_uid too long: {info.mcuUid.length}")
  else if info.radioUid.length > maxRadioUidLen then
    .error (.valueError s!"radio_uid too long: {info.radioUid.length}")
  else do
    let protoMajor ← packUnsigned 1 info.protoMajor
    let protoMinor ← packUnsigned 1 info.protoMinor
    let fwMajor ← packUnsigned 1 info.fwMajor
    let fwMinor ← packUnsigned 1 info.fwMinor
    let fwPatch ← packUnsigned 1 info.fwPatch
    let radioChipId ← packUnsigned 2 info.radioChipId
    let capabilityBitmap ← packUnsigned 8 info.capabilityBitmap
    let supportedSfBitmap ← packUnsigned 2 info.supportedSfBitmap
    let supportedBwBitmap ← packUnsigned 2 info.supportedBwBitmap
    let maxPayloadBytes ← packUnsigned 2 info.maxPayloadBytes
    let rxQueueCapacity ← packUnsigned 2 info.rxQueueCapacity
    let txQueueCapacity ← packUnsigned 2 info.txQueueCapacity
    let freqMinHz ← packUnsigned 4 info.freqMinHz
    let freqMaxHz ← packUnsigned 4 info.freqMaxHz
    let txPowerMinDbm ← packSigned 1 info.txPowerMinDbm
    let txPowerMaxDbm ← packSigned 1 info.txPowerMaxDbm
    let mcuUidLen ← packUnsigned 1 info.mcuUid.length
    let radioUidLen ← byteOf info.radioUid.length
    return protoMajor ++ protoMinor ++ fwMajor ++ fwMinor ++ fwPatch ++ radioChipId ++ capabilityBitmap
      ++ supportedSfBitmap ++ supportedBwBitmap ++ maxPayloadBytes ++ rxQueueCapacity ++ txQueueCapacity
      ++ freqMinHz ++ freqMaxHz ++ txPowerMinDbm ++ txPowerMaxDbm ++ mcuUidLen
      ++ info.mcuUid ++ radioUidLen ++ info.radioUid

def decode (data : Bytes) : Except Exc Info :=
  if data.length < 37 then .error (.valueError s!"Info payload too short: {data.length}")
  else do
    let protoMajor ← unpackUnsigned 1 0 data
    let protoMinor ← unpackUnsigned 1 1 data
    let fwMajor ← unpackUnsigned 1 2 data
    let fwMinor ← unpackUnsigned 1 3 data
    let fwPatch ← unpackUnsigned 1 4 data
    let radioChipId ← unpackUnsigned 2 5 data
    let capabilityBitmap ← unpackUnsigned 8 7 data
    let supportedSfBitmap ← unpackUnsigned 2 15 data
    let supportedBwBitmap ← unpackUnsigned 2 17 data
    let maxPayloadBytes ← unpackUnsigned 2 19 data
    let rxQueueCapacity ← unpackUnsigned 2 21 data
    let txQueueCapacity ← unpackUnsigned 2 23 data
    let freqMinHz ← unpackUnsigned 4 25 data
    let freqMaxHz ← unpackUnsigned 4 29 data
    let txPowerMinDbm ← unpackSigned 1 33 data
    let txPowerMaxDbm ← unpackSigned 1 34 data
    let mcuUidLen ← unpackUnsigned 1 35 data
    if mcuUidLen > maxMcuUidLen then
      .error (.valueError s!"mcu_uid_len out of range: {mcuUidLen}")
    else if data.length < 36 + mcuUidLen + 1 then
      .error (.valueError s!"Info payload truncated after mcu_uid: {data.length}")
    else
      let mcuUid := (data.drop 36).take mcuUidLen
      let radioLenIdx := 36 + mcuUidLen
      let radioUidLen ← byteAt data radioLenIdx
      if radioUidLen > maxRadioUidLen then
        .error (.valueError s!"radio_uid_len out of range: {radioUidLen}")
      else
        let radioStart := radioLenIdx + 1
        if data.length < radioStart + radioUidLen then
          .error (.valueError s!"Info payload truncated after radio_uid: {data.length}")
        else
          let radioUid := (data.drop radioStart).take radioUidLen
          return {
            protoMajor, protoMinor, fwMajor, fwMinor, fwPatch, radioChipId, capabilityBitmap
            supportedSfBitmap, supportedBwBitmap, maxPayloadBytes, rxQueueCapacity, txQueueCapacity
            freqMinHz, freqMaxHz, txPowerMinDbm, txPowerMaxDbm, mcuUid, radioUid }

end Info
end DongloraClient
