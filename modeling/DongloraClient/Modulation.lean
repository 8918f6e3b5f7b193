import DongloraClient.Encoding

/-! Radio configurations and their `SET_CONFIG` payloads. Integer fields are
arbitrary integers, as the dataclasses do not validate them: encoding does. -/

namespace DongloraClient
open Wire

inductive ModulationId where
  | lora | fskGfsk | lrFhss | flrc
  deriving DecidableEq, Repr

def ModulationId.value : ModulationId → Nat
  | lora => 0x01
  | fskGfsk => 0x02
  | lrFhss => 0x03
  | flrc => 0x04

inductive LoRaBandwidth where
  | khz7_81 | khz10_42 | khz15_63 | khz20_83 | khz31_25 | khz41_67 | khz62_5 | khz125 | khz250 | khz500
  | khz200 | khz400 | khz800 | khz1600
  deriving DecidableEq, Repr

instance : IntEnum LoRaBandwidth where
  className := "LoRaBandwidth"
  members := [.khz7_81, .khz10_42, .khz15_63, .khz20_83, .khz31_25, .khz41_67, .khz62_5, .khz125, .khz250,
    .khz500, .khz200, .khz400, .khz800, .khz1600]
  value
    | .khz7_81 => 0 | .khz10_42 => 1 | .khz15_63 => 2 | .khz20_83 => 3 | .khz31_25 => 4 | .khz41_67 => 5
    | .khz62_5 => 6 | .khz125 => 7 | .khz250 => 8 | .khz500 => 9 | .khz200 => 10 | .khz400 => 11
    | .khz800 => 12 | .khz1600 => 13

/-- `bw.name`, as `_prepare_config` quotes it. -/
def LoRaBandwidth.name : LoRaBandwidth → String
  | khz7_81 => "KHZ_7_81" | khz10_42 => "KHZ_10_42" | khz15_63 => "KHZ_15_63" | khz20_83 => "KHZ_20_83"
  | khz31_25 => "KHZ_31_25" | khz41_67 => "KHZ_41_67" | khz62_5 => "KHZ_62_5" | khz125 => "KHZ_125"
  | khz250 => "KHZ_250" | khz500 => "KHZ_500" | khz200 => "KHZ_200" | khz400 => "KHZ_400"
  | khz800 => "KHZ_800" | khz1600 => "KHZ_1600"

inductive LoRaCodingRate where
  | cr4_5 | cr4_6 | cr4_7 | cr4_8
  deriving DecidableEq, Repr

instance : IntEnum LoRaCodingRate where
  className := "LoRaCodingRate"
  members := [.cr4_5, .cr4_6, .cr4_7, .cr4_8]
  value
    | .cr4_5 => 0 | .cr4_6 => 1 | .cr4_7 => 2 | .cr4_8 => 3

inductive LoRaHeaderMode where
  | explicit | implicit
  deriving DecidableEq, Repr

instance : IntEnum LoRaHeaderMode where
  className := "LoRaHeaderMode"
  members := [.explicit, .implicit]
  value
    | .explicit => 0 | .implicit => 1

structure LoRaConfig where
  freqHz : Int
  sf : Int
  bw : LoRaBandwidth
  cr : LoRaCodingRate
  preambleLen : Int := 8
  syncWord : Int := 0x1424
  txPowerDbm : Int := 14
  headerMode : LoRaHeaderMode := .explicit
  payloadCrc : Bool := true
  iqInvert : Bool := false
  deriving DecidableEq, Repr

namespace LoRaConfig

/-- What `connect` applies when it is given no configuration. -/
def default : LoRaConfig where
  freqHz := 868100000
  sf := 7
  bw := .khz125
  cr := .cr4_5
  preambleLen := 8
  syncWord := 0x1424
  txPowerDbm := 14
  headerMode := .explicit
  payloadCrc := true
  iqInvert := false

def encode (config : LoRaConfig) : Except Exc Bytes := do
  let freqHz ← packUnsigned 4 config.freqHz
  let sf ← byteOf config.sf
  let bw ← byteOf (IntEnum.value config.bw)
  let cr ← byteOf (IntEnum.value config.cr)
  let preambleLen ← packUnsigned 2 config.preambleLen
  let syncWord ← packUnsigned 2 config.syncWord
  let txPowerDbm ← packSigned 1 config.txPowerDbm
  let headerMode ← byteOf (IntEnum.value config.headerMode)
  return freqHz ++ sf ++ bw ++ cr ++ preambleLen ++ syncWord ++ txPowerDbm ++ headerMode
    ++ [if config.payloadCrc then 1 else 0, if config.iqInvert then 1 else 0]

def decode (data : Bytes) : Except Exc LoRaConfig :=
  if data.length ≠ 15 then
    .error (.valueError s!"LoRaConfig wire size must be 15 bytes, got {data.length}")
  else do
    let freqHz ← unpackUnsigned 4 0 data
    let sf ← byteAt data 4
    let bw ← IntEnum.ofValue LoRaBandwidth (← byteAt data 5)
    let cr ← IntEnum.ofValue LoRaCodingRate (← byteAt data 6)
    let preambleLen ← unpackUnsigned 2 7 data
    let syncWord ← unpackUnsigned 2 9 data
    let txPowerDbm ← unpackSigned 1 11 data
    let headerMode ← IntEnum.ofValue LoRaHeaderMode (← byteAt data 12)
    let payloadCrc ← byteAt data 13
    let iqInvert ← byteAt data 14
    if payloadCrc > 1 ∨ iqInvert > 1 then
      .error (.valueError "LoRaConfig payload_crc / iq_invert must be 0 or 1")
    else
      return {
        freqHz, sf, bw, cr, preambleLen, syncWord, txPowerDbm, headerMode
        payloadCrc := payloadCrc != 0
        iqInvert := iqInvert != 0 }

end LoRaConfig

structure FskConfig where
  freqHz : Int
  bitrateBps : Int
  freqDevHz : Int
  rxBw : Int
  preambleLen : Int := 16
  syncWord : Bytes := []
  deriving DecidableEq, Repr

namespace FskConfig

def encode (config : FskConfig) : Except Exc Bytes :=
  if config.syncWord.length > 8 then .error (.valueError "FSK sync word max 8 bytes")
  else do
    let freqHz ← packUnsigned 4 config.freqHz
    let bitrateBps ← packUnsigned 4 config.bitrateBps
    let freqDevHz ← packUnsigned 4 config.freqDevHz
    let rxBw ← byteOf config.rxBw
    let preambleLen ← packUnsigned 2 config.preambleLen
    let syncWordLen ← byteOf config.syncWord.length
    return freqHz ++ bitrateBps ++ freqDevHz ++ rxBw ++ preambleLen ++ syncWordLen ++ config.syncWord

def decode (data : Bytes) : Except Exc FskConfig :=
  if data.length < 16 then .error (.valueError s!"FskConfig too short: {data.length}")
  else do
    let freqHz ← unpackUnsigned 4 0 data
    let bitrateBps ← unpackUnsigned 4 4 data
    let freqDevHz ← unpackUnsigned 4 8 data
    let rxBw ← byteAt data 12
    let preambleLen ← unpackUnsigned 2 13 data
    let syncWordLen ← byteAt data 15
    if syncWordLen > 8 then .error (.valueError s!"FSK sync_word_len out of range: {syncWordLen}")
    else if data.length ≠ 16 + syncWordLen then
      .error (.valueError s!"FskConfig wrong total length: {data.length}")
    else
      return {
        freqHz, bitrateBps, freqDevHz, rxBw, preambleLen
        syncWord := (data.drop 16).take syncWordLen }

end FskConfig

inductive LrFhssBandwidth where
  | khz39 | khz86 | khz137 | khz184 | khz336 | khz387 | khz723 | khz1523
  deriving DecidableEq, Repr

instance : IntEnum LrFhssBandwidth where
  className := "LrFhssBandwidth"
  members := [.khz39, .khz86, .khz137, .khz184, .khz336, .khz387, .khz723, .khz1523]
  value
    | .khz39 => 0 | .khz86 => 1 | .khz137 => 2 | .khz184 => 3 | .khz336 => 4 | .khz387 => 5 | .khz723 => 6
    | .khz1523 => 7

inductive LrFhssCodingRate where
  | cr5_6 | cr2_3 | cr1_2 | cr1_3
  deriving DecidableEq, Repr

instance : IntEnum LrFhssCodingRate where
  className := "LrFhssCodingRate"
  members := [.cr5_6, .cr2_3, .cr1_2, .cr1_3]
  value
    | .cr5_6 => 0 | .cr2_3 => 1 | .cr1_2 => 2 | .cr1_3 => 3

inductive LrFhssGrid where
  | khz25 | khz3_9
  deriving DecidableEq, Repr

instance : IntEnum LrFhssGrid where
  className := "LrFhssGrid"
  members := [.khz25, .khz3_9]
  value
    | .khz25 => 0 | .khz3_9 => 1

structure LrFhssConfig where
  freqHz : Int
  bw : LrFhssBandwidth
  cr : LrFhssCodingRate
  grid : LrFhssGrid
  hopping : Bool := true
  txPowerDbm : Int := 14
  deriving DecidableEq, Repr

namespace LrFhssConfig

def encode (config : LrFhssConfig) : Except Exc Bytes := do
  let freqHz ← packUnsigned 4 config.freqHz
  let bw ← byteOf (IntEnum.value config.bw)
  let cr ← byteOf (IntEnum.value config.cr)
  let grid ← byteOf (IntEnum.value config.grid)
  let txPowerDbm ← packSigned 1 config.txPowerDbm
  return freqHz ++ bw ++ cr ++ grid ++ [if config.hopping then 1 else 0] ++ txPowerDbm ++ [0]

def decode (data : Bytes) : Except Exc LrFhssConfig :=
  if data.length ≠ 10 then
    .error (.valueError s!"LrFhssConfig wire size must be 10 bytes, got {data.length}")
  else do
    let freqHz ← unpackUnsigned 4 0 data
    let bw ← IntEnum.ofValue LrFhssBandwidth (← byteAt data 4)
    let cr ← IntEnum.ofValue LrFhssCodingRate (← byteAt data 5)
    let grid ← IntEnum.ofValue LrFhssGrid (← byteAt data 6)
    let hopping ← byteAt data 7
    if hopping > 1 then .error (.valueError "hopping must be 0 or 1")
    else
      let txPowerDbm ← unpackSigned 1 8 data
      let reserved ← byteAt data 9
      if reserved ≠ 0 then .error (.valueError "LR-FHSS reserved byte must be 0")
      else return { freqHz, bw, cr, grid, hopping := hopping != 0, txPowerDbm }

end LrFhssConfig

inductive FlrcBitrate where
  | kbps2600 | kbps2080 | kbps1300 | kbps1040 | kbps650 | kbps520 | kbps325 | kbps260
  deriving DecidableEq, Repr

instance : IntEnum FlrcBitrate where
  className := "FlrcBitrate"
  members := [.kbps2600, .kbps2080, .kbps1300, .kbps1040, .kbps650, .kbps520, .kbps325, .kbps260]
  value
    | .kbps2600 => 0 | .kbps2080 => 1 | .kbps1300 => 2 | .kbps1040 => 3 | .kbps650 => 4 | .kbps520 => 5
    | .kbps325 => 6 | .kbps260 => 7

inductive FlrcCodingRate where
  | cr1_2 | cr3_4 | cr1_1
  deriving DecidableEq, Repr

instance : IntEnum FlrcCodingRate where
  className := "FlrcCodingRate"
  members := [.cr1_2, .cr3_4, .cr1_1]
  value
    | .cr1_2 => 0 | .cr3_4 => 1 | .cr1_1 => 2

inductive FlrcBt where
  | off | bt0_5 | bt1_0
  deriving DecidableEq, Repr

instance : IntEnum FlrcBt where
  className := "FlrcBt"
  members := [.off, .bt0_5, .bt1_0]
  value
    | .off => 0 | .bt0_5 => 1 | .bt1_0 => 2

inductive FlrcPreambleLen where
  | bits8 | bits12 | bits16 | bits20 | bits24 | bits28 | bits32
  deriving DecidableEq, Repr

instance : IntEnum FlrcPreambleLen where
  className := "FlrcPreambleLen"
  members := [.bits8, .bits12, .bits16, .bits20, .bits24, .bits28, .bits32]
  value
    | .bits8 => 0 | .bits12 => 1 | .bits16 => 2 | .bits20 => 3 | .bits24 => 4 | .bits28 => 5 | .bits32 => 6

structure FlrcConfig where
  freqHz : Int
  bitrate : FlrcBitrate
  cr : FlrcCodingRate
  bt : FlrcBt
  preambleLen : FlrcPreambleLen
  syncWord : Int
  txPowerDbm : Int := 14
  deriving DecidableEq, Repr

namespace FlrcConfig

def encode (config : FlrcConfig) : Except Exc Bytes := do
  let freqHz ← packUnsigned 4 config.freqHz
  let bitrate ← byteOf (IntEnum.value config.bitrate)
  let cr ← byteOf (IntEnum.value config.cr)
  let bt ← byteOf (IntEnum.value config.bt)
  let preambleLen ← byteOf (IntEnum.value config.preambleLen)
  let syncWord ← packUnsigned 4 config.syncWord
  let txPowerDbm ← packSigned 1 config.txPowerDbm
  return freqHz ++ bitrate ++ cr ++ bt ++ preambleLen ++ syncWord ++ txPowerDbm

def decode (data : Bytes) : Except Exc FlrcConfig :=
  if data.length ≠ 13 then
    .error (.valueError s!"FlrcConfig wire size must be 13 bytes, got {data.length}")
  else do
    let freqHz ← unpackUnsigned 4 0 data
    let bitrate ← IntEnum.ofValue FlrcBitrate (← byteAt data 4)
    let cr ← IntEnum.ofValue FlrcCodingRate (← byteAt data 5)
    let bt ← IntEnum.ofValue FlrcBt (← byteAt data 6)
    let preambleLen ← IntEnum.ofValue FlrcPreambleLen (← byteAt data 7)
    let syncWord ← unpackUnsigned 4 8 data
    let txPowerDbm ← unpackSigned 1 12 data
    return { freqHz, bitrate, cr, bt, preambleLen, syncWord, txPowerDbm }

end FlrcConfig

inductive Modulation where
  | lora (config : LoRaConfig)
  | fsk (config : FskConfig)
  | lrFhss (config : LrFhssConfig)
  | flrc (config : FlrcConfig)
  deriving DecidableEq, Repr

def encodeModulation : Modulation → Except Exc Bytes
  | .lora config => return leBytes 1 ModulationId.lora.value ++ (← config.encode)
  | .fsk config => return leBytes 1 ModulationId.fskGfsk.value ++ (← config.encode)
  | .lrFhss config => return leBytes 1 ModulationId.lrFhss.value ++ (← config.encode)
  | .flrc config => return leBytes 1 ModulationId.flrc.value ++ (← config.encode)

def decodeModulation (data : Bytes) : Except Exc Modulation :=
  if data = [] then .error (.valueError "modulation payload is empty")
  else do
    let modId ← byteAt data 0
    let params := data.drop 1
    if modId = ModulationId.lora.value then return .lora (← LoRaConfig.decode params)
    else if modId = ModulationId.fskGfsk.value then return .fsk (← FskConfig.decode params)
    else if modId = ModulationId.lrFhss.value then return .lrFhss (← LrFhssConfig.decode params)
    else if modId = ModulationId.flrc.value then return .flrc (← FlrcConfig.decode params)
    else
      let shown := hexText 2 modId
      .error (.valueError s!"unknown modulation_id: 0x{shown}")

end DongloraClient
