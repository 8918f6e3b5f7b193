import DongloraClient.World

/-! Bringing up a session: `GET_INFO`, the version check and the first `SET_CONFIG`. -/

namespace DongloraClient
open Python

/-- The non-LoRa modulations pass through untouched. -/
def prepareConfig (info : Info) : Modulation → Except Exc Modulation
  | .lora cfg =>
    if ¬ ((info.freqMinHz : Int) ≤ cfg.freqHz ∧ cfg.freqHz ≤ info.freqMaxHz) then
      .error (.configNotSupported
        s!"frequency {cfg.freqHz} Hz outside device range [{info.freqMinHz}, {info.freqMaxHz}] Hz")
    else if cfg.sf < 0 then .error (.valueError "negative shift count")
    else if info.supportedSfBitmap &&& (1 <<< cfg.sf.toNat) = 0 then
      let supported := (List.range 16).filter fun bit => info.supportedSfBitmap &&& (1 <<< bit) ≠ 0
      .error (.configNotSupported s!"SF{cfg.sf} not supported by this device (supports SF{supported})")
    else
      let bwBit := IntEnum.value cfg.bw
      if info.supportedBwBitmap &&& (1 <<< bwBit) = 0 then
        let shown := hexText 4 info.supportedBwBitmap
        .error (.configNotSupported
          s!"bandwidth {cfg.bw.name} (bit {bwBit}) not in supported_bw_bitmap 0x{shown}")
      else if cfg.txPowerDbm > info.txPowerMaxDbm then
        .ok (.lora { cfg with txPowerDbm := info.txPowerMaxDbm })
      else if cfg.txPowerDbm < info.txPowerMinDbm then
        .ok (.lora { cfg with txPowerDbm := info.txPowerMinDbm })
      else .ok (.lora cfg)
  | config => .ok config

/-- `except DongloraError: session.close(); raise`. -/
def closingOnError (session : Nat) (body : Python α) : Python α :=
  tryCatch body fun exc =>
    if exc.isDonglora then do
      closeSession session
      throw exc
    else throw exc

/-- What a new session is brought up to: its number, the device's `Info` and the
configuration that was applied. -/
abbrev Bringup := Nat × Info × Option Modulation

/-- The part `_open_and_init` and `_session_on` have in common, on a transport that is
open. `requested` is what is to be applied, if anything. -/
def bringUp (transport : Nat) (timeout : Rat) (requested : Option Modulation) : Python Bringup := do
  let session ← openSession transport
  match ← closingOnError session (getInfo session timeout) with
  | none =>
    closeSession session
    throw (.dongloraError "GET_INFO returned unexpected payload: None")
  | some info =>
    if info.protoMajor ≠ 1 then
      closeSession session
      throw (.dongloraError
        s!"device speaks DongLoRa Protocol v{info.protoMajor}.{info.protoMinor}; this client requires v1.x")
    else match requested with
    | none => return (session, info, none)
    | some requested =>
      let (prepared, result) ← closingOnError session do
        let prepared ← liftExcept (prepareConfig info requested)
        return (prepared, ← setConfig session prepared timeout)
      return (session, info, some (result.elim prepared SetConfigResult.current))

/-- The arguments of `connect`, as `_open_and_init` captures them. -/
structure Settings where
  port : Option String := none
  timeout : Rat := 2
  config : Option Modulation := none
  autoConfigure : Bool := true

/-- What `connect` applies to a session it opens. -/
def Settings.requested (settings : Settings) : Option Modulation :=
  if settings.autoConfigure then some (settings.config.getD (.lora LoRaConfig.default)) else none

def openAndInit (settings : Settings) : Python Bringup := do
  let transport ← openTransport settings.port settings.timeout
  bringUp transport (max settings.timeout 2) settings.requested

end DongloraClient
