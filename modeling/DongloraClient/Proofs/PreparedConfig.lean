import DongloraClient.Proofs.BringUp
import DongloraClient.Proofs.InfoCodec
import DongloraClient.Proofs.PayloadCodecs

/-! What connecting does to a requested configuration before it reaches the radio. -/

namespace DongloraClient.Proofs.PreparedConfig
open Wire Raising

def Advertised (info : Info) (config : LoRaConfig) : Prop :=
  (info.freqMinHz ≤ config.freqHz ∧ config.freqHz ≤ info.freqMaxHz) ∧
    info.supportedSfBitmap.testBit config.sf.toNat = true ∧
    info.supportedBwBitmap.testBit (IntEnum.value config.bw) = true

instance (info : Info) (config : LoRaConfig) : Decidable (Advertised info config) :=
  inferInstanceAs (Decidable (_ ∧ _ ∧ _))

/-- The value of an interval that is nearer to a request than any other. -/
def Nearest (low high requested level : Int) : Prop :=
  low ≤ level ∧ level ≤ high ∧
    ∀ other, low ≤ other → other ≤ high → other ≠ level → (level - requested).natAbs < (other - requested).natAbs

def clamped (low high requested : Int) : Int :=
  if requested > high then high else if requested < low then low else requested

theorem clamped_nearest {low high : Int} (ordered : low ≤ high) (requested : Int) :
    Nearest low high requested (clamped low high requested) := by
  unfold clamped
  split
  · exact ⟨ordered, Int.le_refl _, fun other _ _ _ => by omega⟩
  · split
    · exact ⟨Int.le_refl _, ordered, fun other _ _ _ => by omega⟩
    · exact ⟨by omega, by omega, fun other _ _ _ => by omega⟩

theorem clamped_inside {low high level : Int} (above : low ≤ level) (below : level ≤ high) :
    clamped low high level = level := by
  rw [clamped, if_neg (Int.not_lt.mpr below), if_neg (Int.not_lt.mpr above)]

theorem bit_clear (bitmap place : Nat) : bitmap &&& (1 <<< place) = 0 ↔ ¬ bitmap.testBit place = true := by
  rw [Nat.one_shiftLeft, Nat.and_two_pow]
  cases bitmap.testBit place <;> simp

variable {info : Info} {config : LoRaConfig}

theorem prepareConfig_lora (nonneg : 0 ≤ config.sf) : (Advertised info config ∧ prepareConfig info (.lora config) =
      .ok (.lora { config with txPowerDbm := clamped info.txPowerMinDbm info.txPowerMaxDbm config.txPowerDbm })) ∨
    (¬ Advertised info config ∧ ∃ text, prepareConfig info (.lora config) = .error (.configNotSupported text)) := by
  by_cases band : (info.freqMinHz : Int) ≤ config.freqHz ∧ config.freqHz ≤ info.freqMaxHz
  swap
  · exact Or.inr ⟨fun advertised => band advertised.1, _, if_pos band⟩
  by_cases sf : info.supportedSfBitmap.testBit config.sf.toNat = true
  swap
  · refine Or.inr ⟨fun advertised => sf advertised.2.1, ?_⟩
    rw [prepareConfig, if_neg (not_not_intro band), if_neg (Int.not_lt.mpr nonneg), if_pos ((bit_clear _ _).mpr sf)]
    exact ⟨_, rfl⟩
  by_cases bw : info.supportedBwBitmap.testBit (IntEnum.value config.bw) = true
  swap
  · refine Or.inr ⟨fun advertised => bw advertised.2.2, ?_⟩
    rw [prepareConfig, if_neg (not_not_intro band), if_neg (Int.not_lt.mpr nonneg),
      if_neg fun clear => (bit_clear _ _).mp clear sf]
    exact ⟨_, if_pos ((bit_clear _ _).mpr bw)⟩
  · refine Or.inl ⟨⟨band, sf, bw⟩, ?_⟩
    rw [prepareConfig, if_neg (not_not_intro band), if_neg (Int.not_lt.mpr nonneg),
      if_neg fun clear => (bit_clear _ _).mp clear sf]
    simp only [if_neg fun clear => (bit_clear _ _).mp clear bw, clamped]
    split
    · rfl
    · split <;> rfl

theorem prepareConfig_advertised (nonneg : 0 ≤ config.sf) (advertised : Advertised info config) :
    prepareConfig info (.lora config) =
      .ok (.lora { config with txPowerDbm := clamped info.txPowerMinDbm info.txPowerMaxDbm config.txPowerDbm }) := by
  rcases prepareConfig_lora nonneg with ⟨_, prepared⟩ | ⟨unsupported, _⟩
  · exact prepared
  · exact absurd advertised unsupported

theorem prepareConfig_again (nonneg : 0 ≤ config.sf) (advertised : Advertised info config) {level : Int}
    (above : info.txPowerMinDbm ≤ level) (below : level ≤ info.txPowerMaxDbm) :
    prepareConfig info (.lora { config with txPowerDbm := level }) = .ok (.lora { config with txPowerDbm := level }) := by
  have again : Advertised info { config with txPowerDbm := level } := advertised
  refine (prepareConfig_advertised ?_ again).trans ?_
  · exact nonneg
  · rw [clamped_inside above below]

theorem prepareConfig_other {config : Modulation} (other : ∀ lora, config ≠ .lora lora) :
    prepareConfig info config = .ok config := by
  cases config with
  | lora config => exact absurd rfl (other config)
  | fsk | lrFhss | flrc => rfl

theorem lora_encodes (freqHz : FitsUnsigned 4 config.freqHz) (sf : FitsUnsigned 1 config.sf)
    (preambleLen : FitsUnsigned 2 config.preambleLen) (syncWord : FitsUnsigned 2 config.syncWord)
    (txPowerDbm : FitsSigned 1 config.txPowerDbm) : ∃ payload, encodeModulation (.lora config) = .ok payload := by
  have sfByte : byteOf config.sf = .ok (leBytes 1 config.sf.toNat) := if_pos sf
  have bw : IntEnum.value config.bw < 256 ^ 1 := by cases config.bw <;> decide
  have cr : IntEnum.value config.cr < 256 ^ 1 := by cases config.cr <;> decide
  have headerMode : IntEnum.value config.headerMode < 256 ^ 1 := by cases config.headerMode <;> decide
  simp only [encodeModulation, LoRaConfig.encode, packUnsigned_fits freqHz, sfByte, byteOf_nat bw, byteOf_nat cr,
    packUnsigned_fits preambleLen, packUnsigned_fits syncWord, packSigned_fits txPowerDbm, byteOf_nat headerMode, ok_bind]
  exact ⟨_, rfl⟩

/-- What the device advertises fits the wire. -/
theorem advertised_encodes (fits : InfoCodec.Fits info) (nonneg : 0 ≤ config.sf) (advertised : Advertised info config)
    {level : Int} (above : info.txPowerMinDbm ≤ level) (below : level ≤ info.txPowerMaxDbm)
    (preambleLen : FitsUnsigned 2 config.preambleLen) (syncWord : FitsUnsigned 2 config.syncWord) :
    ∃ payload, encodeModulation (.lora { config with txPowerDbm := level }) = .ok payload := by
  obtain ⟨⟨low, high⟩, sf, bw⟩ := advertised
  have freqHz : FitsUnsigned 4 config.freqHz := by
    have bound := fits.freqMaxHz
    exact ⟨by omega, by omega⟩
  have narrow : config.sf.toNat < 16 := by
    have bit := Nat.ge_two_pow_of_testBit sf
    exact (Nat.pow_lt_pow_iff_right (by decide)).mp (bit.trans_lt (fits.supportedSfBitmap.trans_eq (by decide)))
  have byte : FitsUnsigned 1 config.sf := ⟨nonneg, by omega⟩
  have power : FitsSigned 1 level := by
    have lowest := fits.txPowerMinDbm.1
    have highest := fits.txPowerMaxDbm.2
    exact ⟨by omega, by omega⟩
  exact lora_encodes freqHz byte preambleLen syncWord power

section Sent
open Program DongleLogic BringUp

variable {law : World → Exchange → Prop} {world : World} {requested : Option Modulation} {log : Log}

def configured : Sigma Reply → Option Modulation
  | ⟨.command _ (.setConfig modulation) _, _⟩ => some modulation
  | _ => none

/-- Only the requested configuration is sent, prepared for the device that has answered. -/
def SentPrepared (requested : Option Modulation) (log : Log) : Prop :=
  ∀ sent ∈ log.filterMap configured, ∃ info ∈ log.filterMap greeting, ∃ modulation,
    requested = some modulation ∧ prepareConfig info modulation = .ok sent

theorem unsent_prepared (unsent : log.filterMap configured = []) : SentPrepared requested log := by
  intro sent member
  rw [unsent] at member
  cases member

theorem prepared_sent {info : Info} {modulation config : Modulation} (sent : log.filterMap configured = [config])
    (greeted : info ∈ log.filterMap greeting) (prepared : prepareConfig info modulation = .ok config) :
    SentPrepared (some modulation) log := by
  intro other member
  rw [sent] at member
  cases List.mem_singleton.mp member
  exact ⟨info, greeted, modulation, rfl, prepared⟩

theorem settled_prepared {session : Nat} {exc : Exc} :
    SentPrepared requested (settled session exc log) ↔ SentPrepared requested log := by
  rw [SentPrepared, settled_keeps rfl, settled_keeps rfl, SentPrepared]

theorem course_prepared {ended : Option Exc} {after : Log} (unsent : log.filterMap configured = [])
    (course : Course requested log ended after) : SentPrepared requested after := by
  cases course with
  | unanswered => exact settled_prepared.mpr (unsent_prepared unsent)
  | nameless => exact unsent_prepared unsent
  | incompatible => exact unsent_prepared unsent
  | unprepared => exact settled_prepared.mpr (unsent_prepared unsent)
  | refused same prepared =>
    subst same
    apply settled_prepared.mpr
    apply prepared_sent
    · exact congrArg (List.cons _) unsent
    · exact List.mem_cons_self
    · exact prepared
  | configured same prepared =>
    subst same
    apply prepared_sent
    · exact congrArg (List.cons _) unsent
    · exact List.mem_cons_self
    · exact prepared
  | unconfigured => exact unsent_prepared unsent

/-- Whether it returns or raises. -/
theorem openAndInit_sends {settings : Settings} {start last : World} {outcome : Except Exc Bringup}
    (executed : Executes (Logged (Answers law)) (openAndInit settings).run (start, []) outcome (last, log)) :
    SentPrepared settings.requested log := by
  have sends : Records law (openAndInit settings) (fun _ after => SentPrepared settings.requested after.2)
      (fun _ after => SentPrepared settings.requested after.2) start [] := by
    apply (ensures_bind _ _).mpr
    rintro (exc | transport) ⟨middle, log⟩ ⟨-, rfl⟩
    · exact unsent_prepared rfl
    · exact (bringUp_course transport _).mono (fun _ _ => course_prepared rfl) fun _ _ => course_prepared rfl
  cases outcome with
  | ok result => exact sends.returned executed
  | error exc => exact sends.raised executed

end Sent

/-- A configuration reaches the radio as it was requested, except for a power outside the
device's range, or not at all. -/
theorem preparation_safe :
    (∀ data info, Info.decode data = .ok info → info.txPowerMinDbm ≤ info.txPowerMaxDbm →
      ∀ config : LoRaConfig, 0 ≤ config.sf →
        ((∃ text, prepareConfig info (.lora config) = .error (.configNotSupported text)) ↔ ¬ Advertised info config) ∧
        (Advertised info config → ∃ level,
          let prepared := Modulation.lora { config with txPowerDbm := level }
          Nearest info.txPowerMinDbm info.txPowerMaxDbm config.txPowerDbm level ∧
            prepareConfig info (.lora config) = .ok prepared ∧ prepareConfig info prepared = .ok prepared ∧
            (FitsUnsigned 2 config.preambleLen → FitsUnsigned 2 config.syncWord →
              ∃ payload, (Request.setConfig prepared).payload = .ok payload ∧
                decodeModulation payload = .ok prepared))) ∧
    (∀ info config, (∀ lora, config ≠ .lora lora) → prepareConfig info config = .ok config) ∧
    ∀ law settings start outcome last log,
      Program.Executes (Program.Logged (Answers law)) (openAndInit settings).run (start, []) outcome (last, log) →
        SentPrepared settings.requested log := by
  refine ⟨fun data info decoded ordered config nonneg => ⟨?_, fun advertised => ?_⟩, fun _ _ => prepareConfig_other,
    fun _ _ _ _ _ _ => openAndInit_sends⟩
  · rcases (prepareConfig_lora nonneg : (Advertised info config ∧ _) ∨ _) with ⟨advertised, prepared⟩ | ⟨unsupported, raised⟩
    · refine iff_of_false ?_ (not_not_intro advertised)
      rintro ⟨text, raised⟩
      cases prepared.symm.trans raised
    · exact iff_of_true raised unsupported
  · have nearest := clamped_nearest ordered config.txPowerDbm
    refine ⟨_, nearest, prepareConfig_advertised nonneg advertised,
      prepareConfig_again nonneg advertised nearest.1 nearest.2.1, fun preambleLen syncWord => ?_⟩
    have fits := (InfoCodec.decode_ok decoded).1
    obtain ⟨payload, encoded⟩ :=
      advertised_encodes fits nonneg advertised nearest.1 nearest.2.1 preambleLen syncWord
    exact ⟨payload, encoded, PayloadCodecs.modulation_written encoded⟩

/-- A request for more power than the device has. -/
theorem preparation_safe_loud : ∃ level, Nearest (-9) 22 30 level ∧
    prepareConfig InfoCodec.sampleInfo (.lora { LoRaConfig.default with txPowerDbm := 30 }) =
      .ok (.lora { LoRaConfig.default with txPowerDbm := level }) := by
  have decoded : Info.decode (InfoCodec.wire InfoCodec.sampleInfo []) = .ok InfoCodec.sampleInfo := rfl
  have advertised : Advertised InfoCodec.sampleInfo { LoRaConfig.default with txPowerDbm := 30 } := by decide
  obtain ⟨level, nearest, prepared, _⟩ := (preparation_safe.1 _ _ decoded (by decide)
    { LoRaConfig.default with txPowerDbm := 30 } (by decide)).2 advertised
  exact ⟨level, nearest, prepared⟩

end DongloraClient.Proofs.PreparedConfig
