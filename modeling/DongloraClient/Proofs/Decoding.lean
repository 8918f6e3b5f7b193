import DongloraClient.Session

/-! Which exceptions the codecs raise. Every decoder checks the length before it reads
a field, so that only `ValueError` comes out of it; no encoder raises an exception of
the client's own. -/

namespace DongloraClient.Proofs.Decoding
open Wire Raising

variable (data : Bytes)

theorem enum_at (α : Type) [IntEnum α] {index : Nat} {data : Bytes} (inside : index < data.length)
    {next : α → Except Exc β} (rest : ∀ member, OnlyValueError (next member)) :
    OnlyValueError (byteAt data index >>= fun number => IntEnum.ofValue α number >>= next) :=
  Only.bind (byteAt_inside inside) fun number _ => Only.bind (IntEnum.ofValue_raises number) fun member _ => rest member

theorem loraConfig_raises : OnlyValueError (LoRaConfig.decode data) := by
  refine Only.ite (fun _ => Only.error ⟨_, rfl⟩) fun size => ?_
  refine Only.bind (unpackUnsigned_inside (by omega)) fun freqHz _ => ?_
  refine Only.bind (byteAt_inside (by omega)) fun sf _ => ?_
  refine enum_at LoRaBandwidth (by omega) fun bw => ?_
  refine enum_at LoRaCodingRate (by omega) fun cr => ?_
  refine Only.bind (unpackUnsigned_inside (by omega)) fun preambleLen _ => ?_
  refine Only.bind (unpackUnsigned_inside (by omega)) fun syncWord _ => ?_
  refine Only.bind (unpackSigned_inside (by omega)) fun txPowerDbm _ => ?_
  refine enum_at LoRaHeaderMode (by omega) fun headerMode => ?_
  refine Only.bind (byteAt_inside (by omega)) fun payloadCrc _ => ?_
  refine Only.bind (byteAt_inside (by omega)) fun iqInvert _ => ?_
  exact Only.ite (fun _ => Only.error ⟨_, rfl⟩) fun _ => Only.pure _

theorem fskConfig_raises : OnlyValueError (FskConfig.decode data) := by
  refine Only.ite (fun _ => Only.error ⟨_, rfl⟩) fun size => ?_
  refine Only.bind (unpackUnsigned_inside (by omega)) fun freqHz _ => ?_
  refine Only.bind (unpackUnsigned_inside (by omega)) fun bitrateBps _ => ?_
  refine Only.bind (unpackUnsigned_inside (by omega)) fun freqDevHz _ => ?_
  refine Only.bind (byteAt_inside (by omega)) fun rxBw _ => ?_
  refine Only.bind (unpackUnsigned_inside (by omega)) fun preambleLen _ => ?_
  refine Only.bind (byteAt_inside (by omega)) fun syncWordLen _ => ?_
  refine Only.ite (fun _ => Only.error ⟨_, rfl⟩) fun _ => ?_
  exact Only.ite (fun _ => Only.error ⟨_, rfl⟩) fun _ => Only.pure _

theorem lrFhssConfig_raises : OnlyValueError (LrFhssConfig.decode data) := by
  refine Only.ite (fun _ => Only.error ⟨_, rfl⟩) fun size => ?_
  refine Only.bind (unpackUnsigned_inside (by omega)) fun freqHz _ => ?_
  refine enum_at LrFhssBandwidth (by omega) fun bw => ?_
  refine enum_at LrFhssCodingRate (by omega) fun cr => ?_
  refine enum_at LrFhssGrid (by omega) fun grid => ?_
  refine Only.bind (byteAt_inside (by omega)) fun hopping _ => ?_
  refine Only.ite (fun _ => Only.error ⟨_, rfl⟩) fun _ => ?_
  refine Only.bind (unpackSigned_inside (by omega)) fun txPowerDbm _ => ?_
  refine Only.bind (byteAt_inside (by omega)) fun reserved _ => ?_
  exact Only.ite (fun _ => Only.error ⟨_, rfl⟩) fun _ => Only.pure _

theorem flrcConfig_raises : OnlyValueError (FlrcConfig.decode data) := by
  refine Only.ite (fun _ => Only.error ⟨_, rfl⟩) fun size => ?_
  refine Only.bind (unpackUnsigned_inside (by omega)) fun freqHz _ => ?_
  refine enum_at FlrcBitrate (by omega) fun bitrate => ?_
  refine enum_at FlrcCodingRate (by omega) fun cr => ?_
  refine enum_at FlrcBt (by omega) fun bt => ?_
  refine enum_at FlrcPreambleLen (by omega) fun preambleLen => ?_
  refine Only.bind (unpackUnsigned_inside (by omega)) fun syncWord _ => ?_
  refine Only.bind (unpackSigned_inside (by omega)) fun txPowerDbm _ => ?_
  exact Only.pure _

theorem decodeModulation_raises : OnlyValueError (decodeModulation data) := by
  refine Only.ite (fun _ => Only.error ⟨_, rfl⟩) fun nonempty => ?_
  have inside : 0 < data.length := List.length_pos_of_ne_nil nonempty
  refine Only.bind (byteAt_inside inside) fun modId _ => ?_
  refine Only.ite (fun _ => Only.bind (loraConfig_raises _) fun _ _ => Only.pure _) fun _ => ?_
  refine Only.ite (fun _ => Only.bind (fskConfig_raises _) fun _ _ => Only.pure _) fun _ => ?_
  refine Only.ite (fun _ => Only.bind (lrFhssConfig_raises _) fun _ _ => Only.pure _) fun _ => ?_
  refine Only.ite (fun _ => Only.bind (flrcConfig_raises _) fun _ _ => Only.pure _) fun _ => ?_
  exact Only.error ⟨_, rfl⟩

theorem setConfigResult_raises : OnlyValueError (SetConfigResult.decode data) := by
  refine Only.ite (fun _ => Only.error ⟨_, rfl⟩) fun size => ?_
  refine enum_at SetConfigResultCode (by omega) fun result => ?_
  refine enum_at Owner (by omega) fun owner => ?_
  exact Only.bind (decodeModulation_raises _) fun current _ => Only.pure _

/-- The fixed header is covered by the first length check, the two identifiers by
the later ones. -/
theorem info_raises : OnlyValueError (Info.decode data) := by
  refine Only.ite (fun _ => Only.error ⟨_, rfl⟩) fun size => ?_
  refine Only.bind (unpackUnsigned_inside (by omega)) fun protoMajor _ => ?_
  refine Only.bind (unpackUnsigned_inside (by omega)) fun protoMinor _ => ?_
  refine Only.bind (unpackUnsigned_inside (by omega)) fun fwMajor _ => ?_
  refine Only.bind (unpackUnsigned_inside (by omega)) fun fwMinor _ => ?_
  refine Only.bind (unpackUnsigned_inside (by omega)) fun fwPatch _ => ?_
  refine Only.bind (unpackUnsigned_inside (by omega)) fun radioChipId _ => ?_
  refine Only.bind (unpackUnsigned_inside (by omega)) fun capabilityBitmap _ => ?_
  refine Only.bind (unpackUnsigned_inside (by omega)) fun supportedSfBitmap _ => ?_
  refine Only.bind (unpackUnsigned_inside (by omega)) fun supportedBwBitmap _ => ?_
  refine Only.bind (unpackUnsigned_inside (by omega)) fun maxPayloadBytes _ => ?_
  refine Only.bind (unpackUnsigned_inside (by omega)) fun rxQueueCapacity _ => ?_
  refine Only.bind (unpackUnsigned_inside (by omega)) fun txQueueCapacity _ => ?_
  refine Only.bind (unpackUnsigned_inside (by omega)) fun freqMinHz _ => ?_
  refine Only.bind (unpackUnsigned_inside (by omega)) fun freqMaxHz _ => ?_
  refine Only.bind (unpackSigned_inside (by omega)) fun txPowerMinDbm _ => ?_
  refine Only.bind (unpackSigned_inside (by omega)) fun txPowerMaxDbm _ => ?_
  refine Only.bind (unpackUnsigned_inside (by omega)) fun mcuUidLen _ => ?_
  refine Only.ite (fun _ => Only.error ⟨_, rfl⟩) fun _ => ?_
  refine Only.ite (fun _ => Only.error ⟨_, rfl⟩) fun afterMcu => ?_
  refine Only.bind (byteAt_inside (by omega)) fun radioUidLen _ => ?_
  refine Only.ite (fun _ => Only.error ⟨_, rfl⟩) fun _ => ?_
  exact Only.ite (fun _ => Only.error ⟨_, rfl⟩) fun _ => Only.pure _

theorem txDone_raises : OnlyValueError (TxDone.decode data) := by
  refine Only.ite (fun _ => Only.error ⟨_, rfl⟩) fun size => ?_
  refine enum_at TxResult (by omega) fun result => ?_
  exact Only.bind (unpackUnsigned_inside (by omega)) fun airtimeUs _ => Only.pure _

theorem rxEvent_raises : OnlyValueError (RxEvent.decode data) := by
  refine Only.ite (fun _ => Only.error ⟨_, rfl⟩) fun size => ?_
  have header : 20 ≤ data.length := Nat.le_of_not_lt size
  refine Only.bind (unpackSigned_inside (by omega)) fun rssiRaw _ => ?_
  refine Only.bind (unpackSigned_inside (by omega)) fun snrRaw _ => ?_
  refine Only.bind (unpackSigned_inside (by omega)) fun freqErrHz _ => ?_
  refine Only.bind (unpackUnsigned_inside (by omega)) fun timestampUs _ => ?_
  refine Only.bind (byteAt_inside (by omega)) fun crcValid _ => ?_
  refine Only.ite (fun _ => Only.error ⟨_, rfl⟩) fun _ => ?_
  refine Only.bind (unpackUnsigned_inside (by omega)) fun packetsDropped _ => ?_
  exact enum_at RxOrigin (by omega) fun origin => Only.pure _

theorem parseOkPayload_raises (cmdType : Nat) : OnlyValueError (parseOkPayload cmdType data) := by
  refine Only.ite (fun _ => ?_) fun _ => ?_
  · exact Only.ite (fun _ => Only.error ⟨_, rfl⟩) fun _ => Only.pure _
  refine Only.ite (fun _ => Only.bind (info_raises _) fun _ _ => Only.pure _) fun _ => ?_
  refine Only.ite (fun _ => Only.bind (setConfigResult_raises _) fun _ _ => Only.pure _) fun _ => ?_
  exact Only.error ⟨_, rfl⟩

theorem decodeErrPayload_ok : (∃ code, decodeErrPayload data = .ok code) ↔ data.length = 2 := by
  constructor
  · rintro ⟨code, decoded⟩
    by_contra size
    simp only [decodeErrPayload, if_pos size] at decoded
    cases decoded
  · intro size
    have inside : 0 + 2 ≤ data.length := by omega
    simp only [decodeErrPayload, size, ne_eq, not_true_eq_false, if_false, unpackUnsigned, slice_isSome inside]
    exact ⟨_, rfl⟩

theorem parseOkPayload_tx {value : OkValue} :
    parseOkPayload typeTx data = .ok value ↔ data = [] ∧ value = .none := by
  have empty : typeTx ∈ [typePing, typeTx, typeRxStart, typeRxStop] := by decide
  simp only [parseOkPayload, if_pos empty]
  by_cases nothing : data = []
  · simp only [nothing, ne_eq, not_true_eq_false, if_false, true_and]
    exact ⟨fun same => by cases same; rfl, fun same => same ▸ rfl⟩
  · simp only [ne_eq, nothing, not_false_eq_true, if_true, false_and]
    exact ⟨nofun, nofun⟩

theorem decodeErrPayload_raises : OnlyValueError (decodeErrPayload data) := by
  refine Only.ite (fun _ => Only.error ⟨_, rfl⟩) fun size => ?_
  exact Only.bind (unpackUnsigned_inside (by omega)) fun raw _ => Only.pure _

section Frames
variable (cobs : Cobs.Codec)

/-- The minimum length covers the trailer, the type and the tag. -/
theorem decodeFrameChecked_eq : decodeFrameChecked cobs data = (decodeFrame cobs data).mapError .frameError := by
  unfold decodeFrameChecked decodeFrame
  cases cobs.decode data with
  | error text => rfl
  | ok decoded =>
    dsimp only
    split
    next => rfl
    next long =>
      have size : 5 ≤ decoded.length := Nat.le_of_not_lt long
      have trailer : (decoded.drop (decoded.length - frameTrailerSize)).length = 2 := by
        rw [List.length_drop, frameTrailerSize]
        omega
      have body : 3 ≤ (decoded.take (decoded.length - frameTrailerSize)).length := by
        rw [List.length_take, frameTrailerSize]
        omega
      rw [unpackWhole, if_pos trailer, byteAt_zero (by omega), unpackUnsigned, slice_isSome (by omega)]
      dsimp only [Except.mapError, bind, Except.bind]
      split <;> rfl

theorem readFromChecked_eq (buf : Bytes) (reads : List (Option UInt8)) :
    readFromChecked cobs buf reads = match (readFrom cobs buf reads).1 with
      | .frame frame => some (.ok (some frame))
      | .fault fault => some (.error (.frameError fault))
      | .none => some (.ok none)
      | .starved => none := by
  induction reads generalizing buf with
  | nil => rfl
  | cons read reads ih =>
    cases read with
    | none => rfl
    | some byte =>
      simp only [readFromChecked, readFrom]
      split
      · by_cases empty : buf = []
        · simp [empty]
        · rw [if_neg empty, if_neg empty, decodeFrameChecked_eq]
          cases decodeFrame cobs buf <;> rfl
      · exact ih (buf ++ [byte])

theorem iterFromChecked_eq (start : Nat) (rest : List (UInt8 × Nat)) :
    iterFromChecked cobs data start rest = (iterFrom cobs data start rest).map (·.mapError .frameError) := by
  induction rest generalizing start with
  | nil => rfl
  | cons item rest ih =>
    obtain ⟨byte, i⟩ := item
    simp only [iterFromChecked, iterFrom]
    split
    · split
      · rw [decodeFrameChecked_eq]
        cases decodeFrame cobs ((data.drop start).take (i - start)) with
        | ok frame => exact congrArg (Except.ok frame :: ·) (ih (i + 1))
        | error fault => rfl
      · exact ih (i + 1)
    · exact ih start

/-- An exception that the frame module declares. -/
def FrameExc.Declared (exc : FrameExc) : Prop := ∃ fault, exc = .frameError fault

theorem declared (result : Except FrameFault α) : Only FrameExc.Declared (result.mapError .frameError) := by
  cases result with
  | ok value => exact Only.ok value
  | error fault => exact Only.error ⟨fault, rfl⟩

theorem readFrom_raises (buf : Bytes) (reads : List (Option UInt8)) {result : Except FrameExc (Option Frame)}
    (returned : readFromChecked cobs buf reads = some result) : Only FrameExc.Declared result := by
  rw [readFromChecked_eq] at returned
  split at returned
  next =>
    cases returned
    exact Only.ok _
  next fault _ =>
    cases returned
    exact Only.error ⟨fault, rfl⟩
  next =>
    cases returned
    exact Only.ok _
  next => cases returned

theorem iterFrom_raises : ∀ result ∈ iterFromChecked cobs data 0 data.zipIdx, Only FrameExc.Declared result := by
  rw [iterFromChecked_eq]
  intro result member
  obtain ⟨decoded, _, rfl⟩ := List.mem_map.mp member
  exact declared decoded

end Frames

/-- Whatever arrives, no decoder reaches outside the bytes it was given. -/
theorem decoders_declared (cobs : Cobs.Codec) :
    (∀ frameBytes, Only FrameExc.Declared (decodeFrameChecked cobs frameBytes)) ∧
    (∀ reads result, readFromChecked cobs [] reads = some result → Only FrameExc.Declared result) ∧
    (∀ data, ∀ result ∈ iterFromChecked cobs data 0 data.zipIdx, Only FrameExc.Declared result) ∧
    (∀ cmdType payload, OnlyValueError (parseOkPayload cmdType payload)) ∧
    ∀ payload, OnlyValueError (Info.decode payload) ∧ OnlyValueError (SetConfigResult.decode payload) ∧
      OnlyValueError (decodeModulation payload) ∧ OnlyValueError (TxDone.decode payload) ∧
      OnlyValueError (RxEvent.decode payload) ∧ OnlyValueError (decodeErrPayload payload) :=
  ⟨fun frameBytes => decodeFrameChecked_eq frameBytes cobs ▸ declared (decodeFrame cobs frameBytes),
    fun reads _ => readFrom_raises cobs [] reads, fun data => iterFrom_raises data cobs,
    fun cmdType payload => parseOkPayload_raises payload cmdType,
    fun payload => ⟨info_raises payload, setConfigResult_raises payload, decodeModulation_raises payload,
      txDone_raises payload, rxEvent_raises payload, decodeErrPayload_raises payload⟩⟩

/-- A lone length byte, then a delimiter. -/
theorem decoders_declared_stub :
    Only FrameExc.Declared (Except.error (.frameError (.cobs "not enough input bytes for length code")) :
      Except FrameExc (Option Frame)) :=
  (decoders_declared Cobs.standard).2.1 [some 9, some 0] _ rfl

/-- A computation that raises no `DongloraError`. -/
abbrev Foreign (result : Except Exc α) : Prop := Only (fun exc => exc.isDonglora = false) result

theorem packUnsigned_foreign (width : Nat) (number : Int) : Foreign (packUnsigned width number) :=
  Only.ite (fun _ => Only.ok _) fun _ => Only.error rfl

theorem packSigned_foreign (width : Nat) (number : Int) : Foreign (packSigned width number) :=
  Only.ite (fun _ => Only.ok _) fun _ => Only.error rfl

theorem byteOf_foreign (number : Int) : Foreign (byteOf number) :=
  Only.ite (fun _ => Only.ok _) fun _ => Only.error rfl

theorem loraConfig_foreign (config : LoRaConfig) : Foreign config.encode := by
  refine Only.bind (packUnsigned_foreign _ _) fun freqHz _ => ?_
  refine Only.bind (byteOf_foreign _) fun sf _ => ?_
  refine Only.bind (byteOf_foreign _) fun bw _ => ?_
  refine Only.bind (byteOf_foreign _) fun cr _ => ?_
  refine Only.bind (packUnsigned_foreign _ _) fun preambleLen _ => ?_
  refine Only.bind (packUnsigned_foreign _ _) fun syncWord _ => ?_
  refine Only.bind (packSigned_foreign _ _) fun txPowerDbm _ => ?_
  exact Only.bind (byteOf_foreign _) fun headerMode _ => Only.pure _

theorem fskConfig_foreign (config : FskConfig) : Foreign config.encode := by
  refine Only.ite (fun _ => Only.error rfl) fun _ => ?_
  refine Only.bind (packUnsigned_foreign _ _) fun freqHz _ => ?_
  refine Only.bind (packUnsigned_foreign _ _) fun bitrateBps _ => ?_
  refine Only.bind (packUnsigned_foreign _ _) fun freqDevHz _ => ?_
  refine Only.bind (byteOf_foreign _) fun rxBw _ => ?_
  refine Only.bind (packUnsigned_foreign _ _) fun preambleLen _ => ?_
  exact Only.bind (byteOf_foreign _) fun syncWordLen _ => Only.pure _

theorem lrFhssConfig_foreign (config : LrFhssConfig) : Foreign config.encode := by
  refine Only.bind (packUnsigned_foreign _ _) fun freqHz _ => ?_
  refine Only.bind (byteOf_foreign _) fun bw _ => ?_
  refine Only.bind (byteOf_foreign _) fun cr _ => ?_
  refine Only.bind (byteOf_foreign _) fun grid _ => ?_
  exact Only.bind (packSigned_foreign _ _) fun txPowerDbm _ => Only.pure _

theorem flrcConfig_foreign (config : FlrcConfig) : Foreign config.encode := by
  refine Only.bind (packUnsigned_foreign _ _) fun freqHz _ => ?_
  refine Only.bind (byteOf_foreign _) fun bitrate _ => ?_
  refine Only.bind (byteOf_foreign _) fun cr _ => ?_
  refine Only.bind (byteOf_foreign _) fun bt _ => ?_
  refine Only.bind (byteOf_foreign _) fun preambleLen _ => ?_
  refine Only.bind (packUnsigned_foreign _ _) fun syncWord _ => ?_
  exact Only.bind (packSigned_foreign _ _) fun txPowerDbm _ => Only.pure _

theorem encodeModulation_foreign (modulation : Modulation) : Foreign (encodeModulation modulation) := by
  cases modulation with
  | lora config => exact Only.bind (loraConfig_foreign config) fun _ _ => Only.pure _
  | fsk config => exact Only.bind (fskConfig_foreign config) fun _ _ => Only.pure _
  | lrFhss config => exact Only.bind (lrFhssConfig_foreign config) fun _ _ => Only.pure _
  | flrc config => exact Only.bind (flrcConfig_foreign config) fun _ _ => Only.pure _

theorem payload_foreign (request : Request) : Foreign request.payload := by
  cases request with
  | setConfig modulation => exact encodeModulation_foreign modulation
  | transmit data skipCad =>
    refine Only.ite (fun _ => Only.error rfl) fun _ => ?_
    exact Only.bind (packUnsigned_foreign _ _) fun _ _ => Only.pure _
  | ping | getInfo | rxStart | rxStop => exact Only.pure _

theorem encodeFrame_foreign (cobs : Cobs.Codec) (typeId tag : Int) (payload : Bytes) :
    Foreign (encodeFrame cobs typeId tag payload) := by
  refine Only.ite (fun _ => Only.error rfl) fun _ => ?_
  refine Only.ite (fun _ => Only.error rfl) fun _ => ?_
  refine Only.ite (fun _ => Only.error rfl) fun _ => ?_
  refine Only.bind (packUnsigned_foreign _ _) fun _ _ => ?_
  refine Only.bind (packUnsigned_foreign _ _) fun _ _ => ?_
  exact Only.bind (packUnsigned_foreign _ _) fun _ _ => Only.pure _

/-- Neither encoding nor framing a command raises a `DongloraError`. -/
theorem wire_foreign (cobs : Cobs.Codec) (call : Call) : Foreign (Session.wire cobs call) :=
  Only.bind (payload_foreign _) fun _ _ => encodeFrame_foreign cobs _ _ _

end DongloraClient.Proofs.Decoding
