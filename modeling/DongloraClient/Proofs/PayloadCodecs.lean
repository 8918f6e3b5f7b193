import DongloraClient.Events

/-! The payload formats that are both written and read: what is written reads back,
and what is accepted is written the same way. -/

namespace DongloraClient.Proofs.PayloadCodecs
open Wire Raising

instance : IntEnum.Lawful LoRaBandwidth := ⟨by intro member; cases member <;> decide, by decide⟩
instance : IntEnum.Lawful LoRaCodingRate := ⟨by intro member; cases member <;> decide, by decide⟩
instance : IntEnum.Lawful LoRaHeaderMode := ⟨by intro member; cases member <;> decide, by decide⟩
instance : IntEnum.Lawful LrFhssBandwidth := ⟨by intro member; cases member <;> decide, by decide⟩
instance : IntEnum.Lawful LrFhssCodingRate := ⟨by intro member; cases member <;> decide, by decide⟩
instance : IntEnum.Lawful LrFhssGrid := ⟨by intro member; cases member <;> decide, by decide⟩
instance : IntEnum.Lawful FlrcBitrate := ⟨by intro member; cases member <;> decide, by decide⟩
instance : IntEnum.Lawful FlrcCodingRate := ⟨by intro member; cases member <;> decide, by decide⟩
instance : IntEnum.Lawful FlrcBt := ⟨by intro member; cases member <;> decide, by decide⟩
instance : IntEnum.Lawful FlrcPreambleLen := ⟨by intro member; cases member <;> decide, by decide⟩
instance : IntEnum.Lawful SetConfigResultCode := ⟨by intro member; cases member <;> decide, by decide⟩
instance : IntEnum.Lawful Owner := ⟨by intro member; cases member <;> decide, by decide⟩
instance : IntEnum.Lawful RxOrigin := ⟨by intro member; cases member <;> decide, by decide⟩

theorem lora_written {config : LoRaConfig} {data : Bytes} (written : config.encode = .ok data) :
    LoRaConfig.decode data = .ok config := by
  simp only [LoRaConfig.encode, bind_ok, pure_ok, packUnsigned_ok, packSigned_ok, byteOf_ok, Nat.cast_inj] at written
  obtain ⟨freqHz, ⟨freqWidth, freq⟩, _, ⟨b4, rfl, sf⟩, _, ⟨b5, rfl, bw⟩, _, ⟨b6, rfl, cr⟩,
    preambleLen, ⟨preambleWidth, preamble⟩, syncWord, ⟨syncWidth, sync⟩, txPower, ⟨txWidth, tx⟩,
    _, ⟨b12, rfl, header⟩, rfl⟩ := written
  match freqHz, freqWidth, preambleLen, preambleWidth, syncWord, syncWidth, txPower, txWidth with
  | [b0, b1, b2, b3], _, [b7, b8], _, [b9, b10], _, [b11], _ =>
    simp [LoRaConfig.decode, bind_ok, pure_ok, reject_ok, unpackUnsigned, unpackSigned, byteAt, slice, IntEnum.ofValue_ok]
    refine ⟨_, bw, _, cr, _, header, ⟨flag_small _, flag_small _⟩, ?_⟩
    rw [← freq, ← sf, ← preamble, ← sync, ← tx, flag_read, flag_read]

theorem lora_accepted {config : LoRaConfig} {data : Bytes} (accepted : LoRaConfig.decode data = .ok config) :
    config.encode = .ok data := by
  obtain ⟨size, accepted⟩ := reject_ok.mp accepted
  match data, not_not.mp size with
  | [b0, b1, b2, b3, b4, b5, b6, b7, b8, b9, b10, b11, b12, b13, b14], _ =>
    simp [bind_ok, pure_ok, reject_ok, unpackUnsigned, unpackSigned, byteAt, slice, IntEnum.ofValue_ok] at accepted
    obtain ⟨bw, same5, cr, same6, header, same12, ⟨flag13, flag14⟩, rfl⟩ := accepted
    simp only [LoRaConfig.encode, bind_ok, pure_ok, packUnsigned_ok, packSigned_ok, byteOf_ok, Nat.cast_inj]
    refine ⟨[b0, b1, b2, b3], ⟨rfl, rfl⟩, [b4], ⟨b4, rfl, rfl⟩, [b5], ⟨b5, rfl, same5⟩, [b6], ⟨b6, rfl, same6⟩,
      [b7, b8], ⟨rfl, rfl⟩, [b9, b10], ⟨rfl, rfl⟩, [b11], ⟨rfl, rfl⟩, [b12], ⟨b12, rfl, same12⟩, ?_⟩
    rw [flag_byte (Nat.not_lt.mpr flag13), flag_byte (Nat.not_lt.mpr flag14)]
    rfl

theorem exists_front {data : Bytes} {size : Nat} (long : ¬ data.length < size) :
    ∃ front back, data = front ++ back ∧ front.length = size :=
  ⟨data.take size, data.drop size, (List.take_append_drop _ _).symm, List.length_take_of_le (Nat.le_of_not_lt long)⟩

theorem fsk_written {config : FskConfig} {data : Bytes} (written : config.encode = .ok data) :
    FskConfig.decode data = .ok config := by
  obtain ⟨short, written⟩ := reject_ok.mp written
  simp only [bind_ok, pure_ok, packUnsigned_ok, byteOf_ok, Nat.cast_inj] at written
  obtain ⟨freqHz, ⟨freqWidth, freq⟩, bitrateBps, ⟨bitrateWidth, bitrate⟩, freqDevHz, ⟨devWidth, dev⟩, _, ⟨b12, rfl, bw⟩,
    preambleLen, ⟨preambleWidth, preamble⟩, _, ⟨b15, rfl, length⟩, rfl⟩ := written
  match freqHz, freqWidth, bitrateBps, bitrateWidth, freqDevHz, devWidth, preambleLen, preambleWidth with
  | [b0, b1, b2, b3], _, [b4, b5, b6, b7], _, [b8, b9, b10, b11], _, [b13, b14], _ =>
    have whole : config.syncWord.take b15.toNat = config.syncWord := List.take_of_length_le (Nat.le_of_eq length)
    simp [FskConfig.decode, bind_ok, pure_ok, reject_ok, require_ok, unpackUnsigned, byteAt, slice]
    refine ⟨by omega, by omega, ?_⟩
    rw [← freq, ← bitrate, ← dev, ← bw, ← preamble, whole]

theorem fsk_accepted {config : FskConfig} {data : Bytes} (accepted : FskConfig.decode data = .ok config) :
    config.encode = .ok data := by
  obtain ⟨long, accepted⟩ := reject_ok.mp accepted
  obtain ⟨front, syncWord, rfl, size⟩ := exists_front long
  match front, size with
  | [b0, b1, b2, b3, b4, b5, b6, b7, b8, b9, b10, b11, b12, b13, b14, b15], _ =>
    simp [bind_ok, pure_ok, reject_ok, require_ok, unpackUnsigned, byteAt, slice] at accepted
    obtain ⟨short, total, rfl⟩ := accepted
    have length : syncWord.length = b15.toNat := by omega
    have whole : syncWord.take b15.toNat = syncWord := List.take_of_length_le (Nat.le_of_eq length)
    have fits : ¬ (syncWord.take b15.toNat).length > 8 := by rw [whole]; omega
    rw [FskConfig.encode, reject_ok, whole]
    simp only [bind_ok, pure_ok, packUnsigned_ok, byteOf_ok, Nat.cast_inj]
    exact ⟨whole ▸ fits, [b0, b1, b2, b3], ⟨rfl, rfl⟩, [b4, b5, b6, b7], ⟨rfl, rfl⟩, [b8, b9, b10, b11], ⟨rfl, rfl⟩,
      [b12], ⟨b12, rfl, rfl⟩, [b13, b14], ⟨rfl, rfl⟩, [b15], ⟨b15, rfl, length⟩, rfl⟩

theorem lrFhss_written {config : LrFhssConfig} {data : Bytes} (written : config.encode = .ok data) :
    LrFhssConfig.decode data = .ok config := by
  simp only [LrFhssConfig.encode, bind_ok, pure_ok, packUnsigned_ok, packSigned_ok, byteOf_ok, Nat.cast_inj] at written
  obtain ⟨freqHz, ⟨freqWidth, freq⟩, _, ⟨b4, rfl, bw⟩, _, ⟨b5, rfl, cr⟩, _, ⟨b6, rfl, grid⟩,
    txPower, ⟨txWidth, tx⟩, rfl⟩ := written
  match freqHz, freqWidth, txPower, txWidth with
  | [b0, b1, b2, b3], _, [b8], _ =>
    simp [LrFhssConfig.decode, bind_ok, pure_ok, reject_ok, unpackUnsigned, unpackSigned, byteAt, slice,
      IntEnum.ofValue_ok]
    refine ⟨_, bw, _, cr, _, grid, flag_small _, ?_⟩
    rw [← freq, ← tx, flag_read]

theorem lrFhss_accepted {config : LrFhssConfig} {data : Bytes} (accepted : LrFhssConfig.decode data = .ok config) :
    config.encode = .ok data := by
  obtain ⟨size, accepted⟩ := reject_ok.mp accepted
  match data, not_not.mp size with
  | [b0, b1, b2, b3, b4, b5, b6, b7, b8, b9], _ =>
    simp [bind_ok, pure_ok, reject_ok, require_ok, unpackUnsigned, unpackSigned, byteAt, slice,
      IntEnum.ofValue_ok] at accepted
    obtain ⟨bw, same4, cr, same5, grid, same6, flag, reserved, rfl⟩ := accepted
    have zero : b9 = 0 := UInt8.toNat_inj.mp reserved
    subst zero
    simp only [LrFhssConfig.encode, bind_ok, pure_ok, packUnsigned_ok, packSigned_ok, byteOf_ok, Nat.cast_inj]
    refine ⟨[b0, b1, b2, b3], ⟨rfl, rfl⟩, [b4], ⟨b4, rfl, same4⟩, [b5], ⟨b5, rfl, same5⟩, [b6], ⟨b6, rfl, same6⟩,
      [b8], ⟨rfl, rfl⟩, ?_⟩
    rw [flag_byte (Nat.not_lt.mpr flag)]
    rfl

theorem flrc_written {config : FlrcConfig} {data : Bytes} (written : config.encode = .ok data) :
    FlrcConfig.decode data = .ok config := by
  simp only [FlrcConfig.encode, bind_ok, pure_ok, packUnsigned_ok, packSigned_ok, byteOf_ok, Nat.cast_inj] at written
  obtain ⟨freqHz, ⟨freqWidth, freq⟩, _, ⟨b4, rfl, bitrate⟩, _, ⟨b5, rfl, cr⟩, _, ⟨b6, rfl, bt⟩, _, ⟨b7, rfl, preamble⟩,
    syncWord, ⟨syncWidth, sync⟩, txPower, ⟨txWidth, tx⟩, rfl⟩ := written
  match freqHz, freqWidth, syncWord, syncWidth, txPower, txWidth with
  | [b0, b1, b2, b3], _, [b8, b9, b10, b11], _, [b12], _ =>
    simp [FlrcConfig.decode, bind_ok, unpackUnsigned, unpackSigned, byteAt, slice, IntEnum.ofValue_ok]
    refine ⟨_, bitrate, _, cr, _, bt, _, preamble, ?_⟩
    rw [← freq, ← sync, ← tx]

theorem flrc_accepted {config : FlrcConfig} {data : Bytes} (accepted : FlrcConfig.decode data = .ok config) :
    config.encode = .ok data := by
  obtain ⟨size, accepted⟩ := reject_ok.mp accepted
  match data, not_not.mp size with
  | [b0, b1, b2, b3, b4, b5, b6, b7, b8, b9, b10, b11, b12], _ =>
    simp [bind_ok, unpackUnsigned, unpackSigned, byteAt, slice, IntEnum.ofValue_ok] at accepted
    obtain ⟨bitrate, same4, cr, same5, bt, same6, preamble, same7, rfl⟩ := accepted
    simp only [FlrcConfig.encode, bind_ok, pure_ok, packUnsigned_ok, packSigned_ok, byteOf_ok, Nat.cast_inj]
    exact ⟨[b0, b1, b2, b3], ⟨rfl, rfl⟩, [b4], ⟨b4, rfl, same4⟩, [b5], ⟨b5, rfl, same5⟩, [b6], ⟨b6, rfl, same6⟩,
      [b7], ⟨b7, rfl, same7⟩, [b8, b9, b10, b11], ⟨rfl, rfl⟩, [b12], ⟨rfl, rfl⟩, rfl⟩

theorem modulation_written {modulation : Modulation} {data : Bytes} (written : encodeModulation modulation = .ok data) :
    decodeModulation data = .ok modulation := by
  cases modulation with
  | lora config =>
    obtain ⟨params, encoded, same⟩ := bind_ok.mp written
    cases same
    exact congrArg (Functor.map Modulation.lora) (lora_written encoded)
  | fsk config =>
    obtain ⟨params, encoded, same⟩ := bind_ok.mp written
    cases same
    exact congrArg (Functor.map Modulation.fsk) (fsk_written encoded)
  | lrFhss config =>
    obtain ⟨params, encoded, same⟩ := bind_ok.mp written
    cases same
    exact congrArg (Functor.map Modulation.lrFhss) (lrFhss_written encoded)
  | flrc config =>
    obtain ⟨params, encoded, same⟩ := bind_ok.mp written
    cases same
    exact congrArg (Functor.map Modulation.flrc) (flrc_written encoded)

theorem identified {byte : UInt8} {id : ModulationId} (same : byte.toNat = id.value) : leBytes 1 id.value = [byte] := by
  have small := byte.toNat_lt
  simp [leBytes, ← same]

theorem modulation_accepted {modulation : Modulation} {data : Bytes} (accepted : decodeModulation data = .ok modulation) :
    encodeModulation modulation = .ok data := by
  obtain ⟨nonempty, accepted⟩ := reject_ok.mp accepted
  obtain ⟨byte, params, rfl⟩ := List.exists_cons_of_ne_nil nonempty
  obtain ⟨_, ⟨⟩, accepted⟩ := bind_ok.mp accepted
  split at accepted
  next same =>
    obtain ⟨config, parsed, same'⟩ := bind_ok.mp accepted
    cases same'
    simp only [encodeModulation, lora_accepted parsed, identified same]
    rfl
  split at accepted
  next same =>
    obtain ⟨config, parsed, same'⟩ := bind_ok.mp accepted
    cases same'
    simp only [encodeModulation, fsk_accepted parsed, identified same]
    rfl
  split at accepted
  next same =>
    obtain ⟨config, parsed, same'⟩ := bind_ok.mp accepted
    cases same'
    simp only [encodeModulation, lrFhss_accepted parsed, identified same]
    rfl
  split at accepted
  next same =>
    obtain ⟨config, parsed, same'⟩ := bind_ok.mp accepted
    cases same'
    simp only [encodeModulation, flrc_accepted parsed, identified same]
    rfl
  cases accepted

theorem setConfigResult_written {result : SetConfigResult} {data : Bytes} (written : result.encode = .ok data) :
    SetConfigResult.decode data = .ok result := by
  simp only [SetConfigResult.encode, bind_ok, pure_ok, byteOf_ok, Nat.cast_inj] at written
  obtain ⟨_, ⟨b0, rfl, code⟩, _, ⟨b1, rfl, owner⟩, current, encoded, rfl⟩ := written
  refine reject_ok.mpr ⟨by simp, ?_⟩
  simp [bind_ok, byteAt, IntEnum.ofValue_ok, -bind_pure_comp]
  exact ⟨_, code, _, owner, _, modulation_written encoded, rfl⟩

theorem setConfigResult_accepted {result : SetConfigResult} {data : Bytes}
    (accepted : SetConfigResult.decode data = .ok result) : result.encode = .ok data := by
  obtain ⟨long, accepted⟩ := reject_ok.mp accepted
  obtain ⟨front, current, rfl, size⟩ := exists_front long
  match front, size with
  | [b0, b1], _ =>
    simp [bind_ok, byteAt, IntEnum.ofValue_ok, -bind_pure_comp] at accepted
    obtain ⟨code, same0, owner, same1, modulation, parsed, ⟨⟩⟩ := accepted
    simp only [SetConfigResult.encode, bind_ok, pure_ok, byteOf_ok, Nat.cast_inj]
    exact ⟨[b0], ⟨b0, rfl, same0⟩, [b1], ⟨b1, rfl, same1⟩, current, modulation_accepted parsed, rfl⟩

theorem roundEven_intCast (number : Int) : roundEven number = number := by
  simp [roundEven, Rat.floor_intCast]

/-- A level in whole tenths of a dB comes back from the wire as it was. -/
theorem roundEven_tenths {level : Rat} {tenths : Int} (exact : level = tenths / 10) : roundEven (level * 10) = tenths := by
  have whole : level * 10 = tenths := by rw [exact]; ring
  rw [whole, roundEven_intCast]

/-- What `RxEvent.encode` accepts of events with levels in whole tenths of a dB. -/
structure Encodable (event : RxEvent) : Prop where
  rssi : ∃ tenths : Int, event.rssiDbm = tenths / 10 ∧ FitsSigned 2 tenths
  snr : ∃ tenths : Int, event.snrDb = tenths / 10 ∧ FitsSigned 2 tenths
  freqErrHz : FitsSigned 4 event.freqErrHz
  timestampUs : event.timestampUs < 2 ^ 64
  packetsDropped : event.packetsDropped < 2 ^ 16

theorem rxEvent_written {event : RxEvent} {data : Bytes} (encodable : Encodable event)
    (written : event.encode = .ok data) : RxEvent.decode data = .ok event := by
  obtain ⟨rssiTenths, rssiExact, -⟩ := encodable.rssi
  obtain ⟨snrTenths, snrExact, -⟩ := encodable.snr
  simp only [RxEvent.encode, bind_ok, pure_ok, packUnsigned_ok, packSigned_ok, byteOf_ok, Nat.cast_inj,
    roundEven_tenths rssiExact, roundEven_tenths snrExact] at written
  obtain ⟨rssi, ⟨rssiWidth, rssiRaw⟩, snr, ⟨snrWidth, snrRaw⟩, freqErr, ⟨freqWidth, freq⟩, timestamp, ⟨timeWidth, time⟩,
    dropped, ⟨droppedWidth, drops⟩, _, ⟨b19, rfl, origin⟩, rfl⟩ := written
  match rssi, rssiWidth, snr, snrWidth, freqErr, freqWidth, timestamp, timeWidth, dropped, droppedWidth with
  | [b0, b1], _, [b2, b3], _, [b4, b5, b6, b7], _, [b8, b9, b10, b11, b12, b13, b14, b15], _, [b17, b18], _ =>
    simp [RxEvent.decode, RxEvent.metadataSize, bind_ok, pure_ok, reject_ok, unpackUnsigned, unpackSigned, byteAt, slice,
      IntEnum.ofValue_ok, -bind_pure_comp]
    refine ⟨flag_small _, _, origin, ?_⟩
    rw [← rssiRaw, ← snrRaw, ← freq, ← time, ← drops, ← rssiExact, ← snrExact, flag_read]

theorem rxEvent_length {event : RxEvent} {data : Bytes} (written : event.encode = .ok data) :
    data.length = RxEvent.metadataSize + event.data.length := by
  simp only [RxEvent.encode, bind_ok, pure_ok, packUnsigned_ok, packSigned_ok, byteOf_ok] at written
  obtain ⟨rssi, ⟨rssiWidth, _⟩, snr, ⟨snrWidth, _⟩, freqErr, ⟨freqWidth, _⟩, timestamp, ⟨timeWidth, _⟩,
    dropped, ⟨droppedWidth, _⟩, _, ⟨b19, rfl, _⟩, rfl⟩ := written
  simp only [List.length_append, List.length_singleton, rssiWidth, snrWidth, freqWidth, timeWidth, droppedWidth,
    RxEvent.metadataSize]

theorem rxEvent_encodes {event : RxEvent} (encodable : Encodable event) :
    ∃ payload, event.encode = .ok payload := by
  obtain ⟨rssiTenths, rssiExact, rssiFits⟩ := encodable.rssi
  obtain ⟨snrTenths, snrExact, snrFits⟩ := encodable.snr
  have timestamp : FitsUnsigned 8 event.timestampUs := ⟨by omega, by exact_mod_cast encodable.timestampUs⟩
  have dropped : FitsUnsigned 2 event.packetsDropped := ⟨by omega, by exact_mod_cast encodable.packetsDropped⟩
  have origin : byteOf (IntEnum.value event.origin) = .ok [UInt8.ofNat (IntEnum.value event.origin)] := by
    cases event.origin <;> rfl
  simp only [RxEvent.encode, roundEven_tenths rssiExact, roundEven_tenths snrExact, packSigned_fits rssiFits,
    packSigned_fits snrFits, packSigned_fits encodable.freqErrHz, packUnsigned_fits timestamp,
    packUnsigned_fits dropped, origin]
  exact ⟨_, rfl⟩

theorem errPayload_encodes {code : DeviceCode} (small : code.value < 2 ^ 16) :
    ∃ payload, encodeErrPayload code = .ok payload ∧ payload.length = 2 ∧
      decodeErrPayload payload = .ok (ErrorCode.fromU16 code.value) := by
  have fits : FitsUnsigned 2 code.value := ⟨by omega, by exact_mod_cast small⟩
  refine ⟨leBytes 2 code.value, packUnsigned_fits fits, leBytes_length _ _, ?_⟩
  have bound : code.value < 256 ^ 2 := small.trans_eq (by norm_num)
  have read : unpackUnsigned 2 0 (leBytes 2 code.value) = .ok code.value := by
    rw [unpackUnsigned, slice_isSome (by simp), List.drop_zero, List.take_of_length_le (by simp)]
    exact congrArg Except.ok (leNat_leBytes bound)
  rw [decodeErrPayload, if_neg (by simp), read]
  rfl

/-- Both formats are one-to-one: nothing else reads as what is written, and nothing
is accepted that would be written differently. -/
theorem payloads_bijective :
    (∀ modulation data, encodeModulation modulation = .ok data ↔ decodeModulation data = .ok modulation) ∧
    ∀ result data, SetConfigResult.encode result = .ok data ↔ SetConfigResult.decode data = .ok result :=
  ⟨fun _ _ => ⟨modulation_written, modulation_accepted⟩,
    fun _ _ => ⟨setConfigResult_written, setConfigResult_accepted⟩⟩

end DongloraClient.Proofs.PayloadCodecs
