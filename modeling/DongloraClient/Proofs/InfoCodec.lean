import DongloraClient.Proofs.Decoding

/-! The wire format of `Info`. Newer firmware may append to it: what is accepted is
exactly what starts with the encoding of an `Info`. -/

namespace DongloraClient.Proofs.InfoCodec
open Wire Raising

section Fields
variable {width size offset number : Nat}

theorem unpackUnsigned_skip (data : Bytes) (reached : size ≤ offset) :
    unpackUnsigned width offset (leBytes size number ++ data) = unpackUnsigned width (offset - size) data := by
  have length : offset + width ≤ size + data.length ↔ offset - size + width ≤ data.length := by omega
  simp [unpackUnsigned, slice, List.drop_append, length, List.drop_of_length_le, reached]

theorem unpackUnsigned_front (data : Bytes) (fits : number < 256 ^ width) :
    unpackUnsigned width 0 (leBytes width number ++ data) = .ok number := by
  have field : slice 0 width (leBytes width number ++ data) = some (leBytes width number) := by simp [slice]
  rw [unpackUnsigned, field]
  exact congrArg Except.ok (leNat_leBytes fits)

theorem unpackSigned_skip (data : Bytes) (reached : size ≤ offset) :
    unpackSigned width offset (leBytes size number ++ data) = unpackSigned width (offset - size) data := by
  rw [unpackSigned, unpackUnsigned_skip data reached, unpackSigned]

theorem unpackSigned_front {level : Int} (data : Bytes) (fits : FitsSigned width level) :
    unpackSigned width 0 (leBytes width (ofSigned width level) ++ data) = .ok level := by
  rw [unpackSigned, unpackUnsigned_front data (ofSigned_lt width level)]
  exact congrArg Except.ok (toSigned_ofSigned fits)

theorem exists_field {data : Bytes} (long : width ≤ data.length) :
    ∃ number rest, number < 256 ^ width ∧ data = leBytes width number ++ rest ∧ data.length = width + rest.length := by
  have cut : (data.take width).length = width := List.length_take_of_le long
  have field := leBytes_leNat (data.take width)
  have small := leNat_lt (data.take width)
  rw [cut] at field small
  refine ⟨leNat (data.take width), data.drop width, small, ?_, ?_⟩
  · rw [field, List.take_append_drop]
  · rw [List.length_drop]
    omega

end Fields

structure Fits (info : Info) : Prop where
  protoMajor : info.protoMajor < 256 ^ 1
  protoMinor : info.protoMinor < 256 ^ 1
  fwMajor : info.fwMajor < 256 ^ 1
  fwMinor : info.fwMinor < 256 ^ 1
  fwPatch : info.fwPatch < 256 ^ 1
  radioChipId : info.radioChipId < 256 ^ 2
  capabilityBitmap : info.capabilityBitmap < 256 ^ 8
  supportedSfBitmap : info.supportedSfBitmap < 256 ^ 2
  supportedBwBitmap : info.supportedBwBitmap < 256 ^ 2
  maxPayloadBytes : info.maxPayloadBytes < 256 ^ 2
  rxQueueCapacity : info.rxQueueCapacity < 256 ^ 2
  txQueueCapacity : info.txQueueCapacity < 256 ^ 2
  freqMinHz : info.freqMinHz < 256 ^ 4
  freqMaxHz : info.freqMaxHz < 256 ^ 4
  txPowerMinDbm : FitsSigned 1 info.txPowerMinDbm
  txPowerMaxDbm : FitsSigned 1 info.txPowerMaxDbm

def header (info : Info) (mcuUidLen : Nat) (rest : Bytes) : Bytes :=
  leBytes 1 info.protoMajor ++ (leBytes 1 info.protoMinor ++ (leBytes 1 info.fwMajor ++ (leBytes 1 info.fwMinor ++
  (leBytes 1 info.fwPatch ++ (leBytes 2 info.radioChipId ++ (leBytes 8 info.capabilityBitmap ++
  (leBytes 2 info.supportedSfBitmap ++ (leBytes 2 info.supportedBwBitmap ++ (leBytes 2 info.maxPayloadBytes ++
  (leBytes 2 info.rxQueueCapacity ++ (leBytes 2 info.txQueueCapacity ++ (leBytes 4 info.freqMinHz ++
  (leBytes 4 info.freqMaxHz ++ (leBytes 1 (ofSigned 1 info.txPowerMinDbm) ++
  (leBytes 1 (ofSigned 1 info.txPowerMaxDbm) ++ (leBytes 1 mcuUidLen ++ rest))))))))))))))))

theorem header_length (info : Info) (mcuUidLen : Nat) (rest : Bytes) :
    (header info mcuUidLen rest).length = 36 + rest.length := by
  simp only [header, List.length_append, leBytes_length]
  omega

theorem header_append (info : Info) (mcuUidLen : Nat) (rest : Bytes) :
    header info mcuUidLen rest = header info mcuUidLen [] ++ rest := by
  simp only [header, List.append_assoc, List.nil_append]

theorem header_drop (info : Info) (mcuUidLen count : Nat) (rest : Bytes) :
    (header info mcuUidLen rest).drop (36 + count) = rest.drop count := by
  have length : (header info mcuUidLen []).length = 36 := header_length info mcuUidLen []
  rw [header_append, ← List.drop_drop, List.drop_left' length]

theorem header_byteAt (info : Info) (mcuUidLen index : Nat) (rest : Bytes) :
    byteAt (header info mcuUidLen rest) (36 + index) = byteAt rest index := by
  have length : (header info mcuUidLen []).length = 36 := header_length info mcuUidLen []
  rw [byteAt, byteAt, header_append, List.getElem?_append_right (by omega), length, Nat.add_sub_cancel_left]

theorem header_fields {info : Info} {mcuUidLen : Nat} (fits : Fits info) (small : mcuUidLen < 256 ^ 1) (rest : Bytes) :
    let data := header info mcuUidLen rest
    unpackUnsigned 1 0 data = .ok info.protoMajor ∧ unpackUnsigned 1 1 data = .ok info.protoMinor ∧
    unpackUnsigned 1 2 data = .ok info.fwMajor ∧ unpackUnsigned 1 3 data = .ok info.fwMinor ∧
    unpackUnsigned 1 4 data = .ok info.fwPatch ∧ unpackUnsigned 2 5 data = .ok info.radioChipId ∧
    unpackUnsigned 8 7 data = .ok info.capabilityBitmap ∧ unpackUnsigned 2 15 data = .ok info.supportedSfBitmap ∧
    unpackUnsigned 2 17 data = .ok info.supportedBwBitmap ∧ unpackUnsigned 2 19 data = .ok info.maxPayloadBytes ∧
    unpackUnsigned 2 21 data = .ok info.rxQueueCapacity ∧ unpackUnsigned 2 23 data = .ok info.txQueueCapacity ∧
    unpackUnsigned 4 25 data = .ok info.freqMinHz ∧ unpackUnsigned 4 29 data = .ok info.freqMaxHz ∧
    unpackSigned 1 33 data = .ok info.txPowerMinDbm ∧ unpackSigned 1 34 data = .ok info.txPowerMaxDbm ∧
    unpackUnsigned 1 35 data = .ok mcuUidLen := by
  simp only [header, unpackUnsigned_skip, unpackSigned_skip, unpackUnsigned_front, unpackSigned_front, Nat.reduceLeDiff,
    Nat.reduceSub, fits.protoMajor, fits.protoMinor, fits.fwMajor, fits.fwMinor, fits.fwPatch, fits.radioChipId,
    fits.capabilityBitmap, fits.supportedSfBitmap, fits.supportedBwBitmap, fits.maxPayloadBytes, fits.rxQueueCapacity,
    fits.txQueueCapacity, fits.freqMinHz, fits.freqMaxHz, fits.txPowerMinDbm, fits.txPowerMaxDbm, small, and_self]

theorem byteAt_ok {data : Bytes} {index number : Nat} :
    byteAt data index = .ok number ↔ ∃ byte, data[index]? = some byte ∧ byte.toNat = number := by
  unfold byteAt
  cases data[index]? <;> simp

theorem decode_header {info : Info} {mcuUidLen : Nat} (fits : Fits info) (small : mcuUidLen < 256 ^ 1) (rest : Bytes)
    {decoded : Info} : Info.decode (header info mcuUidLen rest) = .ok decoded ↔
      mcuUidLen ≤ maxMcuUidLen ∧ ∃ radioUidLen, rest[mcuUidLen]? = some radioUidLen ∧
        radioUidLen.toNat ≤ maxRadioUidLen ∧ mcuUidLen + 1 + radioUidLen.toNat ≤ rest.length ∧
        { info with
          mcuUid := rest.take mcuUidLen
          radioUid := (rest.drop (mcuUidLen + 1)).take radioUidLen.toNat } = decoded := by
  have first : (header info mcuUidLen rest).drop 36 = rest := header_drop info mcuUidLen 0 rest
  have last : (header info mcuUidLen rest).drop (36 + mcuUidLen + 1) = rest.drop (mcuUidLen + 1) :=
    header_drop info mcuUidLen (mcuUidLen + 1) rest
  simp only [Info.decode, header_fields fits small rest, ok_bind, header_length, header_byteAt, reject_ok, bind_ok, byteAt_ok,
    pure_ok, first, last]
  constructor
  · rintro ⟨_, short, _, _, ⟨radioUidLen, found, rfl⟩, capped, inside, same⟩
    exact ⟨by omega, radioUidLen, found, by omega, by omega, same⟩
  · rintro ⟨short, radioUidLen, found, capped, inside, same⟩
    exact ⟨by omega, by omega, by omega, _, ⟨radioUidLen, found, rfl⟩, by omega, by omega, same⟩

theorem exists_level {data : Bytes} {width : Nat} (long : width ≤ data.length) : ∃ level rest,
    FitsSigned width level ∧ data = leBytes width (ofSigned width level) ++ rest ∧ data.length = width + rest.length := by
  obtain ⟨number, rest, small, same, length⟩ := exists_field long
  exact ⟨toSigned width number, rest, toSigned_fits small, by rw [ofSigned_toSigned small, same], length⟩

theorem exists_header {data : Bytes} (long : 36 ≤ data.length) :
    ∃ info mcuUidLen rest, Fits info ∧ mcuUidLen < 256 ^ 1 ∧ data = header info mcuUidLen rest := by
  obtain ⟨protoMajor, data, _, rfl, _⟩ := exists_field (by omega : 1 ≤ data.length)
  obtain ⟨protoMinor, data, _, rfl, _⟩ := exists_field (by omega : 1 ≤ data.length)
  obtain ⟨fwMajor, data, _, rfl, _⟩ := exists_field (by omega : 1 ≤ data.length)
  obtain ⟨fwMinor, data, _, rfl, _⟩ := exists_field (by omega : 1 ≤ data.length)
  obtain ⟨fwPatch, data, _, rfl, _⟩ := exists_field (by omega : 1 ≤ data.length)
  obtain ⟨radioChipId, data, _, rfl, _⟩ := exists_field (by omega : 2 ≤ data.length)
  obtain ⟨capabilityBitmap, data, _, rfl, _⟩ := exists_field (by omega : 8 ≤ data.length)
  obtain ⟨supportedSfBitmap, data, _, rfl, _⟩ := exists_field (by omega : 2 ≤ data.length)
  obtain ⟨supportedBwBitmap, data, _, rfl, _⟩ := exists_field (by omega : 2 ≤ data.length)
  obtain ⟨maxPayloadBytes, data, _, rfl, _⟩ := exists_field (by omega : 2 ≤ data.length)
  obtain ⟨rxQueueCapacity, data, _, rfl, _⟩ := exists_field (by omega : 2 ≤ data.length)
  obtain ⟨txQueueCapacity, data, _, rfl, _⟩ := exists_field (by omega : 2 ≤ data.length)
  obtain ⟨freqMinHz, data, _, rfl, _⟩ := exists_field (by omega : 4 ≤ data.length)
  obtain ⟨freqMaxHz, data, _, rfl, _⟩ := exists_field (by omega : 4 ≤ data.length)
  obtain ⟨txPowerMinDbm, data, _, rfl, _⟩ := exists_level (by omega : 1 ≤ data.length)
  obtain ⟨txPowerMaxDbm, data, _, rfl, _⟩ := exists_level (by omega : 1 ≤ data.length)
  obtain ⟨mcuUidLen, rest, small, rfl, _⟩ := exists_field (by omega : 1 ≤ data.length)
  refine ⟨{
    protoMajor, protoMinor, fwMajor, fwMinor, fwPatch, radioChipId, capabilityBitmap, supportedSfBitmap
    supportedBwBitmap, maxPayloadBytes, rxQueueCapacity, txQueueCapacity, freqMinHz, freqMaxHz
    txPowerMinDbm, txPowerMaxDbm, mcuUid := [], radioUid := [] }, mcuUidLen, rest, ?_, small, rfl⟩
  constructor <;> assumption

/-- The bytes of an `Info` with what follows them. -/
def wire (info : Info) (trailing : Bytes) : Bytes :=
  header info info.mcuUid.length (info.mcuUid ++ (leBytes 1 info.radioUid.length ++ (info.radioUid ++ trailing)))

theorem wire_append (info : Info) (trailing : Bytes) : wire info trailing = wire info [] ++ trailing := by
  simp only [wire, header, List.append_assoc, List.nil_append]

theorem encode_wire {info : Info} (fits : Fits info) (mcu : info.mcuUid.length ≤ maxMcuUidLen)
    (radio : info.radioUid.length ≤ maxRadioUidLen) : info.encode = .ok (wire info []) := by
  have mcuUidLen : info.mcuUid.length < 256 ^ 1 := mcu.trans_lt (by decide)
  have radioUidLen : info.radioUid.length < 256 ^ 1 := radio.trans_lt (by decide)
  rw [Info.encode, if_neg (Nat.not_lt.mpr mcu), if_neg (Nat.not_lt.mpr radio)]
  simp only [ok_bind, packUnsigned_nat fits.protoMajor, packUnsigned_nat fits.protoMinor, packUnsigned_nat fits.fwMajor,
    packUnsigned_nat fits.fwMinor, packUnsigned_nat fits.fwPatch, packUnsigned_nat fits.radioChipId,
    packUnsigned_nat fits.capabilityBitmap, packUnsigned_nat fits.supportedSfBitmap,
    packUnsigned_nat fits.supportedBwBitmap, packUnsigned_nat fits.maxPayloadBytes,
    packUnsigned_nat fits.rxQueueCapacity, packUnsigned_nat fits.txQueueCapacity, packUnsigned_nat fits.freqMinHz,
    packUnsigned_nat fits.freqMaxHz, packSigned_fits fits.txPowerMinDbm, packSigned_fits fits.txPowerMaxDbm,
    packUnsigned_nat mcuUidLen, byteOf_nat radioUidLen]
  simp only [wire, header, List.append_assoc, List.append_nil]
  rfl

theorem single_byte {number : Nat} (small : number < 256 ^ 1) :
    ∃ byte : UInt8, leBytes 1 number = [byte] ∧ byte.toNat = number := by
  refine ⟨UInt8.ofNat (number % 256), rfl, ?_⟩
  rw [UInt8.toNat_ofNat']
  omega

theorem decode_wire {info : Info} (fits : Fits info) (mcu : info.mcuUid.length ≤ maxMcuUidLen)
    (radio : info.radioUid.length ≤ maxRadioUidLen) (trailing : Bytes) : Info.decode (wire info trailing) = .ok info := by
  have mcuUidLen : info.mcuUid.length < 256 ^ 1 := mcu.trans_lt (by decide)
  have radioUidLen : info.radioUid.length < 256 ^ 1 := radio.trans_lt (by decide)
  obtain ⟨byte, single, value⟩ := single_byte radioUidLen
  rw [wire, single, List.singleton_append]
  refine (decode_header fits mcuUidLen _).mpr ⟨mcu, byte, ?_, value ▸ radio, ?_, ?_⟩
  · rw [List.getElem?_append_right (Nat.le_refl _), Nat.sub_self, List.getElem?_cons_zero]
  · simp only [value, List.length_append, List.length_cons]
    omega
  · have past : (info.mcuUid ++ byte :: (info.radioUid ++ trailing)).drop (info.mcuUid.length + 1) =
        info.radioUid ++ trailing := by
      rw [List.append_cons, List.drop_left' (by simp)]
    rw [List.take_left' rfl, past, value, List.take_left' rfl]

/-- Only what starts with the encoding of an `Info` is decoded to it. -/
theorem decode_ok {data : Bytes} {info : Info} (decoded : Info.decode data = .ok info) :
    Fits info ∧ info.mcuUid.length ≤ maxMcuUidLen ∧ info.radioUid.length ≤ maxRadioUidLen ∧
      ∃ trailing, data = wire info trailing := by
  have long : ¬ data.length < 37 := (reject_ok.mp decoded).1
  obtain ⟨read, mcuUidLen, rest, fits, small, rfl⟩ := exists_header (by omega : 36 ≤ data.length)
  obtain ⟨mcu, byte, found, radio, inside, rfl⟩ := (decode_header fits small rest).mp decoded
  have reached : mcuUidLen < rest.length := (List.getElem?_eq_some_iff.mp found).1
  have mcuUid : (rest.take mcuUidLen).length = mcuUidLen := List.length_take_of_le reached.le
  have radioUid : ((rest.drop (mcuUidLen + 1)).take byte.toNat).length = byte.toNat := by
    rw [List.length_take, List.length_drop]
    omega
  refine ⟨⟨fits.protoMajor, fits.protoMinor, fits.fwMajor, fits.fwMinor, fits.fwPatch, fits.radioChipId,
    fits.capabilityBitmap, fits.supportedSfBitmap, fits.supportedBwBitmap, fits.maxPayloadBytes, fits.rxQueueCapacity,
    fits.txQueueCapacity, fits.freqMinHz, fits.freqMaxHz, fits.txPowerMinDbm, fits.txPowerMaxDbm⟩, mcuUid.trans_le mcu,
    radioUid.trans_le radio, (rest.drop (mcuUidLen + 1)).drop byte.toNat, ?_⟩
  have single : leBytes 1 byte.toNat = [byte] := by simpa [leNat] using leBytes_leNat [byte]
  have past : rest.drop mcuUidLen = byte :: rest.drop (mcuUidLen + 1) := by
    rw [List.drop_eq_getElem_cons reached, (List.getElem?_eq_some_iff.mp found).2]
  have whole : rest = rest.take mcuUidLen ++ (leBytes 1 byte.toNat ++
      ((rest.drop (mcuUidLen + 1)).take byte.toNat ++ (rest.drop (mcuUidLen + 1)).drop byte.toNat)) := by
    rw [List.take_append_drop, single, List.singleton_append, ← past, List.take_append_drop]
  rw [wire, mcuUid, radioUid]
  exact congrArg (header read mcuUidLen) whole

/-- The identifier lengths that a payload declares stay within their caps and within
its bytes. -/
def Declared (data : Bytes) : Prop :=
  ∃ mcuUidLen radioUidLen, byteAt data 35 = .ok mcuUidLen ∧ mcuUidLen ≤ maxMcuUidLen ∧
    byteAt data (36 + mcuUidLen) = .ok radioUidLen ∧ radioUidLen ≤ maxRadioUidLen ∧
    36 + mcuUidLen + 1 + radioUidLen ≤ data.length

theorem byteAt_unpacked {index number : Nat} {data : Bytes} (read : unpackUnsigned 1 index data = .ok number) :
    byteAt data index = .ok number := by
  by_cases inside : index + 1 ≤ data.length
  · have first : (data.drop index).take 1 = [data[index]] := by rw [List.drop_eq_getElem_cons inside]; rfl
    simp only [unpackUnsigned, slice_isSome inside, first, leNat] at read
    rw [byteAt, List.getElem?_eq_getElem inside]
    exact read
  · simp only [unpackUnsigned, slice, if_neg inside] at read
    cases read

theorem accepted_iff (data : Bytes) : (∃ info, Info.decode data = .ok info) ↔ Declared data := by
  constructor
  · rintro ⟨info, decoded⟩
    have long : ¬ data.length < 37 := (reject_ok.mp decoded).1
    obtain ⟨read, mcuUidLen, rest, fits, small, rfl⟩ := exists_header (by omega : 36 ≤ data.length)
    obtain ⟨mcu, byte, found, radio, inside, _⟩ := (decode_header fits small rest).mp decoded
    have declared : unpackUnsigned 1 35 (header read mcuUidLen rest) = .ok mcuUidLen := by
      simp only [header_fields fits small rest]
    refine ⟨mcuUidLen, byte.toNat, byteAt_unpacked declared, mcu, ?_, radio, ?_⟩
    · rw [header_byteAt]
      exact byteAt_ok.mpr ⟨byte, found, rfl⟩
    · rw [header_length]
      omega
  · rintro ⟨mcuUidLen, radioUidLen, mcuRead, mcu, radioRead, radio, inside⟩
    obtain ⟨read, declared, rest, fits, small, rfl⟩ := exists_header (by omega : 36 ≤ data.length)
    have same : unpackUnsigned 1 35 (header read declared rest) = .ok declared := by
      simp only [header_fields fits small rest]
    obtain rfl : declared = mcuUidLen := Except.ok.inj ((byteAt_unpacked same).symm.trans mcuRead)
    rw [header_byteAt] at radioRead
    rw [header_length] at inside
    obtain ⟨byte, found, rfl⟩ := byteAt_ok.mp radioRead
    exact ⟨_, (decode_header fits small rest).mpr ⟨mcu, byte, found, radio, by omega, rfl⟩⟩

/-- Encoding and decoding are inverse, up to bytes after the last field. -/
theorem info_forward_compatible :
    (∀ info, Fits info → info.mcuUid.length ≤ maxMcuUidLen → info.radioUid.length ≤ maxRadioUidLen →
      ∃ bytes, info.encode = .ok bytes ∧ ∀ trailing, Info.decode (bytes ++ trailing) = .ok info) ∧
    (∀ data info, Info.decode data = .ok info → ∃ bytes, info.encode = .ok bytes ∧ bytes <+: data) ∧
    ∀ data, ((∃ info, Info.decode data = .ok info) ↔ Declared data) ∧
      (¬ Declared data → ∃ message, Info.decode data = .error (.valueError message)) := by
  refine ⟨fun info fits mcu radio => ?_, fun data info decoded => ?_, fun data => ⟨accepted_iff data, fun undeclared => ?_⟩⟩
  · refine ⟨wire info [], encode_wire fits mcu radio, fun trailing => ?_⟩
    rw [← wire_append, decode_wire fits mcu radio]
  · obtain ⟨fits, mcu, radio, trailing, rfl⟩ := decode_ok decoded
    exact ⟨wire info [], encode_wire fits mcu radio, trailing, (wire_append info trailing).symm⟩
  · cases result : Info.decode data with
    | ok info => exact absurd ((accepted_iff data).mp ⟨info, result⟩) undeclared
    | error exc =>
      obtain ⟨message, rfl⟩ := Decoding.info_raises data exc result
      exact ⟨message, rfl⟩

def sampleInfo : Info where
  protoMajor := 1
  protoMinor := 0
  fwMajor := 0
  fwMinor := 1
  fwPatch := 0
  radioChipId := 2
  capabilityBitmap := 0x10003
  supportedSfBitmap := 0x1FE0
  supportedBwBitmap := 0x03FF
  maxPayloadBytes := 255
  rxQueueCapacity := 64
  txQueueCapacity := 16
  freqMinHz := 150000000
  freqMaxHz := 960000000
  txPowerMinDbm := -9
  txPowerMaxDbm := 22
  mcuUid := [0xDE, 0xAD, 0xBE, 0xEF, 0x01, 0x23, 0x45, 0x67]
  radioUid := [0xCA, 0xFE]

theorem info_forward_compatible_sample : ∃ bytes, sampleInfo.encode = .ok bytes ∧
    ∀ trailing, Info.decode (bytes ++ trailing) = .ok sampleInfo :=
  info_forward_compatible.1 sampleInfo (by constructor <;> decide) (by decide) (by decide)

end DongloraClient.Proofs.InfoCodec
