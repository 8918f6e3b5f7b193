import DongloraClient.Frame

/-! One frame, from `encode_frame` to `decode_frame`. -/

namespace DongloraClient.Proofs.FrameCodec
open Wire

variable (cobs : Cobs.Codec)

/-- What `encode_frame` accepts. -/
structure Valid (frame : Frame) : Prop where
  typeId : frame.typeId ≤ 0xFF
  tag : frame.tag ≤ 0xFFFF
  payload : frame.payload.length ≤ maxPayloadField

structure InRange (frame : Frame) : Prop where
  typeId : frame.typeId ≤ 0xFF
  tag : frame.tag ≤ 0xFFFF

theorem Valid.inRange {frame : Frame} (valid : Valid frame) : InRange frame := ⟨valid.typeId, valid.tag⟩

instance (frame : Frame) : Decidable (Valid frame) :=
  decidable_of_iff (frame.typeId ≤ 0xFF ∧ frame.tag ≤ 0xFFFF ∧ frame.payload.length ≤ maxPayloadField)
    ⟨fun ⟨typeId, tag, payload⟩ => ⟨typeId, tag, payload⟩, fun ⟨typeId, tag, payload⟩ => ⟨typeId, tag, payload⟩⟩

def body (frame : Frame) : Bytes := leBytes 1 frame.typeId ++ leBytes 2 frame.tag ++ frame.payload

def preCobs (frame : Frame) : Bytes := body frame ++ leBytes 2 (crc16 (body frame))

def wire (frame : Frame) : Bytes := cobs.encode (preCobs frame) ++ [0]

theorem packCrc (frame : Frame) :
    packUnsigned 2 (crc16 (body frame)) = .ok (leBytes 2 (crc16 (body frame))) :=
  packUnsigned_nat ((crc16_lt (body frame)).trans_eq (by norm_num))

theorem encodeFrame_valid {frame : Frame} (valid : Valid frame) :
    encodeFrame cobs frame.typeId frame.tag frame.payload = .ok (wire cobs frame) := by
  have typeRange : 0 ≤ (frame.typeId : Int) ∧ (frame.typeId : Int) ≤ 0xFF :=
    ⟨by omega, by exact_mod_cast valid.typeId⟩
  have tagRange : 0 ≤ (frame.tag : Int) ∧ (frame.tag : Int) ≤ 0xFFFF := ⟨by omega, by exact_mod_cast valid.tag⟩
  have fits : ¬ frame.payload.length > maxPayloadField := not_lt.mpr valid.payload
  rw [encodeFrame, if_neg (not_not_intro typeRange), if_neg (not_not_intro tagRange), if_neg fits]
  have typeId : frame.typeId < 256 ^ 1 := Nat.lt_of_le_of_lt valid.typeId (by norm_num)
  have tag : frame.tag < 256 ^ 2 := Nat.lt_of_le_of_lt valid.tag (by norm_num)
  rw [packUnsigned_nat typeId, packUnsigned_nat tag]
  have step {α β : Type} (value : α) (next : α → Except Exc β) : (Except.ok value >>= next) = next value := rfl
  rw [step, step]
  have assembled : leBytes 1 frame.typeId ++ leBytes 2 frame.tag ++ frame.payload = body frame := rfl
  simp only [assembled, packCrc, step]
  rfl

theorem encodeFrame_long {frame : Frame} (typeId : frame.typeId ≤ 0xFF) (tag : frame.tag ≤ 0xFFFF)
    (long : frame.payload.length > maxPayloadField) : encodeFrame cobs frame.typeId frame.tag frame.payload =
      .error (.valueError s!"payload too large ({frame.payload.length} > {maxPayloadField})") := by
  have typeRange : 0 ≤ (frame.typeId : Int) ∧ (frame.typeId : Int) ≤ 0xFF := ⟨by omega, by exact_mod_cast typeId⟩
  have tagRange : 0 ≤ (frame.tag : Int) ∧ (frame.tag : Int) ≤ 0xFFFF := ⟨by omega, by exact_mod_cast tag⟩
  rw [encodeFrame, if_neg (not_not_intro typeRange), if_neg (not_not_intro tagRange), if_pos long]

theorem body_length (frame : Frame) : (body frame).length = frame.payload.length + 3 := by
  simp only [body, List.length_append, leBytes_length]
  omega

theorem preCobs_length (frame : Frame) : (preCobs frame).length = frame.payload.length + 5 := by
  simp only [preCobs, List.length_append, leBytes_length, body_length]

theorem preCobs_nonempty (frame : Frame) : preCobs frame ≠ [] := by
  have length := preCobs_length frame
  exact List.ne_nil_of_length_pos (by omega)

theorem body_fields {bytes : Bytes} (long : 3 ≤ bytes.length) :
    body { typeId := leNat (bytes.take 1), tag := leNat ((bytes.drop 1).take 2), payload := bytes.drop 3 } = bytes := by
  have typeId : leBytes 1 (leNat (bytes.take 1)) = bytes.take 1 := by
    have width : (bytes.take 1).length = 1 := by simp only [List.length_take]; omega
    simpa only [width] using leBytes_leNat (bytes.take 1)
  have tag : leBytes 2 (leNat ((bytes.drop 1).take 2)) = (bytes.drop 1).take 2 := by
    have width : ((bytes.drop 1).take 2).length = 2 := by simp only [List.length_take, List.length_drop]; omega
    simpa only [width] using leBytes_leNat ((bytes.drop 1).take 2)
  calc
    _ = bytes.take 1 ++ ((bytes.drop 1).take 2 ++ (bytes.drop 1).drop 2) := by
      simp only [body, typeId, tag, List.drop_drop, List.append_assoc]
    _ = bytes := by rw [List.take_append_drop, List.take_append_drop]

theorem leNat_take_lt (width : Nat) (bytes : Bytes) : leNat (bytes.take width) < 256 ^ width :=
  (leNat_lt _).trans_le (Nat.pow_le_pow_right (by decide) (List.length_take_le _ _))

theorem fields_inRange (bytes : Bytes) :
    InRange { typeId := leNat (bytes.take 1), tag := leNat ((bytes.drop 1).take 2), payload := bytes.drop 3 } where
  typeId := Nat.le_of_lt_succ (leNat_take_lt 1 bytes)
  tag := Nat.le_of_lt_succ (leNat_take_lt 2 (bytes.drop 1))

theorem fields_body {frame : Frame} (range : InRange frame) :
    ({ typeId := leNat ((body frame).take 1), tag := leNat (((body frame).drop 1).take 2),
       payload := (body frame).drop 3 } : Frame) = frame := by
  have typeId : leNat (leBytes 1 frame.typeId) = frame.typeId :=
    leNat_leBytes (Nat.lt_of_le_of_lt range.typeId (by norm_num))
  have tag : leNat (leBytes 2 frame.tag) = frame.tag := leNat_leBytes (Nat.lt_of_le_of_lt range.tag (by norm_num))
  have first : (body frame).take 1 = leBytes 1 frame.typeId := by
    rw [body, List.append_assoc, List.take_left' (leBytes_length _ _)]
  have second : ((body frame).drop 1).take 2 = leBytes 2 frame.tag := by
    rw [body, List.append_assoc, List.drop_left' (leBytes_length _ _), List.take_left' (leBytes_length _ _)]
  have third : (body frame).drop 3 = frame.payload := by
    rw [body, List.drop_left' (by simp only [List.length_append, leBytes_length])]
  rw [first, second, third, typeId, tag]

/-- Decoding gives a frame exactly for its own bytes. The payload may be of any length here. -/
theorem decodeFrame_ok {frameBytes : Bytes} {frame : Frame} : decodeFrame cobs frameBytes = .ok frame ↔
    InRange frame ∧ cobs.decode frameBytes = .ok (preCobs frame) := by
  cases unstuffed : cobs.decode frameBytes with
  | error text => simp [decodeFrame, unstuffed]
  | ok decoded =>
    simp only [decodeFrame, unstuffed, Except.ok.injEq]
    constructor
    · intro parsed
      split at parsed
      next => cases parsed
      next long =>
        split at parsed
        next => cases parsed
        next matching =>
          have long : 5 ≤ decoded.length := Nat.le_of_not_lt long
          have front : 3 ≤ (decoded.take (decoded.length - 2)).length := by simp only [List.length_take]; omega
          have width : (decoded.drop (decoded.length - 2)).length = 2 := by simp only [List.length_drop]; omega
          have trailer := leBytes_leNat (decoded.drop (decoded.length - 2))
          have matched : crc16 (decoded.take (decoded.length - 2)) = leNat (decoded.drop (decoded.length - 2)) :=
            not_not.mp matching
          rw [width, ← matched] at trailer
          cases parsed
          refine ⟨fields_inRange _, ?_⟩
          rw [preCobs, show frameHeaderSize = 3 from rfl, show frameTrailerSize = 2 from rfl, body_fields front]
          exact (congrArg _ trailer).trans (List.take_append_drop _ _) |>.symm
    · intro sound
      obtain ⟨range, same⟩ := sound
      subst same
      have long : ¬ (preCobs frame).length < frameHeaderSize + frameTrailerSize := by
        rw [preCobs_length]
        exact Nat.not_lt.mpr (Nat.le_add_left _ _)
      have split_at : (preCobs frame).length - frameTrailerSize = (body frame).length := by
        rw [preCobs_length, body_length]
        rfl
      have front : (preCobs frame).take (body frame).length = body frame := List.take_left' rfl
      have back : (preCobs frame).drop (body frame).length = leBytes 2 (crc16 (body frame)) := List.drop_left' rfl
      have crc : leNat (leBytes 2 (crc16 (body frame))) = crc16 (body frame) :=
        leNat_leBytes ((crc16_lt (body frame)).trans_eq (by norm_num))
      rw [if_neg long]
      simp only [split_at, front, back, crc, ne_eq, not_true_eq_false, if_false]
      exact congrArg Except.ok (fields_body range)

theorem decodeFrame_encode {frame : Frame} (range : InRange frame) :
    decodeFrame cobs (cobs.encode (preCobs frame)) = .ok frame :=
  (decodeFrame_ok cobs).mpr ⟨range, cobs.decode_encode _⟩

theorem decodeFrame_cobs {frameBytes : Bytes} :
    (∃ text, decodeFrame cobs frameBytes = .error (.cobs text)) ↔ ∃ text, cobs.decode frameBytes = .error text := by
  cases unstuffed : cobs.decode frameBytes with
  | error text => simp [decodeFrame, unstuffed]
  | ok decoded =>
    simp only [decodeFrame, unstuffed]
    by_cases short : decoded.length < frameHeaderSize + frameTrailerSize
    · simp [short]
    · by_cases matching : crc16 (decoded.take (decoded.length - frameTrailerSize)) =
        leNat (decoded.drop (decoded.length - frameTrailerSize))
      all_goals simp [short, matching]

theorem decodeFrame_tooShort {frameBytes : Bytes} :
    (∃ text, decodeFrame cobs frameBytes = .error (.tooShort text)) ↔
      ∃ decoded, cobs.decode frameBytes = .ok decoded ∧ decoded.length < 5 := by
  cases unstuffed : cobs.decode frameBytes with
  | error text => simp [decodeFrame, unstuffed]
  | ok decoded =>
    simp only [decodeFrame, unstuffed, frameHeaderSize, frameTrailerSize, Except.ok.injEq, exists_eq_left']
    by_cases short : decoded.length < 5
    · simp [short]
    · by_cases matching : crc16 (decoded.take (decoded.length - 2)) = leNat (decoded.drop (decoded.length - 2))
      all_goals simp [short, matching]

/-- The trailer of some decoded bytes is not the CRC of what precedes it. -/
def Mismatch (decoded : Bytes) : Prop :=
  crc16 (decoded.take (decoded.length - 2)) ≠ leNat (decoded.drop (decoded.length - 2))

theorem decodeFrame_crc {frameBytes : Bytes} :
    (∃ text, decodeFrame cobs frameBytes = .error (.crc text)) ↔
      ∃ decoded, cobs.decode frameBytes = .ok decoded ∧ 5 ≤ decoded.length ∧ Mismatch decoded := by
  cases unstuffed : cobs.decode frameBytes with
  | error text => simp [decodeFrame, unstuffed]
  | ok decoded =>
    simp only [decodeFrame, unstuffed, frameHeaderSize, frameTrailerSize, Except.ok.injEq, exists_eq_left', Mismatch]
    by_cases short : decoded.length < 5
    · simp [short]
    · have long : 5 ≤ decoded.length := Nat.le_of_not_lt short
      by_cases matching : crc16 (decoded.take (decoded.length - 2)) = leNat (decoded.drop (decoded.length - 2))
      all_goals simp [short, long, matching]

theorem wire_length {frame : Frame} (valid : Valid frame) : (wire cobs frame).length ≤ maxWireFrame := by
  have overhead := cobs.encode_length (preCobs frame)
  have size := preCobs_length frame
  have payload : frame.payload.length ≤ 275 := valid.payload
  have limit : maxWireFrame = 284 := rfl
  simp only [wire, List.length_append, List.length_singleton]
  omega

/-- `encode_frame` and `decode_frame` agree on the format of a frame. -/
theorem frame_codec :
    (∀ frame, Valid frame → ∃ stuffed,
      encodeFrame cobs frame.typeId frame.tag frame.payload = .ok (stuffed ++ [0]) ∧ 0 ∉ stuffed ∧
      (stuffed ++ [0]).length ≤ maxWireFrame ∧ decodeFrame cobs stuffed = .ok frame) ∧
    ∀ frameBytes,
      (∀ frame, decodeFrame cobs frameBytes = .ok frame ↔
        InRange frame ∧ cobs.decode frameBytes = .ok (preCobs frame)) ∧
      ((∃ text, decodeFrame cobs frameBytes = .error (.cobs text)) ↔ ∃ text, cobs.decode frameBytes = .error text) ∧
      ((∃ text, decodeFrame cobs frameBytes = .error (.tooShort text)) ↔
        ∃ decoded, cobs.decode frameBytes = .ok decoded ∧ decoded.length < 5) ∧
      ((∃ text, decodeFrame cobs frameBytes = .error (.crc text)) ↔
        ∃ decoded, cobs.decode frameBytes = .ok decoded ∧ 5 ≤ decoded.length ∧ Mismatch decoded) := by
  constructor
  · intro frame valid
    exact ⟨cobs.encode (preCobs frame), encodeFrame_valid cobs valid, cobs.encode_nonzero _,
      wire_length cobs valid, decodeFrame_encode cobs valid.inRange⟩
  · intro frameBytes
    exact ⟨fun frame => decodeFrame_ok cobs, decodeFrame_cobs cobs, decodeFrame_tooShort cobs, decodeFrame_crc cobs⟩

/-- An `ERR` with the code 6, whose bytes contain a zero. -/
theorem frame_codec_ok : ∃ stuffed, encodeFrame Cobs.standard 0x81 1 [6, 0] = .ok (stuffed ++ [0]) ∧ 0 ∉ stuffed ∧
    (stuffed ++ [0]).length ≤ maxWireFrame ∧
    decodeFrame Cobs.standard stuffed = .ok { typeId := 0x81, tag := 1, payload := [6, 0] } :=
  (frame_codec Cobs.standard).1 { typeId := 0x81, tag := 1, payload := [6, 0] } (by decide)

end DongloraClient.Proofs.FrameCodec
