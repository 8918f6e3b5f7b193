import DongloraClient.Proofs.FrameSegments

/-! What the receiving side takes. It looks at no length: a frame that `encode_frame`
would refuse is returned, and the buffer of `read_frame` grows with its stream. -/

namespace DongloraClient.Proofs.FrameLimits
open Wire FrameCodec FrameStream FrameSegments

variable (cobs : Cobs.Codec)

def Accepted (frame : Frame) : Prop :=
  ∃ stuffed, encodeFrame cobs frame.typeId frame.tag frame.payload = .ok (stuffed ++ [0]) ∧
    decodeFrame cobs stuffed = .ok frame

/-- The COBS form of a body with its CRC. -/
def Intact (frameBytes : Bytes) : Prop :=
  ∃ body, frameHeaderSize ≤ body.length ∧ cobs.decode frameBytes = .ok (body ++ leBytes 2 (crc16 body))

def Oversized (frameBytes : Bytes) : Prop :=
  ∃ body, maxPreCobsFrame < body.length + frameTrailerSize ∧ cobs.decode frameBytes = .ok (body ++ leBytes 2 (crc16 body))

theorem accepted_iff {frame : Frame} (range : InRange frame) :
    Accepted cobs frame ↔ frame.payload.length ≤ maxPayloadField := by
  constructor
  · rintro ⟨stuffed, encoded, _⟩
    exact (encodeFrame_wire cobs encoded).1.payload
  · intro short
    have valid : Valid frame := ⟨range.typeId, range.tag, short⟩
    exact ⟨cobs.encode (preCobs frame), encodeFrame_valid cobs valid, decodeFrame_encode cobs range⟩

theorem unstuffed_decoded {frameBytes bytes : Bytes} (long : frameHeaderSize ≤ bytes.length)
    (unstuffed : cobs.decode frameBytes = .ok (bytes ++ leBytes 2 (crc16 bytes))) :
    ∃ frame, decodeFrame cobs frameBytes = .ok frame ∧ frame.payload = bytes.drop frameHeaderSize := by
  refine ⟨_, (decodeFrame_ok cobs).mpr ⟨fields_inRange bytes, ?_⟩, rfl⟩
  rw [preCobs, body_fields long, unstuffed]

theorem intact_iff (frameBytes : Bytes) : Intact cobs frameBytes ↔ ∃ frame, decodeFrame cobs frameBytes = .ok frame := by
  constructor
  · rintro ⟨bytes, long, unstuffed⟩
    obtain ⟨frame, decoded, _⟩ := unstuffed_decoded cobs long unstuffed
    exact ⟨frame, decoded⟩
  · rintro ⟨frame, decoded⟩
    refine ⟨body frame, ?_, ((decodeFrame_ok cobs).mp decoded).2⟩
    rw [body_length, frameHeaderSize]
    omega

theorem oversized_iff (frameBytes : Bytes) : Oversized cobs frameBytes ↔
    ∃ frame, decodeFrame cobs frameBytes = .ok frame ∧ maxPayloadField < frame.payload.length := by
  constructor
  · rintro ⟨bytes, long, unstuffed⟩
    have size : frameHeaderSize + maxPayloadField < bytes.length := by
      rw [maxPreCobsFrame] at long
      omega
    obtain ⟨frame, decoded, payload⟩ := unstuffed_decoded cobs (by omega) unstuffed
    refine ⟨frame, decoded, ?_⟩
    rw [payload, List.length_drop]
    omega
  · rintro ⟨frame, decoded, long⟩
    refine ⟨body frame, ?_, ((decodeFrame_ok cobs).mp decoded).2⟩
    rw [body_length, maxPreCobsFrame, frameTrailerSize, frameHeaderSize]
    omega

/-- What becomes of a segment: a frame that is accepted, unless the segment is oversized. -/
theorem decoded_accepted {frameBytes : Bytes} {frame : Frame} (decoded : decodeFrame cobs frameBytes = .ok frame) :
    Accepted cobs frame ↔ ¬ Oversized cobs frameBytes := by
  rw [accepted_iff cobs ((decodeFrame_ok cobs).mp decoded).1, oversized_iff]
  constructor
  · rintro short ⟨other, same, long⟩
    obtain rfl := Except.ok.inj (decoded.symm.trans same)
    omega
  · intro fits
    by_contra long
    exact fits ⟨frame, decoded, Nat.lt_of_not_le long⟩

theorem oversized_decoded {frameBytes : Bytes} (oversized : Oversized cobs frameBytes) :
    ∃ frame, decodeFrame cobs frameBytes = .ok frame ∧ ¬ Accepted cobs frame := by
  obtain ⟨frame, decoded, _⟩ := (oversized_iff cobs frameBytes).mp oversized
  exact ⟨frame, decoded, fun accepted => (decoded_accepted cobs decoded).mp accepted oversized⟩

section Generator
variable {α β ε : Type} {decode : β → Except ε α}

theorem mem_untilError {items : List β} {value : α} : .ok value ∈ untilError (items.map decode) ↔
    ∃ front item back, items = front ++ item :: back ∧ (∀ earlier ∈ front, ∃ value, decode earlier = .ok value) ∧
      decode item = .ok value := by
  induction items with
  | nil => simp [untilError]
  | cons first items ih =>
    cases decoded : decode first with
    | error error =>
      simp only [List.map_cons, decoded, untilError, List.mem_singleton, reduceCtorEq, false_iff]
      rintro ⟨front, item, back, same, earlier, yielded⟩
      cases front with
      | nil =>
        obtain ⟨rfl, -⟩ := List.cons.inj same
        cases decoded.symm.trans yielded
      | cons head front =>
        obtain ⟨rfl, -⟩ := List.cons.inj same
        obtain ⟨value, before⟩ := earlier first List.mem_cons_self
        cases decoded.symm.trans before
    | ok head =>
      simp only [List.map_cons, decoded, untilError, List.mem_cons, ih, Except.ok.injEq]
      constructor
      · rintro (rfl | ⟨front, item, back, rfl, earlier, yielded⟩)
        · exact ⟨[], first, items, rfl, List.forall_mem_nil _, decoded⟩
        · refine ⟨first :: front, item, back, rfl, fun other member => ?_, yielded⟩
          obtain rfl | member := List.mem_cons.mp member
          · exact ⟨head, decoded⟩
          · exact earlier other member
      · rintro ⟨front, item, back, same, earlier, yielded⟩
        cases front with
        | nil =>
          obtain ⟨rfl, -⟩ := List.cons.inj same
          exact Or.inl (Except.ok.inj (yielded.symm.trans decoded))
        | cons other front =>
          obtain ⟨rfl, rfl⟩ := List.cons.inj same
          exact Or.inr ⟨front, item, back, rfl, fun other member => earlier other (List.mem_cons_of_mem _ member), yielded⟩

end Generator

def collect (buf : Bytes) : Option UInt8 → Bytes
  | none => []
  | some byte => if byte = 0 then [] else buf ++ [byte]

/-- The bytes that have come since the last delimiter or timeout. -/
def since (reads : List (Option UInt8)) : Bytes := reads.foldl collect []

theorem collect_clean {bytes : Bytes} (clean : 0 ∉ bytes) (buf : Bytes) :
    (bytes.map some).foldl collect buf = buf ++ bytes := by
  induction bytes generalizing buf with
  | nil => simp
  | cons byte bytes ih =>
    have nonzero : byte ≠ 0 := fun same => clean (same ▸ List.mem_cons_self)
    have collected := ih (fun member => clean (List.mem_cons_of_mem _ member)) (buf ++ [byte])
    simpa [collect, nonzero] using collected

theorem mem_scanl {α β : Type} {step : β → α → β} {start value : β} {items : List α} :
    value ∈ List.scanl step start items ↔ ∃ before, before <+: items ∧ before.foldl step start = value := by
  induction items generalizing start with
  | nil => simp [eq_comm]
  | cons item items ih =>
    simp only [List.scanl_cons, List.mem_cons, ih]
    constructor
    · rintro (rfl | ⟨before, early, rfl⟩)
      · exact ⟨[], List.nil_prefix, rfl⟩
      · exact ⟨item :: before, List.cons_prefix_cons.mpr ⟨rfl, early⟩, rfl⟩
    · rintro ⟨before, early, rfl⟩
      cases before with
      | nil => exact Or.inl rfl
      | cons first before =>
        obtain ⟨rfl, shorter⟩ := List.cons_prefix_cons.mp early
        exact Or.inr ⟨before, shorter, rfl⟩

theorem readBuffers_scan (buf : Bytes) (reads : List (Option UInt8)) : List.scanl collect buf reads =
    readBuffers buf reads ++
      if (readFrom cobs buf reads).1 = .starved then [] else List.scanl collect [] (readFrom cobs buf reads).2 := by
  induction reads generalizing buf with
  | nil => simp [readBuffers, readFrom]
  | cons read rest ih =>
    cases read with
    | none => simp [readBuffers, readFrom, collect]
    | some byte =>
      simp only [List.scanl_cons, collect, readBuffers, readFrom]
      split
      next zero =>
        by_cases empty : buf = []
        · simp [empty]
        · cases decoded : decodeFrame cobs buf <;> simp [empty]
      next nonzero => rw [ih (buf ++ [byte]), List.cons_append]

theorem readerBuffers_scan {calls : Nat} {reads : List (Option UInt8)} (enough : reads.length < calls) :
    readerBuffers cobs calls reads = List.scanl collect [] reads := by
  induction calls generalizing reads with
  | zero => omega
  | succ calls ih =>
    rw [readBuffers_scan cobs [] reads, readerBuffers, readFrame]
    by_cases starved : (readFrom cobs [] reads).1 = .starved
    · simp only [starved, if_true]
    · have shorter := readFrom_shorter cobs [] reads starved
      simp only [starved, if_false, ih (by omega : (readFrom cobs [] reads).2.length < calls)]

theorem exists_delimiter {property : List (Option UInt8) → Prop} {read : Option UInt8} {reads : List (Option UInt8)} :
    (∃ before, before ++ [some 0] <+: read :: reads ∧ property before) ↔
      (read = some 0 ∧ property []) ∨ ∃ before, before ++ [some 0] <+: reads ∧ property (read :: before) := by
  constructor
  · rintro ⟨before, early, holds⟩
    cases before with
    | nil => exact Or.inl ⟨(List.cons_prefix_cons.mp early).1.symm, holds⟩
    | cons first before =>
      obtain ⟨rfl, shorter⟩ := List.cons_prefix_cons.mp early
      exact Or.inr ⟨before, shorter, holds⟩
  · rintro (⟨rfl, holds⟩ | ⟨before, early, holds⟩)
    · exact ⟨[], List.cons_prefix_cons.mpr ⟨rfl, List.nil_prefix⟩, holds⟩
    · exact ⟨read :: before, List.cons_prefix_cons.mpr ⟨rfl, early⟩, holds⟩

theorem mem_drain {result : Except FrameFault Frame} (buf : Bytes) (reads : List (Option UInt8)) :
    result ∈ drain cobs buf reads ↔ ∃ before, before ++ [some 0] <+: reads ∧
      before.foldl collect buf ≠ [] ∧ decodeFrame cobs (before.foldl collect buf) = result := by
  induction reads generalizing buf with
  | nil => simp [drain]
  | cons read reads ih =>
    rw [exists_delimiter]
    cases read with
    | none => simp [drain, ih, collect]
    | some byte =>
      by_cases zero : byte = 0
      · have delimited : result = decodeFrame cobs buf ↔ decodeFrame cobs buf = result := eq_comm
        simp [drain, ih, collect, finish, zero, delimited]
      · simp [drain, ih, collect, zero]

theorem iterFrames_limits (data : Bytes) : (∀ frame, .ok frame ∈ iterFrames cobs data → Accepted cobs frame) ↔
    ∀ front segment back, segments data = front ++ segment :: back →
      (∀ earlier ∈ front, Intact cobs earlier) → ¬ Oversized cobs segment := by
  have yields : iterFrames cobs data = untilError ((segments data).map (decodeFrame cobs)) := by
    rw [iterFrames_drain, ← streamResults_segments, streamResults, readAll_drain]
  simp only [yields, mem_untilError, intact_iff]
  constructor
  · intro accepted front segment back same earlier oversized
    obtain ⟨frame, decoded, refused⟩ := oversized_decoded cobs oversized
    exact refused (accepted frame ⟨front, segment, back, same, earlier, decoded⟩)
  · rintro limited frame ⟨front, segment, back, same, earlier, decoded⟩
    exact (decoded_accepted cobs decoded).mpr (limited front segment back same earlier)

theorem readAll_limits (reads : List (Option UInt8)) : (∀ frame, .ok frame ∈ readAll cobs reads → Accepted cobs frame) ↔
    ∀ before, before ++ [some 0] <+: reads → since before ≠ [] → ¬ Oversized cobs (since before) := by
  simp only [readAll_drain, mem_drain]
  constructor
  · intro accepted before early nonempty oversized
    obtain ⟨frame, decoded, refused⟩ := oversized_decoded cobs oversized
    exact refused (accepted frame ⟨before, early, nonempty, decoded⟩)
  · rintro limited frame ⟨before, early, nonempty, decoded⟩
    exact (decoded_accepted cobs decoded).mpr (limited before early nonempty)

theorem buffers_limits (limit : Nat) (reads : List (Option UInt8)) :
    (∀ buf ∈ readerBuffers cobs (reads.length + 1) reads, buf.length ≤ limit) ↔
      ∀ before, before <+: reads → (since before).length ≤ limit := by
  simp only [readerBuffers_scan cobs (Nat.lt_succ_self _), mem_scanl]
  constructor
  · exact fun bounded before early => bounded _ ⟨before, early, rfl⟩
  · rintro bounded buf ⟨before, early, rfl⟩
    exact bounded before early

/-- The receiving side keeps to the limits of the sending side exactly on input that
keeps to them: no frame for which the payload field is too long, and no run of bytes
longer than a frame. -/
theorem receive_limits :
    (∀ frameBytes, (∀ frame, decodeFrame cobs frameBytes = .ok frame → Accepted cobs frame) ↔
      ¬ Oversized cobs frameBytes) ∧
    (∀ data, (∀ frame, .ok frame ∈ iterFrames cobs data → Accepted cobs frame) ↔
      ∀ front segment back, segments data = front ++ segment :: back →
        (∀ earlier ∈ front, Intact cobs earlier) → ¬ Oversized cobs segment) ∧
    ∀ reads,
      ((∀ frame, .ok frame ∈ readAll cobs reads → Accepted cobs frame) ∧
        ∀ buf ∈ readerBuffers cobs (reads.length + 1) reads, buf.length ≤ maxWireFrame) ↔
      (∀ before, before ++ [some 0] <+: reads → since before ≠ [] → ¬ Oversized cobs (since before)) ∧
        ∀ before, before <+: reads → (since before).length ≤ maxWireFrame := by
  refine ⟨fun frameBytes => ⟨?_, ?_⟩, iterFrames_limits cobs,
    fun reads => and_congr (readAll_limits cobs reads) (buffers_limits cobs maxWireFrame reads)⟩
  · intro accepted oversized
    obtain ⟨frame, decoded, refused⟩ := oversized_decoded cobs oversized
    exact refused (accepted frame decoded)
  · exact fun fits frame decoded => (decoded_accepted cobs decoded).mpr fits

/-- A frame that is too long for the sending side comes through on every path. -/
theorem long_received {frame : Frame} (range : InRange frame) (long : maxWireFrame ≤ frame.payload.length) :
    let bytes := Cobs.standard.encode (preCobs frame)
    let reads := (bytes ++ [0]).map some
    ¬ Accepted Cobs.standard frame ∧ decodeFrame Cobs.standard bytes = .ok frame ∧
      .ok frame ∈ readAll Cobs.standard reads ∧ .ok frame ∈ iterFrames Cobs.standard (bytes ++ [0]) ∧
      ∃ buf ∈ readerBuffers Cobs.standard (reads.length + 1) reads, maxWireFrame < buf.length := by
  intro bytes reads
  have decoded : decodeFrame Cobs.standard bytes = .ok frame := decodeFrame_encode Cobs.standard range
  have size : maxWireFrame < bytes.length := by
    have longer : (preCobs frame).length < bytes.length := Cobs.encode_longer (preCobs frame)
    rw [preCobs_length] at longer
    omega
  have clean : 0 ∉ bytes := Cobs.standard.encode_nonzero _
  have results : streamResults Cobs.standard (bytes ++ [0]) = [.ok frame] := by
    have nonempty : bytes ≠ [] := List.ne_nil_of_length_pos (by omega)
    rw [streamResults_segments, segments_single nonempty clean, List.map_singleton, decoded]
  refine ⟨?_, decoded, ?_, ?_, bytes, ?_, size⟩
  · have limit : maxPayloadField < maxWireFrame := by decide
    rw [accepted_iff Cobs.standard range]
    omega
  · change .ok frame ∈ streamResults Cobs.standard (bytes ++ [0])
    rw [results]
    exact List.mem_singleton_self _
  · rw [iterFrames_drain, ← readAll_drain]
    change .ok frame ∈ untilError (streamResults Cobs.standard (bytes ++ [0]))
    rw [results]
    exact List.mem_singleton_self _
  · rw [readerBuffers_scan Cobs.standard (Nat.lt_succ_self _), mem_scanl]
    exact ⟨bytes.map some, ⟨[some 0], by simp [reads]⟩, collect_clean clean []⟩

def oversizedFrame : Frame := { typeId := 0xC0, tag := 0, payload := List.replicate 300 0x42 }

theorem oversized_received :
    let bytes := Cobs.standard.encode (preCobs oversizedFrame)
    let reads := (bytes ++ [0]).map some
    ¬ Accepted Cobs.standard oversizedFrame ∧ decodeFrame Cobs.standard bytes = .ok oversizedFrame ∧
      .ok oversizedFrame ∈ readAll Cobs.standard reads ∧ .ok oversizedFrame ∈ iterFrames Cobs.standard (bytes ++ [0]) ∧
      ∃ buf ∈ readerBuffers Cobs.standard (reads.length + 1) reads, maxWireFrame < buf.length := by
  apply long_received
  · exact ⟨by decide, by decide⟩
  · have payload : oversizedFrame.payload.length = 300 := List.length_replicate
    rw [payload]
    decide

end DongloraClient.Proofs.FrameLimits
