import DongloraClient.Proofs.FrameStream

/-! A stream without timeouts falls into the runs of non-zero bytes that a delimiter
ends, and each of them is decoded alone. -/

namespace DongloraClient.Proofs.FrameSegments
open Wire FrameCodec FrameStream

/-- The non-empty runs of non-zero bytes that are ended by a zero. -/
def segments (data : Bytes) : List Bytes := (data.splitOn 0).dropLast.filter (· ≠ [])

def Delimited (data : Bytes) : Prop := data = [] ∨ ∃ front, data = front ++ [0]

theorem segments_delimiter (front back : Bytes) :
    segments (front ++ 0 :: back) = segments (front ++ [0]) ++ segments back := by
  have cut (tail : Bytes) : (front ++ 0 :: tail).splitOn 0 = front.splitOn 0 ++ tail.splitOn 0 :=
    List.splitOnP_append_cons front tail (by simp)
  have nonempty : back.splitOn 0 ≠ [] := List.splitOnP_ne_nil _ _
  simp [segments, cut, List.dropLast_append_of_ne_nil nonempty]

theorem segments_append {front : Bytes} (delimited : Delimited front) (back : Bytes) :
    segments (front ++ back) = segments front ++ segments back := by
  obtain rfl | ⟨front, rfl⟩ := delimited
  · rfl
  · rw [List.append_assoc, List.singleton_append, segments_delimiter]

theorem segments_zero (back : Bytes) : segments (0 :: back) = segments back := segments_delimiter [] back

theorem segments_single {segment : Bytes} (nonempty : segment ≠ []) (clean : 0 ∉ segment) :
    segments (segment ++ [0]) = [segment] := by
  have whole : segment.splitOn 0 = [segment] := by
    refine List.splitOnP_eq_singleton fun byte member => ?_
    simpa using fun zero : byte = 0 => clean (zero ▸ member)
  have cut : (segment ++ [0]).splitOn 0 = segment.splitOn 0 ++ [[]] :=
    List.splitOnP_append_cons segment [] (by simp)
  simp [segments, cut, whole, nonempty]

variable (cobs : Cobs.Codec)

/-- The buffer of `read_frame` is the open segment. -/
theorem drain_segments (buf data : Bytes) (count : Nat) :
    drain cobs buf (data.map some ++ List.replicate count none) =
      ((data.splitOnPPrepend (· == 0) buf.reverse).dropLast.filter (· ≠ [])).map (decodeFrame cobs) := by
  induction data generalizing buf with
  | nil =>
    have idle (buf : Bytes) : drain cobs buf (List.replicate count none) = [] := by
      induction count generalizing buf with
      | zero => rfl
      | succ count ih => exact ih []
    simpa using idle buf
  | cons byte data ih =>
    simp only [List.map_cons, List.cons_append, drain, List.splitOnPPrepend_cons_eq_if, beq_iff_eq]
    split
    next zero =>
      have more : data.splitOnP (· == 0) ≠ [] := List.splitOnP_ne_nil _ _
      rw [ih [], List.reverse_nil, List.splitOnPPrepend_nil_right, List.dropLast_cons_of_ne_nil more]
      by_cases empty : buf = [] <;> simp [finish, empty]
    next nonzero =>
      rw [ih, List.reverse_append]
      rfl

theorem readAll_segments (data : Bytes) (count : Nat) :
    readAll cobs (data.map some ++ List.replicate count none) = (segments data).map (decodeFrame cobs) := by
  rw [readAll_drain, drain_segments]
  rfl

/-- The results up to the first error, as a generator that raises gives them. -/
def untilError : List (Except ε α) → List (Except ε α)
  | [] => []
  | .ok value :: rest => .ok value :: untilError rest
  | .error error :: _ => [.error error]

/-- The scan keeps the open segment as the bytes between two indices. -/
theorem iterFrom_drain (front back : Bytes) {start : Nat} (inside : start ≤ front.length) :
    iterFrom cobs (front ++ back) start (back.zipIdx front.length) =
      untilError (drain cobs (front.drop start) (back.map some)) := by
  induction back generalizing front start with
  | nil => rfl
  | cons byte back ih =>
    have next (start : Nat) (inside : start ≤ front.length + 1) :
        iterFrom cobs (front ++ [byte] ++ back) start (back.zipIdx (front ++ [byte]).length) =
          untilError (drain cobs ((front ++ [byte]).drop start) (back.map some)) := ih (front ++ [byte]) (by simpa)
    simp only [List.append_assoc, List.singleton_append, List.length_append, List.length_singleton] at next
    simp only [List.zipIdx_cons, iterFrom, List.map_cons, drain]
    have segment : ((front ++ byte :: back).drop start).take (front.length - start) = front.drop start := by
      rw [List.drop_append_of_le_length inside]
      exact List.take_left' List.length_drop
    have fresh := next (front.length + 1) (Nat.le_refl _)
    rw [List.drop_of_length_le (by simp)] at fresh
    split
    next zero =>
      rw [segment]
      by_cases something : front.length > start
      · have nonempty : front.drop start ≠ [] := by simpa using something
        rw [if_pos something, finish, if_neg nonempty]
        cases decodeFrame cobs (front.drop start) with
        | ok frame => rw [List.singleton_append, untilError, fresh]
        | error fault => rfl
      · have empty : front.drop start = [] := by simpa using something
        rw [if_neg something, finish, if_pos empty, List.nil_append, fresh]
    next nonzero => rw [next start (Nat.le_succ_of_le inside), List.drop_append_of_le_length inside]

theorem iterFrames_drain (data : Bytes) : iterFrames cobs data = untilError (drain cobs [] (data.map some)) :=
  iterFrom_drain cobs [] data (Nat.le_refl _)

/-- The results of `read_frame` on a stream that comes without a timeout. -/
def streamResults (data : Bytes) : List (Except FrameFault Frame) := readAll cobs (data.map some)

theorem streamResults_segments (data : Bytes) :
    streamResults cobs data = (segments data).map (decodeFrame cobs) := by
  have whole := readAll_segments cobs data 0
  rwa [List.replicate_zero, List.append_nil] at whole

theorem streamResults_append {front : Bytes} (delimited : Delimited front) (back : Bytes) :
    streamResults cobs (front ++ back) = streamResults cobs front ++ streamResults cobs back := by
  simp only [streamResults_segments, segments_append delimited, List.map_append]

theorem streamResults_segment {front segment : Bytes} (delimited : Delimited front) (nonempty : segment ≠ [])
    (clean : 0 ∉ segment) (back : Bytes) : streamResults cobs (front ++ segment ++ 0 :: back) =
      streamResults cobs front ++ decodeFrame cobs segment :: streamResults cobs back := by
  have single : streamResults cobs (segment ++ [0]) = [decodeFrame cobs segment] := by
    rw [streamResults_segments, segments_single nonempty clean, List.map_singleton]
  rw [List.append_assoc, streamResults_append cobs delimited, List.append_cons segment,
    streamResults_append cobs (Or.inr ⟨segment, rfl⟩), single, List.singleton_append]

theorem encodeFrame_wire {frame : Frame} {bytes : Bytes}
    (encoded : encodeFrame cobs frame.typeId frame.tag frame.payload = .ok bytes) :
    Valid frame ∧ bytes = wire cobs frame := by
  have valid : Valid frame := by
    unfold encodeFrame at encoded
    split at encoded
    next => cases encoded
    next typeId =>
      split at encoded
      next => cases encoded
      next tag =>
        split at encoded
        next => cases encoded
        next fits => exact ⟨by omega, by omega, Nat.le_of_not_lt fits⟩
  exact ⟨valid, Except.ok.inj (encoded.symm.trans (encodeFrame_valid cobs valid))⟩

theorem streamResults_frames (cobs : Cobs.StandardCodec) {frames : List Frame} (valid : ∀ frame ∈ frames, Valid frame) :
    streamResults cobs.toCodec (frames.flatMap (wire cobs.toCodec)) = frames.map .ok := by
  induction frames with
  | nil => rfl
  | cons frame frames ih =>
    have own : Valid frame := valid frame List.mem_cons_self
    have first := streamResults_segment cobs.toCodec (Or.inl rfl)
      (cobs.encode_nonempty (preCobs_nonempty frame)) (cobs.encode_nonzero _) (frames.flatMap (wire cobs.toCodec))
    rw [decodeFrame_encode cobs.toCodec own.inRange] at first
    rw [List.flatMap_cons, List.map_cons, ← ih fun frame member => valid frame (List.mem_cons_of_mem _ member)]
    have empty : streamResults cobs.toCodec [] = [] := rfl
    simpa only [wire, empty, List.append_assoc, List.singleton_append, List.nil_append] using first

/-- `read_frame` and `iter_frames` split any stream at its delimiters; nothing of a
damaged segment is left over for the next one. -/
theorem stream_resynchronises (cobs : Cobs.StandardCodec) :
    (∀ data count, readAll cobs.toCodec (data.map some ++ List.replicate count none) =
      (segments data).map (decodeFrame cobs.toCodec)) ∧
    (∀ data, iterFrames cobs.toCodec data = untilError (streamResults cobs.toCodec data)) ∧
    ∀ front back, Delimited front →
      (∀ frame bytes, encodeFrame cobs.toCodec frame.typeId frame.tag frame.payload = .ok bytes →
        streamResults cobs.toCodec (front ++ bytes ++ back) =
          streamResults cobs.toCodec front ++ .ok frame :: streamResults cobs.toCodec back) ∧
      (∀ segment, segment ≠ [] → 0 ∉ segment → streamResults cobs.toCodec (front ++ segment ++ 0 :: back) =
        streamResults cobs.toCodec front ++ decodeFrame cobs.toCodec segment :: streamResults cobs.toCodec back) ∧
      streamResults cobs.toCodec (front ++ 0 :: back) =
        streamResults cobs.toCodec front ++ streamResults cobs.toCodec back := by
  refine ⟨readAll_segments cobs.toCodec, ?_, fun front back delimited => ⟨?_, ?_, ?_⟩⟩
  · intro data
    rw [iterFrames_drain, streamResults, readAll_drain]
  · intro frame bytes encoded
    obtain ⟨valid, rfl⟩ := encodeFrame_wire cobs.toCodec encoded
    have stuffed := streamResults_segment cobs.toCodec delimited (cobs.encode_nonempty (preCobs_nonempty frame))
      (cobs.encode_nonzero _) back
    rw [decodeFrame_encode cobs.toCodec valid.inRange] at stuffed
    simpa only [wire, List.append_assoc, List.singleton_append] using stuffed
  · exact fun segment nonempty clean => streamResults_segment cobs.toCodec delimited nonempty clean back
  · rw [streamResults_append cobs.toCodec delimited]
    simp only [streamResults_segments, segments_zero]

/-- A damaged segment and a doubled delimiter before an acknowledgement. -/
theorem stream_resynchronises_damaged :
    streamResults Cobs.standard ([9, 9, 0] ++ [3, 128, 1, 3, 247, 196, 0] ++ [0]) =
      streamResults Cobs.standard [9, 9, 0] ++ .ok { typeId := 0x80, tag := 1, payload := [] } ::
        streamResults Cobs.standard [0] :=
  ((stream_resynchronises Cobs.standardCodec).2.2 [9, 9, 0] [0] (Or.inr ⟨[9, 9], rfl⟩)).1
    { typeId := 0x80, tag := 1, payload := [] } _ (by decide +kernel)

end DongloraClient.Proofs.FrameSegments
