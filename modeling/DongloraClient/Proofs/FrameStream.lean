import DongloraClient.Events
import DongloraClient.Proofs.FrameCodec
import Mathlib.Data.List.ReduceOption

/-! The byte stream as the reader thread sees it, with empty reads wherever the
transport timed out. An empty read throws away the bytes collected so far, so that
a frame survives exactly when none falls between two of its bytes. -/

namespace DongloraClient.Proofs.FrameStream
open Wire FrameCodec

variable (cobs : Cobs.Codec)

def finish (buf : Bytes) : List (Except FrameFault Frame) := if buf = [] then [] else [decodeFrame cobs buf]

/-- The results of all calls of `read_frame` in one pass over the stream. -/
def drain : Bytes → List (Option UInt8) → List (Except FrameFault Frame)
  | _, [] => []
  | _, none :: rest => drain [] rest
  | buf, some byte :: rest => if byte = 0 then finish cobs buf ++ drain [] rest else drain (buf ++ [byte]) rest

theorem drain_readFrom (buf : Bytes) (reads : List (Option UInt8)) :
    drain cobs buf reads = match readFrom cobs buf reads with
      | (.frame frame, rest) => .ok frame :: drain cobs [] rest
      | (.fault fault, rest) => .error fault :: drain cobs [] rest
      | (.none, rest) => drain cobs [] rest
      | (.starved, _) => [] := by
  induction reads generalizing buf with
  | nil => rfl
  | cons read rest ih =>
    cases read with
    | none => rfl
    | some byte =>
      simp only [drain, readFrom]
      split
      · by_cases empty : buf = []
        · simp [finish, empty]
        · cases decoded : decodeFrame cobs buf <;> simp [finish, empty, decoded]
      · exact ih (buf ++ [byte])

theorem readFrom_shorter (buf : Bytes) (reads : List (Option UInt8)) (returned : (readFrom cobs buf reads).1 ≠ .starved) :
    (readFrom cobs buf reads).2.length < reads.length := by
  induction reads generalizing buf with
  | nil => exact absurd rfl returned
  | cons read rest ih =>
    cases read with
    | none => exact Nat.lt_succ_self _
    | some byte =>
      simp only [readFrom] at returned ⊢
      split
      · by_cases empty : buf = []
        · simp [empty]
        · cases decoded : decodeFrame cobs buf <;> simp [empty]
      next more =>
        rw [if_neg more] at returned
        exact Nat.lt_succ_of_lt (ih _ returned)

theorem readerResults_drain {calls : Nat} {reads : List (Option UInt8)} (enough : reads.length ≤ calls) :
    readerResults cobs calls reads = drain cobs [] reads := by
  induction calls generalizing reads with
  | zero =>
    rw [List.eq_nil_of_length_eq_zero (by omega : reads.length = 0)]
    rfl
  | succ calls ih =>
    have shorter := readFrom_shorter cobs [] reads
    rw [drain_readFrom, readerResults, readFrame]
    cases outcome : readFrom cobs [] reads with
    | mk result rest =>
      rw [outcome] at shorter
      cases result with
      | starved => rfl
      | frame frame | fault fault | none =>
        have remaining : rest.length ≤ calls := by
          have fewer : rest.length < reads.length := shorter nofun
          omega
        simp only [ih remaining]

theorem readAll_drain (reads : List (Option UInt8)) : readAll cobs reads = drain cobs [] reads :=
  readerResults_drain cobs (Nat.le_refl _)

def held : Bytes → List (Option UInt8) → Bytes
  | buf, [] => buf
  | _, none :: rest => held [] rest
  | buf, some byte :: rest => held (buf ++ [byte]) rest

theorem drain_delimited (buf : Bytes) {reads : List (Option UInt8)} (rest : List (Option UInt8)) (clean : some 0 ∉ reads) :
    drain cobs buf (reads ++ some 0 :: rest) = finish cobs (held buf reads) ++ drain cobs [] rest := by
  induction reads generalizing buf with
  | nil => rfl
  | cons read reads ih =>
    have later (buf : Bytes) := ih buf fun member => clean (List.mem_cons_of_mem _ member)
    cases read with
    | none => exact later []
    | some byte =>
      have nonzero : byte ≠ 0 := by
        intro same
        subst same
        exact clean List.mem_cons_self
      rw [List.cons_append, drain, if_neg nonzero, later, held]

theorem held_suffix (buf : Bytes) (reads : List (Option UInt8)) : held buf reads <:+ buf ++ reads.reduceOption := by
  induction reads generalizing buf with
  | nil => simp [held]
  | cons read reads ih =>
    cases read with
    | none => exact (ih []).trans (List.suffix_append buf _)
    | some byte => simpa [held] using ih (buf ++ [byte])

/-- No empty read falls behind a byte. -/
def Unbroken (buf : Bytes) (reads : List (Option UInt8)) : Prop :=
  ∀ before after, reads = before ++ none :: after → buf ++ before.reduceOption = []

theorem unbroken_none {buf : Bytes} {reads : List (Option UInt8)} :
    Unbroken buf (none :: reads) ↔ buf = [] ∧ Unbroken [] reads := by
  constructor
  · intro unbroken
    have empty : buf = [] := by simpa using unbroken [] reads rfl
    exact ⟨empty, fun before after same => by simpa [empty] using unbroken (none :: before) after (by rw [same]; rfl)⟩
  · rintro ⟨rfl, unbroken⟩ before after same
    cases before with
    | nil => rfl
    | cons read before =>
      obtain ⟨rfl, remaining⟩ := List.cons.inj same
      simpa using unbroken before after remaining

theorem unbroken_some {buf : Bytes} {byte : UInt8} {reads : List (Option UInt8)} :
    Unbroken buf (some byte :: reads) ↔ Unbroken (buf ++ [byte]) reads := by
  constructor
  · intro unbroken before after same
    simpa using unbroken (some byte :: before) after (by rw [same]; rfl)
  · intro unbroken before after same
    cases before with
    | nil => cases same
    | cons read before =>
      obtain ⟨rfl, remaining⟩ := List.cons.inj same
      simpa using unbroken before after remaining

theorem held_whole_iff (buf : Bytes) (reads : List (Option UInt8)) :
    held buf reads = buf ++ reads.reduceOption ↔ Unbroken buf reads := by
  induction reads generalizing buf with
  | nil => simp [held, Unbroken]
  | cons read reads ih =>
    cases read with
    | none =>
      rw [unbroken_none, ← ih []]
      simp only [held, List.reduceOption_cons_of_none, List.nil_append]
      constructor
      · intro whole
        have short := (held_suffix [] reads).length_le
        have empty : buf = [] := by
          rw [whole, List.nil_append, List.length_append] at short
          exact List.eq_nil_of_length_eq_zero (by omega)
        exact ⟨empty, by rw [whole, empty, List.nil_append]⟩
      · rintro ⟨rfl, whole⟩
        exact whole
    | some byte =>
      rw [unbroken_some, ← ih (buf ++ [byte])]
      simp [held]

theorem split_delimiter {reads : List (Option UInt8)} {front back : Bytes} (clean : 0 ∉ front)
    (stream : reads.reduceOption = front ++ 0 :: back) :
    ∃ segment rest, reads = segment ++ some 0 :: rest ∧ some 0 ∉ segment ∧
      segment.reduceOption = front ∧ rest.reduceOption = back := by
  induction reads generalizing front with
  | nil => simp at stream
  | cons read reads ih =>
    cases read with
    | none =>
      rw [List.reduceOption_cons_of_none] at stream
      obtain ⟨segment, rest, rfl, absent, before, after⟩ := ih clean stream
      exact ⟨none :: segment, rest, rfl, by simpa using absent, by simpa using before, after⟩
    | some byte =>
      rw [List.reduceOption_cons_of_some] at stream
      cases front with
      | nil =>
        obtain ⟨rfl, rest⟩ := List.cons.inj stream
        exact ⟨[], reads, rfl, List.not_mem_nil, rfl, rest⟩
      | cons head front =>
        obtain ⟨rfl, remaining⟩ := List.cons.inj stream
        have nonzero : byte ≠ 0 := fun zero => clean (zero ▸ List.mem_cons_self)
        obtain ⟨segment, rest, rfl, absent, before, after⟩ :=
          ih (fun member => clean (List.mem_cons_of_mem _ member)) remaining
        exact ⟨some byte :: segment, rest, rfl, by simpa [Ne.symm nonzero] using absent, by simpa using before, after⟩

/-- Every empty read falls before the first frame, between two frames or after the last. -/
def BetweenFrames (frames : List Frame) (reads : List (Option UInt8)) : Prop :=
  ∀ before after, reads = before ++ none :: after →
    ∃ count, before.reduceOption = (frames.take count).flatMap (wire cobs)

theorem betweenFrames_cons {frame : Frame} {frames : List Frame} {segment rest : List (Option UInt8)}
    (bytes : segment.reduceOption = cobs.encode (preCobs frame)) :
    BetweenFrames cobs (frame :: frames) (segment ++ some 0 :: rest) ↔
      Unbroken [] segment ∧ BetweenFrames cobs frames rest := by
  have clean : 0 ∉ segment.reduceOption := bytes ▸ cobs.encode_nonzero _
  constructor
  · intro between
    constructor
    · intro before after same
      obtain ⟨count, prior⟩ := between before (after ++ some 0 :: rest) (by simp [same])
      cases count with
      | zero => simpa using prior
      | succ count =>
        have delimited : 0 ∈ before.reduceOption := by simp [prior, wire]
        exact absurd (by simp [same, List.reduceOption_append, delimited]) clean
    · intro before after same
      obtain ⟨count, prior⟩ := between (segment ++ some 0 :: before) after (by simp [same])
      rw [List.reduceOption_append, List.reduceOption_cons_of_some, bytes] at prior
      cases count with
      | zero => simp at prior
      | succ count => exact ⟨count, by simpa [wire] using prior⟩
  · rintro ⟨unbroken, between⟩ before after same
    rcases List.append_eq_append_iff.mp same with ⟨later, rfl, split_at⟩ | ⟨later, rfl, split_at⟩
    · cases later with
      | nil => cases split_at
      | cons read later =>
        obtain ⟨rfl, remaining⟩ := List.cons.inj split_at
        obtain ⟨count, prior⟩ := between later after remaining
        refine ⟨count + 1, ?_⟩
        rw [List.reduceOption_append, List.reduceOption_cons_of_some, bytes, prior]
        simp [wire]
    · cases later with
      | nil => cases split_at
      | cons read later =>
        obtain ⟨rfl, _⟩ := List.cons.inj split_at
        exact ⟨0, by simpa using unbroken before later rfl⟩

theorem drain_length (buf : Bytes) (reads : List (Option UInt8)) :
    (drain cobs buf reads).length ≤ reads.reduceOption.count 0 := by
  induction reads generalizing buf with
  | nil => simp [drain]
  | cons read reads ih =>
    cases read with
    | none => simpa [drain] using ih []
    | some byte =>
      simp only [drain, List.reduceOption_cons_of_some]
      split
      next zero =>
        subst zero
        have single : (finish cobs buf).length ≤ 1 := by
          simp only [finish]
          split <;> simp
        have rest := ih []
        simp only [List.length_append, List.count_cons_self]
        omega
      next nonzero =>
        rw [List.count_cons_of_ne nonzero]
        exact ih (buf ++ [byte])

theorem wires_count (frames : List Frame) : (frames.flatMap (wire cobs)).count 0 = frames.length := by
  induction frames with
  | nil => rfl
  | cons frame frames ih =>
    have none : (cobs.encode (preCobs frame)).count 0 = 0 := List.count_eq_zero.mpr (cobs.encode_nonzero _)
    simp [List.flatMap_cons, wire, none, ih]

def encodeFrames : List Frame → Except Exc Bytes
  | [] => return []
  | frame :: frames => return (← encodeFrame cobs frame.typeId frame.tag frame.payload) ++ (← encodeFrames frames)

theorem encodeFrames_valid {frames : List Frame} (valid : ∀ frame ∈ frames, Valid frame) :
    encodeFrames cobs frames = .ok (frames.flatMap (wire cobs)) := by
  induction frames with
  | nil => rfl
  | cons frame frames ih =>
    rw [encodeFrames, encodeFrame_valid cobs (valid frame List.mem_cons_self),
      ih fun frame member => valid frame (List.mem_cons_of_mem _ member)]
    rfl

section Timeouts
variable (cobs : Cobs.StandardCodec)

/-- The bytes left in the buffer at the delimiter yield the frame exactly when they
are all of its bytes. -/
theorem finish_frame {frame : Frame} (valid : Valid frame) {buf : Bytes} (cut : buf <:+ cobs.encode (preCobs frame)) :
    finish cobs.toCodec buf = [.ok frame] ↔ buf = cobs.encode (preCobs frame) := by
  constructor
  · intro yielded
    simp only [finish] at yielded
    split at yielded
    next => cases yielded
    next nonempty =>
      have decoded := ((decodeFrame_ok cobs.toCodec).mp (List.cons.inj yielded).1).2
      have short : (preCobs frame).length < 508 := by
        rw [preCobs_length]
        exact Nat.lt_of_le_of_lt (Nat.add_le_add_right valid.payload 5) (by decide)
      exact cobs.suffix_differs short decoded nonempty cut
  · intro same
    subst same
    have nonempty : cobs.encode (preCobs frame) ≠ [] := cobs.encode_nonempty (preCobs_nonempty frame)
    simp only [finish, nonempty, if_false, decodeFrame_encode cobs.toCodec valid.inRange]

theorem drain_frames_iff {frames : List Frame} (valid : ∀ frame ∈ frames, Valid frame)
    {reads : List (Option UInt8)} (stream : reads.reduceOption = frames.flatMap (wire cobs.toCodec)) :
    drain cobs.toCodec [] reads = frames.map .ok ↔ BetweenFrames cobs.toCodec frames reads := by
  induction frames generalizing reads with
  | nil =>
    have nothing := drain_length cobs.toCodec [] reads
    rw [stream] at nothing
    refine iff_of_true (List.eq_nil_of_length_eq_zero (by simpa using nothing)) fun before after same => ⟨0, ?_⟩
    rw [same, List.reduceOption_append] at stream
    simpa using (List.append_eq_nil_iff.mp stream).1
  | cons frame frames ih =>
    have stream' : reads.reduceOption = cobs.encode (preCobs frame) ++ 0 :: frames.flatMap (wire cobs.toCodec) := by
      simpa [wire] using stream
    obtain ⟨segment, rest, rfl, absent, front, back⟩ := split_delimiter (cobs.encode_nonzero _) stream'
    have own : Valid frame := valid frame List.mem_cons_self
    have cut : held [] segment <:+ cobs.encode (preCobs frame) := by simpa [front] using held_suffix [] segment
    rw [betweenFrames_cons cobs.toCodec front, ← held_whole_iff, List.nil_append, front,
      ← finish_frame cobs own cut, ← ih (fun frame member => valid frame (List.mem_cons_of_mem _ member)) back,
      drain_delimited cobs.toCodec [] rest absent, List.map_cons]
    constructor
    · intro yielded
      -- The rest cannot make up for a frame that is lost here.
      have bound := drain_length cobs.toCodec [] rest
      rw [back, wires_count] at bound
      simp only [finish] at yielded ⊢
      split at yielded
      next =>
        have length := congrArg List.length yielded
        simp only [List.nil_append, List.length_cons, List.length_map] at length
        omega
      next nonempty =>
        obtain ⟨first, others⟩ := List.cons.inj yielded
        exact ⟨by rw [if_neg nonempty, first], others⟩
    · rintro ⟨first, others⟩
      rw [first, others, List.singleton_append]

/-- Without timeouts every frame arrives; with timeouts they all still do exactly
when every timeout falls between two frames. -/
theorem readAll_timeouts_iff {frames : List Frame} (valid : ∀ frame ∈ frames, Valid frame)
    {reads : List (Option UInt8)} (stream : encodeFrames cobs.toCodec frames = .ok reads.reduceOption) :
    readAll cobs.toCodec (reads.reduceOption.map some) = frames.map .ok ∧
      (readAll cobs.toCodec reads = frames.map .ok ↔ BetweenFrames cobs.toCodec frames reads) := by
  have bytes : reads.reduceOption = frames.flatMap (wire cobs.toCodec) :=
    (Except.ok.inj ((encodeFrames_valid cobs.toCodec valid).symm.trans stream)).symm
  have whole : (reads.reduceOption.map some).reduceOption = reads.reduceOption := by
    simp [List.reduceOption]
  rw [readAll_drain, readAll_drain]
  refine ⟨(drain_frames_iff cobs valid (whole.trans bytes)).mpr ?_, drain_frames_iff cobs valid bytes⟩
  intro before after same
  have absent : none ∉ reads.reduceOption.map some := by simp
  exact absurd (by simp [same]) absent

end Timeouts

/-- Two acknowledgements with a timeout between them. -/
theorem readAll_timeouts_two :
    let frames : List Frame := [{ typeId := typeOk, tag := 1, payload := [] }, { typeId := typeOk, tag := 2, payload := [] }]
    let reads : List (Option UInt8) := [some 3, some 128, some 1, some 3, some 247, some 196, some 0, none,
      some 3, some 128, some 2, some 3, some 164, some 145, some 0]
    readAll Cobs.standard (reads.reduceOption.map some) = frames.map .ok ∧
      (readAll Cobs.standard reads = frames.map .ok ↔ BetweenFrames Cobs.standard frames reads) :=
  readAll_timeouts_iff Cobs.standardCodec (by decide) (by decide +kernel)

/-- A timeout after the first byte of an acknowledgement: the frame is gone, and what
is left of it is reported as damaged. -/
theorem stalled_frame_lost :
    let frame : Frame := { typeId := typeOk, tag := 1, payload := [] }
    let reads : List (Option UInt8) := [some 3, none, some 128, some 1, some 3, some 247, some 196, some 0]
    Valid frame ∧ encodeFrames Cobs.standard [frame] = .ok reads.reduceOption ∧
      readAll Cobs.standard reads = [.error (.cobs "not enough input bytes for length code")] ∧
      readAll Cobs.standard reads ≠ [.ok frame] := by
  refine ⟨by decide, by decide +kernel, rfl, ?_⟩
  intro same
  cases same

end DongloraClient.Proofs.FrameStream
