import DongloraClient.Proofs.FrameSegments
import DongloraClient.Proofs.PayloadCodecs
import DongloraClient.Session

/-! No two commands look alike on the wire, nor do two sequences of commands. -/

namespace DongloraClient.Proofs.CommandStream
open Wire FrameCodec FrameSegments PayloadCodecs

theorem txPayload_injective {data other : Bytes} {skipCad skips : Bool} {payload : Bytes}
    (one : encodeTxPayload data skipCad = .ok payload) (two : encodeTxPayload other skips = .ok payload) :
    data = other ∧ skipCad = skips := by
  have shape {data : Bytes} {skipCad : Bool} (encoded : encodeTxPayload data skipCad = .ok payload) :
      payload = (if skipCad then 1 else 0) :: data := by
    simp only [encodeTxPayload] at encoded
    split at encoded
    next => cases encoded
    next => cases skipCad <;> cases encoded <;> rfl
  have same := (shape one).symm.trans (shape two)
  refine ⟨List.tail_eq_of_cons_eq same, ?_⟩
  have flags := List.head_eq_of_cons_eq same
  cases skipCad <;> cases skips <;> first | rfl | cases flags

theorem payload_injective {first second : Request} {payload : Bytes} (alike : first.typeId = second.typeId)
    (one : first.payload = .ok payload) (two : second.payload = .ok payload) : first = second := by
  cases first with
  | setConfig modulation =>
    cases second with
    | setConfig other =>
      have same : Except.ok modulation = .ok other := (modulation_written one).symm.trans (modulation_written two)
      rw [Except.ok.inj same]
    | ping | getInfo | transmit | rxStart | rxStop => cases alike
  | transmit data skipCad =>
    cases second with
    | transmit other skips =>
      obtain ⟨rfl, rfl⟩ := txPayload_injective one two
      rfl
    | ping | getInfo | setConfig | rxStart | rxStop => cases alike
  | ping | getInfo | rxStart | rxStop => cases second <;> first | rfl | cases alike

def Encodes (cobs : Cobs.Codec) (command : Nat × Request) (bytes : Bytes) : Prop :=
  Session.wire cobs { tag := command.1, request := command.2 } = .ok bytes

def frameOf (command : Nat × Request) : Frame where
  typeId := command.2.typeId
  tag := command.1
  payload := command.2.payload.toOption.getD []

variable {cobs : Cobs.StandardCodec} {first second commands : List (Nat × Request)} {chunks others : List Bytes}

structure Framed (cobs : Cobs.Codec) (command : Nat × Request) (bytes : Bytes) : Prop where
  valid : Valid (frameOf command)
  bytes : bytes = wire cobs (frameOf command)
  payload : command.2.payload = .ok (frameOf command).payload

theorem encodes_framed {cobs : Cobs.Codec} {command : Nat × Request} {bytes : Bytes} (encodes : Encodes cobs command bytes) :
    Framed cobs command bytes := by
  obtain ⟨tag, request⟩ := command
  simp only [Encodes, Session.wire] at encodes
  cases encoded : request.payload with
  | error exc =>
    rw [encoded] at encodes
    cases encodes
  | ok payload =>
    have frame : frameOf (tag, request) = ⟨request.typeId, tag, payload⟩ := by simp [frameOf, encoded, Except.toOption]
    rw [encoded] at encodes
    have encodes : encodeFrame cobs (Frame.mk request.typeId tag payload).typeId tag payload = .ok bytes := encodes
    obtain ⟨valid, same⟩ := encodeFrame_wire cobs encodes
    exact ⟨frame ▸ valid, frame ▸ same, by rw [frame, encoded]⟩

theorem framed_injective {cobs : Cobs.Codec} {one two : Nat × Request} {bytes rest : Bytes} (first : Framed cobs one bytes)
    (second : Framed cobs two rest) (same : frameOf one = frameOf two) : one = two := by
  have tag : one.1 = two.1 := congrArg Frame.tag same
  have typeId : one.2.typeId = two.2.typeId := congrArg Frame.typeId same
  exact Prod.ext tag (payload_injective typeId first.payload (same ▸ second.payload))

theorem flatten_frames {cobs : Cobs.Codec} (written : List.Forall₂ (Encodes cobs) commands chunks) :
    chunks.flatten = (commands.map frameOf).flatMap (wire cobs) ∧ ∀ frame ∈ commands.map frameOf, Valid frame := by
  induction written with
  | nil => exact ⟨rfl, fun _ member => absurd member List.not_mem_nil⟩
  | cons encodes _ ih =>
    have framed := encodes_framed encodes
    obtain ⟨bytes, valid⟩ := ih
    constructor
    · rw [List.flatten_cons, List.map_cons, List.flatMap_cons, bytes, ← framed.bytes]
    · intro frame member
      rcases List.mem_cons.mp member with rfl | member
      · exact framed.valid
      · exact valid frame member

theorem commands_begin (one : List.Forall₂ (Encodes cobs.toCodec) first chunks)
    (two : List.Forall₂ (Encodes cobs.toCodec) second others) (frames : first.map frameOf <+: second.map frameOf) :
    first <+: second := by
  induction one generalizing second others with
  | nil => exact List.nil_prefix
  | @cons command bytes commands chunks encodes _ ih =>
    cases two with
    | nil => exact absurd frames.length_le (by simp)
    | @cons other rest second others encoded later =>
      obtain ⟨same, frames⟩ := List.cons_prefix_cons.mp frames
      rw [framed_injective (encodes_framed encodes) (encodes_framed encoded) same, List.prefix_cons_inj]
      exact ih later frames

theorem frames_delimited (cobs : Cobs.Codec) (frames : List Frame) : Delimited (frames.flatMap (wire cobs)) := by
  rcases frames.eq_nil_or_concat with rfl | ⟨before, last, rfl⟩
  · exact Or.inl rfl
  · refine Or.inr ⟨before.flatMap (wire cobs) ++ cobs.encode (preCobs last), ?_⟩
    rw [List.concat_eq_append, List.flatMap_append, List.flatMap_singleton, wire, List.append_assoc]

theorem frames_begin {frames more : List Frame} (valid : ∀ frame ∈ frames, Valid frame) (others : ∀ frame ∈ more, Valid frame)
    (begins : frames.flatMap (wire cobs.toCodec) <+: more.flatMap (wire cobs.toCodec)) : frames <+: more := by
  obtain ⟨rest, same⟩ := begins
  have results := congrArg (streamResults cobs.toCodec) same
  rw [streamResults_append cobs.toCodec (frames_delimited _ _), streamResults_frames cobs valid,
    streamResults_frames cobs others] at results
  exact (List.prefix_map_iff_of_injective fun _ _ => Except.ok.inj).mp ⟨_, results⟩

theorem bytes_begin (one : List.Forall₂ (Encodes cobs.toCodec) first chunks)
    (two : List.Forall₂ (Encodes cobs.toCodec) second others) (begins : chunks.flatten <+: others.flatten) : first <+: second := by
  obtain ⟨bytes, valid⟩ := flatten_frames one
  obtain ⟨rest, allValid⟩ := flatten_frames two
  rw [bytes, rest] at begins
  exact commands_begin one two (frames_begin valid allValid begins)

variable (cobs) in
/-- The bytes that have been written, even a part of them, determine the commands. -/
theorem commands_determined (one : List.Forall₂ (Encodes cobs.toCodec) first chunks)
    (two : List.Forall₂ (Encodes cobs.toCodec) second others) :
    (chunks.flatten <+: others.flatten ↔ first <+: second) ∧ (chunks.flatten = others.flatten ↔ first = second) := by
  have bytes := (flatten_frames one).1
  have rest := (flatten_frames two).1
  refine ⟨⟨bytes_begin one two, ?_⟩, fun same => ?_, ?_⟩
  · rintro ⟨more, rfl⟩
    rw [bytes, rest, List.map_append, List.flatMap_append]
    exact List.prefix_append ..
  · have forward := bytes_begin one two ⟨[], (List.append_nil _).trans same⟩
    have backward := bytes_begin two one ⟨[], (List.append_nil _).trans same.symm⟩
    exact forward.eq_of_length_le backward.length_le
  · rintro rfl
    rw [bytes, rest]

theorem framed_encodes {cobs : Cobs.Codec} {command : Nat × Request} (valid : Valid (frameOf command))
    (payload : command.2.payload = .ok (frameOf command).payload) : Encodes cobs command (wire cobs (frameOf command)) := by
  simp only [Encodes, Session.wire, payload]
  exact encodeFrame_valid cobs valid

theorem commands_determined_flags : ∃ chunks others,
    List.Forall₂ (Encodes Cobs.standard) [(1, .ping), (2, .transmit [7] true)] chunks ∧
      List.Forall₂ (Encodes Cobs.standard) [(1, .ping), (2, .transmit [7] false), (3, .rxStop)] others ∧
      ¬ chunks.flatten <+: others.flatten := by
  have encodes (command : Nat × Request) (fits : (frameOf command).typeId ≤ 0xFF ∧ (frameOf command).tag ≤ 0xFFFF ∧
      (frameOf command).payload.length ≤ maxPayloadField) (payload : command.2.payload = .ok (frameOf command).payload) :
      Encodes Cobs.standard command (wire Cobs.standard (frameOf command)) :=
    framed_encodes ⟨fits.1, fits.2.1, fits.2.2⟩ payload
  have one : List.Forall₂ (Encodes Cobs.standard) [(1, .ping), (2, .transmit [7] true)] _ :=
    .cons (encodes _ (by decide) rfl) (.cons (encodes _ (by decide) rfl) .nil)
  have two : List.Forall₂ (Encodes Cobs.standard) [(1, .ping), (2, .transmit [7] false), (3, .rxStop)] _ :=
    .cons (encodes _ (by decide) rfl) (.cons (encodes _ (by decide) rfl) (.cons (encodes _ (by decide) rfl) .nil))
  have determined := commands_determined Cobs.standardCodec one two
  exact ⟨_, _, one, two, fun begins => absurd (determined.1.mp begins) (by decide)⟩

end DongloraClient.Proofs.CommandStream
