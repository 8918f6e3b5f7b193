import DongloraClient.Foundation.Feedback
import DongloraClient.Proofs.FrameCodec
import Mathlib.Data.Nat.Bitwise

/-! What the trailer of a frame protects against. The loop of `crc16` is a feedback
shift register, so that the CRC of two bodies differs by the syndrome of the bits in
which they differ. -/

namespace DongloraClient.Proofs.CrcDetection
open Wire Feedback FrameCodec Finset

abbrev Register : Type := Fin 16 → ZMod 2

def register (number : Nat) : Register := fun place => if number.testBit place then 1 else 0

def taps : Register := register 0x1021

theorem register_xor (first second : Nat) : register (first ^^^ second) = register first + register second := by
  ext place
  simp only [register, Nat.testBit_xor, Pi.add_apply]
  cases first.testBit place <;> cases second.testBit place <;> decide

theorem register_mod (number : Nat) : register (number % 2 ^ 16) = register number := by
  ext place
  simp only [register, Nat.testBit_mod_two_pow, place.isLt, decide_true, Bool.true_and]

theorem register_inj {first second : Nat} (small : first < 2 ^ 16) (small' : second < 2 ^ 16)
    (same : register first = register second) : first = second := by
  refine Nat.eq_of_testBit_eq fun place => ?_
  by_cases inside : place < 16
  · have bit := congrFun same ⟨place, inside⟩
    simp only [register] at bit
    cases left : first.testBit place <;> cases right : second.testBit place <;> simp_all
  · have high : 2 ^ 16 ≤ 2 ^ place := Nat.pow_le_pow_right (by decide) (by omega)
    rw [Nat.testBit_lt_two_pow (small.trans_le high), Nat.testBit_lt_two_pow (small'.trans_le high)]

theorem register_shift (crc : Nat) : register (crcShift crc) = feedback taps (register crc) := by
  have back : register (if crc.testBit 15 then 0x1021 else 0) = register crc (Fin.last 15) • taps := by
    have last : register crc (Fin.last 15) = if crc.testBit 15 then 1 else 0 := rfl
    have empty : register 0 = 0 := by
      ext place
      simp [register]
    rw [last]
    cases crc.testBit 15
    · simp [empty]
    · simp [taps]
  rw [crcShift_step, register_mod, register_xor, back]
  ext place
  cases place using Fin.cases with
  | zero =>
    have bit : register (crc <<< 1) 0 = 0 := by simp [register]
    rw [Pi.add_apply, bit, zero_add, feedback_zero, Pi.smul_apply, smul_eq_mul]
  | succ place =>
    have bit : register (crc <<< 1) place.succ = register crc place.castSucc := by simp [register]
    rw [Pi.add_apply, bit, feedback_succ, Pi.smul_apply, smul_eq_mul]

theorem register_shifts (count crc : Nat) : register (crcShift^[count] crc) = (feedback taps ^ count) (register crc) := by
  induction count with
  | zero => rfl
  | succ count ih => rw [Function.iterate_succ_apply', register_shift, ih, pow_succ', Module.End.mul_apply]

/-- A byte in the upper half of the register is the byte after eight shifts. -/
theorem register_byte {byte : Nat} (small : byte < 2 ^ 8) :
    register (byte <<< 8) = (feedback taps ^ 8) (register byte) := by
  have moved (count : Nat) (few : count ≤ 8) : crcShift^[count] byte = byte <<< count := by
    induction count with
    | zero => rfl
    | succ count ih =>
      have low : byte <<< count < 2 ^ 15 := by
        rw [Nat.shiftLeft_eq]
        calc
          byte * 2 ^ count < 2 ^ 8 * 2 ^ count := Nat.mul_lt_mul_of_pos_right small (Nat.two_pow_pos count)
          _ = 2 ^ (8 + count) := (Nat.pow_add 2 8 count).symm
          _ ≤ 2 ^ 15 := Nat.pow_le_pow_right (by decide) (by omega)
      rw [Function.iterate_succ_apply', ih (by omega), crcShift_step, Nat.testBit_lt_two_pow low,
        ← Nat.shiftLeft_add]
      have kept : byte <<< (count + 1) < 2 ^ 16 := by
        rw [Nat.shiftLeft_succ]
        omega
      simpa using kept
  rw [← moved 8 (Nat.le_refl 8), register_shifts]

theorem register_crcByte (crc : Nat) (byte : UInt8) : register (crcByte crc byte) =
    (feedback taps ^ 8) (register crc) + (feedback taps ^ 16) (register byte.toNat) := by
  rw [crcByte, register_shifts, register_xor, map_add, register_byte byte.toNat_lt, ← Module.End.mul_apply, ← pow_add]

theorem register_difference (first second : Nat) : register first + register second =
    ∑ place ∈ range 16, if first.testBit place ≠ second.testBit place then (feedback taps ^ place) one else 0 := by
  rw [feedback_expand taps (register first + register second), ← Fin.sum_univ_eq_sum_range]
  refine sum_congr rfl fun place _ => ?_
  simp only [register, Pi.add_apply]
  cases first.testBit place <;> cases second.testBit place <;> simp [ZModModule.add_self]

theorem register_difference_byte (first second : UInt8) : register first.toNat + register second.toNat =
    ∑ place ∈ range 8,
      if first.toNat.testBit place ≠ second.toNat.testBit place then (feedback taps ^ place) one else 0 := by
  rw [register_difference]
  refine (sum_subset (range_mono (by decide)) fun place _ outside => if_neg ?_).symm
  have high : 2 ^ 8 ≤ 2 ^ place := Nat.pow_le_pow_right (by decide) (by simpa using outside)
  rw [Nat.testBit_lt_two_pow (first.toNat_lt.trans_le high), Nat.testBit_lt_two_pow (second.toNat_lt.trans_le high)]
  simp

theorem shifted_difference_byte (count : Nat) (first second : UInt8) :
    (feedback taps ^ count) (register first.toNat + register second.toNat) = ∑ place ∈ range 8,
      if first.toNat.testBit place ≠ second.toNat.testBit place then (feedback taps ^ (count + place)) one else 0 := by
  rw [register_difference_byte, map_sum]
  refine sum_congr rfl fun place _ => ?_
  rw [apply_ite (feedback taps ^ count), map_zero, ← Module.End.mul_apply, ← pow_add]

/-- A flipped bit of a body is shifted once for each bit after it, and through the
whole register. -/
theorem crc16_difference {sent received : Bytes} (same : sent.length = received.length) :
    register (crc16 sent) + register (crc16 received) =
      ∑ position ∈ flips sent received, (feedback taps ^ (8 * sent.length + 15 - position)) one := by
  induction sent using List.reverseRecOn generalizing received with
  | nil =>
    obtain rfl := List.eq_nil_of_length_eq_zero same.symm
    exact ZModModule.add_self _
  | append_singleton sent byte ih =>
    obtain rfl | ⟨received, byte', rfl⟩ := List.eq_nil_or_concat' received
    · simp at same
    have same : sent.length = received.length := by simpa using same
    have snoc (data : Bytes) (byte : UInt8) : crc16 (data ++ [byte]) = crcByte (crc16 data) byte := by
      simp only [crc16, List.foldl_append, List.foldl_cons, List.foldl_nil]
    have earlier : (feedback taps ^ 8) (register (crc16 sent) + register (crc16 received)) =
        ∑ position ∈ flips sent received, (feedback taps ^ (8 * (sent ++ [byte]).length + 15 - position)) one := by
      rw [ih same, map_sum]
      refine sum_congr rfl fun position member => ?_
      have inside : position < 8 * sent.length := mem_range.mp (mem_filter.mp member).1
      have exponent : 8 * (sent ++ [byte]).length + 15 - position = 8 + (8 * sent.length + 15 - position) := by
        rw [List.length_append, List.length_singleton]
        omega
      rw [exponent, pow_add, Module.End.mul_apply]
    have last : (feedback taps ^ 16) (register byte.toNat + register byte'.toNat) = ∑ position ∈ flips [byte] [byte'],
        (feedback taps ^ (8 * (sent ++ [byte]).length + 15 - (8 * sent.length + position))) one := by
      rw [shifted_difference_byte, sum_flips_byte]
      refine sum_congr rfl fun place member => ?_
      have inside : place < 8 := mem_range.mp member
      have exponent : 8 * (sent ++ [byte]).length + 15 - (8 * sent.length + (7 - place)) = 16 + place := by
        rw [List.length_append, List.length_singleton]
        omega
      rw [exponent]
    rw [sum_flips_append _ same, ← earlier, ← last, snoc, snoc, register_crcByte, register_crcByte, map_add, map_add]
    abel

/-- The place of a bit of the trailer, whose low byte comes first. -/
def trailerPlace (position : Nat) : Nat := if position < 8 then 7 - position else 23 - position

theorem register_trailer (low high : UInt8) :
    register (leNat [low, high]) = register low.toNat + (feedback taps ^ 8) (register high.toNat) := by
  have split_bytes : leNat [low, high] = low.toNat ^^^ (high.toNat <<< 8) := by
    have sum : leNat [low, high] = 2 ^ 8 * high.toNat + low.toNat := by
      simp only [leNat]
      omega
    refine Nat.eq_of_testBit_eq fun place => ?_
    rw [sum, Nat.testBit_two_pow_mul_add _ low.toNat_lt, Nat.testBit_xor, Nat.testBit_shiftLeft]
    split
    next inside => simp [Nat.not_le.mpr inside]
    next outside =>
      have top : 2 ^ 8 ≤ 2 ^ place := Nat.pow_le_pow_right (by decide) (by omega)
      simp [Nat.testBit_lt_two_pow (low.toNat_lt.trans_le top), Nat.le_of_not_lt outside]
  rw [split_bytes, register_xor, register_byte high.toNat_lt]

theorem trailer_difference (low high low' high' : UInt8) :
    register (leNat [low, high]) + register (leNat [low', high']) =
      ∑ position ∈ flips [low, high] [low', high'], (feedback taps ^ trailerPlace position) one := by
  have first : register low.toNat + register low'.toNat =
      ∑ position ∈ flips [low] [low'], (feedback taps ^ trailerPlace position) one := by
    rw [register_difference_byte, sum_flips_byte]
    refine sum_congr rfl fun place member => ?_
    have inside : place < 8 := mem_range.mp member
    have exponent : trailerPlace (7 - place) = place := by
      rw [trailerPlace, if_pos (by omega)]
      omega
    rw [exponent]
  have second : (feedback taps ^ 8) (register high.toNat + register high'.toNat) =
      ∑ position ∈ flips [high] [high'], (feedback taps ^ trailerPlace (8 * [low].length + position)) one := by
    rw [shifted_difference_byte, sum_flips_byte]
    refine sum_congr rfl fun place member => ?_
    have inside : place < 8 := mem_range.mp member
    have exponent : trailerPlace (8 * [low].length + (7 - place)) = 8 + place := by
      rw [trailerPlace, List.length_singleton, if_neg (by omega)]
      omega
    rw [exponent]
  have same : [low].length = [low'].length := rfl
  have whole := sum_flips_append (fun position => (feedback taps ^ trailerPlace position) one) same [high] [high']
  rw [List.singleton_append, List.singleton_append, ← first, ← second, map_add] at whole
  rw [whole, register_trailer, register_trailer]
  abel

/-- How often a bit of a body of `size` bytes or of its trailer is shifted. -/
def place (size position : Nat) : Nat :=
  if position < 8 * size then 8 * size + 15 - position else trailerPlace (position - 8 * size)

theorem place_injOn (size : Nat) : Set.InjOn (place size) (range (8 * size + 16) : Set ℕ) := by
  intro first member second member' same
  simp only [coe_range, Set.mem_Iio] at member member'
  simp only [place, trailerPlace] at same
  split at same <;> split at same <;> (try split at same) <;> (try split at same) <;> omega

theorem place_lt {size position : Nat} (inside : position < 8 * size + 16) : place size position < 8 * size + 16 := by
  simp only [place, trailerPlace]
  split
  · omega
  · split <;> omega

def sealed (body : Bytes) : Bytes := body ++ leBytes 2 (crc16 body)

theorem unnoticed {body received : Bytes} (kept : received.length = (sealed body).length)
    (passed : ¬ Mismatch received) :
    syndrome (feedback taps) one ((flips (sealed body) received).image (place body.length)) = 0 := by
  have size : (sealed body).length = body.length + 2 := by simp [sealed]
  obtain ⟨front, back, rfl, same⟩ : ∃ front back, received = front ++ back ∧ body.length = front.length :=
    ⟨received.take body.length, received.drop body.length, (List.take_append_drop _ _).symm,
      (List.length_take_of_le (by omega)).symm⟩
  have rest : back.length = 2 := by
    rw [List.length_append] at kept
    omega
  obtain ⟨low', high', rfl⟩ := List.length_eq_two.mp rest
  obtain ⟨low, high, trailer⟩ := List.length_eq_two.mp (leBytes_length 2 (crc16 body))
  have crc : leNat [low, high] = crc16 body := by
    rw [← trailer, leNat_leBytes ((crc16_lt body).trans_eq (by norm_num))]
  have matched : crc16 front = leNat [low', high'] := by
    have cut : (front ++ [low', high']).length - 2 = front.length := by simp
    simpa [Mismatch, cut] using passed
  have distinct : Set.InjOn (place body.length) (flips (sealed body) (front ++ [low', high']) : Set ℕ) := by
    refine (place_injOn body.length).mono fun position member => ?_
    have inside := mem_range.mp (mem_filter.mp (mem_coe.mp member)).1
    simp only [coe_range, Set.mem_Iio]
    omega
  rw [syndrome, sum_image distinct, sealed, trailer, sum_flips_append _ same]
  have bodyPart : ∑ position ∈ flips body front, (feedback taps ^ place body.length position) one =
      register (crc16 body) + register (crc16 front) := by
    rw [crc16_difference same]
    refine sum_congr rfl fun position member => ?_
    rw [place, if_pos (mem_range.mp (mem_filter.mp member).1)]
  have trailerPart : ∑ position ∈ flips [low, high] [low', high'],
      (feedback taps ^ place body.length (8 * body.length + position)) one =
      register (leNat [low, high]) + register (leNat [low', high']) := by
    rw [trailer_difference]
    refine sum_congr rfl fun position _ => ?_
    rw [place, if_neg (by omega), Nat.add_sub_cancel_left]
  rw [bodyPart, trailerPart, crc, matched]
  exact ZModModule.add_self _

/-- The corruptions the trailer is meant to reveal, for a body of `size` bytes. -/
def Revealed (size : Nat) (flips : Finset ℕ) : Prop :=
  (flips.Nonempty ∧ flips.card ≤ 3) ∨ Odd flips.card ∨
    (flips.Nonempty ∧ flips ⊆ range (8 * size) ∧ ∃ start, flips ⊆ Ico start (start + 16)) ∨
    (flips.Nonempty ∧ flips ⊆ Ico (8 * size) (8 * size + 16))

/-- The unit does not come back within `count` shifts. -/
def fresh : Nat → Nat → Bool
  | 0, _ => true
  | count + 1, crc => crc ≠ 1 && fresh count (crcShift crc)

theorem fresh_sound {count crc : Nat} (holds : fresh count crc = true) {shifts : Nat} (few : shifts < count) :
    crcShift^[shifts] crc ≠ 1 := by
  induction count generalizing crc shifts with
  | zero => omega
  | succ count ih =>
    simp only [fresh, Bool.and_eq_true, decide_eq_true_eq] at holds
    cases shifts with
    | zero => exact holds.1
    | succ shifts => exact ih holds.2 (by omega)

/-- The generator has no multiple of two terms that fits a frame of full size. -/
theorem power_ne_one {shifts : Nat} (positive : 0 < shifts) (few : shifts < 2240) :
    (feedback taps ^ shifts) one ≠ one := by
  have unit : register 1 = one := by
    ext place
    cases place using Fin.cases with
    | zero => simp [register, one]
    | succ place => simp [register, one, Nat.testBit_succ]
  have orbit : fresh 2239 (crcShift 1) = true := by decide +kernel
  obtain ⟨shifts, rfl⟩ := Nat.exists_eq_succ_of_ne_zero positive.ne'
  have differs := fresh_sound orbit (by omega : shifts < 2239)
  rw [← Function.iterate_succ_apply] at differs
  rw [← unit, ← register_shifts]
  intro same
  refine differs (register_inj ?_ (by decide) same)
  rw [Function.iterate_succ_apply']
  exact crcShift_lt _

def parity : Register →ₗ[ZMod 2] ZMod 2 := ∑ place, LinearMap.proj place

theorem parity_eq (value : Register) : parity value = ∑ place, value place := by simp [parity]

theorem revealed_syndrome {size : Nat} {flips : Finset ℕ} (small : size ≤ 278) (inside : flips ⊆ range (8 * size + 16))
    (revealed : Revealed size flips) : syndrome (feedback taps) one (flips.image (place size)) ≠ 0 := by
  have bottom : taps 0 = 1 := by decide
  have injective : Function.Injective (feedback taps) := feedback_injective taps bottom
  have distinct : Set.InjOn (place size) (flips : Set ℕ) := (place_injOn size).mono (coe_subset.mpr inside)
  have count : (flips.image (place size)).card = flips.card := card_image_of_injOn distinct
  have odd (odd : Odd flips.card) : syndrome (feedback taps) one (flips.image (place size)) ≠ 0 := by
    refine syndrome_odd parity (fun value => ?_) ?_ (count ▸ odd)
    · rw [parity_eq, parity_eq, feedback_parity taps (by decide)]
    · simp [parity_eq, one]
  have within (start : ℕ) (burst : flips.image (place size) ⊆ Ico start (start + 16)) (nonempty : flips.Nonempty) :
      syndrome (feedback taps) one (flips.image (place size)) ≠ 0 :=
    syndrome_burst injective (fun _ fits some => feedback_independent taps fits some) burst (nonempty.image _)
  rcases revealed with ⟨nonempty, few⟩ | many | ⟨nonempty, body, start, burst⟩ | ⟨nonempty, trailer⟩
  · have some : 0 < flips.card := nonempty.card_pos
    by_cases two : flips.card = 2
    · refine syndrome_pair injective (fun distance positive short => power_ne_one positive short) (count ▸ two) ?_
      intro shifts member
      obtain ⟨position, own, rfl⟩ := mem_image.mp member
      have bound := place_lt (mem_range.mp (inside own))
      simp only [mem_range]
      omega
    · refine odd (Nat.odd_iff.mpr ?_)
      omega
  · exact odd many
  · refine within (8 * size - start) ?_ nonempty
    intro shifts member
    obtain ⟨position, own, rfl⟩ := mem_image.mp member
    have low := mem_range.mp (body own)
    have bounds := mem_Ico.mp (burst own)
    simp only [place, if_pos low, mem_Ico]
    omega
  · refine within 0 ?_ nonempty
    intro shifts member
    obtain ⟨position, own, rfl⟩ := mem_image.mp member
    have bounds := mem_Ico.mp (trailer own)
    simp only [place, if_neg (Nat.not_lt.mpr bounds.1), trailerPlace, mem_Ico]
    split <;> omega

/-- A corruption of one of these kinds fails the CRC check, so that `decode_frame`
never takes the frame for another. -/
theorem corruption_revealed (cobs : Cobs.Codec) (body received : Bytes)
    (size : 3 ≤ body.length ∧ body.length ≤ 278) (kept : received.length = (sealed body).length)
    (revealed : Revealed body.length (flips (sealed body) received)) :
    Mismatch received ∧ ∃ text, decodeFrame cobs (cobs.encode received) = .error (.crc text) := by
  have length : (sealed body).length = body.length + 2 := by simp [sealed]
  have mismatch : Mismatch received := by
    by_contra passed
    refine revealed_syndrome size.2 ?_ revealed (unnoticed kept passed)
    intro position member
    have inside := mem_range.mp (mem_filter.mp member).1
    simp only [mem_range]
    omega
  exact ⟨mismatch, (decodeFrame_crc cobs).mpr ⟨received, cobs.decode_encode received, by omega, mismatch⟩⟩

/-- A `PING` with three bits flipped, two of them in its trailer. -/
theorem corruption_revealed_ping :
    Mismatch [1, 0, 16, 173, 123] ∧
      ∃ text, decodeFrame Cobs.standard (Cobs.standard.encode [1, 0, 16, 173, 123]) = .error (.crc text) :=
  corruption_revealed Cobs.standard [1, 0, 0] [1, 0, 16, 173, 123] (by decide) (by decide +kernel)
    (Or.inl (by decide +kernel))

end DongloraClient.Proofs.CrcDetection
