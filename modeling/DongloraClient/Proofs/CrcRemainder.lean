import DongloraClient.Crc
import DongloraClient.Foundation.BitPolynomial
import Mathlib.Tactic.LinearCombination

/-! The loop of `crc16` is long division: it leaves the remainder of the message, put
after the initial value, by the generator polynomial. -/

namespace DongloraClient.Proofs.CrcRemainder
open Wire BitPolynomial Polynomial

/-- The generator polynomial of CRC-16/CCITT. -/
noncomputable def ccitt : (ZMod 2)[X] := X ^ 16 + X ^ 12 + X ^ 5 + 1

theorem generator_ccitt : generator 15 0x1021 = ccitt := by
  have taps : 0x1021 = 2 ^ 12 ^^^ 2 ^ 5 ^^^ 2 ^ 0 := rfl
  rw [generator, taps, ofNat_xor, ofNat_xor, ofNat_two_pow, ofNat_two_pow, ofNat_two_pow, pow_zero, ccitt]
  ring

theorem crcShift_shift : crcShift = shift 15 0x1021 := funext crcShift_step

theorem crc16_absorb (data : Bytes) : crc16 data = (data.map UInt8.toNat).foldl (absorb 15 0x1021 8) 0xFFFF := by
  rw [List.foldl_map]
  refine congrArg (fun byte : ℕ → UInt8 → ℕ => data.foldl byte 0xFFFF) ?_
  funext crc byte
  rw [crcByte, crcShift_shift]
  rfl

theorem leNat_ofDigits (bytes : Bytes) : leNat bytes = Nat.ofDigits (2 ^ 8) (bytes.map UInt8.toNat) := by
  induction bytes with
  | nil => rfl
  | cons byte rest ih =>
    rw [leNat, ih, List.map_cons, Nat.ofDigits_cons]
    rfl

theorem crc16_mod (data : Bytes) :
    ofNat (crc16 data) = (ofNat 0xFFFF * X ^ (8 * data.length) + ofNat (beNat data) * X ^ 16) %ₘ ccitt := by
  have small : ∀ block ∈ data.map UInt8.toNat, block < 2 ^ 8 := by
    intro block member
    obtain ⟨byte, _, rfl⟩ := List.mem_map.mp member
    exact byte.toNat_lt
  have absorbed := ofNat_absorbed (by decide : 0x1021 < 2 ^ (15 + 1)) (by decide : 8 ≤ 15 + 1)
    (by decide : 0xFFFF < 2 ^ (15 + 1)) small
  rw [crc16_absorb, absorbed, generator_ccitt, List.length_map, beNat, leNat_ofDigits, List.map_reverse]

theorem xor_digits (first second : UInt8) (high high' : ℕ) :
    (first ^^^ second).toNat + 256 * (high ^^^ high') = (first.toNat + 256 * high) ^^^ (second.toNat + 256 * high') := by
  have digits (byte : UInt8) (high : ℕ) : byte.toNat + 256 * high = 2 ^ 8 * high + byte.toNat := Nat.add_comm _ _
  refine Nat.eq_of_testBit_eq fun place => ?_
  rw [digits, digits, digits, Nat.testBit_xor, Nat.testBit_two_pow_mul_add _ (UInt8.toNat_lt _),
    Nat.testBit_two_pow_mul_add _ (UInt8.toNat_lt _), Nat.testBit_two_pow_mul_add _ (UInt8.toNat_lt _), UInt8.toNat_xor]
  split <;> exact Nat.testBit_xor ..

theorem leNat_xor {first second : Bytes} (same : first.length = second.length) :
    leNat (List.zipWith (· ^^^ ·) first second) = leNat first ^^^ leNat second := by
  induction first generalizing second with
  | nil =>
    obtain rfl := List.eq_nil_of_length_eq_zero same.symm
    rfl
  | cons byte first ih =>
    cases second with
    | nil => cases same
    | cons byte' second => rw [List.zipWith_cons_cons, leNat, leNat, leNat, ih (Nat.succ.inj same), xor_digits]

theorem beNat_xor {first second : Bytes} (same : first.length = second.length) :
    beNat (List.zipWith (· ^^^ ·) first second) = beNat first ^^^ beNat second := by
  rw [beNat, List.reverse_zipWith same, leNat_xor (by simpa using same)]
  rfl

theorem beNat_zeros (size : ℕ) : beNat (List.replicate size 0) = 0 := by
  rw [beNat, List.reverse_replicate]
  induction size with
  | zero => rfl
  | succ size ih => rw [List.replicate_succ, leNat, ih, UInt8.toNat_zero]

/-- The CRC is the remainder; its initial value makes it affine rather than linear. -/
theorem crc16_remainder (data : Bytes) :
    crc16 data = toNat ((ofNat 0xFFFF * X ^ (8 * data.length) + ofNat (beNat data) * X ^ 16) %ₘ
      (X ^ 16 + X ^ 12 + X ^ 5 + 1)) ∧
    crc16 data < 2 ^ 16 ∧
    ∀ other, other.length = data.length → crc16 (List.zipWith (· ^^^ ·) data other) =
      crc16 data ^^^ crc16 other ^^^ crc16 (List.replicate data.length 0) := by
  refine ⟨?_, crc16_lt data, fun other same => ofNat_injective ?_⟩
  · rw [← ccitt, ← crc16_mod, toNat_ofNat]
  · rw [ofNat_xor, ofNat_xor, crc16_mod, crc16_mod, crc16_mod, crc16_mod, ← add_modByMonic, ← add_modByMonic,
      beNat_xor same.symm, ofNat_xor, beNat_zeros, ofNat_zero, List.length_zipWith, List.length_replicate, same, min_self]
    refine congrArg (· %ₘ ccitt) ?_
    -- The initial value occurs three times on the right.
    have twice := CharTwo.add_self_eq_zero (ofNat 0xFFFF * X ^ (8 * data.length))
    linear_combination -twice

/-- A `PING` and the reply to it. -/
theorem crc16_remainder_ping : crc16 (List.zipWith (· ^^^ ·) [0x01, 1, 0] [0x80, 1, 0]) =
    crc16 [0x01, 1, 0] ^^^ crc16 [0x80, 1, 0] ^^^ crc16 (List.replicate 3 0) :=
  (crc16_remainder [0x01, 1, 0]).2.2 [0x80, 1, 0] rfl

end DongloraClient.Proofs.CrcRemainder
