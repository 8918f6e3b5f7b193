import DongloraClient.Foundation.Wire
import Mathlib.Algebra.Field.ZMod
import Mathlib.Algebra.Module.ZMod
import Mathlib.Algebra.BigOperators.Fin
import Mathlib.Algebra.BigOperators.Intervals
import Mathlib.Algebra.BigOperators.Ring.Finset
import Mathlib.Data.List.GetD
import Mathlib.Data.ZMod.Basic
import Mathlib.LinearAlgebra.Pi

/-! Feedback shift registers as error-detecting codes. A flipped bit adds to the
register what its place in the stream has become of the unit by the end; a set of
flipped bits goes unnoticed when these contributions add up to nothing. -/

namespace Feedback
open Finset

section Syndrome
variable {V : Type*} [AddCommGroup V] [Module (ZMod 2) V] (shift : Module.End (ZMod 2) V) (unit : V)

/-- What flipped bits leave in the register, each named by the number of shifts after it. -/
def syndrome (flips : Finset ℕ) : V := ∑ place ∈ flips, (shift ^ place) unit

variable {shift unit} {flips : Finset ℕ}

/-- A shift that keeps a parity keeps it odd for an odd number of flips. -/
theorem syndrome_odd (parity : V →ₗ[ZMod 2] ZMod 2) (kept : ∀ value, parity (shift value) = parity value)
    (one : parity unit = 1) (odd : Odd flips.card) : syndrome shift unit flips ≠ 0 := by
  have power (place : ℕ) : parity ((shift ^ place) unit) = 1 := by
    induction place with
    | zero => exact one
    | succ place ih => rw [pow_succ', Module.End.mul_apply, kept, ih]
  intro zero
  have count : parity (syndrome shift unit flips) = flips.card := by simp [syndrome, power]
  rw [zero, map_zero, odd.natCast_zmod_two] at count
  exact zero_ne_one count

/-- Two flips cancel only at a distance after which the unit returns. -/
theorem syndrome_pair (injective : Function.Injective shift) {length : ℕ}
    (fresh : ∀ distance, 0 < distance → distance < length → (shift ^ distance) unit ≠ unit)
    (pair : flips.card = 2) (inside : flips ⊆ range length) : syndrome shift unit flips ≠ 0 := by
  obtain ⟨first, second, different, rfl⟩ := card_eq_two.mp pair
  wlog ordered : first < second generalizing first second
  · rw [pair_comm]
    exact this second first different.symm (by rwa [pair_comm]) (by rwa [pair_comm]) (by omega)
  intro zero
  have last : second < length := mem_range.mp (inside (by simp))
  have same : (shift ^ first) ((shift ^ (second - first)) unit) = (shift ^ first) unit := by
    rw [syndrome, sum_pair different, add_eq_zero_iff_eq_neg, ZModModule.neg_eq_self] at zero
    rw [← Module.End.mul_apply, ← pow_add, Nat.add_sub_cancel' ordered.le, zero]
  have returned := (Module.End.iterate_injective injective first) same
  exact fresh (second - first) (by omega) (by omega) returned

/-- A burst is the shift of a pattern that fits the register. -/
theorem syndrome_burst (injective : Function.Injective shift) {width : ℕ}
    (independent : ∀ pattern ⊆ range width, pattern.Nonempty → syndrome shift unit pattern ≠ 0)
    {start : ℕ} (burst : flips ⊆ Ico start (start + width)) (nonempty : flips.Nonempty) :
    syndrome shift unit flips ≠ 0 := by
  have distinct : Set.InjOn (· - start) (flips : Set ℕ) := by
    intro first member second member' same
    have low := (mem_Ico.mp (burst member)).1
    have low' := (mem_Ico.mp (burst member')).1
    simp only at same
    omega
  have shifted : syndrome shift unit flips = (shift ^ start) (syndrome shift unit (flips.image (· - start))) := by
    rw [syndrome, syndrome, sum_image distinct, map_sum]
    refine sum_congr rfl fun place member => ?_
    rw [← Module.End.mul_apply, ← pow_add, Nat.add_sub_cancel' (mem_Ico.mp (burst member)).1]
  have fits : flips.image (· - start) ⊆ range width := by
    intro place member
    obtain ⟨original, inside, rfl⟩ := mem_image.mp member
    have bounds := mem_Ico.mp (burst inside)
    simp only [mem_range]
    omega
  rw [shifted]
  intro zero
  exact independent _ fits (nonempty.image _) (Module.End.iterate_injective injective start (by rw [zero, map_zero]))

end Syndrome

section Register
variable {top : ℕ} (taps : Fin (top + 1) → ZMod 2)

/-- One shift of a register: each bit moves up, and the bit shifted out comes back at
the taps. -/
def feedback : Module.End (ZMod 2) (Fin (top + 1) → ZMod 2) where
  toFun value := Fin.cons 0 (fun place => value place.castSucc) + value (Fin.last top) • taps
  map_add' first second := by
    ext place
    cases place using Fin.cases
    · simp [add_mul]
    · simp [add_mul]
      ring
  map_smul' factor value := by
    ext place
    cases place using Fin.cases <;> simp [mul_assoc, mul_add]

/-- The lowest bit set. -/
def one : Fin (top + 1) → ZMod 2 := Pi.single 0 1

@[simp] theorem feedback_zero (value : Fin (top + 1) → ZMod 2) :
    feedback taps value 0 = value (Fin.last top) * taps 0 := by
  simp [feedback]

@[simp] theorem feedback_succ (value : Fin (top + 1) → ZMod 2) (place : Fin top) :
    feedback taps value place.succ = value place.castSucc + value (Fin.last top) * taps place.succ := by
  simp [feedback]

/-- With a tap at the bottom nothing is lost. -/
theorem feedback_injective (bottom : taps 0 = 1) : Function.Injective (feedback taps) := by
  refine (injective_iff_map_eq_zero _).mpr fun value zero => ?_
  have out : value (Fin.last top) = 0 := by simpa [bottom] using congrFun zero 0
  ext place
  cases place using Fin.lastCases with
  | last => exact out
  | cast place => simpa [out] using congrFun zero place.succ

theorem feedback_parity (odd : ∑ place, taps place = 1) (value : Fin (top + 1) → ZMod 2) :
    ∑ place, feedback taps value place = ∑ place, value place := by
  have tapped : value (Fin.last top) * taps 0 + ∑ place : Fin top, value (Fin.last top) * taps place.succ =
      value (Fin.last top) := by
    rw [← mul_sum, ← mul_add, ← Fin.sum_univ_succ, odd, mul_one]
  calc
    ∑ place, feedback taps value place
      = (value (Fin.last top) * taps 0 + ∑ place : Fin top, value (Fin.last top) * taps place.succ)
          + ∑ place : Fin top, value place.castSucc := by
        simp only [Fin.sum_univ_succ, feedback_zero, feedback_succ, sum_add_distrib]
        ring
    _ = ∑ place, value place := by rw [tapped, Fin.sum_univ_castSucc, add_comm]

/-- The unit moves up once a shift until it reaches the top. -/
theorem feedback_pow_one {place : ℕ} (inside : place < top + 1) :
    (feedback taps ^ place) one = Pi.single ⟨place, inside⟩ 1 := by
  induction place with
  | zero => rfl
  | succ place ih =>
    rw [pow_succ', Module.End.mul_apply, ih (by omega)]
    have below : (⟨place, by omega⟩ : Fin (top + 1)) ≠ Fin.last top := by
      simp only [ne_eq, Fin.ext_iff, Fin.val_last]
      omega
    ext other
    cases other using Fin.cases with
    | zero => simp [below.symm, Fin.ext_iff]
    | succ other => simp [Pi.single_apply, below.symm, Fin.ext_iff]

theorem feedback_expand (value : Fin (top + 1) → ZMod 2) :
    value = ∑ place : Fin (top + 1), value place • (feedback taps ^ place.val) one := by
  ext place
  have power (other : Fin (top + 1)) : (feedback taps ^ other.val) one = Pi.single other 1 :=
    feedback_pow_one taps other.isLt
  simp [power, Finset.sum_apply, Pi.single_apply]

theorem feedback_independent {pattern : Finset ℕ} (fits : pattern ⊆ range (top + 1)) (nonempty : pattern.Nonempty) :
    syndrome (feedback taps) one pattern ≠ 0 := by
  obtain ⟨place, member⟩ := nonempty
  have inside (other : ℕ) (within : other ∈ pattern) : other < top + 1 := mem_range.mp (fits within)
  have bit : syndrome (feedback taps) one pattern ⟨place, inside place member⟩ = 1 := by
    rw [syndrome, Finset.sum_apply, sum_eq_single_of_mem place member]
    · rw [feedback_pow_one taps (inside place member), Pi.single_eq_same]
    · intro other within different
      rw [feedback_pow_one taps (inside other within), Pi.single_apply, if_neg]
      simpa [Fin.ext_iff] using different.symm
  intro zero
  rw [zero] at bit
  exact zero_ne_one bit

end Register

section Streams
open Wire

/-- A bit of a byte string, the most significant of each byte first. -/
def bitAt (bytes : Bytes) (position : ℕ) : Bool := (bytes.getD (position / 8) 0).toNat.testBit (7 - position % 8)

/-- The bits in which a string differs from another of its length. -/
def flips (sent received : Bytes) : Finset ℕ :=
  (range (8 * sent.length)).filter fun position => bitAt sent position ≠ bitAt received position

variable {V : Type*} [AddCommMonoid V] (weight : ℕ → V)

theorem sum_flips_append {sent received : Bytes} (same : sent.length = received.length) (sent' received' : Bytes) :
    ∑ position ∈ flips (sent ++ sent') (received ++ received'), weight position =
      ∑ position ∈ flips sent received, weight position +
        ∑ position ∈ flips sent' received', weight (8 * sent.length + position) := by
  have early {bytes : Bytes} (rest : Bytes) {position : ℕ} (inside : position < 8 * bytes.length) :
      bitAt (bytes ++ rest) position = bitAt bytes position := by
    rw [bitAt, bitAt, List.getD_append _ _ _ _ (by omega)]
  have late (bytes rest : Bytes) (position : ℕ) :
      bitAt (bytes ++ rest) (8 * bytes.length + position) = bitAt rest position := by
    have place : (8 * bytes.length + position) / 8 = bytes.length + position / 8 := by omega
    have within : (8 * bytes.length + position) % 8 = position % 8 := by omega
    rw [bitAt, bitAt, place, within, List.getD_append_right _ _ _ _ (by omega), Nat.add_sub_cancel_left]
  simp only [flips, sum_filter, List.length_append, mul_add, sum_range_add]
  congr 1
  · refine sum_congr rfl fun position member => ?_
    have inside := mem_range.mp member
    rw [early sent' inside, early received' (same ▸ inside)]
  · refine sum_congr rfl fun position _ => ?_
    have moved := late received received' position
    rw [← same] at moved
    rw [late, moved]

theorem sum_flips_byte (sent received : UInt8) : ∑ position ∈ flips [sent] [received], weight position =
    ∑ place ∈ range 8, if sent.toNat.testBit place ≠ received.toNat.testBit place then weight (7 - place) else 0 := by
  rw [flips, sum_filter, ← sum_range_reflect]
  refine sum_congr rfl fun place member => ?_
  have inside : place < 8 := mem_range.mp member
  have index : (8 - 1 - place) / 8 = 0 := by omega
  have within : 7 - (8 - 1 - place) % 8 = place := by omega
  simp [bitAt, index, within]

end Streams

end Feedback
