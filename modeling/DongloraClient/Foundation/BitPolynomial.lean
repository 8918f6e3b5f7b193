import Mathlib.Algebra.Field.ZMod
import Mathlib.Algebra.Polynomial.Div
import Mathlib.Combinatorics.Colex
import Mathlib.Data.Nat.Bitwise
import Mathlib.Data.Nat.Digits.Defs
import Mathlib.Logic.Function.Iterate

/-! Numbers as polynomials over the field of two elements, and shift registers that
divide by such a polynomial. -/

namespace BitPolynomial
open Polynomial

/-- The polynomial whose coefficients are the bits of a number. -/
noncomputable def ofNat (number : ℕ) : (ZMod 2)[X] := ∑ place ∈ number.bitIndices.toFinset, X ^ place

/-- The number whose bits are the coefficients of a polynomial. -/
noncomputable def toNat (polynomial : (ZMod 2)[X]) : ℕ := ∑ place ∈ polynomial.support, 2 ^ place

theorem coeff_ofNat (number place : ℕ) : (ofNat number).coeff place = if number.testBit place then 1 else 0 := by
  simp [ofNat, coeff_X_pow]

theorem toNat_ofNat (number : ℕ) : toNat (ofNat number) = number := by
  have bits : (ofNat number).support = number.bitIndices.toFinset := by
    ext place
    simp [coeff_ofNat]
  rw [toNat, bits, Finset.sum_toFinset_bitIndices_two_pow]

theorem ofNat_injective : Function.Injective ofNat := Function.LeftInverse.injective toNat_ofNat

@[simp] theorem ofNat_zero : ofNat 0 = 0 := by simp [ofNat]

theorem ofNat_xor (first second : ℕ) : ofNat (first ^^^ second) = ofNat first + ofNat second := by
  ext place
  rw [coeff_add, coeff_ofNat, coeff_ofNat, coeff_ofNat, Nat.testBit_xor]
  cases first.testBit place <;> cases second.testBit place <;> decide

theorem ofNat_two_pow (place : ℕ) : ofNat (2 ^ place) = X ^ place := by simp [ofNat]

theorem ofNat_shiftLeft (number count : ℕ) : ofNat (number <<< count) = ofNat number * X ^ count := by
  ext place
  rw [coeff_mul_X_pow', coeff_ofNat, Nat.testBit_shiftLeft, coeff_ofNat]
  by_cases reached : count ≤ place <;> simp [reached]

/-- A block put below a number. -/
theorem ofNat_two_pow_mul_add (number : ℕ) {count block : ℕ} (small : block < 2 ^ count) :
    ofNat (2 ^ count * number + block) = ofNat number * X ^ count + ofNat block := by
  ext place
  rw [coeff_add, coeff_mul_X_pow', coeff_ofNat, coeff_ofNat, coeff_ofNat, Nat.testBit_two_pow_mul_add _ small]
  by_cases inside : place < count
  · simp [inside, Nat.not_le.mpr inside]
  · have high : 2 ^ count ≤ 2 ^ place := Nat.pow_le_pow_right (by decide) (Nat.le_of_not_lt inside)
    simp [inside, Nat.le_of_not_lt inside, Nat.testBit_lt_two_pow (small.trans_le high)]

/-- A number with its highest bit taken off. -/
theorem ofNat_mod {number width : ℕ} (fits : number < 2 ^ (width + 1)) :
    ofNat (number % 2 ^ width) = ofNat number + if number.testBit width then X ^ width else 0 := by
  have quotient : number / 2 ^ width < 2 := Nat.div_lt_of_lt_mul (by rwa [Nat.pow_succ] at fits)
  have top : number / 2 ^ width = (number.testBit width).toNat := by
    rw [Nat.toNat_testBit, Nat.mod_eq_of_lt quotient]
  have split_off := ofNat_two_pow_mul_add (number / 2 ^ width) (Nat.mod_lt number (Nat.two_pow_pos width))
  rw [Nat.div_add_mod, top] at split_off
  rw [split_off]
  cases number.testBit width
  · simp
  · have one : ofNat 1 = 1 := ofNat_two_pow 0
    simp only [Bool.toNat_true, one, one_mul, if_true]
    rw [add_right_comm, CharTwo.add_self_eq_zero, zero_add]

theorem degree_ofNat_lt {number width : ℕ} (small : number < 2 ^ width) : (ofNat number).degree < width := by
  refine (degree_lt_iff_coeff_zero _ _).mpr fun place beyond => ?_
  have high : 2 ^ width ≤ 2 ^ place := Nat.pow_le_pow_right (by decide) beyond
  rw [coeff_ofNat, Nat.testBit_lt_two_pow (small.trans_le high)]
  rfl

/-- A remainder may be taken early. -/
theorem mod_mul_add {modulus : (ZMod 2)[X]} (monic : modulus.Monic) (whole factor rest : (ZMod 2)[X]) :
    (whole %ₘ modulus * factor + rest) %ₘ modulus = (whole * factor + rest) %ₘ modulus := by
  apply modByMonic_eq_of_dvd_sub monic
  rw [add_sub_add_right_eq_sub, ← sub_mul]
  exact (dvd_modByMonic_sub _ _).mul_right factor

section Register
variable (top taps : ℕ)

/-- One shift of a register of `top + 1` bits: the bit shifted out comes back at the taps. -/
def shift (register : ℕ) : ℕ := ((register <<< 1) ^^^ (if register.testBit top then taps else 0)) % 2 ^ (top + 1)

/-- The polynomial that the register divides by. -/
noncomputable def generator : (ZMod 2)[X] := X ^ (top + 1) + ofNat taps

variable {top taps}

theorem shift_lt (register : ℕ) : shift top taps register < 2 ^ (top + 1) := Nat.mod_lt _ (Nat.two_pow_pos _)

theorem shifts_lt {register : ℕ} (fits : register < 2 ^ (top + 1)) (count : ℕ) :
    (shift top taps)^[count] register < 2 ^ (top + 1) := by
  cases count with
  | zero => exact fits
  | succ count =>
    rw [Function.iterate_succ_apply']
    exact shift_lt _

theorem generator_monic (small : taps < 2 ^ (top + 1)) : (generator top taps).Monic := by
  apply (monic_X_pow _).add_of_left
  simpa using degree_ofNat_lt small

theorem generator_degree (small : taps < 2 ^ (top + 1)) : (generator top taps).degree = (top + 1 : ℕ) := by
  rw [generator, degree_add_eq_left_of_degree_lt (by simpa using degree_ofNat_lt small), degree_X_pow]

/-- A shift adds the generator when the multiple of the unknown would not fit. -/
theorem ofNat_shift {register : ℕ} (small : taps < 2 ^ (top + 1)) (fits : register < 2 ^ (top + 1)) :
    ofNat (shift top taps register) = ofNat register * X + if register.testBit top then generator top taps else 0 := by
  have moved : register <<< 1 < 2 ^ (top + 1 + 1) := by
    rw [Nat.shiftLeft_eq, Nat.pow_succ 2 (top + 1)]
    exact Nat.mul_lt_mul_of_pos_right fits (by decide)
  have back : (if register.testBit top then taps else 0) < 2 ^ (top + 1) := by
    split
    · exact small
    · exact Nat.two_pow_pos _
  have whole := Nat.xor_lt_two_pow moved (back.trans (Nat.pow_lt_pow_right (by decide) (Nat.lt_succ_self _)))
  have out : ((register <<< 1) ^^^ (if register.testBit top then taps else 0)).testBit (top + 1) = register.testBit top := by
    rw [Nat.testBit_xor, Nat.testBit_lt_two_pow back, Nat.testBit_shiftLeft]
    simp
  rw [shift, ofNat_mod whole, out, ofNat_xor, ofNat_shiftLeft, pow_one]
  cases register.testBit top
  · simp
  · simp only [if_true, generator]
    ring

/-- Shifting a register multiplies it by the unknown, modulo the generator. -/
theorem ofNat_shift_mod {register : ℕ} (small : taps < 2 ^ (top + 1)) (fits : register < 2 ^ (top + 1)) :
    ofNat (shift top taps register) = (ofNat register * X) %ₘ generator top taps := by
  have reduced : ofNat (shift top taps register) %ₘ generator top taps = ofNat (shift top taps register) := by
    rw [modByMonic_eq_self_iff (generator_monic small), generator_degree small]
    exact degree_ofNat_lt (shift_lt register)
  rw [← reduced]
  apply modByMonic_eq_of_dvd_sub (generator_monic small)
  rw [ofNat_shift small fits, add_sub_cancel_left]
  split
  · exact dvd_refl _
  · exact dvd_zero _

theorem ofNat_shifts {register : ℕ} (small : taps < 2 ^ (top + 1)) (fits : register < 2 ^ (top + 1)) (count : ℕ) :
    ofNat ((shift top taps)^[count] register) = (ofNat register * X ^ count) %ₘ generator top taps := by
  induction count with
  | zero =>
    rw [Function.iterate_zero_apply, pow_zero, mul_one, eq_comm, modByMonic_eq_self_iff (generator_monic small),
      generator_degree small]
    exact degree_ofNat_lt fits
  | succ count ih =>
    rw [Function.iterate_succ_apply', ofNat_shift_mod small (shifts_lt fits count), ih, pow_succ, ← mul_assoc]
    simpa using mod_mul_add (generator_monic small) (ofNat register * X ^ count) X 0

/-- A block enters at the top of the register, which is then shifted by its length. -/
def absorb (top taps count register block : ℕ) : ℕ :=
  (shift top taps)^[count] (register ^^^ (block <<< (top + 1 - count)))

theorem entered_lt {count register block : ℕ} (room : count ≤ top + 1) (fits : register < 2 ^ (top + 1))
    (short : block < 2 ^ count) : register ^^^ (block <<< (top + 1 - count)) < 2 ^ (top + 1) := by
  apply Nat.xor_lt_two_pow fits
  calc
    block <<< (top + 1 - count) = block * 2 ^ (top + 1 - count) := Nat.shiftLeft_eq _ _
    _ < 2 ^ count * 2 ^ (top + 1 - count) := Nat.mul_lt_mul_of_pos_right short (Nat.two_pow_pos _)
    _ = 2 ^ (top + 1) := by rw [← pow_add, Nat.add_sub_cancel' room]

theorem ofNat_absorb {count register block : ℕ} (small : taps < 2 ^ (top + 1)) (room : count ≤ top + 1)
    (fits : register < 2 ^ (top + 1)) (short : block < 2 ^ count) :
    ofNat (absorb top taps count register block) =
      (ofNat register * X ^ count + ofNat block * X ^ (top + 1)) %ₘ generator top taps := by
  rw [absorb, ofNat_shifts small (entered_lt room fits short), ofNat_xor, ofNat_shiftLeft, add_mul, mul_assoc, ← pow_add,
    Nat.sub_add_cancel room]

theorem absorbed_lt {count register : ℕ} (room : count ≤ top + 1) (fits : register < 2 ^ (top + 1)) {blocks : List ℕ}
    (short : ∀ block ∈ blocks, block < 2 ^ count) : blocks.foldl (absorb top taps count) register < 2 ^ (top + 1) := by
  induction blocks generalizing register with
  | nil => exact fits
  | cons block blocks ih =>
    have entered := entered_lt room fits (short block List.mem_cons_self)
    exact ih (shifts_lt entered count) fun block member => short block (List.mem_cons_of_mem _ member)

/-- A register that absorbs blocks holds the remainder of the number they make up,
put after what the register started with. -/
theorem ofNat_absorbed {count register : ℕ} (small : taps < 2 ^ (top + 1)) (room : count ≤ top + 1)
    (fits : register < 2 ^ (top + 1)) {blocks : List ℕ} (short : ∀ block ∈ blocks, block < 2 ^ count) :
    ofNat (blocks.foldl (absorb top taps count) register) =
      (ofNat register * X ^ (count * blocks.length) + ofNat (Nat.ofDigits (2 ^ count) blocks.reverse) * X ^ (top + 1))
        %ₘ generator top taps := by
  induction blocks using List.reverseRecOn with
  | nil => simpa using ofNat_shifts small fits 0
  | append_singleton blocks block ih =>
    have earlier : ∀ block ∈ blocks, block < 2 ^ count := fun block member => short block (List.mem_append_left _ member)
    have last : block < 2 ^ count := short block (by simp)
    rw [List.foldl_append, List.foldl_cons, List.foldl_nil, ofNat_absorb small room (absorbed_lt room fits earlier) last,
      ih earlier, List.reverse_append, List.reverse_singleton, List.singleton_append, Nat.ofDigits_cons, Nat.add_comm block,
      ofNat_two_pow_mul_add _ last, List.length_append, List.length_singleton]
    rw [mod_mul_add (generator_monic small)]
    refine congrArg (· %ₘ generator top taps) ?_
    ring

end Register

end BitPolynomial
