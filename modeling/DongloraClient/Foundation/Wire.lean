import Mathlib.Data.List.Basic
import Mathlib.Tactic.Positivity
import Mathlib.Tactic.Ring

/-! Fixed-width little-endian integers over byte strings. -/

namespace Wire

abbrev Bytes := List UInt8

/-- The `width` low bytes of a number, least significant first. -/
def leBytes : Nat → Nat → Bytes
  | 0, _ => []
  | width + 1, number => UInt8.ofNat (number % 256) :: leBytes width (number / 256)

def leNat : Bytes → Nat
  | [] => 0
  | byte :: rest => byte.toNat + 256 * leNat rest

/-- The same with the most significant byte first. -/
def beNat (bytes : Bytes) : Nat := leNat bytes.reverse

/-- Two's complement reading of an unsigned number of the given width. -/
def toSigned (width number : Nat) : Int :=
  if 2 * number < 256 ^ width then number else number - 256 ^ width

def ofSigned (width : Nat) (number : Int) : Nat := (number % 256 ^ width).toNat

def FitsUnsigned (width : Nat) (number : Int) : Prop := 0 ≤ number ∧ number < 256 ^ width

def FitsSigned (width : Nat) (number : Int) : Prop := -(256 ^ width) ≤ 2 * number ∧ 2 * number < 256 ^ width

instance (width : Nat) (number : Int) : Decidable (FitsUnsigned width number) :=
  inferInstanceAs (Decidable (_ ∧ _))

instance (width : Nat) (number : Int) : Decidable (FitsSigned width number) :=
  inferInstanceAs (Decidable (_ ∧ _))

/-- The `width` bytes at an offset, when the string reaches that far. -/
def slice (offset width : Nat) (data : Bytes) : Option Bytes :=
  if offset + width ≤ data.length then some ((data.drop offset).take width) else none

@[simp] theorem leBytes_length (width number : Nat) : (leBytes width number).length = width := by
  induction width generalizing number with
  | zero => rfl
  | succ width ih => simp [leBytes, ih]

theorem leNat_leBytes {width number : Nat} (fits : number < 256 ^ width) :
    leNat (leBytes width number) = number := by
  induction width generalizing number with
  | zero =>
    have zero : number = 0 := by simpa using fits
    simp [leBytes, leNat, zero]
  | succ width ih =>
    have smaller : number / 256 < 256 ^ width :=
      Nat.div_lt_of_lt_mul (by rwa [Nat.pow_succ, Nat.mul_comm] at fits)
    simp only [leBytes, leNat, ih smaller, UInt8.toNat_ofNat']
    omega

theorem leBytes_leNat (bytes : Bytes) : leBytes bytes.length (leNat bytes) = bytes := by
  induction bytes with
  | nil => rfl
  | cons byte rest ih =>
    have low : (byte.toNat + 256 * leNat rest) % 256 = byte.toNat := by
      have := byte.toNat_lt
      omega
    have high : (byte.toNat + 256 * leNat rest) / 256 = leNat rest := by
      have := byte.toNat_lt
      omega
    simp only [List.length_cons, leBytes, leNat, low, high, ih, UInt8.ofNat_toNat]

theorem leNat_lt (bytes : Bytes) : leNat bytes < 256 ^ bytes.length := by
  induction bytes with
  | nil => exact Nat.one_pos
  | cons byte rest ih =>
    have small := byte.toNat_lt
    simp only [leNat, List.length_cons, Nat.pow_succ]
    omega

theorem ofSigned_lt (width : Nat) (number : Int) : ofSigned width number < 256 ^ width := by
  have positive : (0 : Int) < 256 ^ width := by positivity
  have small := Int.emod_lt_of_pos number positive
  have cast : ((256 ^ width : Nat) : Int) = 256 ^ width := by push_cast; rfl
  simp only [ofSigned]
  omega

theorem toSigned_ofSigned {width : Nat} {number : Int} (fits : FitsSigned width number) :
    toSigned width (ofSigned width number) = number := by
  obtain ⟨low, high⟩ := fits
  have cast : ((256 ^ width : Nat) : Int) = 256 ^ width := by push_cast; rfl
  have wrapped : (ofSigned width number : Int) = if number < 0 then number + 256 ^ width else number := by
    have reduced : number % 256 ^ width = if number < 0 then number + 256 ^ width else number := by
      split
      · rw [← Int.add_emod_right, Int.emod_eq_of_lt (by omega) (by omega)]
      · exact Int.emod_eq_of_lt (by omega) (by omega)
    rw [ofSigned, reduced]
    split <;> omega
  simp only [toSigned]
  split at wrapped <;> split <;> omega

theorem toSigned_fits {width number : Nat} (small : number < 256 ^ width) : FitsSigned width (toSigned width number) := by
  have cast : ((256 ^ width : Nat) : Int) = 256 ^ width := by push_cast; rfl
  simp only [toSigned, FitsSigned]
  split <;> omega

theorem ofSigned_toSigned {width number : Nat} (small : number < 256 ^ width) :
    ofSigned width (toSigned width number) = number := by
  have cast : ((256 ^ width : Nat) : Int) = 256 ^ width := by push_cast; rfl
  have reduced : (number : Int) % 256 ^ width = number := Int.emod_eq_of_lt (by omega) (by omega)
  simp only [toSigned, ofSigned]
  split
  · rw [reduced, Int.toNat_natCast]
  · rw [Int.sub_emod_right, reduced, Int.toNat_natCast]

theorem slice_isSome {offset width : Nat} {data : Bytes} (inside : offset + width ≤ data.length) :
    slice offset width data = some ((data.drop offset).take width) := if_pos inside

end Wire
