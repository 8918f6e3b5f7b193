import DongloraClient.Errors
import DongloraClient.Foundation.Wire
import DongloraClient.Foundation.Raising

/-! The parts of Python's `bytes`, `struct` and `enum` that the codecs use. -/

namespace DongloraClient
open Wire

/-- An `enum.IntEnum` class. -/
class IntEnum (α : Type) where
  className : String
  members : List α
  value : α → Nat

/-- The member with a value, as calling the class looks it up. -/
def IntEnum.ofValue (α : Type) [IntEnum α] (number : Nat) : Except Exc α :=
  match (members : List α).find? (fun member => value member == number) with
  | some member => .ok member
  | none => .error (.valueError s!"{number} is not a valid {className α}")

/-- All members are listed, with distinct values. -/
class IntEnum.Lawful (α : Type) [IntEnum α] : Prop where
  listed : ∀ member : α, member ∈ members
  distinct : ((members : List α).map value).Nodup

/-- `struct.pack` of one unsigned field. -/
def packUnsigned (width : Nat) (number : Int) : Except Exc Bytes :=
  if FitsUnsigned width number then .ok (leBytes width number.toNat) else .error .structError

/-- `struct.pack` of one signed field. -/
def packSigned (width : Nat) (number : Int) : Except Exc Bytes :=
  if FitsSigned width number then .ok (leBytes width (ofSigned width number)) else .error .structError

/-- `bytes([number])`. -/
def byteOf (number : Int) : Except Exc Bytes :=
  if FitsUnsigned 1 number then .ok (leBytes 1 number.toNat)
  else .error (.valueError "bytes must be in range(0, 256)")

/-- `struct.unpack_from` of one unsigned field. -/
def unpackUnsigned (width offset : Nat) (data : Bytes) : Except Exc Nat :=
  match slice offset width data with
  | some field => .ok (leNat field)
  | none => .error .structError

/-- `struct.unpack_from` of one signed field. -/
def unpackSigned (width offset : Nat) (data : Bytes) : Except Exc Int :=
  return toSigned width (← unpackUnsigned width offset data)

/-- `data[index]`. -/
def byteAt (data : Bytes) (index : Nat) : Except Exc Nat :=
  match data[index]? with
  | some byte => .ok byte.toNat
  | none => .error (.indexError "index out of range")

namespace Exc

def IsValueError (exc : Exc) : Prop := ∃ message, exc = .valueError message

end Exc

/-- A computation that either returns or raises `ValueError`. -/
abbrev OnlyValueError (result : Except Exc α) : Prop := Raising.Only Exc.IsValueError result

section Reading
open Raising

theorem IntEnum.ofValue_raises [IntEnum α] (number : Nat) : OnlyValueError (IntEnum.ofValue α number) := by
  unfold IntEnum.ofValue
  split
  · exact Only.ok _
  · exact Only.error ⟨_, rfl⟩

theorem unpackUnsigned_inside {width offset : Nat} {data : Bytes} (inside : offset + width ≤ data.length) :
    OnlyValueError (unpackUnsigned width offset data) := by
  simp only [unpackUnsigned, slice_isSome inside]
  exact Only.ok _

theorem unpackSigned_inside {width offset : Nat} {data : Bytes} (inside : offset + width ≤ data.length) :
    OnlyValueError (unpackSigned width offset data) :=
  Only.bind (unpackUnsigned_inside inside) fun _ _ => Only.ok _

theorem byteAt_zero {data : Bytes} (inside : 0 < data.length) : byteAt data 0 = .ok (leNat (data.take 1)) := by
  obtain ⟨byte, rest, rfl⟩ := List.exists_cons_of_length_pos inside
  simp [byteAt, leNat]

theorem byteAt_inside {index : Nat} {data : Bytes} (inside : index < data.length) :
    OnlyValueError (byteAt data index) := by
  simp only [byteAt, List.getElem?_eq_getElem inside]
  exact Only.ok _

end Reading

section Packing

theorem packUnsigned_ok {width : Nat} {number : Int} {field : Bytes} :
    packUnsigned width number = .ok field ↔ field.length = width ∧ number = leNat field := by
  simp only [packUnsigned]
  constructor
  · intro packed
    split at packed
    next fits =>
      cases packed
      obtain ⟨nonneg, small⟩ := fits
      have bound : number.toNat < 256 ^ width := by
        have cast : ((256 ^ width : Nat) : Int) = 256 ^ width := by push_cast; rfl
        omega
      exact ⟨leBytes_length _ _, by rw [leNat_leBytes bound]; omega⟩
    next => cases packed
  · intro read
    obtain ⟨rfl, rfl⟩ := read
    have small := leNat_lt field
    have fits : FitsUnsigned field.length (leNat field) := ⟨by omega, by exact_mod_cast small⟩
    rw [if_pos fits, Int.toNat_natCast, leBytes_leNat]

theorem packSigned_ok {width : Nat} {number : Int} {field : Bytes} :
    packSigned width number = .ok field ↔ field.length = width ∧ number = toSigned width (leNat field) := by
  simp only [packSigned]
  constructor
  · intro packed
    split at packed
    next fits =>
      cases packed
      exact ⟨leBytes_length _ _, by rw [leNat_leBytes (ofSigned_lt width number), toSigned_ofSigned fits]⟩
    next => cases packed
  · intro read
    obtain ⟨rfl, rfl⟩ := read
    have small := leNat_lt field
    rw [if_pos (toSigned_fits small), ofSigned_toSigned small, leBytes_leNat]

theorem packUnsigned_fits {width : Nat} {number : Int} (fits : FitsUnsigned width number) :
    packUnsigned width number = .ok (leBytes width number.toNat) := if_pos fits

theorem packSigned_fits {width : Nat} {number : Int} (fits : FitsSigned width number) :
    packSigned width number = .ok (leBytes width (ofSigned width number)) := if_pos fits

theorem packUnsigned_nat {width number : Nat} (fits : number < 256 ^ width) :
    packUnsigned width number = .ok (leBytes width number) := by
  have inside : FitsUnsigned width number := ⟨by omega, by exact_mod_cast fits⟩
  simp only [packUnsigned, if_pos inside, Int.toNat_natCast]

theorem byteOf_nat {number : Nat} (fits : number < 256 ^ 1) : byteOf number = .ok (leBytes 1 number) := by
  have inside : FitsUnsigned 1 number := ⟨by omega, by exact_mod_cast fits⟩
  simp only [byteOf, if_pos inside, Int.toNat_natCast]

theorem byteOf_ok {number : Int} {field : Bytes} :
    byteOf number = .ok field ↔ ∃ byte : UInt8, field = [byte] ∧ number = byte.toNat := by
  have packed : byteOf number = .ok field ↔ packUnsigned 1 number = .ok field := by
    simp only [byteOf, packUnsigned]
    split <;> simp
  rw [packed, packUnsigned_ok, List.length_eq_one_iff]
  constructor
  · intro read
    obtain ⟨⟨byte, rfl⟩, rfl⟩ := read
    exact ⟨byte, rfl, by simp [leNat]⟩
  · intro read
    obtain ⟨byte, rfl, rfl⟩ := read
    exact ⟨⟨byte, rfl⟩, by simp [leNat]⟩

theorem IntEnum.ofValue_ok [IntEnum α] [Lawful α] {number : Nat} {member : α} :
    IntEnum.ofValue α number = .ok member ↔ value member = number := by
  unfold IntEnum.ofValue
  constructor
  · intro looked
    split at looked
    next found =>
      cases looked
      simpa using List.find?_some found
    next => cases looked
  · intro same
    subst same
    have found : (members : List α).find? (fun other => value other == value member) = some member := by
      have some : ((members : List α).find? (fun other => value other == value member)).isSome :=
        List.find?_isSome.mpr ⟨member, Lawful.listed member, by simp⟩
      obtain ⟨other, found⟩ := Option.isSome_iff_exists.mp some
      have equal : value other = value member := by simpa using List.find?_some found
      have same : other = member :=
        List.inj_on_of_nodup_map Lawful.distinct (Lawful.listed other) (Lawful.listed member) equal
      rw [found, same]
    rw [found]

theorem flag_read (flag : Bool) : ((if flag = true then (1 : UInt8) else 0).toNat != 0) = flag := by
  cases flag <;> rfl

theorem flag_small (flag : Bool) : (if flag = true then (1 : UInt8) else 0).toNat ≤ 1 := by
  cases flag <;> decide

/-- A flag byte that is 0 or 1 is written back as it was. -/
theorem flag_byte {byte : UInt8} (small : ¬ byte.toNat > 1) : (if (byte.toNat != 0) = true then 1 else 0) = byte := by
  have either : byte.toNat = 0 ∨ byte.toNat = 1 := by omega
  obtain zero | one := either
  · rw [zero]
    exact UInt8.toNat_inj.mp zero.symm
  · rw [one]
    exact UInt8.toNat_inj.mp one.symm

end Packing

end DongloraClient
