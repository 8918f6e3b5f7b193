import DongloraClient.Foundation.Wire
import Mathlib.Data.Nat.Bitwise
import Mathlib.Logic.Function.Iterate

/-! CRC-16/CCITT-FALSE, the integrity check of every frame. -/

namespace DongloraClient
open Wire

/-- One bit of the inner loop. -/
def crcShift (crc : Nat) : Nat :=
  if crc &&& 0x8000 ≠ 0 then ((crc <<< 1) ^^^ 0x1021) &&& 0xFFFF else (crc <<< 1) &&& 0xFFFF

def crcByte (crc : Nat) (byte : UInt8) : Nat := crcShift^[8] (crc ^^^ (byte.toNat <<< 8))

def crc16 (data : Bytes) : Nat := data.foldl crcByte 0xFFFF

/-- The self-check the source makes at import. -/
example : crc16 [0x31, 0x32, 0x33, 0x34, 0x35, 0x36, 0x37, 0x38, 0x39] = 0x29B1 := by decide +kernel

theorem crcShift_step (crc : Nat) :
    crcShift crc = ((crc <<< 1) ^^^ (if crc.testBit 15 then 0x1021 else 0)) % 2 ^ 16 := by
  have top : crc &&& 0x8000 = (crc.testBit 15).toNat * 2 ^ 15 := Nat.and_two_pow crc 15
  have mask (number : Nat) : number &&& 0xFFFF = number % 2 ^ 16 := Nat.and_two_pow_sub_one_eq_mod number 16
  rw [crcShift, top, mask, mask]
  cases crc.testBit 15 <;> simp

theorem crcShift_lt (crc : Nat) : crcShift crc < 2 ^ 16 := by
  rw [crcShift_step]
  exact Nat.mod_lt _ (by decide)

theorem crcByte_lt (crc : Nat) (byte : UInt8) : crcByte crc byte < 2 ^ 16 := by
  rw [crcByte, Function.iterate_succ_apply']
  exact crcShift_lt _

theorem crc16_lt (data : Bytes) : crc16 data < 2 ^ 16 := by
  have fold (items : Bytes) (crc : Nat) (bound : crc < 2 ^ 16) : items.foldl crcByte crc < 2 ^ 16 := by
    induction items generalizing crc with
    | nil => exact bound
    | cons byte rest ih => exact ih _ (crcByte_lt crc byte)
  exact fold data _ (by decide)

end DongloraClient
