import Mathlib.Tactic.Common
import Mathlib.Tactic.Ring
import Mathlib.Data.List.Induction

/-! # Byte strings

Slices are checked: an out-of-range slice has no value, so a routine that takes
one has to say what happens then. Integers are written big-endian with a fixed
width.
-/

namespace Foundation

abbrev Bytes := List UInt8

namespace Bytes

/-- `bytes[start..stop]`, absent when it would be out of range. -/
def slice (bytes : Bytes) (start stop : Nat) : Option Bytes :=
  if start ≤ stop ∧ stop ≤ bytes.length then some ((bytes.take stop).drop start) else none

/-- `bytes[start..]`, absent when it would be out of range. -/
def sliceFrom (bytes : Bytes) (start : Nat) : Option Bytes :=
  if start ≤ bytes.length then some (bytes.drop start) else none

/-- The low `width` bytes of a number, most significant first. -/
def bigEndian : Nat → Nat → Bytes
  | 0, _ => []
  | width + 1, value => bigEndian width (value / 256) ++ [UInt8.ofNat value]

/-- The number a big-endian byte string denotes. -/
def toNat (bytes : Bytes) : Nat := bytes.foldl (fun total byte => total * 256 + byte.toNat) 0

@[simp] theorem length_bigEndian (width value : Nat) : (bigEndian width value).length = width := by
  induction width generalizing value with
  | zero => rfl
  | succ width ih => simp [bigEndian, ih]

theorem toNat_append_singleton (bytes : Bytes) (byte : UInt8) :
    toNat (bytes ++ [byte]) = toNat bytes * 256 + byte.toNat := by
  simp [toNat]

theorem toNat_bigEndian (width value : Nat) :
    toNat (bigEndian width value) = value % 256 ^ width := by
  induction width generalizing value with
  | zero => simp [bigEndian, toNat, Nat.mod_one]
  | succ width ih =>
      rw [bigEndian, toNat_append_singleton, ih, pow_succ, Nat.mul_comm (256 ^ width),
        Nat.mod_mul]
      simp only [UInt8.toNat_ofNat', Nat.reducePow]
      ring

theorem toNat_lt (bytes : Bytes) : toNat bytes < 256 ^ bytes.length := by
  induction bytes using List.reverseRecOn with
  | nil => simp [toNat]
  | append_singleton bytes byte ih =>
      rw [toNat_append_singleton, List.length_append, List.length_singleton, pow_succ]
      have hbyte := byte.toNat_lt
      omega

/-- Fixed-width numbers that fit are read back from their bytes. -/
theorem toNat_bigEndian_of_lt {width value : Nat} (hfits : value < 256 ^ width) :
    toNat (bigEndian width value) = value := by
  rw [toNat_bigEndian, Nat.mod_eq_of_lt hfits]

/-- The bits of a big-endian number are those of its bytes, from the last byte on. -/
theorem testBit_toNat (bytes : Bytes) (index : Nat) :
    (toNat bytes).testBit index = (bytes.reverse.getD (index / 8) 0).toNat.testBit (index % 8) := by
  induction bytes using List.reverseRecOn generalizing index with
  | nil => simp [toNat]
  | append_singleton bytes byte ih =>
      have hbyte : byte.toNat < 2 ^ 8 := byte.toNat_lt
      rw [toNat_append_singleton, Nat.mul_comm, show 256 = 2 ^ 8 from rfl,
        Nat.testBit_two_pow_mul_add _ hbyte, List.reverse_append, List.reverse_singleton,
        List.singleton_append]
      split_ifs with hlow
      · rw [show index / 8 = 0 by omega, show index % 8 = index by omega]
        rfl
      · rw [ih, show index / 8 = (index - 8) / 8 + 1 by omega,
          show index % 8 = (index - 8) % 8 by omega]
        rfl

/-- The UTF-8 bytes of a text. -/
def ofText (text : String) : Bytes := text.toByteArray.data.toList

theorem ofText_injective : Function.Injective ofText := by
  intro first second hbytes
  apply String.toByteArray_inj.mp
  apply ByteArray.ext
  exact Array.ext' hbytes

end Bytes

end Foundation
