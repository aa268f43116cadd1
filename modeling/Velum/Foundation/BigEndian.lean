import Mathlib.Data.List.Basic
import Mathlib.Data.List.Induction
import Mathlib.Data.Vector.Basic

/-!
# Fixed-width big-endian words

`bigEndian width value` writes the low `width` bytes of a natural number, most
significant byte first, and `ofBigEndian` reads such a byte string back.  On
strings of one width the two are inverse, which is what makes a fixed-width
integer field of a wire format unambiguous.
-/

namespace Foundation

def bigEndian : Nat → Nat → List UInt8
  | 0, _ => []
  | width + 1, value =>
      bigEndian width (value / 256) ++ [UInt8.ofNat value]

def ofBigEndian (bytes : List UInt8) : Nat :=
  bytes.foldl (fun value byte => value * 256 + byte.toNat) 0

@[simp] theorem length_bigEndian (width value : Nat) :
    (bigEndian width value).length = width := by
  induction width generalizing value with
  | zero => rfl
  | succ width induction => simp [bigEndian, induction]

theorem ofBigEndian_append_singleton (bytes : List UInt8) (byte : UInt8) :
    ofBigEndian (bytes ++ [byte]) = ofBigEndian bytes * 256 + byte.toNat := by
  simp [ofBigEndian]

theorem ofBigEndian_lt (bytes : List UInt8) :
    ofBigEndian bytes < 256 ^ bytes.length := by
  induction bytes using List.reverseRecOn with
  | nil => simp [ofBigEndian]
  | append_singleton bytes byte induction =>
      have small : byte.toNat < 256 := byte.toNat_lt
      rw [ofBigEndian_append_singleton, List.length_append, pow_add]
      simp only [List.length_singleton, pow_one]
      omega

theorem ofBigEndian_bigEndian (width value : Nat)
    (fits : value < 256 ^ width) :
    ofBigEndian (bigEndian width value) = value := by
  induction width generalizing value with
  | zero =>
      simp only [pow_zero, Nat.lt_one_iff] at fits
      simp [bigEndian, ofBigEndian, fits]
  | succ width induction =>
      have high : value / 256 < 256 ^ width := by
        rw [pow_succ] at fits
        exact Nat.div_lt_of_lt_mul (by omega)
      rw [bigEndian, ofBigEndian_append_singleton, induction _ high]
      simp only [UInt8.toNat_ofNat']
      omega

theorem bigEndian_ofBigEndian (bytes : List UInt8) :
    bigEndian bytes.length (ofBigEndian bytes) = bytes := by
  induction bytes using List.reverseRecOn with
  | nil => rfl
  | append_singleton bytes byte induction =>
      have small : byte.toNat < 256 := byte.toNat_lt
      have high : (ofBigEndian bytes * 256 + byte.toNat) / 256 =
          ofBigEndian bytes := by omega
      have low : UInt8.ofNat (ofBigEndian bytes * 256 + byte.toNat) = byte := by
        apply UInt8.toNat_inj.mp
        rw [UInt8.toNat_ofNat']
        omega
      rw [ofBigEndian_append_singleton, List.length_append,
        List.length_singleton, bigEndian, high, low, induction]

/-- Bytes of a 16-bit word in network order. -/
def wordBytes16 (value : UInt16) : List UInt8 :=
  bigEndian 2 value.toNat

def word16 (bytes : List UInt8) : UInt16 :=
  UInt16.ofNat (ofBigEndian bytes)

/-- Bytes of a 64-bit word in network order. -/
def wordBytes64 (value : UInt64) : List UInt8 :=
  bigEndian 8 value.toNat

def word64 (bytes : List UInt8) : UInt64 :=
  UInt64.ofNat (ofBigEndian bytes)

@[simp] theorem length_wordBytes16 (value : UInt16) :
    (wordBytes16 value).length = 2 := length_bigEndian 2 _

@[simp] theorem length_wordBytes64 (value : UInt64) :
    (wordBytes64 value).length = 8 := length_bigEndian 8 _

@[simp] theorem word16_wordBytes16 (value : UInt16) :
    word16 (wordBytes16 value) = value := by
  have fits : value.toNat < 256 ^ 2 := value.toNat_lt
  rw [word16, wordBytes16, ofBigEndian_bigEndian 2 _ fits]
  exact UInt16.ofNat_toNat

@[simp] theorem word64_wordBytes64 (value : UInt64) :
    word64 (wordBytes64 value) = value := by
  have fits : value.toNat < 256 ^ 8 := value.toNat_lt
  rw [word64, wordBytes64, ofBigEndian_bigEndian 8 _ fits]
  exact UInt64.ofNat_toNat

theorem toNat_word16 {bytes : List UInt8} (width : bytes.length = 2) :
    (word16 bytes).toNat = ofBigEndian bytes := by
  have fits := ofBigEndian_lt bytes
  rw [width] at fits
  rw [word16, UInt16.toNat_ofNat']
  exact Nat.mod_eq_of_lt (by omega)

theorem toNat_word64 {bytes : List UInt8} (width : bytes.length = 8) :
    (word64 bytes).toNat = ofBigEndian bytes := by
  have fits := ofBigEndian_lt bytes
  rw [width] at fits
  rw [word64, UInt64.toNat_ofNat']
  exact Nat.mod_eq_of_lt (by omega)

theorem wordBytes16_word16 {bytes : List UInt8} (width : bytes.length = 2) :
    wordBytes16 (word16 bytes) = bytes := by
  rw [wordBytes16, toNat_word16 width, ← width, bigEndian_ofBigEndian]

theorem wordBytes64_word64 {bytes : List UInt8} (width : bytes.length = 8) :
    wordBytes64 (word64 bytes) = bytes := by
  rw [wordBytes64, toNat_word64 width, ← width, bigEndian_ofBigEndian]

end Foundation
