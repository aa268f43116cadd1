import Velum.Foundation.BigEndian
import Mathlib.Data.Nat.Bitwise

/-!
# Bits of byte strings

The bits of a byte string in network order, the most significant bit of the
first byte first.  They are the binary digits of the number that the bytes
write, counted from the other end, so masks of numbers can be read bit by bit.
-/

namespace Foundation

def bitAt (bytes : List UInt8) (index : Nat) : Bool :=
  (bytes.getD (index / 8) 0).toNat.testBit (7 - index % 8)

theorem testBit_ofBigEndian_append (bytes : List UInt8) (byte : UInt8)
    (position : Nat) :
    (ofBigEndian (bytes ++ [byte])).testBit position =
      if position < 8 then byte.toNat.testBit position
      else (ofBigEndian bytes).testBit (position - 8) := by
  have digits : ofBigEndian (bytes ++ [byte]) =
      2 ^ 8 * ofBigEndian bytes + byte.toNat := by
    rw [ofBigEndian_append_singleton]
    omega
  rw [digits, Nat.testBit_two_pow_mul_add _ byte.toNat_lt]

/-- The bits of a byte string are the digits of its number, from the front. -/
theorem bitAt_eq_testBit (bytes : List UInt8) {index : Nat}
    (inside : index < 8 * bytes.length) :
    bitAt bytes index =
      (ofBigEndian bytes).testBit (8 * bytes.length - 1 - index) := by
  induction bytes using List.reverseRecOn with
  | nil => simp at inside
  | append_singleton bytes byte induction =>
      rw [List.length_append, List.length_singleton] at inside ⊢
      rw [testBit_ofBigEndian_append]
      by_cases last : 8 * bytes.length ≤ index
      · have place : index / 8 = bytes.length := by omega
        have digit : 8 * (bytes.length + 1) - 1 - index = 7 - index % 8 := by
          omega
        rw [if_pos (by omega), digit, bitAt, place]
        simp
      · have place : index / 8 < bytes.length := by omega
        have digit : 8 * (bytes.length + 1) - 1 - index - 8 =
            8 * bytes.length - 1 - index := by omega
        rw [if_neg (by omega), digit, ← induction (by omega), bitAt, bitAt,
          List.getD_append _ _ _ _ place]

/-- The bits of a written number. -/
theorem bitAt_bigEndian {width value index : Nat}
    (fits : value < 256 ^ width) (inside : index < 8 * width) :
    bitAt (bigEndian width value) index =
      value.testBit (8 * width - 1 - index) := by
  rw [bitAt_eq_testBit _ (by rwa [length_bigEndian]), length_bigEndian,
    ofBigEndian_bigEndian _ _ fits]

/-- A number has no digits from the width of its bytes on. -/
theorem testBit_ofBigEndian_of_le {bytes : List UInt8} {position : Nat}
    (beyond : 8 * bytes.length ≤ position) :
    (ofBigEndian bytes).testBit position = false := by
  apply Nat.testBit_lt_two_pow
  calc ofBigEndian bytes < 256 ^ bytes.length := ofBigEndian_lt bytes
    _ = 2 ^ (8 * bytes.length) := (pow_mul 2 8 bytes.length).symm
    _ ≤ 2 ^ position := Nat.pow_le_pow_right (by decide) beyond

/-- Byte strings of one length with the same bits are equal. -/
theorem eq_of_bitAt {first second : List UInt8}
    (width : first.length = second.length)
    (same : ∀ index < 8 * first.length,
      bitAt first index = bitAt second index) : first = second := by
  have numbers : ofBigEndian first = ofBigEndian second := by
    apply Nat.eq_of_testBit_eq
    intro position
    by_cases inside : position < 8 * first.length
    · have here := same (8 * first.length - 1 - position) (by omega)
      rw [bitAt_eq_testBit first (by omega),
        bitAt_eq_testBit second (by omega), ← width] at here
      have back : 8 * first.length - 1 - (8 * first.length - 1 - position) =
          position := by omega
      rwa [back] at here
    · rw [testBit_ofBigEndian_of_le (by omega),
        testBit_ofBigEndian_of_le (by omega)]
  rw [← bigEndian_ofBigEndian first, ← bigEndian_ofBigEndian second, width,
    numbers]

end Foundation
