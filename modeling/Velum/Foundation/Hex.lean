import Mathlib.Data.List.Basic
import Mathlib.Data.UInt

/-!
# Bytes in hexadecimal digits

Two digits a byte, the high half first.  Writing uses the lower-case digits,
reading takes those of either case.
-/

namespace Foundation

namespace Hex

def byteDigits (byte : UInt8) : List Char :=
  [Nat.digitChar (byte.toNat / 16), Nat.digitChar (byte.toNat % 16)]

def encode (bytes : List UInt8) : String :=
  String.ofList (bytes.flatMap byteDigits)

def digitValue (digit : Char) : Option Nat :=
  if '0' ≤ digit ∧ digit ≤ '9' then some (digit.toNat - '0'.toNat)
  else if 'a' ≤ digit ∧ digit ≤ 'f' then some (digit.toNat - 'a'.toNat + 10)
  else if 'A' ≤ digit ∧ digit ≤ 'F' then some (digit.toNat - 'A'.toNat + 10)
  else none

def decodePairs : List Char → Option (List UInt8)
  | [] => some []
  | [_] => none
  | high :: low :: rest => do
      let high ← digitValue high
      let low ← digitValue low
      let bytes ← decodePairs rest
      return UInt8.ofNat (16 * high + low) :: bytes

/-- The bytes of a text that is not empty. -/
def decode (text : String) : Option (List UInt8) :=
  if text = "" then none else decodePairs text.toList

theorem digitValue_digitChar {value : Nat} (small : value < 16) :
    digitValue (Nat.digitChar value) = some value := by
  have every : ∀ value : Fin 16,
      digitValue (Nat.digitChar value) = some value.val := by decide
  exact every ⟨value, small⟩

theorem toLower_digitChar {value : Nat} (small : value < 16) :
    (Nat.digitChar value).toLower = Nat.digitChar value := by
  have every : ∀ value : Fin 16,
      (Nat.digitChar value).toLower = Nat.digitChar value := by decide
  exact every ⟨value, small⟩

theorem decodePairs_encode (bytes : List UInt8) :
    decodePairs (bytes.flatMap byteDigits) = some bytes := by
  induction bytes with
  | nil => rfl
  | cons byte rest induction =>
      have bound := byte.toNat_lt
      have high : byte.toNat / 16 < 16 := by omega
      have low : byte.toNat % 16 < 16 := by omega
      have whole : UInt8.ofNat (16 * (byte.toNat / 16) + byte.toNat % 16) =
          byte := by
        rw [Nat.div_add_mod]
        exact UInt8.ofNat_toNat
      rw [List.flatMap_cons, byteDigits, List.cons_append,
        List.cons_append, List.nil_append, decodePairs,
        digitValue_digitChar high, digitValue_digitChar low, induction]
      exact congrArg (fun first => some (first :: rest)) whole

theorem decode_encode {bytes : List UInt8} (some_ : bytes ≠ []) :
    decode (encode bytes) = some bytes := by
  have written : encode bytes ≠ "" := by
    cases bytes with
    | nil => exact absurd rfl some_
    | cons byte rest => simp [encode, byteDigits]
  rw [decode, if_neg written, encode, String.toList_ofList,
    decodePairs_encode]

/-- What is written is in lower case. -/
theorem map_toLower_encode (bytes : List UInt8) :
    (encode bytes).toList.map Char.toLower = (encode bytes).toList := by
  have lower : ∀ digit ∈ bytes.flatMap byteDigits,
      digit.toLower = digit := by
    intro digit member
    obtain ⟨byte, _, inside⟩ := List.mem_flatMap.mp member
    have bound := byte.toNat_lt
    rw [byteDigits, List.mem_pair] at inside
    rcases inside with rfl | rfl
    · exact toLower_digitChar (by omega)
    · exact toLower_digitChar (by omega)
  rw [encode, String.toList_ofList]
  conv_rhs => rw [← List.map_id (bytes.flatMap byteDigits)]
  exact List.map_congr_left lower

end Hex

end Foundation
