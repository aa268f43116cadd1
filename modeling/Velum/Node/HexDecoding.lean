import Velum.Foundation.Checked
import Velum.Foundation.Text

/-!
# Decoding of hexadecimal credentials

The bytes of a text are taken two at a time.  Each pair has to be UTF-8, or
the decoder panics, and is read by a parser of unsigned integers, which takes
a plus sign in front of the digits.
-/

namespace Velum.Node

open Foundation

/-- An `expect` that failed. -/
structure ExpectPanic where
  message : String
  deriving DecidableEq, Repr

/-- The pairs of bytes; an odd last byte is left out. -/
def chunksExact2 : List UInt8 → List (UInt8 × UInt8)
  | high :: low :: rest => (high, low) :: chunksExact2 rest
  | _ => []

section Decoders

variable {Error : Type} (expectation : String) (failure : Error)

def decodePair (pair : UInt8 × UInt8) : Outcome ExpectPanic Error UInt8 :=
  match Text.fromUtf8 [pair.1, pair.2] with
  | none => .panic ⟨expectation⟩
  | some text =>
      match Text.fromStrRadix 16 256 text with
      | none => .err failure
      | some byte => .ok (UInt8.ofNat byte)

/-- The bytes of all pairs, up to the first one that fails. -/
def decodePairs : List (UInt8 × UInt8) →
    Outcome ExpectPanic Error (List UInt8)
  | [] => .ok []
  | pair :: rest =>
      match decodePair expectation failure pair with
      | .ok byte => (decodePairs rest).bimap (byte :: ·) id
      | .err error => .err error
      | .panic cause => .panic cause

end Decoders

def Config.maxSecretBytes : Nat := 128

/-- The decoder of the credential files of a relay. -/
def decodeSecret (value : Text) : Outcome ExpectPanic String (List UInt8) :=
  let bytes := Text.utf8 value
  if bytes = [] ∨ bytes.length % 2 ≠ 0 ∨
      Config.maxSecretBytes < bytes.length / 2 then
    .err "credential secret must contain 1 to 128 bytes of hexadecimal data"
  else
    decodePairs "hex input is UTF-8" "credential secret must be hexadecimal"
      (chunksExact2 bytes)

/-! ## Pairs -/

/-- The character with the code of a byte. -/
def byteChar (byte : UInt8) : Char := byte.toChar

theorem toNat_byteChar (byte : UInt8) :
    (byteChar byte).toNat = byte.toNat :=
  UInt8.toNat_toUInt32 byte

theorem utf8_byteChars {bytes : List UInt8}
    (ascii : ∀ byte ∈ bytes, byte.toNat < 128) :
    Text.utf8 (bytes.map byteChar) = bytes := by
  rw [Text.utf8_of_ascii, List.map_map]
  · have same : ∀ byte ∈ bytes,
        ((fun character => UInt8.ofNat character.toNat) ∘ byteChar) byte =
          byte := by
      intro byte _
      rw [Function.comp_apply, toNat_byteChar, UInt8.ofNat_toNat]
    exact (List.map_congr_left same).trans (List.map_id' bytes)
  · intro character member
    obtain ⟨byte, inBytes, rfl⟩ := List.mem_map.mp member
    rw [toNat_byteChar]
    exact ascii byte inBytes

def isHexByte (byte : UInt8) : Bool :=
  Text.isDigit 16 (byteChar byte)

/-- The pairs that are numerals: two digits, or a plus sign and a digit. -/
structure NumeralPair (pair : UInt8 × UInt8) : Prop where
  first : isHexByte pair.1 = true ∨ byteChar pair.1 = '+'
  second : isHexByte pair.2 = true

instance (pair : UInt8 × UInt8) : Decidable (NumeralPair pair) :=
  decidable_of_iff ((isHexByte pair.1 = true ∨ byteChar pair.1 = '+') ∧
      isHexByte pair.2 = true)
    ⟨fun both => ⟨both.1, both.2⟩, fun numeral => ⟨numeral.1, numeral.2⟩⟩

def digitOf (byte : UInt8) : Nat :=
  (Text.toDigit 16 (byteChar byte)).getD 0

def pairValue (pair : UInt8 × UInt8) : Nat :=
  if byteChar pair.1 = '+' then digitOf pair.2
  else digitOf pair.1 * 16 + digitOf pair.2

theorem digitOf_lt (byte : UInt8) : digitOf byte < 16 := by
  rw [digitOf]
  cases found : Text.toDigit 16 (byteChar byte) with
  | none => simp
  | some value =>
      have below := (Option.filter_eq_some_iff.mp found).2
      simpa using below

theorem ascii_of_isHexByte {byte : UInt8} (hex : isHexByte byte = true) :
    byte.toNat < 128 := by
  have visible := Text.visible_of_isDigit hex
  rw [Text.IsVisible, toNat_byteChar] at visible
  omega

theorem NumeralPair.ascii {pair : UInt8 × UInt8} (numeral : NumeralPair pair) :
    ∀ byte ∈ [pair.1, pair.2], byte.toNat < 128 := by
  intro byte member
  rcases List.mem_pair.mp member with rfl | rfl
  · rcases numeral.first with hex | plus
    · exact ascii_of_isHexByte hex
    · have code := congrArg Char.toNat plus
      rw [toNat_byteChar] at code
      rw [code]
      decide
  · exact ascii_of_isHexByte numeral.second

theorem NumeralPair.fromUtf8_eq {pair : UInt8 × UInt8}
    (numeral : NumeralPair pair) :
    Text.fromUtf8 [pair.1, pair.2] =
      some [byteChar pair.1, byteChar pair.2] := by
  have bytes := utf8_byteChars numeral.ascii
  have decoded := Text.fromUtf8_utf8 ([pair.1, pair.2].map byteChar)
  rw [bytes] at decoded
  exact decoded

/-- A numeral of two bytes has two characters. -/
theorem fromUtf8_of_numeral {pair : UInt8 × UInt8} {text : Text} {value : Nat}
    (decoded : Text.fromUtf8 [pair.1, pair.2] = some text)
    (parsed : Text.fromStrRadix 16 256 text = some value) :
    text = [byteChar pair.1, byteChar pair.2] := by
  have ascii : ∀ character ∈ text, character.toNat < 128 := by
    intro character member
    have visible := Text.visible_of_fromStrRadix parsed character member
    rw [Text.IsVisible] at visible
    omega
  have bytes := Text.utf8_of_fromUtf8 decoded
  rw [Text.utf8_of_ascii ascii] at bytes
  have back : text.map (byteChar ∘ fun character =>
      UInt8.ofNat character.toNat) = text := by
    apply Text.map_eq_self_iff.mpr
    intro character member
    have small := ascii character member
    apply Char.toNat_inj.mp
    rw [Function.comp_apply, toNat_byteChar, UInt8.toNat_ofNat']
    omega
  rw [← back, ← List.map_map, bytes]
  rfl

theorem fromStrRadix_pair (first second : UInt8) (value : Nat) :
    Text.fromStrRadix 16 256 [byteChar first, byteChar second] = some value ↔
      NumeralPair (first, second) ∧ value = pairValue (first, second) := by
  have low := digitOf_lt second
  have high := digitOf_lt first
  have unsigned : Text.isDigit 16 '+' = false := by decide
  simp only [Text.fromStrRadix, Text.withoutPlus, List.head?_cons,
    Option.some.injEq]
  by_cases plus : byteChar first = '+'
  · have number : Text.numberOf 16 [byteChar second] = digitOf second := by
      simp [Text.numberOf, digitOf]
    have numeral : NumeralPair (first, second) ↔ isHexByte second = true :=
      ⟨fun numeral => numeral.second, fun hex => ⟨.inr plus, hex⟩⟩
    rw [if_pos plus, List.tail_cons, number, numeral, pairValue, if_pos plus]
    by_cases hex : isHexByte second = true
    · rw [if_pos ⟨by simp, by simpa [isHexByte] using hex, by omega⟩]
      simp [hex, eq_comm]
    · rw [if_neg (by simpa [isHexByte] using fun h => absurd h hex)]
      simp [hex]
  · have number : Text.numberOf 16 [byteChar first, byteChar second] =
        digitOf first * 16 + digitOf second := by
      simp [Text.numberOf, digitOf]
    have numeral : NumeralPair (first, second) ↔
        isHexByte first = true ∧ isHexByte second = true :=
      ⟨fun numeral => ⟨numeral.first.resolve_right plus, numeral.second⟩,
        fun hex => ⟨.inl hex.1, hex.2⟩⟩
    rw [if_neg plus, number, numeral, pairValue, if_neg plus]
    by_cases hex : isHexByte first = true ∧ isHexByte second = true
    · rw [if_pos ⟨by simp, by simpa [isHexByte] using hex, by omega⟩]
      simp [hex, eq_comm]
    · rw [if_neg (by
        simp only [isHexByte] at hex
        simp [hex])]
      simp [hex]

section Outcomes

variable {Error : Type} {expectation : String} {failure : Error}

theorem decodePair_eq_ok_iff {pair : UInt8 × UInt8} {byte : UInt8} :
    decodePair expectation failure pair = .ok byte ↔
      NumeralPair pair ∧ byte = UInt8.ofNat (pairValue pair) := by
  constructor
  · intro decoded
    rw [decodePair] at decoded
    split at decoded
    next => cases decoded
    next text isText =>
        split at decoded
        next => cases decoded
        next value parsed =>
            rw [fromUtf8_of_numeral isText parsed, fromStrRadix_pair] at parsed
            cases decoded
            exact ⟨parsed.1, by rw [parsed.2]⟩
  · rintro ⟨numeral, rfl⟩
    have parsed := (fromStrRadix_pair pair.1 pair.2 _).mpr ⟨numeral, rfl⟩
    simp only [decodePair, numeral.fromUtf8_eq, parsed]

theorem decodePair_eq_panic_iff {pair : UInt8 × UInt8} {cause : ExpectPanic} :
    decodePair expectation failure pair = .panic cause ↔
      Text.fromUtf8 [pair.1, pair.2] = none ∧ cause = ⟨expectation⟩ := by
  rw [decodePair]
  split
  next none => simp [none, eq_comm]
  next text isText =>
      rw [isText]
      split <;> simp

/-- All pairs are decoded exactly when they are numerals. -/
theorem decodePairs_eq_ok_iff {pairs : List (UInt8 × UInt8)}
    {bytes : List UInt8} :
    decodePairs expectation failure pairs = .ok bytes ↔
      (∀ pair ∈ pairs, NumeralPair pair) ∧
        bytes = pairs.map fun pair => UInt8.ofNat (pairValue pair) := by
  induction pairs generalizing bytes with
  | nil => simp [decodePairs, eq_comm]
  | cons pair rest induction =>
      rw [List.forall_mem_cons, List.map_cons]
      constructor
      · intro decoded
        rw [decodePairs] at decoded
        split at decoded
        next byte first =>
            obtain ⟨numeral, rfl⟩ := decodePair_eq_ok_iff.mp first
            obtain ⟨others, more, rfl⟩ := Outcome.bimap_eq_ok_iff.mp decoded
            obtain ⟨numerals, rfl⟩ := induction.mp more
            exact ⟨⟨numeral, numerals⟩, rfl⟩
        next => cases decoded
        next => cases decoded
      · rintro ⟨⟨numeral, numerals⟩, rfl⟩
        rw [decodePairs, decodePair_eq_ok_iff.mpr ⟨numeral, rfl⟩,
          induction.mpr ⟨numerals, rfl⟩]
        rfl

/-- Behind numerals stands a pair that is not UTF-8. -/
def CutsCharacter (pairs : List (UInt8 × UInt8)) : Prop :=
  ∃ front pair back, pairs = front ++ pair :: back ∧
    (∀ numeral ∈ front, NumeralPair numeral) ∧
    Text.fromUtf8 [pair.1, pair.2] = none

theorem cutsCharacter_cons {pair : UInt8 × UInt8}
    {rest : List (UInt8 × UInt8)} :
    CutsCharacter (pair :: rest) ↔
      Text.fromUtf8 [pair.1, pair.2] = none ∨
        (NumeralPair pair ∧ CutsCharacter rest) := by
  constructor
  · rintro ⟨front, found, back, split, numerals, cut⟩
    cases front with
    | nil =>
        obtain ⟨rfl, _⟩ := List.cons.inj split
        exact .inl cut
    | cons first front =>
        obtain ⟨rfl, others⟩ := List.cons.inj split
        rw [List.forall_mem_cons] at numerals
        exact .inr ⟨numerals.1, front, found, back, others, numerals.2, cut⟩
  · rintro (cut | ⟨numeral, front, found, back, rfl, numerals, cut⟩)
    · exact ⟨[], pair, rest, rfl, by simp, cut⟩
    · refine ⟨pair :: front, found, back, rfl, ?_, cut⟩
      rw [List.forall_mem_cons]
      exact ⟨numeral, numerals⟩

/-- The decoder returns exactly when it meets no such pair. -/
theorem returned_decodePairs_iff {pairs : List (UInt8 × UInt8)} :
    (decodePairs expectation failure pairs).Returned ↔
      ¬CutsCharacter pairs := by
  induction pairs with
  | nil => simp [decodePairs, CutsCharacter]
  | cons pair rest induction =>
      rw [decodePairs, cutsCharacter_cons]
      cases decoded : decodePair expectation failure pair with
      | ok byte =>
          obtain ⟨numeral, _⟩ := decodePair_eq_ok_iff.mp decoded
          simp [numeral, numeral.fromUtf8_eq, induction]
      | err error =>
          have unread : ¬NumeralPair pair := by
            intro numeral
            rw [decodePair_eq_ok_iff.mpr ⟨numeral, rfl⟩] at decoded
            cases decoded
          have isText : Text.fromUtf8 [pair.1, pair.2] ≠ none := by
            intro none
            rw [decodePair_eq_panic_iff.mpr ⟨none, rfl⟩] at decoded
            cases decoded
          simp [unread, isText]
      | panic cause =>
          simp [(decodePair_eq_panic_iff.mp decoded).1]

end Outcomes

/-! ## Texts -/

/-- The bytes of pairs. -/
def pairBytes (pairs : List (UInt8 × UInt8)) : List UInt8 :=
  pairs.flatMap fun pair => [pair.1, pair.2]

theorem pairBytes_chunksExact2 {bytes : List UInt8}
    (even : bytes.length % 2 = 0) : pairBytes (chunksExact2 bytes) = bytes := by
  induction bytes using chunksExact2.induct with
  | case1 high low rest induction =>
      have fewer : rest.length % 2 = 0 := by
        simp only [List.length_cons] at even
        omega
      rw [chunksExact2, pairBytes, List.flatMap_cons, ← pairBytes,
        induction fewer]
      rfl
  | case2 bytes short =>
      rcases bytes with _ | ⟨first, _ | ⟨second, rest⟩⟩
      · rfl
      · cases even
      · exact absurd rfl (short first second rest)

theorem ascii_of_numerals {pairs : List (UInt8 × UInt8)}
    (numerals : ∀ pair ∈ pairs, NumeralPair pair) :
    ∀ byte ∈ pairBytes pairs, byte.toNat < 128 := by
  intro byte member
  obtain ⟨pair, inPairs, inside⟩ := List.mem_flatMap.mp member
  exact (numerals pair inPairs).ascii byte inside

theorem eq_byteChars {value : Text}
    (ascii : ∀ byte ∈ Text.utf8 value, byte.toNat < 128) :
    value = (Text.utf8 value).map byteChar :=
  Text.utf8_inj (utf8_byteChars ascii).symm

/-- The two digits of a byte are those of its pair in lower case. -/
theorem digitChar_digitOf {byte : UInt8} (hex : isHexByte byte = true) :
    Nat.digitChar (digitOf byte) = (byteChar byte).toLower := by
  have every : ∀ code : Fin 128, isHexByte (UInt8.ofNat code) = true →
      Nat.digitChar (digitOf (UInt8.ofNat code)) =
        (byteChar (UInt8.ofNat code)).toLower := by decide
  have small := ascii_of_isHexByte hex
  have found := every ⟨byte.toNat, small⟩
  rw [UInt8.ofNat_toNat] at found
  exact found hex

theorem byteDigits_pair {pair : UInt8 × UInt8} (numeral : NumeralPair pair) :
    Hex.byteDigits (UInt8.ofNat (pairValue pair)) =
        [(byteChar pair.1).toLower, (byteChar pair.2).toLower] ↔
      byteChar pair.1 ≠ '+' := by
  have low := digitOf_lt pair.2
  have high := digitOf_lt pair.1
  have second := digitChar_digitOf numeral.second
  rw [Hex.byteDigits, UInt8.toNat_ofNat', pairValue]
  by_cases plus : byteChar pair.1 = '+'
  · rw [if_pos plus]
    have zero : digitOf pair.2 % 2 ^ 8 / 16 = 0 := by omega
    rw [zero, plus]
    simp
  · have first := digitChar_digitOf (numeral.first.resolve_right plus)
    have quotient : (digitOf pair.1 * 16 + digitOf pair.2) % 2 ^ 8 / 16 =
        digitOf pair.1 := by omega
    have remainder : (digitOf pair.1 * 16 + digitOf pair.2) % 2 ^ 8 % 16 =
        digitOf pair.2 := by omega
    rw [if_neg plus, quotient, remainder, first, second]
    simp [plus]

/-- Encoding what was decoded gives the text in lower case exactly when no
pair has a sign. -/
theorem encode_pairs_iff {pairs : List (UInt8 × UInt8)}
    (numerals : ∀ pair ∈ pairs, NumeralPair pair) :
    (Hex.encode (pairs.map fun pair => UInt8.ofNat (pairValue pair))).toList =
        Text.toAsciiLowercase ((pairBytes pairs).map byteChar) ↔
      ∀ pair ∈ pairs, byteChar pair.1 ≠ '+' := by
  rw [Hex.encode, String.toList_ofList]
  induction pairs with
  | nil => simp [pairBytes, Text.toAsciiLowercase]
  | cons pair rest induction =>
      rw [List.forall_mem_cons] at numerals
      rw [List.forall_mem_cons, ← byteDigits_pair numerals.1,
        ← induction numerals.2, List.map_cons, List.flatMap_cons, pairBytes,
        List.flatMap_cons, ← pairBytes, List.map_append, Text.toAsciiLowercase,
        List.map_append]
      constructor
      · intro same
        exact List.append_inj same rfl
      · rintro ⟨first, others⟩
        exact congrArg₂ (· ++ ·) first others

/-! ## Exactness -/

/-- The decoder returns, accepts exactly the digits in pairs that are within
its limit, and what it returns is written as the text in lower case. -/
structure DecodesExactly {Error : Type}
    (outcome : Outcome ExpectPanic Error (List UInt8)) (within : Prop)
    (value : Text) : Prop where
  returns : outcome.Returned
  accepts : (∃ bytes, outcome = .ok bytes) ↔
    value ≠ [] ∧ (Text.utf8 value).length % 2 = 0 ∧
      (∀ character ∈ value, Text.isDigit 16 character = true) ∧ within
  canonical : ∀ bytes, outcome = .ok bytes →
    (Hex.encode bytes).toList = Text.toAsciiLowercase value

/-- The bytes come in pairs, and either a pair that is not UTF-8 stands behind
numerals, or there are numerals only and one of them has a sign. -/
def Misread (value : Text) : Prop :=
  (Text.utf8 value).length % 2 = 0 ∧
    (CutsCharacter (chunksExact2 (Text.utf8 value)) ∨
      (∀ pair ∈ chunksExact2 (Text.utf8 value), NumeralPair pair) ∧
        ∃ pair ∈ chunksExact2 (Text.utf8 value), byteChar pair.1 = '+')

theorem digits_iff_pairs {value : Text}
    (even : (Text.utf8 value).length % 2 = 0) :
    (∀ character ∈ value, Text.isDigit 16 character = true) ↔
      (∀ pair ∈ chunksExact2 (Text.utf8 value), NumeralPair pair) ∧
        ∀ pair ∈ chunksExact2 (Text.utf8 value), byteChar pair.1 ≠ '+' := by
  have bytes := pairBytes_chunksExact2 even
  constructor
  · intro digits
    have ascii : ∀ character ∈ value, character.toNat < 128 := by
      intro character member
      have visible := Text.visible_of_isDigit (digits character member)
      rw [Text.IsVisible] at visible
      omega
    have hex : ∀ byte ∈ Text.utf8 value, isHexByte byte = true := by
      intro byte member
      rw [Text.utf8_of_ascii ascii] at member
      obtain ⟨character, inValue, rfl⟩ := List.mem_map.mp member
      have small := ascii character inValue
      have same : byteChar (UInt8.ofNat character.toNat) = character := by
        apply Char.toNat_inj.mp
        rw [toNat_byteChar, UInt8.toNat_ofNat']
        omega
      rw [isHexByte, same]
      exact digits character inValue
    have inBytes : ∀ pair ∈ chunksExact2 (Text.utf8 value),
        ∀ byte ∈ [pair.1, pair.2], byte ∈ Text.utf8 value := by
      intro pair inPairs byte inside
      rw [← bytes]
      exact List.mem_flatMap.mpr ⟨pair, inPairs, inside⟩
    constructor
    · intro pair member
      exact ⟨.inl (hex _ (inBytes pair member _ (by simp))),
        hex _ (inBytes pair member _ (by simp))⟩
    · intro pair member plus
      have first := hex _ (inBytes pair member pair.1 (by simp))
      rw [isHexByte, plus] at first
      revert first
      decide
  · rintro ⟨numerals, unsigned⟩ character member
    have ascii : ∀ byte ∈ Text.utf8 value, byte.toNat < 128 := by
      rw [← bytes]
      exact ascii_of_numerals numerals
    rw [eq_byteChars ascii, ← bytes] at member
    obtain ⟨byte, inBytes, rfl⟩ := List.mem_map.mp member
    obtain ⟨pair, inPairs, inside⟩ := List.mem_flatMap.mp inBytes
    have numeral := numerals pair inPairs
    rcases List.mem_pair.mp inside with rfl | rfl
    · exact numeral.first.resolve_right (unsigned pair inPairs)
    · exact numeral.second

section Exactness

variable {Error : Type} {expectation : String} {refusal failure : Error}

theorem decodesExactly_of_refused {within : Prop} {value : Text}
    (outside : ¬(value ≠ [] ∧ (Text.utf8 value).length % 2 = 0 ∧ within)) :
    DecodesExactly (.err refusal) within value := by
  refine ⟨trivial, ?_, ?_⟩
  · constructor
    · rintro ⟨bytes, accepted⟩
      cases accepted
    · rintro ⟨filled, even, _, inside⟩
      exact absurd ⟨filled, even, inside⟩ outside
  · intro bytes accepted
    cases accepted

theorem decodesExactly_pairs_iff {within : Prop} {value : Text}
    (filled : value ≠ []) (even : (Text.utf8 value).length % 2 = 0)
    (inside : within) :
    DecodesExactly (decodePairs expectation failure
        (chunksExact2 (Text.utf8 value))) within value ↔ ¬Misread value := by
  have bytes := pairBytes_chunksExact2 even
  rw [Misread, not_and, not_or, not_and]
  constructor
  · intro exact _
    refine ⟨returned_decodePairs_iff.mp exact.returns, ?_⟩
    intro numerals signed
    obtain ⟨pair, inPairs, plus⟩ := signed
    have accepted := exact.accepts.mp
      ⟨_, decodePairs_eq_ok_iff.mpr ⟨numerals, rfl⟩⟩
    exact ((digits_iff_pairs even).mp accepted.2.2.1).2 pair inPairs plus
  · intro read
    obtain ⟨uncut, unsigned⟩ := read even
    have unsigned : (∀ pair ∈ chunksExact2 (Text.utf8 value),
        NumeralPair pair) → ∀ pair ∈ chunksExact2 (Text.utf8 value),
          byteChar pair.1 ≠ '+' := by
      intro numerals pair inPairs plus
      exact unsigned numerals ⟨pair, inPairs, plus⟩
    refine ⟨returned_decodePairs_iff.mpr uncut, ?_, ?_⟩
    · rw [digits_iff_pairs even]
      constructor
      · rintro ⟨decoded, accepted⟩
        obtain ⟨numerals, _⟩ := decodePairs_eq_ok_iff.mp accepted
        exact ⟨filled, even, ⟨numerals, unsigned numerals⟩, inside⟩
      · rintro ⟨_, _, ⟨numerals, _⟩, _⟩
        exact ⟨_, decodePairs_eq_ok_iff.mpr ⟨numerals, rfl⟩⟩
    · intro decoded accepted
      obtain ⟨numerals, rfl⟩ := decodePairs_eq_ok_iff.mp accepted
      have ascii : ∀ byte ∈ Text.utf8 value, byte.toNat < 128 := by
        rw [← bytes]
        exact ascii_of_numerals numerals
      rw [(encode_pairs_iff numerals).mpr (unsigned numerals), bytes,
        ← eq_byteChars ascii]

theorem Misread.ne_nil {value : Text} (misread : Misread value) :
    value ≠ [] := by
  rintro rfl
  rcases misread.2 with ⟨front, pair, back, split, _⟩ | ⟨_, pair, member, _⟩
  · simp [chunksExact2] at split
  · simp [chunksExact2] at member

/-- A decoder that refuses what cannot be pairs of its length first is exact
but for misread texts. -/
theorem decodesExactly_iff {refused within : Prop} [Decidable refused]
    {value : Text}
    (outside : refused ↔
      ¬(value ≠ [] ∧ (Text.utf8 value).length % 2 = 0 ∧ within)) :
    DecodesExactly (if refused then .err refusal
        else decodePairs expectation failure
          (chunksExact2 (Text.utf8 value))) within value ↔
      ¬(Misread value ∧ within) := by
  split
  next isRefused =>
      have shut := outside.mp isRefused
      have exact : DecodesExactly (.err refusal) within value :=
        decodesExactly_of_refused shut
      simp only [exact, true_iff]
      rintro ⟨misread, inside⟩
      exact shut ⟨misread.ne_nil, misread.1, inside⟩
  next isRead =>
      obtain ⟨filled, even, inside⟩ := not_not.mp (mt outside.mpr isRead)
      rw [decodesExactly_pairs_iff filled even inside]
      simp [inside]

end Exactness

/-- The relay's decoder is exact but for misread texts within its limit. -/
theorem decodeSecret_exact_iff (value : Text) :
    DecodesExactly (decodeSecret value)
        ((Text.utf8 value).length / 2 ≤ Config.maxSecretBytes) value ↔
      ¬(Misread value ∧
        (Text.utf8 value).length / 2 ≤ Config.maxSecretBytes) := by
  apply decodesExactly_iff
  rw [Text.utf8_eq_nil_iff, not_and_or, not_and_or, not_not, Nat.not_le]

end Velum.Node
