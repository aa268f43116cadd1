import Velum.Foundation.Hex
import Mathlib.Data.Bool.AllAny
import Mathlib.Data.List.DropRight

/-!
# Texts

Texts are lists of characters.  Whitespace is the `White_Space` property of
Unicode.  Splitting at one character is `List.splitOn`; this module adds the
cuts that a program makes elsewhere (at whitespace, at the first or the last
separator), the encoding in UTF-8, and decimal numerals.
-/

namespace Foundation

abbrev Text := List Char

namespace Text

def isWhitespace (character : Char) : Bool :=
  decide (9 ≤ character.toNat ∧ character.toNat ≤ 13) ||
    decide (0x2000 ≤ character.toNat ∧ character.toNat ≤ 0x200A) ||
    [0x20, 0x85, 0xA0, 0x1680, 0x2028, 0x2029, 0x202F, 0x205F,
      0x3000].contains character.toNat

def isAsciiControl (character : Char) : Bool :=
  decide (character.toNat < 0x20 ∨ character.toNat = 0x7F)

/-- The text without the characters at its two ends that satisfy `drops`. -/
def trimMatches (drops : Char → Bool) (text : Text) : Text :=
  (text.dropWhile drops).rdropWhile drops

def trim (text : Text) : Text :=
  trimMatches isWhitespace text

def toAsciiLowercase (text : Text) : Text :=
  text.map Char.toLower

def splitWhitespace (text : Text) : List Text :=
  (text.splitOnP isWhitespace).filter (· ≠ [])

/-- The parts before and after the first separator. -/
def splitOnce (separator : Char) (text : Text) : Option (Text × Text) :=
  if separator ∈ text then
    some (text.takeWhile (· ≠ separator),
      (text.dropWhile (· ≠ separator)).tail)
  else none

/-- The parts before and after the last separator. -/
def rsplitOnce (separator : Char) (text : Text) : Option (Text × Text) :=
  (splitOnce separator text.reverse).map fun (back, front) =>
    (front.reverse, back.reverse)

/-- The length in units of UTF-16. -/
def utf16Length (text : Text) : Nat :=
  (text.map fun character =>
    if character.toNat < 0x10000 then 1 else 2).sum

def utf8 (text : Text) : List UInt8 :=
  text.flatMap String.utf8EncodeChar

def fromUtf8 (bytes : List UInt8) : Option Text :=
  bytes.toByteArray.utf8Decode?.map Array.toList

/-- The value of a digit in a radix of at most sixteen. -/
def toDigit (radix : Nat) (character : Char) : Option Nat :=
  (Hex.digitValue character).filter (· < radix)

def isDigit (radix : Nat) (character : Char) : Bool :=
  (toDigit radix character).isSome

def numberOf (radix : Nat) (digits : Text) : Nat :=
  digits.foldl
    (fun value digit => value * radix + (toDigit radix digit).getD 0) 0

/-- The text after a plus sign, where it starts with one. -/
def withoutPlus (text : Text) : Text :=
  if text.head? = some '+' then text.tail else text

/-- A numeral for an unsigned integer below `limit`, with or without a plus
sign. -/
def fromStrRadix (radix limit : Nat) (text : Text) : Option Nat :=
  let digits := withoutPlus text
  if digits ≠ [] ∧ digits.all (isDigit radix) ∧
      numberOf radix digits < limit then
    some (numberOf radix digits)
  else none

/-- A decimal numeral for an unsigned integer below `limit`, with or without
a plus sign.  The value only grows along the digits, so that a machine that
checks each step for overflow refuses the same numerals. -/
def parseUnsigned (limit : Nat) (text : Text) : Option Nat :=
  let digits := withoutPlus text
  if digits ≠ [] ∧ digits.all (isDigit 10) ∧ numberOf 10 digits < limit then
    some (numberOf 10 digits)
  else none

/-! ## Whitespace and trimming -/

theorem splitWhitespace_word {word rest : Text} {separator : Char}
    (nonempty : word ≠ [])
    (solid : ∀ character ∈ word, isWhitespace character = false)
    (space : isWhitespace separator = true) :
    splitWhitespace (word ++ separator :: rest) =
      word :: splitWhitespace rest := by
  rw [splitWhitespace,
    List.splitOnP_append_cons_of_forall_mem solid separator space,
    List.filter_cons_of_pos (by simpa using nonempty), splitWhitespace]

theorem splitWhitespace_space {rest : Text} {separator : Char}
    (space : isWhitespace separator = true) :
    splitWhitespace (separator :: rest) = splitWhitespace rest := by
  have split := List.splitOnP_append_cons [] rest space
  rw [List.nil_append] at split
  rw [splitWhitespace, split]
  simp [splitWhitespace]

/-- Only whitespace has no words. -/
theorem splitWhitespace_eq_nil_iff (text : Text) :
    splitWhitespace text = [] ↔
      ∀ character ∈ text, isWhitespace character = true := by
  induction text with
  | nil => simp [splitWhitespace]
  | cons character rest induction =>
      cases space : isWhitespace character with
      | true =>
          rw [splitWhitespace_space space, induction]
          simp [space]
      | false =>
          obtain ⟨first, others, split⟩ := List.exists_cons_of_ne_nil
            (List.splitOnP_ne_nil isWhitespace rest)
          have words : splitWhitespace (character :: rest) ≠ [] := by
            rw [splitWhitespace, List.splitOnP_cons_eq_if_modifyHead, space,
              split]
            simp
          simp [words, space]

/-- The visible characters of ASCII are not whitespace. -/
theorem isWhitespace_of_codes {character : Char}
    (low : 33 ≤ character.toNat) (high : character.toNat ≤ 126) :
    isWhitespace character = false := by
  simp only [isWhitespace, Bool.or_eq_false_iff, decide_eq_false_iff_not,
    List.contains_eq_mem, List.mem_cons, List.not_mem_nil, or_false]
  omega

/-- The printable characters of ASCII but the space. -/
def IsVisible (character : Char) : Prop :=
  33 ≤ character.toNat ∧ character.toNat ≤ 126

instance (character : Char) : Decidable (IsVisible character) :=
  inferInstanceAs (Decidable (_ ∧ _))

theorem IsVisible.isWhitespace {character : Char}
    (visible : IsVisible character) : isWhitespace character = false :=
  isWhitespace_of_codes visible.1 visible.2

theorem IsVisible.isAsciiControl {character : Char}
    (visible : IsVisible character) : isAsciiControl character = false := by
  obtain ⟨low, high⟩ := visible
  simp only [Text.isAsciiControl, decide_eq_false_iff_not]
  omega

theorem isUpper_iff (character : Char) :
    character.isUpper = true ↔
      65 ≤ character.toNat ∧ character.toNat ≤ 90 :=
  decide_eq_true_iff

theorem isLower_iff (character : Char) :
    character.isLower = true ↔
      97 ≤ character.toNat ∧ character.toNat ≤ 122 := by
  refine Bool.and_eq_true_iff.trans ?_
  exact and_congr decide_eq_true_iff decide_eq_true_iff

theorem isDigit_iff (character : Char) :
    character.isDigit = true ↔
      48 ≤ character.toNat ∧ character.toNat ≤ 57 := by
  refine Bool.and_eq_true_iff.trans ?_
  exact and_congr decide_eq_true_iff decide_eq_true_iff

theorem isAlphanum_iff (character : Char) :
    character.isAlphanum = true ↔
      (48 ≤ character.toNat ∧ character.toNat ≤ 57) ∨
      (65 ≤ character.toNat ∧ character.toNat ≤ 90) ∨
      (97 ≤ character.toNat ∧ character.toNat ≤ 122) := by
  have classes : character.isAlphanum =
      (character.isUpper || character.isLower || character.isDigit) := rfl
  rw [classes, Bool.or_eq_true, Bool.or_eq_true, isUpper_iff, isLower_iff,
    isDigit_iff]
  omega

theorem codes_of_isAlphanum {character : Char}
    (alphanumeric : character.isAlphanum = true) :
    48 ≤ character.toNat ∧ character.toNat ≤ 122 := by
  have codes := (isAlphanum_iff character).mp alphanumeric
  omega

theorem visible_of_isAlphanum {character : Char}
    (alphanumeric : character.isAlphanum = true) : IsVisible character := by
  have codes := codes_of_isAlphanum alphanumeric
  exact ⟨by omega, by omega⟩

/-- A trimmed text stands in the original. -/
theorem trimMatches_sublist (drops : Char → Bool) (text : Text) :
    (trimMatches drops text).Sublist text :=
  (List.rdropWhile_prefix drops (text.dropWhile drops)).sublist.trans
    (List.dropWhile_suffix drops).sublist

theorem dropWhile_congr {drops others : Char → Bool} {text : Text}
    (same : ∀ character ∈ text, drops character = others character) :
    text.dropWhile drops = text.dropWhile others := by
  induction text with
  | nil => rfl
  | cons character rest induction =>
      rw [List.forall_mem_cons] at same
      rw [List.dropWhile_cons, List.dropWhile_cons, same.1, induction same.2]

theorem trimMatches_congr {drops others : Char → Bool} {text : Text}
    (same : ∀ character ∈ text, drops character = others character) :
    trimMatches drops text = trimMatches others text := by
  rw [trimMatches, trimMatches, dropWhile_congr same, List.rdropWhile,
    List.rdropWhile, dropWhile_congr]
  intro character member
  exact same character ((List.dropWhile_suffix others).subset
    (List.mem_reverse.mp member))

/-- A text that neither starts nor ends in whitespace is trimmed already. -/
theorem trimMatches_eq_self {drops : Char → Bool} {text : Text}
    (first : ∀ character, text.head? = some character →
      drops character = false)
    (last : ∀ character, text.getLast? = some character →
      drops character = false) : trimMatches drops text = text := by
  have front : text.dropWhile drops = text := by
    cases text with
    | nil => rfl
    | cons character rest => simp [first character rfl]
  rw [trimMatches, front, List.rdropWhile_eq_self_iff]
  intro nonempty
  rw [last _ (List.getLast?_eq_some_getLast nonempty)]
  decide

/-- Trimming a line takes its end away. -/
theorem trim_line {line : Text} (filled : line ≠ [])
    (solid : ∀ character ∈ line, isWhitespace character = false) :
    trim (line ++ ['\n']) = line := by
  have stands : trim line = line := by
    apply trimMatches_eq_self
    · intro character first
      exact solid character (List.mem_of_mem_head? first)
    · intro character last
      exact solid character (List.mem_of_getLast? last)
  obtain ⟨first, rest, rfl⟩ := List.exists_cons_of_ne_nil filled
  have head := solid first List.mem_cons_self
  have space : isWhitespace '\n' = true := by decide
  rw [trim, trimMatches, List.cons_append,
    List.dropWhile_cons_of_neg (by simp [head]), ← List.cons_append,
    List.rdropWhile_concat_pos _ _ _ space]
  rwa [trim, trimMatches,
    List.dropWhile_cons_of_neg (by simp [head])] at stands

/-- The first character of a trimmed text stays. -/
theorem head?_trimMatches {drops : Char → Bool} {text : Text}
    {character : Char}
    (first : (trimMatches drops text).head? = some character) :
    drops character = false := by
  obtain ⟨rest, same⟩ := List.rdropWhile_prefix drops (text.dropWhile drops)
  obtain ⟨tail, spelled⟩ := List.head?_eq_some_iff.mp first
  rw [trimMatches] at spelled
  rw [spelled] at same
  have nonempty : text.dropWhile drops ≠ [] := by
    rw [← same]
    simp
  have stops := List.head_dropWhile_not drops nonempty
  simpa [← same] using stops

/-! ## Cuts at a separator -/

theorem eq_of_splitOnce {separator : Char} {text before after : Text}
    (split : splitOnce separator text = some (before, after)) :
    text = before ++ separator :: after := by
  rw [splitOnce] at split
  split at split
  next present =>
      obtain ⟨rfl, rfl⟩ := Prod.mk.inj (Option.some.inj split)
      have left : text.dropWhile (· ≠ separator) ≠ [] := by
        rw [Ne, List.dropWhile_eq_nil_iff]
        intro absent
        simpa using absent separator present
      obtain ⟨head, rest, dropped⟩ := List.exists_cons_of_ne_nil left
      have stops := List.head_dropWhile_not (· ≠ separator) left
      have same : head = separator := by
        simp only [dropped, List.head_cons] at stops
        simpa using stops
      calc text = text.takeWhile (· ≠ separator) ++
            text.dropWhile (· ≠ separator) :=
              List.takeWhile_append_dropWhile.symm
        _ = text.takeWhile (· ≠ separator) ++ separator ::
            (text.dropWhile (· ≠ separator)).tail := by
              rw [dropped, same, List.tail_cons]
  next => cases split

theorem splitOnce_of_not_mem {separator : Char} {before : Text}
    (absent : separator ∉ before) (after : Text) :
    splitOnce separator (before ++ separator :: after) =
      some (before, after) := by
  have present : separator ∈ before ++ separator :: after := by simp
  have passes : ∀ character ∈ before,
      decide (character ≠ separator) = true := by
    intro character member
    apply decide_eq_true
    rintro rfl
    exact absent member
  rw [splitOnce, if_pos present, List.takeWhile_append_of_pos passes,
    List.dropWhile_append_of_pos passes]
  simp

theorem eq_of_rsplitOnce {separator : Char} {text before after : Text}
    (split : rsplitOnce separator text = some (before, after)) :
    text = before ++ separator :: after := by
  obtain ⟨⟨back, front⟩, found, same⟩ := Option.map_eq_some_iff.mp split
  obtain ⟨rfl, rfl⟩ := Prod.mk.inj same
  have reversed := congrArg List.reverse (eq_of_splitOnce found)
  simpa using reversed

theorem intercalate_append (separator : Char) {first second : List Text}
    (firstNonempty : first ≠ []) (secondNonempty : second ≠ []) :
    [separator].intercalate (first ++ second) =
      [separator].intercalate first ++
        separator :: [separator].intercalate second := by
  induction first with
  | nil => exact absurd rfl firstNonempty
  | cons part rest induction =>
      by_cases none : rest = []
      · rw [none, List.singleton_append,
          List.intercalate_cons_of_ne_nil secondNonempty,
          List.intercalate_singleton]
        simp
      · rw [List.cons_append,
          List.intercalate_cons_of_ne_nil
            (List.append_ne_nil_of_left_ne_nil none _),
          induction none, List.intercalate_cons_of_ne_nil none]
        simp

/-- Every character but the separators stands in some part. -/
theorem exists_part_of_mem {separator character : Char} {text : Text}
    (other : character ≠ separator) (member : character ∈ text) :
    ∃ part ∈ text.splitOn separator, character ∈ part := by
  induction text with
  | nil => cases member
  | cons first rest induction =>
      rw [List.splitOn_cons_eq_if_modifyHead]
      split
      next separates =>
          rcases List.mem_cons.mp member with rfl | later
          · exact absurd (beq_iff_eq.mp separates) other
          · obtain ⟨part, inParts, found⟩ := induction later
            exact ⟨part, List.mem_cons_of_mem _ inParts, found⟩
      next =>
          obtain ⟨part, parts, split⟩ := List.exists_cons_of_ne_nil
            (List.splitOn_ne_nil separator rest)
          rw [split] at induction ⊢
          rw [List.modifyHead_cons]
          rcases List.mem_cons.mp member with rfl | later
          · exact ⟨character :: part, List.mem_cons_self, List.mem_cons_self⟩
          · obtain ⟨holder, inParts, found⟩ := induction later
            rcases List.mem_cons.mp inParts with rfl | inRest
            · exact ⟨first :: holder, List.mem_cons_self,
                List.mem_cons_of_mem _ found⟩
            · exact ⟨holder, List.mem_cons_of_mem _ inRest, found⟩

/-- No part of a text holds the separator. -/
theorem not_mem_of_mem_splitOn {separator : Char} {text part : Text}
    (member : part ∈ text.splitOn separator) : separator ∉ part := by
  induction text generalizing part with
  | nil =>
      obtain rfl := List.mem_singleton.mp member
      simp
  | cons first rest induction =>
      rw [List.splitOn_cons_eq_if_modifyHead] at member
      split at member
      next =>
          rcases List.mem_cons.mp member with rfl | later
          · simp
          · exact induction later
      next other =>
          obtain ⟨head, parts, split⟩ := List.exists_cons_of_ne_nil
            (List.splitOn_ne_nil separator rest)
          rw [split, List.modifyHead_cons] at member
          rcases List.mem_cons.mp member with rfl | later
          · have inner := @induction head (by simp [split])
            have different : separator ≠ first := by
              rintro rfl
              simp at other
            simp [different, inner]
          · exact induction (by simp [split, later])

/-- The parts of a text are the last parts of another exactly when the text
stands at its end, whole or after a separator. -/
theorem splitOn_suffix_iff (separator : Char) (tail text : Text) :
    tail.splitOn separator <:+ text.splitOn separator ↔
      text = tail ∨ ∃ front, text = front ++ separator :: tail := by
  constructor
  · rintro ⟨parts, same⟩
    have joined := congrArg [separator].intercalate same
    rw [List.intercalate_splitOn] at joined
    by_cases none : parts = []
    · rw [none, List.nil_append, List.intercalate_splitOn] at joined
      exact .inl joined.symm
    · refine .inr ⟨[separator].intercalate parts, ?_⟩
      rw [← joined, intercalate_append separator none
        (List.splitOn_ne_nil separator tail), List.intercalate_splitOn]
  · rintro (rfl | ⟨front, rfl⟩)
    · exact List.suffix_refl _
    · rw [List.splitOn_append_cons_self]
      exact List.suffix_append _ _

/-- The texts of numbered lines, without the blank ones. -/
theorem map_fst_numbered (clean : Text → Text) (lines : List Text)
    (start : Nat) :
    ((lines.zipIdx start).filterMap fun (line, number) =>
      if clean line = [] then none else some (clean line, number)).map
        Prod.fst = (lines.map clean).filter (· ≠ []) := by
  induction lines generalizing start with
  | nil => rfl
  | cons line rest induction =>
      rw [List.zipIdx_cons, List.map_cons]
      by_cases blank : clean line = []
      · rw [List.filterMap_cons_none (by simp [blank]), induction,
          List.filter_cons_of_neg (by simp [blank])]
      · rw [List.filterMap_cons_some (b := (clean line, start))
            (by simp [blank]),
          List.map_cons, induction, List.filter_cons_of_pos (by simp [blank])]

/-! ## UTF-8 -/

theorem utf8_of_fromUtf8 {bytes : List UInt8} {text : Text}
    (decoded : fromUtf8 bytes = some text) : utf8 text = bytes := by
  obtain ⟨characters, found, rfl⟩ := Option.map_eq_some_iff.mp decoded
  have encoded := @ByteArray.utf8Encode_get_utf8Decode? bytes.toByteArray
    (by rw [found]; rfl)
  simp only [found, Option.get_some, List.utf8Encode] at encoded
  simpa [utf8] using congrArg (fun array => array.data.toList) encoded

theorem fromUtf8_utf8 (text : Text) : fromUtf8 (utf8 text) = some text := by
  have decoded := @List.utf8Decode?_utf8Encode text
  rw [fromUtf8, utf8]
  rw [List.utf8Encode] at decoded
  simp [decoded]

theorem utf8_inj {first second : Text} (same : utf8 first = utf8 second) :
    first = second := by
  have decoded := congrArg fromUtf8 same
  rw [fromUtf8_utf8, fromUtf8_utf8] at decoded
  exact Option.some.inj decoded

@[simp] theorem utf8_append (first second : Text) :
    utf8 (first ++ second) = utf8 first ++ utf8 second :=
  List.flatMap_append

@[simp] theorem utf8_nil : utf8 [] = [] := rfl

@[simp] theorem utf8_eq_nil_iff (text : Text) : utf8 text = [] ↔ text = [] := by
  cases text with
  | nil => simp
  | cons character rest =>
      have encoded := @String.utf8EncodeChar_ne_nil character
      simp [utf8, encoded]

/-- A continuation or leading byte of a long encoding has its high bit set. -/
theorem le_toNat_tagged {value bits tag : Nat} (positive : 0 < bits)
    (tagged : 128 ≤ tag) (fits : tag + bits ≤ 256) :
    128 ≤ (UInt8.ofNat (value % bits + tag)).toNat := by
  have below := Nat.mod_lt value positive
  rw [UInt8.toNat_ofNat']
  omega

/-- A byte below 128 only ever encodes the character of that code. -/
theorem toNat_of_mem_utf8EncodeChar {character : Char} {byte : UInt8}
    (member : byte ∈ String.utf8EncodeChar character)
    (ascii : byte.toNat < 128) : character.toNat = byte.toNat := by
  by_cases small : character.toNat ≤ 127
  · have single : byte = UInt8.ofNat character.toNat := by
      simpa [String.utf8EncodeChar, small] using member
    rw [single, UInt8.toNat_ofNat']
    omega
  · have high : 128 ≤ byte.toNat := by
      simp only [String.utf8EncodeChar, Char.toNat_val, if_neg small] at member
      split at member
      · simp only [List.mem_cons, List.not_mem_nil, or_false] at member
        rcases member with rfl | rfl <;> apply le_toNat_tagged <;> decide
      · split at member
        · simp only [List.mem_cons, List.not_mem_nil, or_false] at member
          rcases member with rfl | rfl | rfl <;> apply le_toNat_tagged <;>
            decide
        · simp only [List.mem_cons, List.not_mem_nil, or_false] at member
          rcases member with rfl | rfl | rfl | rfl <;>
            apply le_toNat_tagged <;> decide
    omega

theorem mem_utf8_iff_of_ascii {text : Text} (character : Char) {byte : UInt8}
    (code : character.toNat = byte.toNat) (ascii : byte.toNat < 128) :
    byte ∈ utf8 text ↔ character ∈ text := by
  rw [utf8, List.mem_flatMap]
  constructor
  · rintro ⟨found, member, encodes⟩
    have same := toNat_of_mem_utf8EncodeChar encodes ascii
    rw [← code] at same
    rwa [Char.toNat_inj.mp same] at member
  · intro member
    refine ⟨character, member, ?_⟩
    have small : character.toNat ≤ 127 := by omega
    have single : String.utf8EncodeChar character =
        [UInt8.ofNat character.toNat] := by
      simp [String.utf8EncodeChar, small]
    rw [single, code, UInt8.ofNat_toNat]
    exact List.mem_singleton_self byte

theorem utf8_of_ascii {text : Text}
    (ascii : ∀ character ∈ text, character.toNat < 128) :
    utf8 text = text.map fun character => UInt8.ofNat character.toNat := by
  induction text with
  | nil => rfl
  | cons character rest induction =>
      rw [List.forall_mem_cons] at ascii
      have small : character.toNat ≤ 127 := by omega
      have single : String.utf8EncodeChar character =
          [UInt8.ofNat character.toNat] := by
        simp [String.utf8EncodeChar, small]
      have rest := induction ascii.2
      rw [utf8] at rest
      rw [utf8, List.flatMap_cons, single, rest]
      rfl

/-! ## Letter case -/

/-- Lower case moves the upper-case letters of ASCII and keeps the rest. -/
theorem toLower_cases (character : Char) :
    (65 ≤ character.toNat ∧ character.toNat ≤ 90 ∧
        character.toLower.toNat = character.toNat + 32) ∨
      (¬(65 ≤ character.toNat ∧ character.toNat ≤ 90) ∧
        character.toLower = character) := by
  have bounds : ('A'.val ≤ character.val ∧ character.val ≤ 'Z'.val) ↔
      65 ≤ character.toNat ∧ character.toNat ≤ 90 := Iff.rfl
  delta Char.toLower
  split
  next upper =>
      obtain ⟨low, high⟩ := bounds.mp upper
      refine .inl ⟨low, high, ?_⟩
      have same : character.val.toNat = character.toNat := rfl
      have offset : ('a'.val - 'A'.val).toNat = 32 := rfl
      rw [← Char.toNat_val, UInt32.toNat_add, same, offset]
      omega
  next other => exact .inr ⟨mt bounds.mpr other, rfl⟩

@[simp] theorem isAlphanum_toLower (character : Char) :
    character.toLower.isAlphanum = character.isAlphanum := by
  rcases toLower_cases character with ⟨low, high, moved⟩ | ⟨_, same⟩
  · rw [Bool.eq_iff_iff, isAlphanum_iff, isAlphanum_iff, moved]
    omega
  · rw [same]

@[simp] theorem toLower_toLower (character : Char) :
    character.toLower.toLower = character.toLower := by
  rcases toLower_cases character.toLower with ⟨low, high, _⟩ | ⟨_, same⟩
  · rcases toLower_cases character with ⟨_, _, moved⟩ | ⟨other, same⟩
    · omega
    · rw [same] at low high
      exact absurd ⟨low, high⟩ other
  · exact same

theorem toLower_eq_iff {character plain : Char}
    (unchanged : plain.isAlphanum = false) :
    character.toLower = plain ↔ character = plain := by
  have codes := mt (isAlphanum_iff plain).mpr (by simp [unchanged])
  rcases toLower_cases character with ⟨low, high, moved⟩ | ⟨_, same⟩
  · rw [← Char.toNat_inj, ← Char.toNat_inj, moved]
    omega
  · rw [same]

@[simp] theorem isWhitespace_toLower (character : Char) :
    isWhitespace character.toLower = isWhitespace character := by
  rcases toLower_cases character with ⟨low, high, moved⟩ | ⟨_, same⟩
  · rw [isWhitespace_of_codes (by omega) (by omega),
      isWhitespace_of_codes (by omega) (by omega)]
  · rw [same]

@[simp] theorem utf8Size_toLower (character : Char) :
    character.toLower.utf8Size = character.utf8Size := by
  rcases toLower_cases character with ⟨low, high, moved⟩ | ⟨_, same⟩
  · have small : character.toLower.toNat ≤ 127 := by omega
    have before : character.toNat ≤ 127 := by omega
    rw [← String.length_utf8EncodeChar, ← String.length_utf8EncodeChar]
    simp [String.utf8EncodeChar, small, before]
  · rw [same]

theorem length_utf8 (text : Text) :
    (utf8 text).length = (text.map Char.utf8Size).sum := by
  simp [utf8, List.length_flatMap]

@[simp] theorem length_utf8_toAsciiLowercase (text : Text) :
    (utf8 (toAsciiLowercase text)).length = (utf8 text).length := by
  simp [length_utf8, toAsciiLowercase, Function.comp_def]

@[simp] theorem toAsciiLowercase_toAsciiLowercase (text : Text) :
    toAsciiLowercase (toAsciiLowercase text) = toAsciiLowercase text := by
  simp [toAsciiLowercase, Function.comp_def]

theorem map_eq_self_iff {Item : Type} {change : Item → Item}
    {items : List Item} :
    items.map change = items ↔ ∀ item ∈ items, change item = item := by
  have whole := @List.map_inj_left Item Item items change id
  rwa [List.map_id] at whole

/-- Cutting at a character without case commutes with lower case. -/
theorem splitOn_toAsciiLowercase {separator : Char}
    (unchanged : separator.isAlphanum = false) (text : Text) :
    (toAsciiLowercase text).splitOn separator =
      (text.splitOn separator).map toAsciiLowercase := by
  induction text with
  | nil => rfl
  | cons character rest induction =>
      have same : (character.toLower == separator) =
          (character == separator) := by
        rw [Bool.eq_iff_iff, beq_iff_eq, beq_iff_eq, toLower_eq_iff unchanged]
      simp only [toAsciiLowercase, List.map_cons] at induction ⊢
      rw [List.splitOn_cons_eq_if_modifyHead,
        List.splitOn_cons_eq_if_modifyHead, same, induction]
      split
      · simp [toAsciiLowercase]
      · cases rest.splitOn separator <;> simp [toAsciiLowercase]

theorem length_utf8_le_of_sublist {part text : Text}
    (sublist : part.Sublist text) :
    (utf8 part).length ≤ (utf8 text).length := by
  rw [length_utf8, length_utf8]
  induction sublist with
  | slnil => exact Nat.le_refl _
  | cons character _ induction =>
      rw [List.map_cons, List.sum_cons]
      omega
  | cons_cons character _ induction =>
      rw [List.map_cons, List.map_cons, List.sum_cons, List.sum_cons]
      omega

/-! ## Numerals -/

theorem toDigit_ten_digitChar {value : Nat} (small : value < 10) :
    toDigit 10 (Nat.digitChar value) = some value := by
  rw [toDigit, Hex.digitValue_digitChar (by omega)]
  simp [small]

theorem isDigit_ten (character : Char) :
    isDigit 10 character = character.isDigit := by
  have bounds : character.isDigit =
      decide ('0' ≤ character ∧ character ≤ '9') := by
    rw [Bool.eq_iff_iff, decide_eq_true_iff, isDigit_iff]
    exact Iff.rfl
  rw [isDigit, toDigit, Hex.digitValue, bounds]
  split
  next decimal =>
      have upper : character.toNat ≤ '9'.toNat := decimal.2
      simp [Option.filter, decimal, show '0'.toNat = 48 from rfl]
      have : '9'.toNat = 57 := rfl
      omega
  next other =>
      split
      · simp [other]
      · split <;> simp [other]

theorem isDigit_of_le {radix wider : Nat} {character : Char}
    (within : radix ≤ wider) (digit : isDigit radix character = true) :
    isDigit wider character = true := by
  obtain ⟨value, found⟩ := Option.isSome_iff_exists.mp digit
  obtain ⟨known, below⟩ := Option.filter_eq_some_iff.mp found
  apply Option.isSome_iff_exists.mpr
  refine ⟨value, Option.filter_eq_some_iff.mpr ⟨known, ?_⟩⟩
  simp only [decide_eq_true_eq] at below ⊢
  omega

theorem visible_of_isDigit {radix : Nat} {character : Char}
    (digit : isDigit radix character = true) : IsVisible character := by
  have ranges : ('0' ≤ character ∧ character ≤ '9') ∨
      ('a' ≤ character ∧ character ≤ 'f') ∨
      ('A' ≤ character ∧ character ≤ 'F') := by
    by_contra outside
    simp only [not_or] at outside
    simp [isDigit, toDigit, Hex.digitValue, outside.1, outside.2.1,
      outside.2.2] at digit
  have codes : 48 ≤ character.toNat ∧ character.toNat ≤ 102 := by
    rcases ranges with ⟨low, high⟩ | ⟨low, high⟩ | ⟨low, high⟩
    · exact ⟨low, Nat.le_trans high (by decide)⟩
    · exact ⟨Nat.le_trans (by decide) low, high⟩
    · exact ⟨Nat.le_trans (by decide) low, Nat.le_trans high (by decide)⟩
  exact ⟨by omega, by omega⟩

theorem visible_of_fromStrRadix {radix limit value : Nat} {text : Text}
    (parsed : fromStrRadix radix limit text = some value) :
    ∀ character ∈ text, IsVisible character := by
  simp only [fromStrRadix] at parsed
  split at parsed
  next accepted =>
      intro character member
      have digits := List.all_eq_true.mp accepted.2.1
      by_cases signed : text.head? = some '+'
      · obtain ⟨rest, rfl⟩ := List.head?_eq_some_iff.mp signed
        rcases List.mem_cons.mp member with rfl | later
        · decide
        · exact visible_of_isDigit (digits character later)
      · rw [withoutPlus, if_neg signed] at digits
        exact visible_of_isDigit (digits character member)
  next => cases parsed

theorem visible_of_parseUnsigned {limit value : Nat} {text : Text}
    (parsed : parseUnsigned limit text = some value) :
    ∀ character ∈ text, IsVisible character :=
  @visible_of_fromStrRadix 10 limit value text parsed

theorem numberOf_append_singleton (radix : Nat) (digits : Text)
    (digit : Char) :
    numberOf radix (digits ++ [digit]) =
      numberOf radix digits * radix + (toDigit radix digit).getD 0 := by
  simp [numberOf]

/-- Reading a decimal numeral returns the number that was written. -/
theorem numberOf_toDigits (value : Nat) :
    numberOf 10 (Nat.toDigits 10 value) = value := by
  induction value using Nat.strongRecOn with
  | ind value induction =>
      by_cases small : value < 10
      · rw [Nat.toDigits_of_lt_base small]
        simp [numberOf, toDigit_ten_digitChar small]
      · rw [Nat.toDigits_of_base_le (by decide) (by omega),
          numberOf_append_singleton, induction (value / 10) (by omega),
          toDigit_ten_digitChar (Nat.mod_lt value (by decide))]
        simp only [Option.getD_some]
        omega

theorem isDigit_toDigits {value : Nat} {digit : Char}
    (member : digit ∈ Nat.toDigits 10 value) : isDigit 10 digit = true := by
  rw [isDigit_ten]
  exact Nat.isDigit_of_mem_toDigits (by decide) (by decide) member

theorem parseUnsigned_toDigits {value limit : Nat} (fits : value < limit) :
    parseUnsigned limit (Nat.toDigits 10 value) = some value := by
  have unsigned : withoutPlus (Nat.toDigits 10 value) =
      Nat.toDigits 10 value := by
    rw [withoutPlus, if_neg]
    intro plus
    have digit := isDigit_toDigits (List.mem_of_mem_head? plus)
    revert digit
    decide
  have digits : (Nat.toDigits 10 value).all (isDigit 10) = true :=
    List.all_eq_true.mpr fun _ => isDigit_toDigits
  simp [parseUnsigned, unsigned, digits, numberOf_toDigits, fits]

/-- A decimal numeral starts with a zero only where it is the zero. -/
theorem eq_zero_of_head?_toDigits {value : Nat}
    (leading : (Nat.toDigits 10 value).head? = some '0') : value = 0 := by
  induction value using Nat.strongRecOn with
  | ind value induction =>
      by_cases small : value < 10
      · rw [Nat.toDigits_of_lt_base small] at leading
        simpa using leading
      · rw [Nat.toDigits_of_base_le (by decide) (by omega),
          List.head?_append_of_ne_nil _ Nat.toDigits_ne_nil] at leading
        have zero := induction (value / 10) (by omega) leading
        omega

end Text

end Foundation
