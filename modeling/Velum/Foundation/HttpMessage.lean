import Mathlib.Data.List.Basic
import Mathlib.Data.List.DropRight
import Velum.Foundation.Text

/-!
# Responses of HTTP/1.1

A reader takes the status line and the fields line by line, up to an empty
line, and then as many bytes as the content length says; a response to `HEAD`
has no body whatever its content length.  Reading a written response returns
it, and what follows it, provided that no line holds a line end.
-/

namespace Foundation

abbrev Bytes := List UInt8

namespace HttpMessage

def carriageReturn : UInt8 := 13

def lineFeed : UInt8 := 10

def crlf : Bytes := [carriageReturn, lineFeed]

/-- The line up to the first line end, and what follows it. -/
def cutLine : Bytes → Option (Bytes × Bytes)
  | [] => none
  | byte :: rest =>
      if byte = carriageReturn ∧ rest.head? = some lineFeed then
        some ([], rest.tail)
      else (cutLine rest).map fun cut => (byte :: cut.1, cut.2)

/-- Optional white space: spaces and tabs. -/
def isOptionalSpace (byte : UInt8) : Bool :=
  byte = 32 || byte = 9

def stripSpace (value : Bytes) : Bytes :=
  (value.dropWhile isOptionalSpace).rdropWhile isOptionalSpace

structure Field where
  name : Bytes
  value : Bytes
  deriving DecidableEq

def colon : UInt8 := 58

/-- The parts before and after the first colon. -/
def cutField (line : Bytes) : Option Field :=
  if colon ∈ line then
    some ⟨line.takeWhile (· ≠ colon),
      stripSpace (line.dropWhile (· ≠ colon)).tail⟩
  else none

/-- The fields up to an empty line, and what follows it. -/
def readFields : Nat → Bytes → Option (List Field × Bytes)
  | 0, _ => none
  | fuel + 1, bytes => do
      let (line, rest) ← cutLine bytes
      if line = [] then some ([], rest)
      else
        let field ← cutField line
        let (fields, after) ← readFields fuel rest
        some (field :: fields, after)

def toLower (byte : UInt8) : UInt8 :=
  if 65 ≤ byte ∧ byte ≤ 90 then byte + 32 else byte

/-- The digits of a number in decimal. -/
def decimal (number : Nat) : Bytes :=
  Text.utf8 (Nat.toDigits 10 number)

def parseDecimal (digits : Bytes) : Option Nat := do
  let text ← Text.fromUtf8 digits
  if text ≠ [] ∧ text.all (Text.isDigit 10) then
    some (Text.numberOf 10 text)
  else none

def contentLengthName : Bytes := Text.utf8 "content-length".toList

/-- The content length of the first field of that name. -/
def contentLength (fields : List Field) : Option Nat := do
  let field ← fields.find? fun field =>
    field.name.map toLower = contentLengthName
  parseDecimal field.value

structure Response where
  statusLine : Bytes
  fields : List Field
  body : Bytes
  deriving DecidableEq

/-- One response from a stream, and what follows it. -/
def Response.read (toHead : Bool) (stream : Bytes) :
    Option (Response × Bytes) := do
  let (statusLine, rest) ← cutLine stream
  let (fields, after) ← readFields (rest.length + 1) rest
  if toHead then some (⟨statusLine, fields, []⟩, after)
  else
    let length ← contentLength fields
    if length ≤ after.length then
      some (⟨statusLine, fields, after.take length⟩, after.drop length)
    else none

def Field.line (field : Field) : Bytes :=
  field.name ++ colon :: 32 :: field.value

def writeHead (statusLine : Bytes) (fields : List Field) : Bytes :=
  statusLine ++ crlf ++
    (fields.flatMap fun field => field.line ++ crlf) ++ crlf

/-! ## Reading what was written -/

theorem cutLine_crlf {line : Bytes} (unbroken : carriageReturn ∉ line)
    (rest : Bytes) : cutLine (line ++ crlf ++ rest) = some (line, rest) := by
  induction line with
  | nil => rfl
  | cons byte line induction =>
      rw [List.mem_cons, not_or] at unbroken
      have later := induction unbroken.2
      have inner : ¬(byte = carriageReturn ∧
          (line ++ crlf ++ rest).head? = some lineFeed) :=
        fun broken => unbroken.1 broken.1.symm
      rw [List.cons_append, List.cons_append, cutLine, if_neg inner, later]
      rfl

/-- A field that can be written on a line of its own. -/
structure Field.Plain (field : Field) : Prop where
  name : colon ∉ field.name ∧ carriageReturn ∉ field.name
  value : carriageReturn ∉ field.value

/-- The field as a reader sees it. -/
def Field.stripped (field : Field) : Field :=
  { field with value := stripSpace field.value }

theorem stripSpace_space (value : Bytes) :
    stripSpace (32 :: value) = stripSpace value := by
  rw [stripSpace, stripSpace, List.dropWhile_cons_of_pos rfl]

theorem cutField_line {field : Field} (plain : field.Plain) :
    cutField field.line = some field.stripped := by
  have before : ∀ byte ∈ field.name, decide (byte ≠ colon) = true := by
    intro byte member
    have other : byte ≠ colon := fun same => plain.name.1 (same ▸ member)
    exact decide_eq_true other
  rw [cutField, Field.line, if_pos (by simp)]
  rw [List.takeWhile_append_of_pos before,
    List.dropWhile_append_of_pos before]
  rw [List.takeWhile_cons_of_neg (by simp), List.dropWhile_cons_of_neg
    (by simp), List.append_nil, List.tail_cons, stripSpace_space]
  rfl

theorem Field.Plain.line_unbroken {field : Field} (plain : field.Plain) :
    carriageReturn ∉ field.line := by
  simp only [Field.line, List.mem_append, List.mem_cons, not_or]
  exact ⟨plain.name.2, by decide, by decide, plain.value⟩

theorem readFields_written {fields : List Field}
    (plain : ∀ field ∈ fields, field.Plain) {fuel : Nat}
    (enough : fields.length < fuel) (rest : Bytes) :
    readFields fuel ((fields.flatMap fun field => field.line ++ crlf) ++
      crlf ++ rest) = some (fields.map Field.stripped, rest) := by
  induction fields generalizing fuel with
  | nil =>
      obtain ⟨fuel, rfl⟩ := Nat.exists_eq_succ_of_ne_zero
        (Nat.ne_of_gt enough)
      have ends : cutLine (crlf ++ rest) = some ([], rest) :=
        cutLine_crlf List.not_mem_nil rest
      rw [readFields]
      simp [ends]
  | cons field fields induction =>
      obtain ⟨fuel, rfl⟩ := Nat.exists_eq_succ_of_ne_zero
        (Nat.ne_of_gt (Nat.lt_of_le_of_lt (Nat.zero_le _) enough))
      rw [List.forall_mem_cons] at plain
      rw [List.length_cons] at enough
      have later := induction plain.2 (Nat.lt_of_succ_lt_succ enough)
      have cut := cutLine_crlf plain.1.line_unbroken
        ((fields.flatMap fun field => field.line ++ crlf) ++ crlf ++ rest)
      have filled : field.line ≠ [] := by
        simp [Field.line]
      rw [readFields, List.flatMap_cons, List.append_assoc, List.append_assoc,
        ← List.append_assoc _ crlf rest, cut]
      rw [List.append_assoc] at later
      simp [filled, cutField_line plain.1, later]

theorem length_fields_le (fields : List Field) :
    fields.length ≤
      (fields.flatMap fun field => field.line ++ crlf).length := by
  induction fields with
  | nil => exact Nat.le_refl 0
  | cons field fields induction =>
      rw [List.flatMap_cons, List.length_append, List.length_cons]
      have two : (field.line ++ crlf).length ≥ 2 := by simp [crlf]
      omega

section Reading

variable {statusLine : Bytes} {fields : List Field}
  (unbroken : carriageReturn ∉ statusLine)
  (plain : ∀ field ∈ fields, field.Plain)

include unbroken in
theorem cutLine_head (rest : Bytes) :
    cutLine (writeHead statusLine fields ++ rest) = some (statusLine,
      (fields.flatMap fun field => field.line ++ crlf) ++ crlf ++ rest) := by
  rw [writeHead, List.append_assoc, List.append_assoc, ← List.append_assoc _
    crlf rest]
  exact cutLine_crlf unbroken _

include plain in
theorem readFields_head (rest : Bytes) :
    readFields (((fields.flatMap fun field => field.line ++ crlf) ++ crlf ++
        rest).length + 1)
      ((fields.flatMap fun field => field.line ++ crlf) ++ crlf ++ rest) =
        some (fields.map Field.stripped, rest) := by
  apply readFields_written plain
  have few := length_fields_le fields
  rw [List.length_append, List.length_append]
  omega

include unbroken plain in
/-- A response to `HEAD` ends with its head. -/
theorem read_toHead (rest : Bytes) :
    Response.read true (writeHead statusLine fields ++ rest) =
      some (⟨statusLine, fields.map Field.stripped, []⟩, rest) := by
  rw [Response.read, cutLine_head unbroken]
  simp only [Option.bind_eq_bind, Option.bind_some, readFields_head plain,
    if_true]

include unbroken plain in
/-- A response whose content length is the length of its body. -/
theorem read_body {body : Bytes}
    (length : contentLength (fields.map Field.stripped) = some body.length)
    (rest : Bytes) :
    Response.read false (writeHead statusLine fields ++ body ++ rest) =
      some (⟨statusLine, fields.map Field.stripped, body⟩, rest) := by
  rw [Response.read, List.append_assoc, cutLine_head unbroken]
  simp only [Option.bind_eq_bind, Option.bind_some, readFields_head plain,
    Bool.false_eq_true, if_false, length, List.take_left, List.drop_left]
  rw [if_pos (by simp)]

end Reading

theorem parseDecimal_decimal (number : Nat) :
    parseDecimal (decimal number) = some number := by
  rw [parseDecimal, decimal, Text.fromUtf8_utf8]
  have filled : Nat.toDigits 10 number ≠ [] := Nat.toDigits_ne_nil
  have digits : ∀ digit ∈ Nat.toDigits 10 number,
      Text.isDigit 10 digit = true := fun digit => Text.isDigit_toDigits
  simpa [filled, Text.numberOf_toDigits] using digits

/-- A numeral holds no byte that a reader takes for something else. -/
theorem not_mem_decimal {byte : UInt8} (character : Char) (number : Nat)
    (code : character.toNat = byte.toNat) (ascii : byte.toNat < 128)
    (other : Text.isDigit 10 character = false) : byte ∉ decimal number := by
  intro member
  rw [decimal, Text.mem_utf8_iff_of_ascii character code ascii] at member
  have digit := Text.isDigit_toDigits member
  rw [other] at digit
  cases digit

theorem stripSpace_decimal (number : Nat) :
    stripSpace (decimal number) = decimal number := by
  have filled : ∀ byte ∈ decimal number, isOptionalSpace byte = false := by
    intro byte member
    have space : byte ≠ 32 := by
      rintro rfl
      exact not_mem_decimal ' ' number rfl (by decide) (by decide) member
    have tab : byte ≠ 9 := by
      rintro rfl
      exact not_mem_decimal '\t' number rfl (by decide) (by decide) member
    simp [isOptionalSpace, space, tab]
  have front : (decimal number).dropWhile isOptionalSpace =
      decimal number := by
    apply List.dropWhile_eq_self_iff.mpr
    intro positive
    rw [filled _ (List.getElem_mem positive)]
    exact Bool.false_ne_true
  rw [stripSpace, front, List.rdropWhile_eq_self_iff]
  intro nonempty
  rw [filled _ (List.getLast_mem nonempty)]
  exact Bool.false_ne_true

/-- The content length that a writer gives in decimal. -/
theorem contentLength_written {before after : List Field} {own : Field}
    {length : Nat}
    (others : ∀ field ∈ before, field.name.map toLower ≠ contentLengthName)
    (named : own.name.map toLower = contentLengthName)
    (value : stripSpace own.value = decimal length) :
    contentLength ((before ++ own :: after).map Field.stripped) =
      some length := by
  have found : ((before ++ own :: after).map Field.stripped).find?
      (fun field => field.name.map toLower = contentLengthName) =
        some own.stripped := by
    have missed : (before.map Field.stripped).find?
        (fun field => field.name.map toLower = contentLengthName) = none := by
      apply List.find?_eq_none.mpr
      intro field member
      obtain ⟨plain, listed, rfl⟩ := List.mem_map.mp member
      rw [decide_eq_true_eq]
      exact others plain listed
    rw [List.map_append, List.find?_append, missed, Option.none_or,
      List.map_cons, List.find?_cons]
    simp only [Field.stripped, named, decide_true]
  rw [contentLength, found]
  simp only [Option.bind_eq_bind, Option.bind_some, Field.stripped, value]
  exact parseDecimal_decimal length

end HttpMessage

end Foundation
