import Velum.Foundation.Text

/-!
# JSON values

The values of a JSON document, and what is known of a pair of functions that
write them to texts and read them back.
-/

namespace Foundation

inductive Json where
  | null
  | bool (value : Bool)
  | number (value : Int)
  | string (value : String)
  | array (items : List Json)
  | object (fields : List (String × Json))

namespace Json

/-- The value under a name; a missing name and an explicit null are the
same. -/
def field (fields : List (String × Json)) (name : String) : Json :=
  (fields.lookup name).getD .null

mutual

/-- Values that any library writes and reads back as they are: no object has a
name twice, and the numbers are integers of 64 bits. -/
def Portable : Json → Prop
  | .number value => -2 ^ 63 ≤ value ∧ value < 2 ^ 63
  | .array items => PortableItems items
  | .object fields => (fields.map Prod.fst).Nodup ∧ PortableFields fields
  | _ => True

def PortableItems : List Json → Prop
  | [] => True
  | item :: items => item.Portable ∧ PortableItems items

def PortableFields : List (String × Json) → Prop
  | [] => True
  | (_, value) :: fields => value.Portable ∧ PortableFields fields

end

theorem portableItems_of_forall {items : List Json}
    (every : ∀ item ∈ items, item.Portable) : PortableItems items := by
  induction items with
  | nil => trivial
  | cons item items induction =>
      refine ⟨every item List.mem_cons_self, induction ?_⟩
      intro other member
      exact every other (List.mem_cons_of_mem _ member)

end Json

/-! ## Compact texts -/

namespace Json

/-- How a character is written inside a string. -/
def escapeChar (character : Char) : Text :=
  if character = '"' then ['\\', '"']
  else if character = '\\' then ['\\', '\\']
  else if character.toNat = 0x08 then ['\\', 'b']
  else if character.toNat = 0x0C then ['\\', 'f']
  else if character = '\n' then ['\\', 'n']
  else if character = '\r' then ['\\', 'r']
  else if character = '\t' then ['\\', 't']
  else if character.toNat < 0x20 then
    ['\\', 'u', '0', '0', Nat.digitChar (character.toNat / 16),
      Nat.digitChar (character.toNat % 16)]
  else [character]

theorem escapeChar_of_plain {character : Char}
    (printed : 0x20 ≤ character.toNat) (quote : character ≠ '"')
    (backslash : character ≠ '\\') : escapeChar character = [character] := by
  have controls : ∀ control : Char, control.toNat < 0x20 →
      character ≠ control := by
    intro control below same
    rw [same] at printed
    omega
  have line := controls '\n' (by decide)
  have carriage := controls '\r' (by decide)
  have tab := controls '\t' (by decide)
  have backspace : character.toNat ≠ 0x08 := by omega
  have feed : character.toNat ≠ 0x0C := by omega
  have control : ¬character.toNat < 0x20 := by omega
  simp [escapeChar, quote, backslash, line, carriage, tab, backspace, feed,
    control]

/-- The bytes of a text between the quotes of a string. -/
def escapedBytes (text : String) : Nat :=
  (Text.utf8 (text.toList.flatMap escapeChar)).length

def writeString (text : String) : Text :=
  '"' :: (text.toList.flatMap escapeChar ++ ['"'])

mutual

/-- The text of a value, without whitespace between its parts. -/
def write : Json → Text
  | .null => "null".toList
  | .bool true => "true".toList
  | .bool false => "false".toList
  | .number value => (toString value).toList
  | .string value => writeString value
  | .array items => '[' :: (writeItems items ++ [']'])
  | .object fields => '{' :: (writeFields fields ++ ['}'])

def writeItems : List Json → Text
  | [] => []
  | [item] => write item
  | item :: items => write item ++ ',' :: writeItems items

def writeFields : List (String × Json) → Text
  | [] => []
  | [(name, value)] => writeString name ++ ':' :: write value
  | (name, value) :: fields =>
      writeString name ++ ':' :: (write value ++ ',' :: writeFields fields)

end

/-! ### Lengths -/

theorem length_utf8_append (first second : Text) :
    (Text.utf8 (first ++ second)).length =
      (Text.utf8 first).length + (Text.utf8 second).length := by
  simp [Text.length_utf8]

theorem length_utf8_ascii {character : Char} (ascii : character.toNat < 128)
    (rest : Text) :
    (Text.utf8 (character :: rest)).length = (Text.utf8 rest).length + 1 := by
  have one : character.utf8Size = 1 := by
    rw [Char.utf8Size_eq_one_iff]
    exact Nat.le_of_lt_succ ascii
  simp [Text.length_utf8, one, Nat.add_comm]

theorem length_utf8_writeString (text : String) :
    (Text.utf8 (writeString text)).length = escapedBytes text + 2 := by
  rw [writeString, length_utf8_ascii (by decide), length_utf8_append,
    length_utf8_ascii (by decide)]
  rfl

theorem length_utf8_string (text : String) :
    (Text.utf8 (write (.string text))).length = escapedBytes text + 2 := by
  rw [write, length_utf8_writeString]

theorem length_utf8_number (value : Nat) :
    (Text.utf8 (write (.number value))).length =
      (Nat.toDigits 10 value).length := by
  have digits : write (.number value) = Nat.toDigits 10 value := by
    rw [write]
    exact String.toList_ofList
  rw [digits, Text.utf8_of_ascii, List.length_map]
  intro character member
  have visible := Text.visible_of_isDigit (Text.isDigit_toDigits member)
  rw [Text.IsVisible] at visible
  omega

theorem length_utf8_object (fields : List (String × Json)) :
    (Text.utf8 (write (.object fields))).length =
      (Text.utf8 (writeFields fields)).length + 2 := by
  rw [write, length_utf8_ascii (by decide), length_utf8_append,
    length_utf8_ascii (by decide)]
  rfl

theorem length_utf8_field (name : String) (value : Json)
    (next : String × Json) (fields : List (String × Json)) :
    (Text.utf8 (writeFields ((name, value) :: next :: fields))).length =
      escapedBytes name + 4 + (Text.utf8 (write value)).length +
        (Text.utf8 (writeFields (next :: fields))).length := by
  rw [writeFields, length_utf8_append, length_utf8_writeString,
    length_utf8_ascii (by decide), length_utf8_append,
    length_utf8_ascii (by decide)]
  · omega
  · simp

theorem length_utf8_lastField (name : String) (value : Json) :
    (Text.utf8 (writeFields [(name, value)])).length =
      escapedBytes name + 3 + (Text.utf8 (write value)).length := by
  rw [writeFields, length_utf8_append, length_utf8_writeString,
    length_utf8_ascii (by decide)]
  omega

end Json

/-- Writing and reading of JSON texts. -/
structure JsonCodec (Text : Type) where
  encode : Json → Text
  decode : Text → Option Json
  length : Text → Nat
  decode_encode : ∀ value : Json, value.Portable →
    decode (encode value) = some value

end Foundation
