import Velum.Foundation.Json
import Velum.Foundation.TextParser

/-!
# Reading JSON texts

A reader of compact texts.  Every value is read back from its text, in front of
anything that does not continue a number.
-/

namespace Foundation.Json

/-! ## Strings -/

/-- What a letter stands for behind a backslash. -/
def unescape (letter : Char) : Option Char :=
  if letter = '"' ∨ letter = '\\' ∨ letter = '/' then some letter
  else if letter = 'b' then some (Char.ofNat 0x08)
  else if letter = 'f' then some (Char.ofNat 0x0C)
  else if letter = 'n' then some '\n'
  else if letter = 'r' then some '\r'
  else if letter = 't' then some '\t'
  else none

/-- The character of four hexadecimal digits; one half of a surrogate pair is
none. -/
def readCode (digits : Text) : Option Char :=
  if digits.length = 4 ∧ digits.all (Text.isDigit 16) = true then
    if valid : (Text.numberOf 16 digits).isValidChar then
      some (Char.ofNatAux _ valid)
    else none
  else none

/-- What stands behind an opening quote: the string up to its closing quote,
and the rest. -/
def readString : Text → Option (Text × Text)
  | [] => none
  | character :: rest =>
      if character = '"' then some ([], rest)
      else if character = '\\' then
        match rest with
        | [] => none
        | letter :: rest =>
            if letter = 'u' then
              match rest with
              | first :: second :: third :: fourth :: rest => do
                  let code ← readCode [first, second, third, fourth]
                  let (text, rest) ← readString rest
                  return (code :: text, rest)
              | _ => none
            else do
              let plain ← unescape letter
              let (text, rest) ← readString rest
              return (plain :: text, rest)
      else if character.toNat < 0x20 then none
      else do
        let (text, rest) ← readString rest
        return (character :: text, rest)

theorem readString_letter {letter plain : Char} {rest text after : Text}
    (escaped : unescape letter = some plain) (other : letter ≠ 'u')
    (later : readString rest = some (text, after)) :
    readString ('\\' :: letter :: rest) = some (plain :: text, after) := by
  rw [readString.eq_def]
  simp [other, escaped, later]

theorem readString_code {first second third fourth code : Char}
    {rest text after : Text}
    (escaped : readCode [first, second, third, fourth] = some code)
    (later : readString rest = some (text, after)) :
    readString ('\\' :: 'u' :: first :: second :: third :: fourth :: rest) =
      some (code :: text, after) := by
  rw [readString.eq_def]
  simp [escaped, later]

theorem readString_plain {character : Char} {rest text after : Text}
    (quote : character ≠ '"') (backslash : character ≠ '\\')
    (printed : ¬character.toNat < 0x20)
    (later : readString rest = some (text, after)) :
    readString (character :: rest) = some (character :: text, after) := by
  rw [readString.eq_def]
  simp [quote, backslash, printed, later]

/-- A character is read back from its escape. -/
theorem readString_escapeChar (character : Char) {rest text after : Text}
    (later : readString rest = some (text, after)) :
    readString (escapeChar character ++ rest) =
      some (character :: text, after) := by
  have codes : ∀ code < 32, readCode ['0', '0', Nat.digitChar (code / 16),
      Nat.digitChar (code % 16)] = some (Char.ofNat code) := by
    decide
  have same : ∀ code, character.toNat = code → Char.ofNat code = character := by
    rintro code rfl
    exact Char.ofNat_toNat character
  unfold escapeChar
  split
  · rename_i quote
    rw [quote]
    exact readString_letter rfl (by decide) later
  split
  · rename_i backslash
    rw [backslash]
    exact readString_letter rfl (by decide) later
  split
  · rename_i backspace
    rw [← same _ backspace]
    exact readString_letter rfl (by decide) later
  split
  · rename_i feed
    rw [← same _ feed]
    exact readString_letter rfl (by decide) later
  split
  · rename_i line
    rw [line]
    exact readString_letter rfl (by decide) later
  split
  · rename_i carriage
    rw [carriage]
    exact readString_letter rfl (by decide) later
  split
  · rename_i tab
    rw [tab]
    exact readString_letter rfl (by decide) later
  split
  · rename_i control
    have escaped := codes _ control
    rw [Char.ofNat_toNat] at escaped
    exact readString_code escaped later
  · rename_i quote backslash _ _ _ _ _ printed
    exact readString_plain quote backslash printed later

theorem readString_escaped (text rest : Text) :
    readString (text.flatMap escapeChar ++ '"' :: rest) =
      some (text, rest) := by
  induction text with
  | nil =>
      rw [List.flatMap_nil, List.nil_append, readString.eq_def]
      simp
  | cons character text induction =>
      rw [List.flatMap_cons, List.append_assoc]
      exact readString_escapeChar character induction

/-! ## Values -/

def readLiteral (word : Text) (value : Json) : TextParser Json := fun text =>
  if word.isPrefixOf text then some (value, text.drop word.length) else none

/-- An integer; a fraction or an exponent is left behind. -/
def readInteger : TextParser Json
  | [] => none
  | character :: rest =>
      let negative := character = '-'
      let text := if negative then rest else character :: rest
      let digits := text.takeWhile (Text.isDigit 10)
      if digits = [] ∨ (digits.head? = some '0' ∧ 1 < digits.length) then none
      else
        let value : Int := Text.numberOf 10 digits
        some (.number (if negative then -value else value),
          text.dropWhile (Text.isDigit 10))

mutual

/-- The value at the front of a text, whose depth is bounded by `fuel`. -/
def readValue : Nat → TextParser Json
  | 0, _ => none
  | _ + 1, [] => none
  | fuel + 1, character :: rest =>
      if character = '"' then do
        let (text, rest) ← readString rest
        return (.string (String.ofList text), rest)
      else if character = '[' then
        if rest.head? = some ']' then some (.array [], rest.tail)
        else do
          let (items, rest) ← readItems fuel rest
          return (.array items, rest)
      else if character = '{' then
        if rest.head? = some '}' then some (.object [], rest.tail)
        else do
          let (fields, rest) ← readFields fuel rest
          return (.object fields, rest)
      else if character = 'n' then readLiteral "ull".toList .null rest
      else if character = 't' then readLiteral "rue".toList (.bool true) rest
      else if character = 'f' then readLiteral "alse".toList (.bool false) rest
      else readInteger (character :: rest)

def readItems : Nat → TextParser (List Json)
  | 0, _ => none
  | fuel + 1, text => do
      let (item, rest) ← readValue fuel text
      match rest with
      | [] => none
      | character :: rest =>
          if character = ']' then return ([item], rest)
          else if character = ',' then do
            let (items, rest) ← readItems fuel rest
            return (item :: items, rest)
          else none

def readFields : Nat → TextParser (List (String × Json))
  | 0, _ => none
  | fuel + 1, text => do
      let ((), rest) ← TextParser.readGivenChar '"' text
      let (name, rest) ← readString rest
      let ((), rest) ← TextParser.readGivenChar ':' rest
      let (value, rest) ← readValue fuel rest
      match rest with
      | [] => none
      | character :: rest =>
          if character = '}' then return ([(String.ofList name, value)], rest)
          else if character = ',' then do
            let (fields, rest) ← readFields fuel rest
            return ((String.ofList name, value) :: fields, rest)
          else none

end

/-- The value of a text that holds nothing else. -/
def read (text : Text) : Option Json :=
  TextParser.parseWith (readValue text.length) text

/-! ## Reading back -/

/-- What a number may stand in front of. -/
def Ends (rest : Text) : Prop :=
  ∀ character, rest.head? = some character → Text.isDigit 10 character = false

theorem ends_nil : Ends [] := by
  intro character impossible
  cases impossible

theorem ends_cons {character : Char} {rest : Text}
    (other : Text.isDigit 10 character = false) : Ends (character :: rest) := by
  intro found same
  cases same
  exact other

theorem digits_append {rest : Text} (ends : Ends rest) (value : Nat) :
    (Nat.toDigits 10 value ++ rest).takeWhile (Text.isDigit 10) =
        Nat.toDigits 10 value ∧
      (Nat.toDigits 10 value ++ rest).dropWhile (Text.isDigit 10) = rest := by
  have stops : rest.takeWhile (Text.isDigit 10) = [] ∧
      rest.dropWhile (Text.isDigit 10) = rest := by
    cases rest with
    | nil => simp
    | cons character others => simp [ends character rfl]
  constructor
  · rw [List.takeWhile_append_of_pos (fun _ => Text.isDigit_toDigits),
      stops.1, List.append_nil]
  · rw [List.dropWhile_append_of_pos (fun _ => Text.isDigit_toDigits), stops.2]

theorem canonical_toDigits (value : Nat) :
    ¬(Nat.toDigits 10 value = [] ∨ ((Nat.toDigits 10 value).head? = some '0' ∧
      1 < (Nat.toDigits 10 value).length)) := by
  rintro (empty | ⟨leading, long⟩)
  · exact Nat.toDigits_ne_nil empty
  · rw [Text.eq_zero_of_head?_toDigits leading, Nat.toDigits_zero] at long
    simp at long

theorem write_ofNat (value : Nat) :
    write (.number (.ofNat value)) = Nat.toDigits 10 value := by
  rw [write]
  exact String.toList_ofList

theorem write_negSucc (value : Nat) :
    write (.number (.negSucc value)) = '-' :: Nat.toDigits 10 (value + 1) := by
  have text : toString (Int.negSucc value) = "-" ++ Nat.repr (value + 1) := rfl
  rw [write, text, String.toList_append]
  exact congrArg (List.cons '-') String.toList_ofList

theorem readInteger_write {rest : Text} (ends : Ends rest) (value : Int) :
    readInteger (write (.number value) ++ rest) =
      some (.number value, rest) := by
  cases value with
  | ofNat value =>
      rw [write_ofNat]
      obtain ⟨taken, left⟩ := digits_append ends value
      have canonical := canonical_toDigits value
      have digits := fun digit (member : digit ∈ Nat.toDigits 10 value) =>
        Text.isDigit_toDigits member
      cases whole : Nat.toDigits 10 value with
      | nil => exact absurd (.inl whole) canonical
      | cons digit others =>
          have positive : ¬digit = '-' := by
            rintro rfl
            have isDigit := digits '-' (by simp [whole])
            exact absurd isDigit (by decide)
          rw [whole] at taken left canonical
          rw [List.cons_append] at taken left ⊢
          simp only [readInteger, positive, if_false, taken, left, canonical]
          rw [← whole, Text.numberOf_toDigits]
          simp
  | negSucc value =>
      rw [write_negSucc]
      obtain ⟨taken, left⟩ := digits_append ends (value + 1)
      have canonical := canonical_toDigits (value + 1)
      simp only [List.cons_append, readInteger, if_true, taken, left,
        canonical, if_false, Text.numberOf_toDigits]
      rfl

/-- An integer begins with a sign or a digit. -/
theorem write_number_eq_cons (value : Int) : ∃ character rest,
    write (.number value) = character :: rest ∧
      (character = '-' ∨ Text.isDigit 10 character = true) := by
  cases value with
  | ofNat value =>
      rw [write_ofNat]
      cases whole : Nat.toDigits 10 value with
      | nil => exact absurd (.inl whole) (canonical_toDigits value)
      | cons digit others =>
          refine ⟨digit, others, rfl, .inr ?_⟩
          exact @Text.isDigit_toDigits value digit (by simp [whole])
  | negSucc value => exact ⟨_, _, write_negSucc value, .inl rfl⟩

/-- No text of a value begins like the end of an array. -/
theorem write_eq_cons (value : Json) : ∃ character rest,
    write value = character :: rest ∧ character ≠ ']' := by
  cases value with
  | null => exact ⟨_, _, rfl, by decide⟩
  | bool value =>
      cases value with
      | false => exact ⟨_, _, rfl, by decide⟩
      | true => exact ⟨_, _, rfl, by decide⟩
  | number value =>
      obtain ⟨character, rest, text, number⟩ := write_number_eq_cons value
      refine ⟨character, rest, text, ?_⟩
      rintro rfl
      exact absurd number (by decide)
  | string value => exact ⟨_, _, by rw [write, writeString], by decide⟩
  | array items => exact ⟨_, _, by rw [write], by decide⟩
  | object fields => exact ⟨_, _, by rw [write], by decide⟩

theorem writeItems_cons (item next : Json) (items : List Json) :
    writeItems (item :: next :: items) =
      write item ++ ',' :: writeItems (next :: items) := by
  rw [writeItems]
  simp

theorem writeFields_cons (name : String) (value : Json)
    (next : String × Json) (fields : List (String × Json)) :
    writeFields ((name, value) :: next :: fields) =
      writeString name ++ ':' :: (write value ++
        ',' :: writeFields (next :: fields)) := by
  rw [writeFields]
  simp

section ReadingBack

/-- Values, items and fields with short texts are read back. -/
structure ReadsBack (fuel : Nat) : Prop where
  value : ∀ value rest, (write value).length ≤ fuel → Ends rest →
    readValue fuel (write value ++ rest) = some (value, rest)
  items : ∀ items rest, items ≠ [] → (writeItems items).length < fuel →
    readItems fuel (writeItems items ++ ']' :: rest) = some (items, rest)
  fields : ∀ fields rest, fields ≠ [] → (writeFields fields).length < fuel →
    readFields fuel (writeFields fields ++ '}' :: rest) = some (fields, rest)

variable {fuel : Nat}

theorem readsBack_zero : ReadsBack 0 where
  value := by
    intro value rest short
    obtain ⟨character, others, same, _⟩ := write_eq_cons value
    rw [same] at short
    cases short
  items := by
    intro items rest _ short
    cases short
  fields := by
    intro fields rest _ short
    cases short

theorem ReadsBack.readValue_string (text : String) (rest : Text) :
    readValue (fuel + 1) (write (.string text) ++ rest) =
      some (.string text, rest) := by
  have read := readString_escaped text.toList rest
  simp [write, writeString, readValue, read]

theorem ReadsBack.readValue_array (reads : ReadsBack fuel) (items : List Json)
    (rest : Text) (short : (write (.array items)).length ≤ fuel + 1) :
    readValue (fuel + 1) (write (.array items) ++ rest) =
      some (.array items, rest) := by
  cases items with
  | nil => simp [write, writeItems, readValue]
  | cons item items =>
      rw [write, List.length_cons, List.length_append, List.length_cons,
        List.length_nil] at short
      have inner := reads.items (item :: items) rest (by simp) (by omega)
      obtain ⟨character, others, first, other⟩ := write_eq_cons item
      have begins : ∃ more, writeItems (item :: items) ++ ']' :: rest =
          character :: more := by
        cases items with
        | nil => exact ⟨_, by rw [writeItems, first]; rfl⟩
        | cons next items => exact ⟨_, by rw [writeItems_cons, first]; rfl⟩
      obtain ⟨more, begins⟩ := begins
      have text : write (.array (item :: items)) ++ rest =
          '[' :: (writeItems (item :: items) ++ ']' :: rest) := by
        rw [write]
        simp
      rw [text, readValue, inner, begins]
      simp [other]

theorem ReadsBack.readValue_object (reads : ReadsBack fuel)
    (fields : List (String × Json)) (rest : Text)
    (short : (write (.object fields)).length ≤ fuel + 1) :
    readValue (fuel + 1) (write (.object fields) ++ rest) =
      some (.object fields, rest) := by
  cases fields with
  | nil => simp [write, writeFields, readValue]
  | cons field fields =>
      rw [write, List.length_cons, List.length_append, List.length_cons,
        List.length_nil] at short
      have inner := reads.fields (field :: fields) rest (by simp) (by omega)
      have begins : ∃ more, writeFields (field :: fields) ++ '}' :: rest =
          '"' :: more := by
        cases fields with
        | nil => exact ⟨_, by rw [writeFields, writeString]; rfl⟩
        | cons next fields =>
            exact ⟨_, by rw [writeFields_cons, writeString]; rfl⟩
      obtain ⟨more, begins⟩ := begins
      have text : write (.object (field :: fields)) ++ rest =
          '{' :: (writeFields (field :: fields) ++ '}' :: rest) := by
        rw [write]
        simp
      rw [text, readValue, inner, begins]
      simp

theorem ReadsBack.readValue_number (value : Int) {rest : Text}
    (ends : Ends rest) : readValue (fuel + 1) (write (.number value) ++ rest) =
      some (.number value, rest) := by
  have read := readInteger_write ends value
  obtain ⟨character, others, text, number⟩ := write_number_eq_cons value
  have apart : ∀ other, ¬(other = '-' ∨ Text.isDigit 10 other = true) →
      character ≠ other := by
    rintro other different rfl
    exact different number
  rw [text, List.cons_append] at read ⊢
  rw [readValue, if_neg (apart _ (by decide)), if_neg (apart _ (by decide)),
    if_neg (apart _ (by decide)), if_neg (apart _ (by decide)),
    if_neg (apart _ (by decide)), if_neg (apart _ (by decide))]
  exact read

theorem ReadsBack.readItems_cons (reads : ReadsBack fuel) (item : Json)
    (items : List Json) (rest : Text)
    (short : (writeItems (item :: items)).length < fuel + 1) :
    readItems (fuel + 1) (writeItems (item :: items) ++ ']' :: rest) =
      some (item :: items, rest) := by
  cases items with
  | nil =>
      rw [writeItems] at short ⊢
      have first := reads.value item (']' :: rest) (by omega)
        (ends_cons (by decide))
      rw [readItems, first]
      simp
  | cons next items =>
      rw [writeItems_cons, List.length_append, List.length_cons] at short
      have first := reads.value item (',' :: writeItems (next :: items) ++
        ']' :: rest) (by omega) (ends_cons (by decide))
      have later := reads.items (next :: items) rest (by simp) (by omega)
      rw [writeItems_cons, List.append_assoc, readItems, first]
      simp [later]

theorem ReadsBack.readFields_cons (reads : ReadsBack fuel) (name : String)
    (value : Json) (fields : List (String × Json)) (rest : Text)
    (short : (writeFields ((name, value) :: fields)).length < fuel + 1) :
    readFields (fuel + 1) (writeFields ((name, value) :: fields) ++
        '}' :: rest) = some ((name, value) :: fields, rest) := by
  have named (after : Text) : readString (name.toList.flatMap escapeChar ++
      '"' :: after) = some (name.toList, after) :=
    readString_escaped name.toList after
  cases fields with
  | nil =>
      rw [writeFields, List.length_append, List.length_cons] at short
      have first := reads.value value ('}' :: rest) (by omega)
        (ends_cons (by decide))
      simp [writeFields, writeString, readFields, TextParser.readGivenChar,
        named, first]
  | cons next fields =>
      rw [writeFields_cons, List.length_append, List.length_cons,
        List.length_append, List.length_cons] at short
      have first := reads.value value (',' :: (writeFields (next :: fields) ++
        '}' :: rest)) (by omega) (ends_cons (by decide))
      have later := reads.fields (next :: fields) rest (by simp) (by omega)
      rw [writeFields_cons]
      simp [writeString, readFields, TextParser.readGivenChar, named, first,
        later]

theorem readsBack (fuel : Nat) : ReadsBack fuel := by
  induction fuel with
  | zero => exact readsBack_zero
  | succ fuel reads =>
      constructor
      · intro value rest short ends
        cases value with
        | null => simp [write, readValue, readLiteral]
        | bool value =>
            cases value with
            | false => simp [write, readValue, readLiteral]
            | true => simp [write, readValue, readLiteral]
        | number value => exact ReadsBack.readValue_number value ends
        | string text => exact ReadsBack.readValue_string text rest
        | array items => exact reads.readValue_array items rest short
        | object fields => exact reads.readValue_object fields rest short
      · intro items rest filled short
        cases items with
        | nil => exact absurd rfl filled
        | cons item items => exact reads.readItems_cons item items rest short
      · intro fields rest filled short
        cases fields with
        | nil => exact absurd rfl filled
        | cons field fields =>
            exact reads.readFields_cons field.1 field.2 fields rest short

end ReadingBack

/-- Every value is read back from its text. -/
theorem read_write (value : Json) : read (write value) = some value := by
  have whole := (readsBack (write value).length).value value []
    (Nat.le_refl _) ends_nil
  rw [List.append_nil] at whole
  rw [read, TextParser.parseWith, whole]

/-! ## Control characters -/

theorem printed_escapeChar {character other : Char}
    (member : other ∈ escapeChar character) : 0x20 ≤ other.toNat := by
  have codes : ∀ code < 32, ∀ other ∈ ['\\', 'u', '0', '0',
      Nat.digitChar (code / 16), Nat.digitChar (code % 16)],
        0x20 ≤ other.toNat := by
    intro code small
    have digits : ∀ digit < 16, 0x20 ≤ (Nat.digitChar digit).toNat := by
      decide
    have first := digits (code / 16) (by omega)
    have second := digits (code % 16) (by omega)
    simp [first, second]
  have pairs : ∀ letter ∈ ['"', '\\', 'b', 'f', 'n', 'r', 't'],
      ∀ other ∈ ['\\', letter], 0x20 ≤ other.toNat := by simp
  unfold escapeChar at member
  split at member
  · exact pairs '"' (by decide) other member
  split at member
  · exact pairs '\\' (by decide) other member
  split at member
  · exact pairs 'b' (by decide) other member
  split at member
  · exact pairs 'f' (by decide) other member
  split at member
  · exact pairs 'n' (by decide) other member
  split at member
  · exact pairs 'r' (by decide) other member
  split at member
  · exact pairs 't' (by decide) other member
  split at member
  · rename_i control
    exact codes _ control other member
  · rename_i printed
    cases List.mem_singleton.mp member
    exact Nat.not_lt.mp printed

theorem printed_writeString {text : String} {character : Char}
    (member : character ∈ writeString text) : 0x20 ≤ character.toNat := by
  simp only [writeString, List.mem_cons, List.mem_append, List.mem_flatMap,
    List.not_mem_nil, or_false] at member
  rcases member with rfl | ⟨other, _, escaped⟩ | rfl
  · decide
  · exact printed_escapeChar escaped
  · decide

theorem printed_writeNumber {value : Int} {character : Char}
    (member : character ∈ write (.number value)) : 0x20 ≤ character.toNat := by
  have digit {number : Nat} (inside : character ∈ Nat.toDigits 10 number) :
      0x20 ≤ character.toNat := by
    have visible := Text.visible_of_isDigit (Text.isDigit_toDigits inside)
    rw [Text.IsVisible] at visible
    omega
  cases value with
  | ofNat value =>
      rw [write_ofNat] at member
      exact digit member
  | negSucc value =>
      rw [write_negSucc] at member
      rcases List.mem_cons.mp member with rfl | inside
      · decide
      · exact digit inside

mutual

/-- A compact text has no control characters. -/
theorem printed_write (value : Json) {character : Char}
    (member : character ∈ write value) : 0x20 ≤ character.toNat := by
  have words : ∀ word ∈ ["null".toList, "true".toList, "false".toList],
      ∀ character ∈ word, 0x20 ≤ character.toNat := by simp
  match value with
  | .null => exact words _ (by simp [write]) character member
  | .bool true => exact words _ (by simp [write]) character member
  | .bool false => exact words _ (by simp [write]) character member
  | .number value => exact printed_writeNumber member
  | .string text => exact printed_writeString member
  | .array items =>
      simp only [write, List.mem_cons, List.mem_append, List.not_mem_nil,
        or_false] at member
      rcases member with rfl | inside | rfl
      · decide
      · exact printed_writeItems items inside
      · decide
  | .object fields =>
      simp only [write, List.mem_cons, List.mem_append, List.not_mem_nil,
        or_false] at member
      rcases member with rfl | inside | rfl
      · decide
      · exact printed_writeFields fields inside
      · decide

theorem printed_writeItems (items : List Json) {character : Char}
    (member : character ∈ writeItems items) : 0x20 ≤ character.toNat := by
  match items with
  | [] => cases member
  | [item] => exact printed_write item member
  | item :: next :: items =>
      rw [writeItems_cons, List.mem_append, List.mem_cons] at member
      rcases member with inside | rfl | later
      · exact printed_write item inside
      · decide
      · exact printed_writeItems (next :: items) later

theorem printed_writeFields (fields : List (String × Json))
    {character : Char} (member : character ∈ writeFields fields) :
    0x20 ≤ character.toNat := by
  match fields with
  | [] => cases member
  | [(name, value)] =>
      simp only [writeFields, List.mem_append, List.mem_cons] at member
      rcases member with inside | rfl | later
      · exact printed_writeString inside
      · decide
      · exact printed_write value later
  | (name, value) :: next :: fields =>
      rw [writeFields_cons] at member
      simp only [List.mem_append, List.mem_cons] at member
      rcases member with inside | rfl | written | rfl | later
      · exact printed_writeString inside
      · decide
      · exact printed_write value written
      · decide
      · exact printed_writeFields (next :: fields) later

end

/-- The whitespace around a value. -/
def isSpace (character : Char) : Bool :=
  [' ', '\n', '\r', '\t'].contains character

/-- A line with an object is read as the object. -/
theorem read_line (fields : List (String × Json)) :
    read (Text.trimMatches isSpace (write (.object fields) ++ ['\n'])) =
      some (.object fields) := by
  have brace : isSpace '}' = false := by decide
  have trimmed : Text.trimMatches isSpace (write (.object fields) ++ ['\n']) =
      write (.object fields) := by
    rw [Text.trimMatches, write, List.cons_append,
      List.dropWhile_cons_of_neg (by decide), ← List.cons_append,
      List.rdropWhile_concat_pos _ _ _ (by decide), ← List.cons_append,
      List.rdropWhile_concat_neg _ _ _ (by simp [brace])]
  rw [trimmed, read_write]

theorem read_object (fields : List (String × Json)) :
    read (Text.trimMatches isSpace (write (.object fields))) =
      some (.object fields) := by
  have brace : isSpace '}' = false := by decide
  have trimmed : Text.trimMatches isSpace (write (.object fields)) =
      write (.object fields) := by
    rw [Text.trimMatches, write, List.dropWhile_cons_of_neg (by decide),
      ← List.cons_append, List.rdropWhile_concat_neg _ _ _ (by simp [brace])]
  rw [trimmed, read_write]

/-- Compact texts. -/
def texts : JsonCodec Text where
  encode := write
  decode := read
  length := Text.utf16Length
  decode_encode value _ := read_write value

end Foundation.Json
