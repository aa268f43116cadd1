import Velum.Foundation.Text

/-!
# Parsers over texts

A parser takes characters from the front of a text.  One that fails takes
nothing, so that an alternative starts where the first one did.  `Consumes`
bounds the characters that a successful parser takes.
-/

namespace Foundation

abbrev TextParser (Value : Type) :=
  StateT Text Option Value

namespace TextParser

variable {First Value : Type}

def readGivenChar (target : Char) : TextParser Unit
  | [] => none
  | character :: rest =>
      if character = target then some ((), rest) else none

/-- Every element of a sequence but the first stands after a separator. -/
def readSeparator (separator : Char) (index : Nat)
    (inner : TextParser Value) : TextParser Value := do
  if 0 < index then
    readGivenChar separator
  inner

/-- All the digits at the front of the text, as a number below `limit`.  With
a bound on the number of digits, a longer run of digits is refused. -/
def readNumber (radix : Nat) (maxDigits : Option Nat) (allowZeroPrefix : Bool)
    (limit : Nat) : TextParser Nat := fun input =>
  let digits := input.takeWhile (Text.isDigit radix)
  let rest := input.dropWhile (Text.isDigit radix)
  if maxDigits.any (· < digits.length) then none
  else if digits = [] then none
  else if allowZeroPrefix = false ∧ digits.head? = some '0' ∧
      1 < digits.length then none
  else if limit ≤ Text.numberOf radix digits then none
  else some (Text.numberOf radix digits, rest)

/-- The value of a parser that takes the whole text. -/
def parseWith (parser : TextParser Value) (text : Text) : Option Value :=
  match parser text with
  | some (value, []) => some value
  | _ => none

theorem readSeparator_first (separator : Char) (inner : TextParser Value)
    (input : Text) : readSeparator separator 0 inner input = inner input :=
  rfl

theorem readSeparator_later (separator : Char) {index : Nat}
    (later : 0 < index) (inner : TextParser Value) (input : Text) :
    readSeparator separator index inner (separator :: input) =
      inner input := by
  simp [readSeparator, later, readGivenChar, bind, StateT.bind]

theorem bind_eq_of_some {parser : TextParser First}
    {next : First → TextParser Value} {input middle : Text} {first : First}
    (parsed : parser input = some (first, middle)) :
    (parser >>= next) input = next first middle := by
  simp [bind, StateT.bind, parsed]

theorem map_eq_of_some {parser : TextParser First} {change : First → Value}
    {input rest : Text} {first : First}
    (parsed : parser input = some (first, rest)) :
    (change <$> parser) input = some (change first, rest) := by
  simp [Functor.map, StateT.map, parsed]

theorem orElse_eq_of_some {first second : TextParser Value}
    {input rest : Text} {value : Value}
    (parsed : first input = some (value, rest)) :
    (first <|> second) input = some (value, rest) := by
  have either : (first <|> second) input =
      (first input <|> second input) := rfl
  rw [either, parsed]
  rfl

/-- Whatever the parser takes consists of characters of the given kind. -/
def Consumes (kind : Char → Prop) (parser : TextParser Value) : Prop :=
  ∀ input value rest, parser input = some (value, rest) →
    ∃ taken, input = taken ++ rest ∧ ∀ character ∈ taken, kind character

variable {kind : Char → Prop}

theorem Consumes.pure (value : Value) :
    Consumes kind (pure value : TextParser Value) := by
  intro input found rest ends
  cases ends
  exact ⟨[], rfl, by simp⟩

theorem Consumes.bind {parser : TextParser First}
    {next : First → TextParser Value} (first : Consumes kind parser)
    (second : ∀ value, Consumes kind (next value)) :
    Consumes kind (parser >>= next) := by
  intro input value rest ends
  obtain ⟨⟨found, middle⟩, parsed, continued⟩ :=
    Option.bind_eq_some_iff.mp ends
  obtain ⟨taken, rfl, takenKind⟩ := first input found middle parsed
  obtain ⟨more, rfl, moreKind⟩ := second found middle value rest continued
  refine ⟨taken ++ more, (List.append_assoc ..).symm, ?_⟩
  intro character member
  rcases List.mem_append.mp member with early | late
  · exact takenKind character early
  · exact moreKind character late

theorem Consumes.failure : Consumes kind (failure : TextParser Value) := by
  intro input value rest ends
  cases ends

theorem Consumes.orElse {first second : TextParser Value}
    (firstConsumes : Consumes kind first)
    (secondConsumes : Consumes kind second) :
    Consumes kind (first <|> second) := by
  intro input value rest ends
  have either : (first input <|> second input) = some (value, rest) := ends
  cases parsed : first input with
  | some found =>
      rw [parsed] at either
      cases either
      exact firstConsumes input value rest parsed
  | none =>
      rw [parsed] at either
      exact secondConsumes input value rest either

theorem Consumes.readGivenChar {target : Char} (allowed : kind target) :
    Consumes kind (readGivenChar target) := by
  intro input value rest ends
  cases input with
  | nil => cases ends
  | cons character remaining =>
      by_cases same : character = target
      · subst same
        simp only [TextParser.readGivenChar, if_true, Option.some.injEq,
          Prod.mk.injEq, true_and] at ends
        subst ends
        exact ⟨[character], rfl, by simpa using allowed⟩
      · simp [TextParser.readGivenChar, same] at ends

theorem Consumes.readSeparator {separator : Char} {index : Nat}
    {inner : TextParser Value} (allowed : kind separator)
    (consumes : Consumes kind inner) :
    Consumes kind (readSeparator separator index inner) := by
  by_cases later : 0 < index
  · simp only [TextParser.readSeparator, later, if_true]
    exact Consumes.bind (Consumes.readGivenChar allowed) (fun _ => consumes)
  · simp only [TextParser.readSeparator, later, if_false]
    exact Consumes.bind (Consumes.pure ()) (fun _ => consumes)

theorem Consumes.readNumber {radix : Nat} {maxDigits : Option Nat}
    {allowZeroPrefix : Bool} {limit : Nat}
    (digits : ∀ character, Text.isDigit radix character = true →
      kind character) :
    Consumes kind (readNumber radix maxDigits allowZeroPrefix limit) := by
  intro input value rest ends
  simp only [TextParser.readNumber] at ends
  split at ends
  · cases ends
  · split at ends
    · cases ends
    · split at ends
      · cases ends
      · split at ends
        · cases ends
        · cases ends
          refine ⟨input.takeWhile (Text.isDigit radix),
            List.takeWhile_append_dropWhile.symm, ?_⟩
          intro character member
          exact digits character (List.mem_takeWhile_imp member)

/-- A text that is parsed to its end holds characters of the given kind. -/
theorem Consumes.of_parseWith {parser : TextParser Value} {text : Text}
    {value : Value} (consumes : Consumes kind parser)
    (parsed : parseWith parser text = some value) :
    ∀ character ∈ text, kind character := by
  simp only [parseWith] at parsed
  split at parsed
  next found ends =>
      obtain ⟨taken, rfl, takenKind⟩ := consumes text _ [] ends
      simpa using takenKind
  next => cases parsed

/-- A decimal numeral in front of something else is read back. -/
theorem readNumber_toDigits {value maxDigits limit : Nat} {rest : Text}
    (fits : value < limit) (short : value < 10 ^ maxDigits)
    (positive : 0 < maxDigits)
    (ends : ∀ character, rest.head? = some character →
      Text.isDigit 10 character = false) :
    readNumber 10 (some maxDigits) false limit
      (Nat.toDigits 10 value ++ rest) = some (value, rest) := by
  have stops : rest.takeWhile (Text.isDigit 10) = [] ∧
      rest.dropWhile (Text.isDigit 10) = rest := by
    cases rest with
    | nil => simp
    | cons character others => simp [ends character rfl]
  have taken : (Nat.toDigits 10 value ++ rest).takeWhile (Text.isDigit 10) =
      Nat.toDigits 10 value := by
    rw [List.takeWhile_append_of_pos (fun _ => Text.isDigit_toDigits),
      stops.1, List.append_nil]
  have left : (Nat.toDigits 10 value ++ rest).dropWhile (Text.isDigit 10) =
      rest := by
    rw [List.dropWhile_append_of_pos (fun _ => Text.isDigit_toDigits), stops.2]
  have length : ¬maxDigits < (Nat.toDigits 10 value).length := by
    rw [Nat.not_lt, Nat.length_toDigits_le_iff (by decide) positive]
    exact short
  have canonical : ¬((Nat.toDigits 10 value).head? = some '0' ∧
      1 < (Nat.toDigits 10 value).length) := by
    rintro ⟨leading, long⟩
    rw [Text.eq_zero_of_head?_toDigits leading, Nat.toDigits_zero] at long
    simp at long
  simp [readNumber, taken, left, length, canonical, Text.numberOf_toDigits,
    Nat.not_le.mpr fits]

end TextParser

end Foundation
