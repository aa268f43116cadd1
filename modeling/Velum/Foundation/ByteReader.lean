import Velum.Foundation.BigEndian

/-!
# Readers over byte strings

A reader consumes bytes from the front of its input.  `Reads reader write`
says that a reader accepts exactly the strings that start with a written
value.  One equivalence carries both directions of a codec: reading what was
written, and writing what was read.
-/

namespace Foundation

abbrev ByteReader (Error Value : Type) :=
  StateT (List UInt8) (Except Error) Value

namespace ByteReader

variable {Error First Value Result : Type}

/-- The reader accepts an input exactly when a written value is a prefix of
it, and leaves the bytes after that prefix. -/
def Reads (reader : ByteReader Error Value)
    (write : Value → List UInt8) : Prop :=
  ∀ input value rest,
    reader.run input = .ok (value, rest) ↔ input = write value ++ rest

theorem run_bind_eq_ok_iff {reader : ByteReader Error First}
    {next : First → ByteReader Error Value} {input rest : List UInt8}
    {value : Value} :
    (reader >>= next).run input = .ok (value, rest) ↔
      ∃ first middle, reader.run input = .ok (first, middle) ∧
        (next first).run middle = .ok (value, rest) := by
  rw [StateT.run_bind]
  cases reader.run input with
  | error failure => simp [bind, Except.bind]
  | ok pair =>
      obtain ⟨first, middle⟩ := pair
      simp [bind, Except.bind]

theorem run_pure_eq_ok_iff {made value : Value} {input rest : List UInt8} :
    (pure made : ByteReader Error Value).run input = .ok (value, rest) ↔
      value = made ∧ rest = input := by
  rw [StateT.run_pure]
  simp [pure, Except.pure, eq_comm]

theorem run_throw_ne_ok {failure : Error} {value : Value}
    {input rest : List UInt8} :
    (throw failure : ByteReader Error Value).run input ≠
      .ok (value, rest) := by
  intro impossible
  cases impossible

/-- A reader for the first field of a sequence can be replaced by the bytes
it accepts. -/
theorem Reads.bind_iff {reader : ByteReader Error First}
    {write : First → List UInt8} (reads : Reads reader write)
    {next : First → ByteReader Error Value} {input rest : List UInt8}
    {value : Value} :
    (reader >>= next).run input = .ok (value, rest) ↔
      ∃ first middle, input = write first ++ middle ∧
        (next first).run middle = .ok (value, rest) := by
  rw [run_bind_eq_ok_iff]
  constructor
  · intro parsed
    obtain ⟨first, middle, firstRead, nextRead⟩ := parsed
    exact ⟨first, middle, (reads _ _ _).mp firstRead, nextRead⟩
  · intro given
    obtain ⟨first, middle, split, nextRead⟩ := given
    exact ⟨first, middle, (reads _ _ _).mpr split, nextRead⟩

/-- Takes exactly `count` bytes. -/
def take (shortage : Error) (count : Nat) :
    ByteReader Error (List.Vector UInt8 count) := fun input =>
  if enough : count ≤ input.length then
    .ok (⟨input.take count, List.length_take_of_le enough⟩, input.drop count)
  else .error shortage

theorem reads_take (shortage : Error) (count : Nat) :
    Reads (take shortage count) (fun bytes => bytes.toList) := by
  intro input value rest
  constructor
  · intro taken
    unfold StateT.run take at taken
    split at taken
    · injection taken with pair
      obtain ⟨rfl, rfl⟩ := Prod.mk.inj pair
      exact (List.take_append_drop count input).symm
    · cases taken
  · intro given
    subst given
    have width : value.toList.length = count := value.toList_length
    have enough : count ≤ (value.toList ++ rest).length := by
      rw [List.length_append, width]
      exact Nat.le_add_right _ _
    unfold StateT.run take
    rw [dif_pos enough]
    congr 2
    · apply Subtype.ext
      exact List.take_left' width
    · exact List.drop_left' width

/-- Takes every byte that is left. -/
def takeRemaining : ByteReader Error (List UInt8) := fun input =>
  .ok (input, [])

theorem run_takeRemaining_eq_ok_iff {input value rest : List UInt8} :
    (takeRemaining : ByteReader Error (List UInt8)).run input =
      .ok (value, rest) ↔ value = input ∧ rest = [] := by
  simp [StateT.run, takeRemaining, eq_comm]

/-- A bijection of values carries a reader law along. -/
theorem Reads.map {reader : ByteReader Error First}
    {write : First → List UInt8} (reads : Reads reader write)
    (onto : First → Value) (back : Value → First)
    (backOnto : ∀ first, write (back (onto first)) = write first)
    (ontoBack : ∀ value, onto (back value) = value) :
    Reads (do let first ← reader; pure (onto first))
      (fun value => write (back value)) := by
  intro input value rest
  rw [reads.bind_iff]
  constructor
  · intro parsed
    obtain ⟨first, middle, rfl, made⟩ := parsed
    obtain ⟨rfl, rfl⟩ := run_pure_eq_ok_iff.mp made
    exact congrArg (· ++ _) (backOnto first).symm
  · intro given
    subst given
    exact ⟨back value, rest, rfl,
      run_pure_eq_ok_iff.mpr ⟨(ontoBack value).symm, rfl⟩⟩

/-- A field with a validity check, whose failures all become `failure`. -/
def checked {Failure : Type} (reader : ByteReader Error First)
    (check : First → Except Failure Value) (failure : Error) :
    ByteReader Error Value := do
  let first ← reader
  match check first with
  | .ok value => pure value
  | .error _ => throw failure

/-- When the check accepts exactly the images of the checked values, the
checked field reads exactly the written checked values. -/
theorem Reads.checked {Failure : Type} {reader : ByteReader Error First}
    {write : First → List UInt8} (reads : Reads reader write)
    {check : First → Except Failure Value} {back : Value → First}
    {failure : Error}
    (exact : ∀ first value, check first = .ok value ↔ first = back value) :
    Reads (reader.checked check failure)
      (fun value => write (back value)) := by
  intro input value rest
  unfold ByteReader.checked
  rw [reads.bind_iff]
  constructor
  · intro parsed
    obtain ⟨first, middle, rfl, made⟩ := parsed
    cases outcome : check first with
    | error reason =>
        rw [outcome] at made
        exact (run_throw_ne_ok made).elim
    | ok found =>
        rw [outcome] at made
        obtain ⟨rfl, rfl⟩ := run_pure_eq_ok_iff.mp made
        rw [(exact first value).mp outcome]
  · intro given
    subst given
    refine ⟨back value, rest, rfl, ?_⟩
    rw [(exact _ value).mpr rfl]
    exact run_pure_eq_ok_iff.mpr ⟨rfl, rfl⟩

/-- A two-byte integer field. -/
def word16 (shortage : Error) : ByteReader Error UInt16 := do
  let bytes ← take shortage 2
  pure (Foundation.word16 bytes.toList)

theorem reads_word16 (shortage : Error) :
    Reads (word16 shortage) wordBytes16 := by
  have law := (reads_take shortage 2).map
    (fun bytes => Foundation.word16 bytes.toList)
    (fun value => ⟨wordBytes16 value, length_wordBytes16 value⟩)
    (fun bytes => wordBytes16_word16 bytes.toList_length)
    word16_wordBytes16
  exact law

/-- An eight-byte integer field. -/
def word64 (shortage : Error) : ByteReader Error UInt64 := do
  let bytes ← take shortage 8
  pure (Foundation.word64 bytes.toList)

theorem reads_word64 (shortage : Error) :
    Reads (word64 shortage) wordBytes64 := by
  have law := (reads_take shortage 8).map
    (fun bytes => Foundation.word64 bytes.toList)
    (fun value => ⟨wordBytes64 value, length_wordBytes64 value⟩)
    (fun bytes => wordBytes64_word64 bytes.toList_length)
    word64_wordBytes64
  exact law

end ByteReader

end Foundation
