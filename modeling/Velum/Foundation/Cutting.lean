import Mathlib.Data.List.Basic

/-!
# Cutting a stream into pieces

A cutter looks at the front of an input.  It asks for more, cuts a piece of
known size, or refuses.  Once it has cut or refused, further input does not
change its mind.  Cutting as long as possible then commutes with the arrival
of more input, whatever the boundaries at which it arrives.
-/

namespace Foundation

inductive Cut (Piece Failure : Type*) where
  | incomplete
  | piece (value : Piece) (size : Nat)
  | refused (failure : Failure)

structure Cutter (Symbol Piece Failure : Type*) where
  cut : List Symbol → Cut Piece Failure
  sized : ∀ {input value size}, cut input = .piece value size →
    0 < size ∧ size ≤ input.length
  cutStays : ∀ {input value size} (later : List Symbol),
    cut input = .piece value size →
    cut (input ++ later) = .piece value size
  refusalStays : ∀ {input failure} (later : List Symbol),
    cut input = .refused failure →
    cut (input ++ later) = .refused failure

namespace Cutter

variable {Symbol Piece Failure : Type*}

/-- Cuts as long as possible.  Returns the pieces and the input that is
left. -/
def cutAll (cutter : Cutter Symbol Piece Failure) (input : List Symbol) :
    List Piece × List Symbol :=
  match _found : cutter.cut input with
  | .piece value size =>
      let (pieces, rest) := cutter.cutAll (input.drop size)
      (value :: pieces, rest)
  | _ => ([], input)
termination_by input.length
decreasing_by
  have bounds := cutter.sized _found
  rw [List.length_drop]
  omega

variable {cutter : Cutter Symbol Piece Failure}

theorem cutAll_of_piece {input : List Symbol} {value : Piece} {size : Nat}
    (found : cutter.cut input = .piece value size) :
    cutter.cutAll input =
      (value :: (cutter.cutAll (input.drop size)).1,
        (cutter.cutAll (input.drop size)).2) := by
  rw [cutAll]
  split
  · rename_i other otherSize same
    rw [found] at same
    cases same
    rfl
  · rename_i never
    exact absurd found (never value size)

theorem cutAll_of_no_piece {input : List Symbol}
    (none : ∀ value size, cutter.cut input ≠ .piece value size) :
    cutter.cutAll input = ([], input) := by
  rw [cutAll]
  split
  · rename_i value size found
    exact absurd found (none value size)
  · rfl

theorem cutAll_of_incomplete {input : List Symbol}
    (waiting : cutter.cut input = .incomplete) :
    cutter.cutAll input = ([], input) := by
  apply cutAll_of_no_piece
  intro value size found
  rw [waiting] at found
  cases found

theorem cutAll_of_refused {input : List Symbol} {failure : Failure}
    (refused : cutter.cut input = .refused failure) :
    cutter.cutAll input = ([], input) := by
  apply cutAll_of_no_piece
  intro value size found
  rw [refused] at found
  cases found

/-- Induction along the pieces of an input. -/
theorem cut_induction {holds : List Symbol → Prop}
    (cut : ∀ {input value size}, cutter.cut input = .piece value size →
      holds (input.drop size) → holds input)
    (stuck : ∀ {input}, (∀ value size,
      cutter.cut input ≠ .piece value size) → holds input)
    (input : List Symbol) : holds input := by
  induction bound : input.length using Nat.strongRecOn generalizing input with
  | _ length induction =>
      cases found : cutter.cut input with
      | piece value size =>
          have bounds := cutter.sized found
          apply cut found
          apply induction (input.drop size).length
          · rw [List.length_drop]
            omega
          · rfl
      | incomplete =>
          apply stuck
          intro value size
          rw [found]
          exact nofun
      | refused failure =>
          apply stuck
          intro value size
          rw [found]
          exact nofun

/-- Cutting stops where no further piece can be cut. -/
theorem cut_remainder (input : List Symbol) (value : Piece) (size : Nat) :
    cutter.cut (cutter.cutAll input).2 ≠ .piece value size := by
  induction input using cutter.cut_induction with
  | cut found induction =>
      rw [cutAll_of_piece found]
      exact induction
  | stuck none =>
      rw [cutAll_of_no_piece none]
      exact none value size

theorem remainder_of_no_pieces {input : List Symbol}
    (none : (cutter.cutAll input).1 = []) :
    (cutter.cutAll input).2 = input := by
  cases found : cutter.cut input with
  | piece value size =>
      rw [cutAll_of_piece found] at none
      cases none
  | incomplete => rw [cutAll_of_incomplete found]
  | refused failure => rw [cutAll_of_refused found]

theorem remainder_suffix (input : List Symbol) :
    (cutter.cutAll input).2 <:+ input := by
  induction input using cutter.cut_induction with
  | cut found induction =>
      rw [cutAll_of_piece found]
      exact induction.trans (List.drop_suffix _ _)
  | stuck none =>
      simp only [cutAll_of_no_piece none, List.suffix_refl]

/-- Cutting more input is cutting what was left before with the input that
arrived. -/
theorem cutAll_append (input later : List Symbol) :
    cutter.cutAll (input ++ later) =
      ((cutter.cutAll input).1 ++
          (cutter.cutAll ((cutter.cutAll input).2 ++ later)).1,
        (cutter.cutAll ((cutter.cutAll input).2 ++ later)).2) := by
  induction input using cutter.cut_induction with
  | @cut input value size found induction =>
      have bounds := cutter.sized found
      rw [cutAll_of_piece (cutter.cutStays later found),
        List.drop_append_of_le_length bounds.2, induction,
        cutAll_of_piece found]
      rfl
  | stuck none =>
      rw [cutAll_of_no_piece none]
      rfl

/-- A refusal in front of the remainder stays there. -/
theorem cutAll_append_of_refused {input : List Symbol} {failure : Failure}
    (refused : cutter.cut (cutter.cutAll input).2 = .refused failure)
    (later : List Symbol) :
    cutter.cutAll (input ++ later) =
      ((cutter.cutAll input).1, (cutter.cutAll input).2 ++ later) := by
  rw [cutAll_append, cutAll_of_refused (cutter.refusalStays later refused),
    List.append_nil]

/-! ## Labels -/

/-- Cuts labelled input by what the labels stand for.  Each piece carries the
labels it was cut from. -/
def labelled {Label : Type*} (cutter : Cutter Symbol Piece Failure)
    (read : Label → Symbol) :
    Cutter Label (Piece × List Label) Failure where
  cut input :=
    match cutter.cut (input.map read) with
    | .incomplete => .incomplete
    | .piece value size => .piece (value, input.take size) size
    | .refused failure => .refused failure
  sized := by
    intro input value size found
    split at found
    · cases found
    · rename_i under
      cases found
      have bounds := cutter.sized under
      rw [List.length_map] at bounds
      exact bounds
    · cases found
  cutStays := by
    intro input value size later found
    split at found
    · cases found
    · rename_i under
      cases found
      have bounds := cutter.sized under
      rw [List.length_map] at bounds
      rw [List.map_append, cutter.cutStays _ under]
      dsimp only
      rw [List.take_append_of_le_length bounds.2]
    · cases found
  refusalStays := by
    intro input failure later refused
    split at refused
    · cases refused
    · cases refused
    · rename_i under
      cases refused
      rw [List.map_append, cutter.refusalStays _ under]

variable {Label : Type*} {read : Label → Symbol}

theorem labelled_of_piece {input : List Label} {value : Piece} {size : Nat}
    (under : cutter.cut (input.map read) = .piece value size) :
    (cutter.labelled read).cut input =
      .piece (value, input.take size) size := by
  simp only [labelled, under]

theorem labelled_of_no_piece {input : List Label}
    (none : ∀ value size, cutter.cut (input.map read) ≠ .piece value size)
    (value : Piece × List Label) (size : Nat) :
    (cutter.labelled read).cut input ≠ .piece value size := by
  intro found
  simp only [labelled] at found
  split at found
  · cases found
  · rename_i under
    exact none _ _ under
  · cases found

/-- Induction along the pieces of what the labels stand for. -/
theorem labelled_induction (cutter : Cutter Symbol Piece Failure)
    (read : Label → Symbol) {holds : List Label → Prop}
    (cut : ∀ {input value size},
      cutter.cut (input.map read) = .piece value size →
      holds (input.drop size) → holds input)
    (stuck : ∀ {input}, (∀ value size,
      cutter.cut (input.map read) ≠ .piece value size) → holds input)
    (input : List Label) : holds input := by
  induction input using (cutter.labelled read).cut_induction with
  | @cut input value size found induction =>
      simp only [labelled] at found
      split at found
      · cases found
      · rename_i under
        cases found
        exact cut under induction
      · cases found
  | @stuck input none =>
      apply stuck
      intro value size under
      exact none _ _ (labelled_of_piece under)

/-- Forgetting the labels afterwards is forgetting them at once. -/
theorem labelled_forget (input : List Label) :
    ((cutter.labelled read).cutAll input).1.map Prod.fst =
        (cutter.cutAll (input.map read)).1 ∧
      ((cutter.labelled read).cutAll input).2.map read =
        (cutter.cutAll (input.map read)).2 := by
  induction input using cutter.labelled_induction read with
  | cut under induction =>
      rw [cutAll_of_piece under, cutAll_of_piece (labelled_of_piece under),
        ← List.map_drop]
      exact ⟨congrArg _ induction.1, induction.2⟩
  | stuck none =>
      rw [cutAll_of_no_piece none,
        cutAll_of_no_piece (labelled_of_no_piece none)]
      exact ⟨rfl, rfl⟩

/-- A piece carries labels of the input, and they stand for the symbols it
was cut from. -/
theorem labelled_pieces {input : List Label} {value : Piece}
    {labels : List Label}
    (found : (value, labels) ∈ ((cutter.labelled read).cutAll input).1) :
    ∃ front, front <:+ input ∧ labels <+: front ∧
      cutter.cut (front.map read) = .piece value labels.length := by
  induction input using cutter.labelled_induction read with
  | @cut input first size under induction =>
      rw [cutAll_of_piece (labelled_of_piece under)] at found
      rcases List.mem_cons.mp found with here | later
      · cases here
        have bounds := cutter.sized under
        rw [List.length_map] at bounds
        refine ⟨input, List.suffix_refl _, List.take_prefix _ _, ?_⟩
        rw [List.length_take, Nat.min_eq_left bounds.2]
        exact under
      · obtain ⟨front, inside, start, cuts⟩ := induction later
        exact ⟨front, inside.trans (List.drop_suffix _ _), start, cuts⟩
  | stuck none =>
      rw [cutAll_of_no_piece (labelled_of_no_piece none)] at found
      cases found

end Cutter

end Foundation
