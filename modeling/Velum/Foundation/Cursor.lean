import Mathlib.Data.List.Nodup
import Mathlib.Data.List.Perm.Subperm
import Mathlib.Data.Nat.Basic
import Mathlib.Logic.Function.Iterate

/-!
# Cursors that go round a range

A cursor walks through a range of numbers and starts again behind its end.  As
long as it has not come round, it visits different numbers, so fewer taken
numbers than steps leave one of the visited numbers free.
-/

namespace Foundation

/-- The number behind `value`, or the first one behind the last. -/
def following (first last value : Nat) : Nat :=
  if last < value + 1 then first else value + 1

namespace Cursor

variable {first last value : Nat}

theorem first_le_following (above : first ≤ value) :
    first ≤ following first last value := by
  unfold following
  split <;> omega

theorem following_le_last (ordered : first ≤ last) :
    following first last value ≤ last := by
  unfold following
  split <;> omega

/-- Within one round the cursor has wrapped at most once. -/
theorem iterate_following (below : value ≤ last)
    {steps : Nat} (within : steps ≤ last - first) :
    (following first last)^[steps] value =
      if value + steps ≤ last then value + steps
      else first + (value + steps - last - 1) := by
  induction steps with
  | zero =>
      rw [Nat.add_zero, if_pos below]
      rfl
  | succ steps induction =>
      rw [Function.iterate_succ_apply', induction (by omega), following]
      split
      · split
        · rw [if_neg (by omega)]
          omega
        · rw [if_pos (by omega)]
          omega
      · rw [if_neg (by omega), if_neg (by omega)]
        omega

theorem eq_of_iterate_following_eq (below : value ≤ last)
    {early late : Nat} (earlyWithin : early ≤ last - first)
    (lateWithin : late ≤ last - first)
    (same : (following first last)^[early] value =
      (following first last)^[late] value) : early = late := by
  rw [iterate_following below earlyWithin,
    iterate_following below lateWithin] at same
  split at same <;> split at same <;> omega

/-- Fewer taken numbers than steps leave one of the visited numbers free. -/
theorem exists_free (below : value ≤ last)
    {taken : List Nat} {steps : Nat} (room : taken.length < steps)
    (fits : steps ≤ last - first + 1) :
    ∃ step < steps, (following first last)^[step] value ∉ taken := by
  by_contra occupied
  have visited : (List.range steps).map
      (fun step => (following first last)^[step] value) ⊆ taken := by
    intro number member
    obtain ⟨step, inside, rfl⟩ := List.mem_map.mp member
    by_contra free
    exact occupied ⟨step, List.mem_range.mp inside, free⟩
  have distinct : ((List.range steps).map
      (fun step => (following first last)^[step] value)).Nodup := by
    refine List.Nodup.map_on ?_ List.nodup_range
    intro early earlyIn late lateIn same
    rw [List.mem_range] at earlyIn lateIn
    exact eq_of_iterate_following_eq below (by omega) (by omega) same
  have short := (List.subperm_of_subset distinct visited).length_le
  rw [List.length_map, List.length_range] at short
  omega

end Cursor

end Foundation
