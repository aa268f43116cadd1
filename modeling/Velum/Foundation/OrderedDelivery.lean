import Mathlib.Data.List.Basic
import Mathlib.Data.List.Infix

/-!
# Ordered delivery from a retransmission window

A sender numbers its payloads by their position and keeps the ones that have
not been acknowledged.  A receiver accepts a copy only when it carries the
next position, and buffers nothing.  Copies may be lost, repeated, delayed,
and reordered; only their labels have to be faithful.
-/

namespace Foundation

variable {Payload : Type*}

/-- The payloads from position `base` on, labelled with their positions. -/
def window (sent : List Payload) (base : Nat) : List (Payload × Nat) :=
  (sent.drop base).zipIdx base

/-- A copy that carries the payload of its position. -/
def Faithful (sent : List Payload) (copy : Payload × Nat) : Prop :=
  sent[copy.2]? = some copy.1

/-- The receiver takes the copy of the next position and ignores others. -/
def accept (delivered : List Payload) (copy : Payload × Nat) :
    List Payload :=
  if copy.2 = delivered.length then delivered ++ [copy.1] else delivered

/-! ## The window of the sender -/

theorem mem_window_iff {sent : List Payload} {base : Nat}
    {copy : Payload × Nat} :
    copy ∈ window sent base ↔ base ≤ copy.2 ∧ Faithful sent copy := by
  obtain ⟨payload, index⟩ := copy
  rw [window, List.mk_mem_zipIdx_iff_le_and_getElem?_sub, Faithful,
    List.getElem?_drop]
  constructor
  · intro found
    obtain ⟨reached, stored⟩ := found
    rw [Nat.add_sub_cancel' reached] at stored
    exact ⟨reached, stored⟩
  · intro found
    obtain ⟨reached, stored⟩ := found
    rw [Nat.add_sub_cancel' reached]
    exact ⟨reached, stored⟩

@[simp] theorem window_length (sent : List Payload) (base : Nat) :
    (window sent base).length = sent.length - base := by
  simp [window]

theorem window_cons {sent : List Payload} {base : Nat}
    (within : base < sent.length) :
    window sent base = (sent.get ⟨base, within⟩, base) ::
      window sent (base + 1) := by
  rw [window, List.drop_eq_getElem_cons within, List.zipIdx_cons]
  rfl

/-- A new payload enters the window at its end. -/
theorem window_append {sent : List Payload} {base : Nat}
    (within : base ≤ sent.length) (payload : Payload) :
    window (sent ++ [payload]) base =
      window sent base ++ [(payload, sent.length)] := by
  rw [window, List.drop_append_of_le_length within, List.zipIdx_append]
  congr 1
  simp only [List.length_drop, List.zipIdx_singleton]
  congr 2
  omega

/-- Cutting a prefix off the window moves its base. -/
theorem window_drop {sent : List Payload} {base count : Nat} :
    (window sent base).drop count = window sent (base + count) := by
  induction count generalizing base with
  | zero => rfl
  | succ count induction =>
      by_cases within : base < sent.length
      · rw [window_cons within, List.drop_succ_cons, induction]
        congr 1
        omega
      · have short : (window sent base).length ≤ count + 1 := by
          rw [window_length]
          omega
        rw [List.drop_eq_nil_of_le short]
        refine (List.eq_nil_of_length_eq_zero ?_).symm
        rw [window_length]
        omega

/-- Cutting copies below a bound off the front moves the base no further
than the bound. -/
theorem window_split {sent : List Payload} {base bound : Nat}
    {covered kept : List (Payload × Nat)}
    (split : window sent base = covered ++ kept)
    (below : ∀ copy ∈ covered, copy.2 < bound)
    (reached : base ≤ bound) : base + covered.length ≤ bound := by
  induction covered generalizing base with
  | nil => exact reached
  | cons first rest induction =>
      have within : base < sent.length := by
        by_contra outside
        have lengths := congrArg List.length split
        rw [window_length, List.length_append, List.length_cons] at lengths
        omega
      rw [window_cons within] at split
      injection split with same tail
      have firstBelow := below first List.mem_cons_self
      rw [← same] at firstBelow
      have rest := induction tail
        (fun copy member => below copy (List.mem_cons_of_mem _ member))
        firstBelow
      rw [List.length_cons]
      omega

theorem Faithful.append {sent : List Payload} {copy : Payload × Nat}
    (faithful : Faithful sent copy) (later : List Payload) :
    Faithful (sent ++ later) copy := by
  have within := (List.getElem?_eq_some_iff.mp faithful).1
  rw [Faithful, List.getElem?_append_left within]
  exact faithful

theorem Faithful.last (sent : List Payload) (payload : Payload) :
    Faithful (sent ++ [payload]) (payload, sent.length) := by
  simp [Faithful]

/-! ## The cursor of the receiver -/

/-- Accepting faithful copies never leaves the list that was sent. -/
theorem accept_inOrder {sent delivered : List Payload}
    {copy : Payload × Nat} (inOrder : delivered <+: sent)
    (faithful : Faithful sent copy) : accept delivered copy <+: sent := by
  unfold accept
  split
  · rename_i expected
    obtain ⟨rest, rfl⟩ := inOrder
    rw [Faithful, expected, List.getElem?_append_right (Nat.le_refl _),
      Nat.sub_self] at faithful
    cases rest with
    | nil => simp at faithful
    | cons next later =>
        simp only [List.getElem?_cons_zero, Option.some.injEq] at faithful
        subst faithful
        exact ⟨later, by simp⟩
  · exact inOrder

/-- Replaying a window that starts at or below the cursor delivers
everything that was sent. -/
theorem accept_window {sent delivered : List Payload} {base : Nat}
    (inOrder : delivered <+: sent) (reached : base ≤ delivered.length) :
    (window sent base).foldl accept delivered = sent := by
  generalize remaining : sent.length - base = count
  induction count generalizing base delivered with
  | zero =>
      have complete : delivered.length = sent.length := by
        have bounded := inOrder.length_le
        omega
      have empty : window sent base = [] := by
        apply List.eq_nil_of_length_eq_zero
        rw [window_length]
        exact remaining
      rw [empty]
      exact inOrder.eq_of_length complete
  | succ count induction =>
      have within : base < sent.length := by omega
      have faithful : Faithful sent (sent.get ⟨base, within⟩, base) := by
        simp [Faithful]
      rw [window_cons within, List.foldl_cons]
      refine induction (accept_inOrder inOrder faithful) ?_ (by omega)
      unfold accept
      split
      · rename_i expected
        simp only at expected
        rw [List.length_append, List.length_singleton]
        omega
      · rename_i passed
        simp only at passed
        omega

end Foundation
