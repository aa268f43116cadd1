import Mathlib.Algebra.Order.Ring.Nat
import Mathlib.Data.List.Forall2
import Mathlib.Tactic.Cases

/-!
# Calls that return, fail, or panic, and checked machine arithmetic

A call of a program with checked arithmetic ends in one of three ways.  The
state that a call leaves behind is reported separately from its outcome, since
a panic can strike after part of the state has been written.
-/

namespace Foundation

inductive Outcome (Panic Error Value : Type) where
  | ok (value : Value)
  | err (error : Error)
  | panic (cause : Panic)
  deriving DecidableEq, Repr

namespace Outcome

variable {Panic Error Value Error' Value' : Type}

/-- The call returned to its caller, with a value or an error. -/
def Returned : Outcome Panic Error Value → Prop
  | .panic _ => False
  | _ => True

instance (outcome : Outcome Panic Error Value) :
    Decidable outcome.Returned :=
  match outcome with
  | .ok _ => .isTrue trivial
  | .err _ => .isTrue trivial
  | .panic _ => .isFalse id

/-- The call reported an error. -/
def Failed : Outcome Panic Error Value → Prop
  | .err _ => True
  | _ => False

instance (outcome : Outcome Panic Error Value) : Decidable outcome.Failed :=
  match outcome with
  | .ok _ => .isFalse id
  | .err _ => .isTrue trivial
  | .panic _ => .isFalse id

@[simp] theorem returned_ok (value : Value) :
    (ok value : Outcome Panic Error Value).Returned := trivial

@[simp] theorem returned_err (error : Error) :
    (err error : Outcome Panic Error Value).Returned := trivial

@[simp] theorem not_returned_panic (cause : Panic) :
    ¬(panic cause : Outcome Panic Error Value).Returned := id

@[simp] theorem failed_err (error : Error) :
    (err error : Outcome Panic Error Value).Failed := trivial

@[simp] theorem not_failed_ok (value : Value) :
    ¬(ok value : Outcome Panic Error Value).Failed := id

@[simp] theorem not_failed_panic (cause : Panic) :
    ¬(panic cause : Outcome Panic Error Value).Failed := id

/-- Translates the value and the error of a call, as `map` followed by
`map_err` does; a panic passes through. -/
def bimap (onValue : Value → Value') (onError : Error → Error') :
    Outcome Panic Error Value → Outcome Panic Error' Value'
  | .ok value => .ok (onValue value)
  | .err error => .err (onError error)
  | .panic cause => .panic cause

@[simp] theorem bimap_ok (onValue : Value → Value')
    (onError : Error → Error') (value : Value) :
    (ok value : Outcome Panic Error Value).bimap onValue onError =
      .ok (onValue value) := rfl

@[simp] theorem bimap_err (onValue : Value → Value')
    (onError : Error → Error') (error : Error) :
    (err error : Outcome Panic Error Value).bimap onValue onError =
      .err (onError error) := rfl

@[simp] theorem bimap_panic (onValue : Value → Value')
    (onError : Error → Error') (cause : Panic) :
    (panic cause : Outcome Panic Error Value).bimap onValue onError =
      .panic cause := rfl

@[simp] theorem returned_bimap (onValue : Value → Value')
    (onError : Error → Error') (outcome : Outcome Panic Error Value) :
    (outcome.bimap onValue onError).Returned ↔ outcome.Returned := by
  cases outcome <;> rfl

@[simp] theorem failed_bimap (onValue : Value → Value')
    (onError : Error → Error') (outcome : Outcome Panic Error Value) :
    (outcome.bimap onValue onError).Failed ↔ outcome.Failed := by
  cases outcome <;> rfl

theorem bimap_eq_ok_iff {onValue : Value → Value'}
    {onError : Error → Error'} {outcome : Outcome Panic Error Value}
    {result : Value'} :
    outcome.bimap onValue onError = .ok result ↔
      ∃ value, outcome = .ok value ∧ result = onValue value := by
  cases outcome <;> simp [bimap, eq_comm]

theorem bimap_eq_panic_iff {onValue : Value → Value'}
    {onError : Error → Error'} {outcome : Outcome Panic Error Value}
    {cause : Panic} :
    outcome.bimap onValue onError = .panic cause ↔
      outcome = .panic cause := by
  cases outcome <;> simp [bimap]

end Outcome

/-- A sequence of fallible calls succeeds only if each of them does. -/
theorem bind_eq_ok {Failure Value Final : Type}
    {first : Except Failure Value} {rest : Value → Except Failure Final}
    {result : Final} (ended : first >>= rest = .ok result) :
    ∃ value, first = .ok value ∧ rest value = .ok result := by
  cases first with
  | error failure => cases ended
  | ok value => exact ⟨value, rfl, ended⟩

theorem bind_of_eq_ok {Failure Value Final : Type}
    {first : Except Failure Value} {rest : Value → Except Failure Final}
    {value : Value} (ended : first = .ok value) :
    first >>= rest = rest value := by
  rw [ended]
  rfl

/-- A list is read to its end exactly when each of its items is. -/
theorem mapM_eq_ok_iff {Failure Item Value : Type}
    {read : Item → Except Failure Value} {items : List Item}
    {values : List Value} :
    items.mapM read = .ok values ↔
      List.Forall₂ (fun item value => read item = .ok value) items values := by
  induction items generalizing values with
  | nil =>
      rw [List.forall₂_nil_left_iff]
      constructor
      · intro accepted
        cases accepted
        rfl
      · rintro rfl
        rfl
  | cons item rest induction =>
      rw [List.mapM_cons, List.forall₂_cons_left_iff]
      constructor
      · intro accepted
        obtain ⟨first, readFirst, accepted⟩ := bind_eq_ok accepted
        obtain ⟨later, readRest, accepted⟩ := bind_eq_ok accepted
        cases accepted
        exact ⟨first, later, readFirst, induction.mp readRest, rfl⟩
      · rintro ⟨first, later, readFirst, readRest, rfl⟩
        refine (bind_of_eq_ok readFirst).trans ?_
        exact bind_of_eq_ok (induction.mpr readRest)

/-- Each value of a list that was read comes from an item. -/
theorem exists_item_of_mem {Item Value : Type} {reads : Item → Value → Prop}
    {items : List Item} {values : List Value}
    (read : List.Forall₂ reads items values) {value : Value}
    (member : value ∈ values) : ∃ item ∈ items, reads item value := by
  induction read with
  | nil => cases member
  | cons first _ induction =>
      rcases List.mem_cons.mp member with rfl | later
      · exact ⟨_, List.mem_cons_self, first⟩
      · obtain ⟨item, inItems, readsItem⟩ := induction later
        exact ⟨item, List.mem_cons_of_mem _ inItems, readsItem⟩

/-- Related lists give the same first hit when related items do. -/
theorem map_find?_of_forall₂ {α β γ : Type} {related : α → β → Prop}
    {first : List α} {second : List β}
    (same : List.Forall₂ related first second) {p : α → Bool} {q : β → Bool}
    {f : α → γ} {g : β → γ} (alike : ∀ a b, related a b → p a = q b)
    (results : ∀ a b, related a b → f a = g b) :
    (first.find? p).map f = (second.find? q).map g := by
  induction same with
  | nil => rfl
  | @cons a b _ _ head _ induction =>
      rw [List.find?_cons, List.find?_cons, alike a b head]
      cases q b with
      | true => simp [results a b head]
      | false => simpa using induction

/-- Checked addition of 64-bit words. -/
def checkedAdd (left right : UInt64) : Option UInt64 :=
  if left.toNat + right.toNat < 2 ^ 64 then some (left + right) else none

theorem checkedAdd_eq_some_iff {left right sum : UInt64} :
    checkedAdd left right = some sum ↔
      sum.toNat = left.toNat + right.toNat := by
  unfold checkedAdd
  constructor
  · intro added
    split at added
    · rename_i fits
      obtain rfl := Option.some.inj added
      rw [UInt64.toNat_add, Nat.mod_eq_of_lt fits]
    · cases added
  · intro exact
    have fits : left.toNat + right.toNat < 2 ^ 64 := by
      rw [← exact]
      exact sum.toNat_lt
    rw [if_pos fits]
    congr 1
    apply UInt64.toNat_inj.mp
    rw [UInt64.toNat_add, Nat.mod_eq_of_lt fits, exact]

theorem checkedAdd_eq_none_iff {left right : UInt64} :
    checkedAdd left right = none ↔ 2 ^ 64 ≤ left.toNat + right.toNat := by
  unfold checkedAdd
  split <;> simp <;> omega

/-- Addition of sizes on a 64-bit target; `none` is an overflow. -/
def sizeAdd (left right : Nat) : Option Nat :=
  if left + right < 2 ^ 64 then some (left + right) else none

theorem sizeAdd_eq_some_iff {left right sum : Nat} :
    sizeAdd left right = some sum ↔
      sum = left + right ∧ left + right < 2 ^ 64 := by
  unfold sizeAdd
  split <;> simp <;> omega

theorem sizeAdd_eq_none_iff {left right : Nat} :
    sizeAdd left right = none ↔ 2 ^ 64 ≤ left + right := by
  unfold sizeAdd
  split <;> simp <;> omega

/-- Subtraction of sizes; `none` is an underflow. -/
def sizeSub (left right : Nat) : Option Nat :=
  if right ≤ left then some (left - right) else none

theorem sizeSub_eq_some_iff {left right difference : Nat} :
    sizeSub left right = some difference ↔ left = right + difference := by
  unfold sizeSub
  split <;> simp <;> omega

theorem sizeSub_eq_none_iff {left right : Nat} :
    sizeSub left right = none ↔ left < right := by
  unfold sizeSub
  split <;> simp <;> omega

end Foundation
