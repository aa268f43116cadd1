import Mathlib.Logic.Function.Basic
import Velum.Foundation.Script

/-!
# Assignments to stores

A store is a function from keys to values.  A program that assigns to some keys
leaves the store as it was outside them, and assigning their former values to
all of them gives the former store back.  A script assigns in a loop, which may
be cut off or fail at any key.
-/

namespace Foundation

namespace Store

variable {Key Value : Type} {keys : List Key} {first second : Key → Value}

def AgreeOn (keys : List Key) (first second : Key → Value) : Prop :=
  ∀ key ∈ keys, first key = second key

def AgreeOutside (keys : List Key) (first second : Key → Value) : Prop :=
  ∀ key, key ∉ keys → first key = second key

theorem agreeOn_nil (first second : Key → Value) : AgreeOn [] first second :=
  fun _ member => absurd member List.not_mem_nil

theorem AgreeOutside.refl (keys : List Key) (store : Key → Value) :
    AgreeOutside keys store store :=
  fun _ _ => rfl

theorem AgreeOutside.eq (outside : AgreeOutside keys first second)
    (inside : AgreeOn keys first second) : first = second := by
  funext key
  by_cases member : key ∈ keys
  · exact inside key member
  · exact outside key member

variable [DecidableEq Key]

/-- Assigning to the keys. -/
theorem AgreeOutside.update (outside : AgreeOutside keys first second)
    {key : Key} (member : key ∈ keys) (value : Value) :
    AgreeOutside keys (Function.update first key value) second := by
  intro other absent
  have different : other ≠ key := fun same => absent (same ▸ member)
  rw [Function.update_of_ne different]
  exact outside other absent

/-- Assigning the former value of one key more. -/
theorem AgreeOn.update (inside : AgreeOn keys first second) (key : Key) :
    AgreeOn (keys ++ [key]) (Function.update first key (second key))
      second := by
  intro other member
  by_cases same : other = key
  · rw [same, Function.update_self]
  · rw [Function.update_of_ne same]
    rcases List.mem_append.mp member with earlier | last
    · exact inside other earlier
    · exact absurd (List.mem_singleton.mp last) same

end Store

namespace Script

variable {Call : Type} {Reply : Call → Type} {World Item Failure : Type}
  {answers : World → (request : Call) → Reply request → World → Prop}
  {safe : World → Call → Prop}

/-- No law of monads is needed. -/
theorem forM_map {Monad_ : Type → Type} [Monad Monad_] {Other : Type}
    (items : List Item) (rename : Item → Other) (body : Other → Monad_ Unit) :
    (items.map rename).forM body = items.forM fun item =>
      body (rename item) := by
  induction items with
  | nil => rfl
  | cons item items induction =>
      exact congrArg (fun rest => body (rename item) >>= fun _ => rest)
        induction

/-- The rule for loops: what holds for the items that are done holds for one
item more, or the loop fails. -/
theorem guarantees_forM {items : List Item}
    {body : Item → ExceptT Failure (Script Call Reply) Unit}
    {holds : List Item → World → Prop}
    {post : Except Failure Unit → World → Prop} {world : World}
    (start : holds [] world)
    (step : ∀ done item rest world, items = done ++ item :: rest →
      holds done world →
      Guarantees answers safe (fun result after =>
        match result with
        | .ok _ => holds (done ++ [item]) after
        | .error failure => post (.error failure) after) (body item) world)
    (finish : ∀ world, holds items world → post (.ok ()) world) :
    Guarantees answers safe post
      (items.forM body : ExceptT Failure (Script Call Reply) Unit) world := by
  suffices later : ∀ rest done world, items = done ++ rest →
      holds done world → Guarantees answers safe post
        (rest.forM body : ExceptT Failure (Script Call Reply) Unit) world by
    exact later items [] world rfl start
  intro rest
  induction rest with
  | nil =>
      intro done world whole held
      rw [List.append_nil] at whole
      exact finish world (whole ▸ held)
  | cons item rest induction =>
      intro done world whole held
      have next := step done item rest world whole held
      change Guarantees answers safe post (body item >>= fun _ =>
        rest.forM body : ExceptT Failure (Script Call Reply) Unit) world
      refine guarantees_bind_except.mpr (next.mono (fun safe => safe) ?_)
      rintro (failure | value) after ended
      · exact ended
      · refine induction (done ++ [item]) after ?_ ended
        rw [whole, List.append_assoc]
        rfl

end Script

end Foundation
