import Velum.Foundation.Script
import Mathlib.Logic.Function.Basic

/-!
# Two scripts that share an environment

The scripts take turns at the granularity of their calls, in any order.  One
of them is proved about by itself: what the other one does to the world
between two of its calls is a relation that it relies on.
-/

namespace Foundation

inductive Side where
  | left
  | right
  deriving DecidableEq, Repr

namespace Side

def other : Side → Side
  | left => right
  | right => left

@[simp] theorem other_other (side : Side) : side.other.other = side := by
  cases side with
  | left => rfl
  | right => rfl

@[simp] theorem other_ne (side : Side) : side.other ≠ side := by
  cases side with
  | left => decide
  | right => decide

@[simp] theorem ne_other (side : Side) : side ≠ side.other :=
  side.other_ne.symm

theorem eq_or_eq_other (side earlier : Side) :
    side = earlier ∨ side = earlier.other := by
  cases side with
  | left =>
      cases earlier with
      | left => exact .inl rfl
      | right => exact .inr rfl
  | right =>
      cases earlier with
      | left => exact .inr rfl
      | right => exact .inl rfl

end Side

namespace Script

variable {Call : Type} {Reply : Call → Type} {Result World : Type}

/-- Two scripts in the middle of their calls. -/
structure Shared (Call : Type) (Reply : Call → Type) (Result World : Type)
    where
  world : World
  script : Side → Script Call Reply Result

/-- One call of one of the scripts. -/
structure Turn (Call : Type) (Reply : Call → Type) where
  side : Side
  call : Call
  reply : Reply call

/-- The script of one side makes its next call.  What a call does may depend
on whose it is. -/
inductive Takes
    (answers : Side → World → (call : Call) → Reply call → World → Prop) :
    Shared Call Reply Result World → Turn Call Reply →
    Shared Call Reply Result World → Prop where
  | turn {state : Shared Call Reply Result World} {side : Side} {call : Call}
      {reply : Reply call} {next : Reply call → Script Call Reply Result}
      {after : World} :
      state.script side = .ask call next →
      answers side state.world call reply after →
      Takes answers state ⟨side, call, reply⟩
        ⟨after, Function.update state.script side (next reply)⟩

/-! ## Reliance on the other script -/

/-- The environment in which something else may happen before each call. -/
def interfered (rely : World → World → Prop)
    (answers : World → (call : Call) → Reply call → World → Prop)
    (world : World) (call : Call) (reply : Reply call) (after : World) :
    Prop :=
  ∃ between, rely world between ∧ answers between call reply after

variable {rely : World → World → Prop}
  {answers : World → (call : Call) → Reply call → World → Prop}
  {safe : World → Call → Prop} {post : Result → World → Prop}

/-- A guarantee survives everything it relies on. -/
theorem Guarantees.stable {script : Script Call Reply Result}
    {world later : World}
    (transitive : ∀ {first second third}, rely first second →
      rely second third → rely first third)
    (safeStable : ∀ {world later call}, rely world later → safe world call →
      safe later call)
    (postStable : ∀ {world later result}, rely world later →
      post result world → post result later)
    (held : Guarantees (interfered rely answers) safe post script world)
    (relied : rely world later) :
    Guarantees (interfered rely answers) safe post script later := by
  cases script with
  | done result => exact postStable relied held
  | ask call next =>
      refine ⟨safeStable relied held.1, ?_⟩
      rintro reply after ⟨between, moved, answered⟩
      exact held.2 reply after ⟨between, transitive relied moved, answered⟩

/-- A guarantee after the next call. -/
theorem Guarantees.advance {call : Call} {reply : Reply call}
    {next : Reply call → Script Call Reply Result} {world after : World}
    (reflexive : rely world world)
    (held : Guarantees (interfered rely answers) safe post (ask call next)
      world)
    (answered : answers world call reply after) :
    Guarantees (interfered rely answers) safe post (next reply) after :=
  held.2 reply after ⟨world, reflexive, answered⟩

/-- The rule for one call: whatever happened before it, the environment
answers as it does for a script that runs alone. -/
theorem guarantees_call_interfered {call : Call} {world : World}
    {post : Reply call → World → Prop} (allowed : safe world call)
    (each : ∀ between, rely world between →
      Guarantees answers (fun _ _ => True) post (Script.call call) between) :
    Guarantees (interfered rely answers) safe post (Script.call call)
      world := by
  refine ⟨allowed, ?_⟩
  rintro reply after ⟨between, relied, answered⟩
  exact (each between relied).2 reply after answered

end Script

end Foundation
