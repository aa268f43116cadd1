import Velum.Foundation.Checked
import Velum.Protocol.Types

/-!
# Bounded epoch validity during a carrier transition

The window holds the current epoch and at most one retiring epoch.  A second
transition cannot begin before the retiring epoch is closed.
-/

namespace Velum.Session

open Foundation
open Velum.Protocol

/-- The places where the session stops with a panic: an exhausted counter, a
broken accounting invariant, or an arithmetic overflow. -/
inductive Panic where
  | sequenceExhausted
  | pendingTimeoutExhausted
  | sessionTickExhausted
  | epochExhausted
  | segmentAccounting
  | byteAccounting
  | timedOutFlowMissing
  | additionOverflow
  | subtractionOverflow
  deriving DecidableEq, Repr

/-- A counter reached the end of its 64-bit range. -/
def Panic.Exhaustion : Panic → Prop
  | .sequenceExhausted => True
  | .pendingTimeoutExhausted => True
  | .sessionTickExhausted => True
  | .epochExhausted => True
  | _ => False

structure TransitionState where
  current : Epoch
  retiring : Option Epoch
  deriving DecidableEq, Repr

inductive EpochValidity where
  | current
  | retiring
  | stale
  | future
  deriving DecidableEq, Repr

namespace TransitionState

def new (current : Epoch) : TransitionState :=
  { current, retiring := none }

/-- Starts a transition; `none` means that one is already in progress. -/
def advance (state : TransitionState) :
    Outcome Panic Empty (Option Epoch) × TransitionState :=
  if state.retiring.isSome then (.ok none, state)
  else
    match checkedAdd state.current.value 1 with
    | none => (.panic .epochExhausted, state)
    | some next =>
        (.ok (some ⟨next⟩),
          { current := ⟨next⟩, retiring := some state.current })

def retirePrevious (state : TransitionState) : TransitionState :=
  { state with retiring := none }

def validate (state : TransitionState) (epoch : Epoch) : EpochValidity :=
  if epoch = state.current then .current
  else if some epoch = state.retiring then .retiring
  else if epoch < state.current then .stale
  else .future

theorem validate_eq_current_iff {state : TransitionState} {epoch : Epoch} :
    state.validate epoch = .current ↔ epoch = state.current := by
  unfold validate
  constructor
  · intro valid
    split at valid
    · assumption
    · split at valid
      · cases valid
      · split at valid
        · cases valid
        · cases valid
  · intro same
    rw [if_pos same]

/-- Everything a call of `advance` can do. -/
theorem advance_cases {state next : TransitionState}
    {outcome : Outcome Panic Empty (Option Epoch)}
    (called : state.advance = (outcome, next)) :
    (state.retiring ≠ none ∧ outcome = .ok none ∧ next = state) ∨
    (state.retiring = none ∧ outcome = .panic .epochExhausted ∧
      next = state) ∨
    (∃ epoch, state.retiring = none ∧ outcome = .ok (some epoch) ∧
      epoch.value.toNat = state.current.value.toNat + 1 ∧
      next = { current := epoch, retiring := some state.current }) := by
  unfold advance at called
  split at called
  · rename_i busy
    cases called
    exact .inl ⟨Option.isSome_iff_ne_none.mp busy, rfl, rfl⟩
  · rename_i idle
    have free : state.retiring = none := by
      simpa using idle
    split at called
    · cases called
      exact .inr (.inl ⟨free, rfl, rfl⟩)
    · rename_i value added
      cases called
      refine .inr (.inr ⟨⟨value⟩, free, rfl, ?_, rfl⟩)
      simpa using checkedAdd_eq_some_iff.mp added

end TransitionState

end Velum.Session
