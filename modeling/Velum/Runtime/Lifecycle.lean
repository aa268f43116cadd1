import Velum.Foundation.Checked

/-!
# Client lifecycle

The phases of one client runtime and the counters of its snapshot.  Every
transition publishes a new revision, and every accepted command opens a new
generation, so that work of an earlier generation is recognised.
-/

namespace Velum.Runtime

open Foundation

/-- Failures of the direct client. -/
inductive ClientError where
  | certificate
  | connectTimeout
  | connection
  | controlTooLarge
  | datagramTooLarge
  | datagramUnavailable
  | protocol
  | transport
  deriving DecidableEq, Repr

inductive RuntimePhase where
  | stopped
  | connecting
  | online
  | stopping
  | failed
  deriving DecidableEq, Repr

inductive RuntimeFailure where
  | certificate
  | connectTimeout
  | connection
  | controlTooLarge
  | datagramTooLarge
  | datagramUnavailable
  | protocol
  | transport
  deriving DecidableEq, Repr

def RuntimeFailure.ofClientError : ClientError → RuntimeFailure
  | .certificate => .certificate
  | .connectTimeout => .connectTimeout
  | .connection => .connection
  | .controlTooLarge => .controlTooLarge
  | .datagramTooLarge => .datagramTooLarge
  | .datagramUnavailable => .datagramUnavailable
  | .protocol => .protocol
  | .transport => .transport

/-- Latest-value view of the client lifecycle. -/
structure RuntimeSnapshot where
  revision : UInt64 := 0
  generation : UInt64 := 0
  phase : RuntimePhase := .stopped
  failure : Option RuntimeFailure := none
  deriving DecidableEq, Repr

inductive RuntimeError where
  | busy
  | executorUnavailable
  | notOnline
  | superseded
  | client (error : ClientError)
  deriving DecidableEq, Repr

/-- The two counters that panic when they are exhausted. -/
inductive RuntimePanic where
  | generationExhausted
  | revisionExhausted
  deriving DecidableEq, Repr

/-- A call on the lifecycle. -/
abbrev LifecycleCall := Outcome RuntimePanic RuntimeError

structure Lifecycle where
  snapshot : RuntimeSnapshot := {}
  deriving DecidableEq, Repr

namespace Lifecycle

/-- Enters a phase with the next revision and hands the lifecycle on. -/
def transition (lifecycle : Lifecycle) (phase : RuntimePhase)
    (failure : Option RuntimeFailure) {Value : Type}
    (andThen : Lifecycle → Value) : LifecycleCall Value :=
  match checkedAdd lifecycle.snapshot.revision 1 with
  | none => .panic .revisionExhausted
  | some revision =>
      .ok (andThen
        { snapshot := { lifecycle.snapshot with revision, phase, failure } })

def beginConnect (lifecycle : Lifecycle) :
    LifecycleCall (UInt64 × Lifecycle) :=
  if lifecycle.snapshot.phase ≠ .stopped ∧
      lifecycle.snapshot.phase ≠ .failed then .err .busy
  else
    match checkedAdd lifecycle.snapshot.generation 1 with
    | none => .panic .generationExhausted
    | some generation =>
        transition
          { snapshot := { lifecycle.snapshot with generation } }
          .connecting none fun next => (generation, next)

def completeConnect (lifecycle : Lifecycle) (generation : UInt64)
    (result : Except RuntimeFailure Unit) :
    LifecycleCall (Bool × Lifecycle) :=
  if generation ≠ lifecycle.snapshot.generation ∨
      lifecycle.snapshot.phase ≠ .connecting then .ok (false, lifecycle)
  else
    match result with
    | .ok () => lifecycle.transition .online none fun next => (true, next)
    | .error failure =>
        lifecycle.transition .failed (some failure) fun next => (true, next)

def beginStop (lifecycle : Lifecycle) :
    LifecycleCall (Option UInt64 × Lifecycle) :=
  if lifecycle.snapshot.phase = .stopped then .ok (none, lifecycle)
  else
    match checkedAdd lifecycle.snapshot.generation 1 with
    | none => .panic .generationExhausted
    | some generation =>
        transition
          { snapshot := { lifecycle.snapshot with generation } }
          .stopping none fun next => (some generation, next)

def completeStop (lifecycle : Lifecycle) (generation : UInt64) :
    LifecycleCall (Bool × Lifecycle) :=
  if generation ≠ lifecycle.snapshot.generation ∨
      lifecycle.snapshot.phase ≠ .stopping then .ok (false, lifecycle)
  else lifecycle.transition .stopped none fun next => (true, next)

def failOnline (lifecycle : Lifecycle) (generation : UInt64)
    (failure : RuntimeFailure) : LifecycleCall (Bool × Lifecycle) :=
  if generation ≠ lifecycle.snapshot.generation ∨
      lifecycle.snapshot.phase ≠ .online then .ok (false, lifecycle)
  else
    lifecycle.transition .failed (some failure) fun next => (true, next)

end Lifecycle

/-! ## What the calls do -/

/-- One transition: the next revision, and no earlier generation. -/
def RuntimeSnapshot.Follows (after before : RuntimeSnapshot) : Prop :=
  before.revision < after.revision ∧ before.generation ≤ after.generation

theorem RuntimeSnapshot.Follows.trans {last middle first : RuntimeSnapshot}
    (late : last.Follows middle) (early : middle.Follows first) :
    last.Follows first :=
  ⟨UInt64.lt_trans early.1 late.1, UInt64.le_trans early.2 late.2⟩

namespace Lifecycle

theorem lt_of_checkedAdd {before after : UInt64}
    (added : checkedAdd before 1 = some after) : before < after := by
  rw [UInt64.lt_iff_toNat_lt, checkedAdd_eq_some_iff.mp added]
  exact Nat.lt_succ_self _

theorem transition_ok {lifecycle : Lifecycle} {phase : RuntimePhase}
    {failure : Option RuntimeFailure} {Value : Type}
    {andThen : Lifecycle → Value} {value : Value}
    (returned : lifecycle.transition phase failure andThen = .ok value) :
    ∃ next : Lifecycle, value = andThen next ∧
      lifecycle.snapshot.revision < next.snapshot.revision ∧
      next.snapshot.generation = lifecycle.snapshot.generation ∧
      next.snapshot.phase = phase := by
  unfold transition at returned
  split at returned
  · cases returned
  · rename_i revision added
    cases returned
    exact ⟨_, rfl, lt_of_checkedAdd added, rfl, rfl⟩

theorem beginConnect_ok {lifecycle next : Lifecycle} {generation : UInt64}
    (returned : lifecycle.beginConnect = .ok (generation, next)) :
    (lifecycle.snapshot.phase = .stopped ∨
        lifecycle.snapshot.phase = .failed) ∧
      next.snapshot.Follows lifecycle.snapshot ∧
      lifecycle.snapshot.generation < generation ∧
      next.snapshot.generation = generation ∧
      next.snapshot.phase = .connecting := by
  unfold beginConnect at returned
  split at returned
  · cases returned
  rename_i idle
  split at returned
  · cases returned
  rename_i opened added
  obtain ⟨entered, same, revision, kept, phase⟩ := transition_ok returned
  obtain ⟨rfl, rfl⟩ := Prod.mk.inj same
  have newer := lt_of_checkedAdd added
  refine ⟨?_, ⟨revision, ?_⟩, newer, kept, phase⟩
  · by_cases stopped : lifecycle.snapshot.phase = .stopped
    · exact .inl stopped
    · exact .inr (not_not.mp fun failed => idle ⟨stopped, failed⟩)
  · rw [kept]
    exact UInt64.le_of_lt newer

theorem completeConnect_ok {lifecycle next : Lifecycle}
    {generation : UInt64} {result : Except RuntimeFailure Unit}
    {applied : Bool}
    (current : generation = lifecycle.snapshot.generation ∧
      lifecycle.snapshot.phase = .connecting)
    (returned : lifecycle.completeConnect generation result =
      .ok (applied, next)) :
    applied = true ∧ next.snapshot.Follows lifecycle.snapshot ∧
      next.snapshot.generation = lifecycle.snapshot.generation ∧
      next.snapshot.phase = (if result.isOk then .online else .failed) := by
  unfold completeConnect at returned
  rw [if_neg (by simp [current.1, current.2])] at returned
  cases result with
  | ok success =>
      obtain ⟨entered, same, revision, kept, phase⟩ := transition_ok returned
      obtain ⟨rfl, rfl⟩ := Prod.mk.inj same
      exact ⟨rfl, ⟨revision, kept ▸ UInt64.le_refl _⟩, kept, phase⟩
  | error failure =>
      obtain ⟨entered, same, revision, kept, phase⟩ := transition_ok returned
      obtain ⟨rfl, rfl⟩ := Prod.mk.inj same
      exact ⟨rfl, ⟨revision, kept ▸ UInt64.le_refl _⟩, kept, phase⟩

theorem beginStop_ok {lifecycle next : Lifecycle}
    {answer : Option UInt64}
    (returned : lifecycle.beginStop = .ok (answer, next)) :
    (lifecycle.snapshot.phase = .stopped ∧ answer = none ∧
        next = lifecycle) ∨
      ∃ generation, answer = some generation ∧
        next.snapshot.Follows lifecycle.snapshot ∧
        lifecycle.snapshot.generation < generation ∧
        next.snapshot.generation = generation ∧
        next.snapshot.phase = .stopping := by
  unfold beginStop at returned
  split at returned
  · rename_i stopped
    cases returned
    exact .inl ⟨stopped, rfl, rfl⟩
  split at returned
  · cases returned
  rename_i opened added
  obtain ⟨entered, same, revision, kept, phase⟩ := transition_ok returned
  obtain ⟨rfl, rfl⟩ := Prod.mk.inj same
  have newer := lt_of_checkedAdd added
  refine .inr ⟨opened, rfl, ⟨revision, ?_⟩, newer, kept, phase⟩
  rw [kept]
  exact UInt64.le_of_lt newer

theorem completeStop_ok {lifecycle next : Lifecycle}
    {generation : UInt64} {completed : Bool}
    (current : lifecycle.snapshot.generation = generation ∧
      lifecycle.snapshot.phase = .stopping)
    (returned : lifecycle.completeStop generation =
      .ok (completed, next)) :
    completed = true ∧ next.snapshot.Follows lifecycle.snapshot ∧
      next.snapshot.phase = .stopped := by
  unfold completeStop at returned
  rw [if_neg (by simp [current.1, current.2])] at returned
  obtain ⟨entered, same, revision, kept, phase⟩ := transition_ok returned
  obtain ⟨rfl, rfl⟩ := Prod.mk.inj same
  exact ⟨rfl, ⟨revision, kept ▸ UInt64.le_refl _⟩, phase⟩

theorem failOnline_ok {lifecycle next : Lifecycle} {generation : UInt64}
    {failure : RuntimeFailure} {applied : Bool}
    (returned : lifecycle.failOnline generation failure =
      .ok (applied, next)) :
    (applied = false ∧ next = lifecycle ∧
        (generation ≠ lifecycle.snapshot.generation ∨
          lifecycle.snapshot.phase ≠ .online)) ∨
      (applied = true ∧ generation = lifecycle.snapshot.generation ∧
        lifecycle.snapshot.phase = .online ∧
        next.snapshot.Follows lifecycle.snapshot ∧
        next.snapshot.phase = .failed) := by
  unfold failOnline at returned
  split at returned
  · rename_i stale
    cases returned
    exact .inl ⟨rfl, rfl, stale⟩
  · rename_i current
    rw [not_or, not_not, not_not] at current
    obtain ⟨entered, same, revision, kept, phase⟩ := transition_ok returned
    obtain ⟨rfl, rfl⟩ := Prod.mk.inj same
    exact .inr ⟨rfl, current.1, current.2,
      ⟨revision, kept ▸ UInt64.le_refl _⟩, phase⟩

end Lifecycle

end Velum.Runtime
