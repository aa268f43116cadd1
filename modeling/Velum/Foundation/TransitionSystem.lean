import Mathlib.Data.List.Induction

/-!
# Labelled runs and invariants

A component is observed through the labels of its steps.  A run keeps its
labels in the order in which they happened, so facts about the history of a
component and facts about its present state are proved by one induction.
-/

namespace Foundation

variable {State Label : Type*}

/-- A finite run of a labelled step relation.  The trace lists the labels
oldest first, and a run grows at its end. -/
inductive Run (step : State → Label → State → Prop) (initial : State) :
    List Label → State → Prop where
  | nil : Run step initial [] initial
  | snoc {trace : List Label} {state next : State} {label : Label} :
      Run step initial trace state → step state label next →
      Run step initial (trace ++ [label]) next

/-- A state is reachable when some run ends in it. -/
def Reachable (step : State → Label → State → Prop)
    (initial state : State) : Prop :=
  ∃ trace, Run step initial trace state

namespace Run

variable {step : State → Label → State → Prop}

theorem single {state next : State} {label : Label}
    (move : step state label next) : Run step state [label] next :=
  .snoc .nil move

theorem append {initial middle final : State} {first second : List Label}
    (front : Run step initial first middle)
    (back : Run step middle second final) :
    Run step initial (first ++ second) final := by
  induction back with
  | nil => simpa using front
  | snoc _ move induction =>
      rw [← List.append_assoc]
      exact .snoc induction move

theorem cons {initial next final : State} {trace : List Label}
    {label : Label} (move : step initial label next)
    (run : Run step next trace final) :
    Run step initial (label :: trace) final :=
  (single move).append run

/-- A run to some state, built from its first step on. -/
theorem exists_cons {initial next : State} {trace : List Label}
    {label : Label} {holds : State → Prop} (move : step initial label next)
    (later : ∃ final, Run step next trace final ∧ holds final) :
    ∃ final, Run step initial (label :: trace) final ∧ holds final := by
  obtain ⟨final, run, held⟩ := later
  exact ⟨final, cons move run, held⟩

/-- The run that a step function makes. -/
theorem of_foldlM {next : State → Label → Option State}
    {initial final : State} {trace : List Label}
    (made : trace.foldlM next initial = some final) :
    Run (fun state label after => next state label = some after) initial
      trace final := by
  induction trace generalizing initial with
  | nil =>
      cases made
      exact .nil
  | cons label rest induction =>
      rw [List.foldlM_cons] at made
      obtain ⟨middle, first, later⟩ := Option.bind_eq_some_iff.mp made
      exact cons first (induction later)

theorem last {initial final : State} {trace : List Label} {label : Label}
    (run : Run step initial (trace ++ [label]) final) :
    ∃ state, Run step initial trace state ∧ step state label final := by
  generalize whole : trace ++ [label] = labels at run
  cases run with
  | nil => exact absurd whole (by simp)
  | snoc front move =>
      obtain ⟨rfl, same⟩ := List.append_inj' whole rfl
      cases same
      exact ⟨_, front, move⟩

theorem split {initial final : State} {first second : List Label}
    (run : Run step initial (first ++ second) final) :
    ∃ middle, Run step initial first middle ∧
      Run step middle second final := by
  induction second using List.reverseRecOn generalizing final with
  | nil =>
      rw [List.append_nil] at run
      exact ⟨final, run, .nil⟩
  | append_singleton second label induction =>
      rw [← List.append_assoc] at run
      obtain ⟨state, front, move⟩ := run.last
      obtain ⟨middle, before, after⟩ := induction front
      exact ⟨middle, before, after.snoc move⟩

theorem eq_of_nil {initial final : State}
    (run : Run step initial [] final) : final = initial := by
  generalize whole : [] = labels at run
  cases run with
  | nil => rfl
  | snoc front move => exact absurd whole (by simp)

theorem head {initial final : State} {trace : List Label} {label : Label}
    (run : Run step initial (label :: trace) final) :
    ∃ next, step initial label next ∧ Run step next trace final := by
  have parted : Run step initial (([] ++ [label]) ++ trace) final := run
  obtain ⟨next, front, back⟩ := parted.split
  obtain ⟨state, start, move⟩ := front.last
  rw [eq_of_nil start] at move
  exact ⟨next, move, back⟩

/-- A label of the trace stands for a step of the run. -/
theorem of_mem {initial final : State} {trace : List Label} {label : Label}
    (run : Run step initial trace final) (member : label ∈ trace) :
    ∃ front back before after, trace = front ++ label :: back ∧
      Run step initial front before ∧ step before label after ∧
      Run step after back final := by
  obtain ⟨front, back, rfl⟩ := List.append_of_mem member
  obtain ⟨before, early, late⟩ := run.split
  obtain ⟨after, move, rest⟩ := late.head
  exact ⟨front, back, before, after, rfl, early, move, rest⟩

theorem restrict {initial final : State} {trace : List Label}
    {allowed : Label → Prop} (run : Run step initial trace final)
    (every : ∀ label ∈ trace, allowed label) :
    Run (fun state label next => step state label next ∧ allowed label)
      initial trace final := by
  induction run with
  | nil => exact .nil
  | snoc _ move induction =>
      refine .snoc (induction ?_) ⟨move, ?_⟩
      · intro label member
        exact every label (List.mem_append_left _ member)
      · exact every _ (List.mem_append_right _ List.mem_cons_self)

theorem mono {initial final : State} {trace : List Label}
    {weaker : State → Label → State → Prop}
    (run : Run step initial trace final)
    (implied : ∀ {state label next}, step state label next →
      weaker state label next) : Run weaker initial trace final := by
  induction run with
  | nil => exact .nil
  | snoc _ move induction => exact .snoc induction (implied move)

/-- A predicate that holds at the start and survives every step with an
allowed label holds at the end of a run whose labels are all allowed. -/
theorem invariant_on {initial final : State} {trace : List Label}
    {holds : State → Prop} {allowed : Label → Prop}
    (start : holds initial)
    (preserved : ∀ {state label next}, holds state → allowed label →
      step state label next → holds next)
    (run : Run step initial trace final)
    (every : ∀ label ∈ trace, allowed label) : holds final := by
  induction run with
  | nil => exact start
  | snoc _ move induction =>
      have earlier := induction fun label member =>
        every label (List.mem_append_left _ member)
      exact preserved earlier
        (every _ (List.mem_append_right _ List.mem_cons_self)) move

/-- A predicate that holds at the start and survives every step holds at the
end of every run. -/
theorem invariant {initial final : State} {trace : List Label}
    {holds : State → Prop} (start : holds initial)
    (preserved : ∀ {state label next}, holds state →
      step state label next → holds next)
    (run : Run step initial trace final) : holds final :=
  have survives : ∀ {state label next}, holds state → True →
      step state label next → holds next :=
    fun held _ move => preserved held move
  run.invariant_on start survives fun _ _ => trivial

end Run

namespace Reachable

variable {step : State → Label → State → Prop}

theorem snoc {initial state next : State} {label : Label}
    (reached : Reachable step initial state)
    (move : step state label next) : Reachable step initial next := by
  obtain ⟨trace, run⟩ := reached
  exact ⟨_, run.snoc move⟩

theorem invariant {initial state : State} {holds : State → Prop}
    (start : holds initial)
    (preserved : ∀ {state label next}, holds state →
      step state label next → holds next)
    (reached : Reachable step initial state) : holds state := by
  obtain ⟨_, run⟩ := reached
  exact run.invariant start preserved

end Reachable

end Foundation
