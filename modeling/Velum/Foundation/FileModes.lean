import Velum.Foundation.HostFiles

/-!
# Programs on files with modes

Beside the files stands whose mode grants something to its group or to others.
A file keeps its mode while it is there, save where a program restricts it; a
file that is written where there was none has any mode, one that is created
new is its owner's alone, and a renamed file takes its mode along.

A private file stays private under every operation that spares it, whether the
operation is performed or fails.
-/

namespace Foundation

namespace FileOperation

variable {Path Contents : Type} [DecidableEq Path]

/-- Whose mode grants something after the operation, which was performed or
has failed. -/
def Grants (files : Path → Option Contents) (exposed : Path → Bool)
    (performed : Bool) (after : Path → Bool) :
    FileOperation Path Contents → Prop
  | .write path _ => ∀ other, other ≠ path ∨ (files other).isSome →
      after other = exposed other
  | .copy _ target => ∀ other, other ≠ target → after other = exposed other
  | .createNew path _ => after =
      if performed then Function.update exposed path false else exposed
  | .restrict path => after =
      if performed then Function.update exposed path false else exposed
  | .rename source target => after =
      if performed then Function.update exposed target (exposed source)
      else exposed
  | _ => after = exposed

/-- The operation neither replaces nor removes what is under the path. -/
def Spares (kept : Path) : FileOperation Path Contents → Prop
  | .copy _ target => target ≠ kept
  | .write path _ => path ≠ kept
  | .rename source target => source ≠ kept ∧ target ≠ kept
  | .remove path => path ≠ kept
  | _ => True

end FileOperation

/-- The state of a host, and whose mode grants something. -/
abbrev ModedState (Label Path Contents : Type) :=
  HostState Label Path Contents × (Path → Bool)

namespace HostCall

variable {Label Path Contents : Type} [DecidableEq Path]

def Grants (files : Path → Option Contents) (exposed after : Path → Bool) :
    (call : HostCall Label Path Contents) → call.Reply → Prop
  | .perform _ operation, reply => operation.Grants files exposed
      (match reply with | .ok _ => true | .error _ => false) after
  | _, _ => after = exposed

end HostCall

/-- The host with its failures and its modes. -/
def ModedAnswers (Label Path Contents : Type) [DecidableEq Path]
    (before : ModedState Label Path Contents)
    (call : HostCall Label Path Contents) (reply : call.Reply)
    (after : ModedState Label Path Contents) : Prop :=
  HostAnswers Label Path Contents before.1 call reply after.1 ∧
    call.Grants before.1.1 before.2 after.2 reply

namespace HostProgram

variable {Label Path Contents Result : Type} [DecidableEq Path]

/-- The program returns or raises in a state with modes that meets the
condition. -/
def Secures (program : HostProgram Label Path Contents Result)
    (state : ModedState Label Path Contents)
    (returns : Result → ModedState Label Path Contents → Prop)
    (raises : String → ModedState Label Path Contents → Prop) : Prop :=
  Script.Yields (ModedAnswers Label Path Contents) program state returns raises

/-- The file is there, and its owner's alone. -/
def IsPrivate (path : Path) (state : ModedState Label Path Contents) : Prop :=
  (state.1.1 path).isSome ∧ state.2 path = false

theorem ends_of_moded {program : HostProgram Label Path Contents Result}
    {state final : ModedState Label Path Contents}
    {result : Except String Result}
    (ended : Script.Ends (ModedAnswers Label Path Contents) state program
      result final) :
    Script.Ends (HostAnswers Label Path Contents) state.1 program result
      final.1 :=
  ended.part fun answered => answered.1

section Rules

variable {program : HostProgram Label Path Contents Result} {Final : Type}
  {state : ModedState Label Path Contents}
  {returns : Result → ModedState Label Path Contents → Prop}
  {raises : String → ModedState Label Path Contents → Prop}

@[simp] theorem secures_pure {value : Result} :
    Secures (pure value) state returns raises ↔ returns value state :=
  Iff.rfl

@[simp] theorem secures_throw {message : String} :
    Secures (throw message) state returns raises ↔ raises message state :=
  Iff.rfl

@[simp] theorem secures_bind
    {rest : Result → HostProgram Label Path Contents Final}
    {finally_ : Final → ModedState Label Path Contents → Prop} :
    Secures (program >>= rest) state finally_ raises ↔
      Secures program state
        (fun value after => Secures (rest value) after finally_ raises)
        raises :=
  Script.yields_bind

@[simp] theorem secures_tryCatch
    {handler : String → HostProgram Label Path Contents Result} :
    Secures (tryCatch program handler) state returns raises ↔
      Secures program state returns
        (fun message after =>
          Secures (handler message) after returns raises) :=
  Script.yields_tryCatch

@[simp] theorem secures_outcome
    {answered : Except String Result →
      ModedState Label Path Contents → Prop} :
    Secures (outcome program) state answered raises ↔
      Secures program state (fun value after => answered (.ok value) after)
        (fun message after => answered (.error message) after) :=
  Script.yields_lift

theorem Secures.mono
    {later : Result → ModedState Label Path Contents → Prop}
    {louder : String → ModedState Label Path Contents → Prop}
    (held : Secures program state returns raises)
    (values : ∀ {value after}, returns value after → later value after)
    (messages : ∀ {message after}, raises message after →
      louder message after) :
    Secures program state later louder :=
  Script.Yields.mono held values messages

theorem Secures.of_ends {result : Except String Result}
    {final : ModedState Label Path Contents}
    (held : Secures program state returns raises)
    (ended : Script.Ends (ModedAnswers Label Path Contents) state program
      result final) :
    (∀ value, result = .ok value → returns value final) ∧
      ∀ message, result = .error message → raises message final :=
  Script.Yields.of_ends held ended

theorem secures_of_always (values : ∀ value after, returns value after)
    (messages : ∀ message after, raises message after) :
    Secures program state returns raises := by
  apply Script.guarantees_of_always fun _ _ => trivial
  intro result after
  cases result with
  | ok value => exact values value after
  | error message => exact messages message after

end Rules

/-! ## Private files -/

end HostProgram

namespace FileOperation

variable {Path Contents : Type} [DecidableEq Path] {kept : Path}
  {files after : Path → Option Contents} {left : Option Contents}
  {operation : FileOperation Path Contents}

theorem Spares.isSome_effect (spares : operation.Spares kept)
    (present : (files kept).isSome)
    (effect : operation.effect files = some after) : (after kept).isSome := by
  cases operation with
  | createDirectory | restrict | request =>
      cases effect
      exact present
  | copy source target =>
      obtain ⟨contents, _, rfl⟩ := Option.map_eq_some_iff.mp effect
      rwa [Function.update_of_ne (Ne.symm spares)]
  | write path contents =>
      cases effect
      rwa [Function.update_of_ne (Ne.symm spares)]
  | createNew path contents =>
      rw [FileOperation.effect] at effect
      split at effect
      next => cases effect
      next free =>
          cases effect
          by_cases same : kept = path
          · rw [same, Function.update_self]
            rfl
          · rwa [Function.update_of_ne same]
  | rename source target =>
      obtain ⟨contents, _, rfl⟩ := Option.map_eq_some_iff.mp effect
      rwa [Function.update_of_ne spares.2.symm,
        Function.update_of_ne spares.1.symm]
  | remove path =>
      rw [FileOperation.effect] at effect
      split at effect
      next =>
          cases effect
          rwa [Function.update_of_ne (Ne.symm spares)]
      next => cases effect

theorem Spares.isSome_leaves (spares : operation.Spares kept)
    (present : (files kept).isSome)
    (leaves : operation.Leaves files left after) : (after kept).isSome := by
  cases operation with
  | copy source target =>
      cases leaves
      rwa [Function.update_of_ne (Ne.symm spares)]
  | write path contents =>
      cases leaves
      rwa [Function.update_of_ne (Ne.symm spares)]
  | createDirectory | createNew | restrict | rename | remove | request =>
      obtain ⟨_, rfl⟩ := leaves
      exact present

/-- A file that is there and spared is not exposed. -/
theorem Spares.hidden {exposed granted : Path → Bool} {performed : Bool}
    (spares : operation.Spares kept) (present : (files kept).isSome)
    (hidden : exposed kept = false)
    (grants : operation.Grants files exposed performed granted) :
    granted kept = false := by
  have update {path : Path} :
      Function.update exposed path false kept = false := by
    by_cases same : kept = path
    · rw [same, Function.update_self]
    · rwa [Function.update_of_ne same]
  cases operation with
  | write path contents => exact (grants kept (.inr present)).trans hidden
  | copy source target =>
      exact (grants kept (Ne.symm spares)).trans hidden
  | createNew path contents =>
      cases performed with
      | true => exact (congrFun grants kept).trans update
      | false => exact (congrFun grants kept).trans hidden
  | restrict path =>
      cases performed with
      | true => exact (congrFun grants kept).trans update
      | false => exact (congrFun grants kept).trans hidden
  | rename source target =>
      cases performed with
      | true =>
          refine (congrFun grants kept).trans ?_
          rw [if_pos rfl, Function.update_of_ne spares.2.symm, hidden]
      | false => exact (congrFun grants kept).trans hidden
  | createDirectory | remove | request =>
      exact (congrFun grants kept).trans hidden

end FileOperation

namespace HostProgram

section Private

variable {Label Path Contents : Type} [DecidableEq Path] {kept path : Path}
  {state after : ModedState Label Path Contents} {label : Label}
  {describe : String → String} {operation : FileOperation Path Contents}
  {performed : Unit → ModedState Label Path Contents → Prop}
  {raises : String → ModedState Label Path Contents → Prop}

theorem IsPrivate.of_perform {reply : Except (IoError Contents) Unit}
    (held : IsPrivate kept state) (spares : operation.Spares kept)
    (answered : ModedAnswers Label Path Contents state
      (.perform label operation) reply after) : IsPrivate kept after := by
  obtain ⟨⟨changed, noted⟩, granted⟩ := after
  obtain ⟨⟨done | ⟨_, _, _, _, leaves⟩, _⟩, grants⟩ := answered
  · refine ⟨?_, spares.hidden held.1 held.2 grants⟩
    rw [HostCall.answer] at done
    split at done
    next files effect =>
        cases done
        exact spares.isSome_effect held.1 effect
    next =>
        cases done
        exact held.1
  · exact ⟨spares.isSome_leaves held.1 leaves,
      spares.hidden held.1 held.2 grants⟩

/-- The rule of an operation that spares a private file. -/
theorem secures_attempt (held : IsPrivate kept state)
    (spares : operation.Spares kept)
    (succeeds : ∀ after, IsPrivate kept after → performed () after)
    (fails : ∀ message after, IsPrivate kept after → raises message after) :
    Secures (attempt label operation describe) state performed raises := by
  refine ⟨trivial, ?_⟩
  intro reply after answered
  have still := held.of_perform spares answered
  change Except (IoError Contents) Unit at reply
  cases reply with
  | ok value => exact succeeds after still
  | error error => exact fails _ after still

@[simp] theorem secures_look
    {looked : Bool → ModedState Label Path Contents → Prop} :
    Secures (look path) state looked raises ↔
      looked (state.1.1 path).isSome state := by
  constructor
  · intro held
    exact held.2 _ state ⟨⟨.inl rfl, rfl⟩, rfl⟩
  · intro held
    refine ⟨trivial, ?_⟩
    rintro reply ⟨⟨files, noted⟩, granted⟩ ⟨⟨answered | ⟨_, impossible⟩,
      recorded⟩, grants⟩
    · cases answered
      cases recorded
      cases grants
      exact held
    · exact impossible.elim

theorem secures_read
    {found : Contents → ModedState Label Path Contents → Prop}
    (present : ∀ contents, state.1.1 path = some contents →
      found contents state)
    (failed : ∀ message failures,
      raises message ((state.1.1, failures), state.2)) :
    Secures (read label path describe) state found raises := by
  obtain ⟨⟨files, failures⟩, exposed⟩ := state
  refine ⟨trivial, ?_⟩
  rintro reply ⟨⟨after, noted⟩, granted⟩
    ⟨⟨answered | ⟨_, same, message, rfl⟩, recorded⟩, grants⟩
  · cases grants
    rw [HostCall.answer] at answered
    split at answered
    next contents held =>
        cases answered
        cases recorded
        exact present contents held
    next =>
        cases answered
        exact failed _ noted
  · cases grants
    cases same
    exact failed _ noted

/-- A file that is created new is not one that was there. -/
theorem secures_createNew {contents : Contents} (held : IsPrivate kept state)
    (succeeds : ∀ after, path ≠ kept → IsPrivate kept after →
      performed () after)
    (fails : ∀ message after, IsPrivate kept after → raises message after) :
    Secures (attempt label (.createNew path contents) describe) state
      performed raises := by
  refine ⟨trivial, ?_⟩
  intro reply after answered
  have spares : (FileOperation.createNew path contents).Spares kept :=
    trivial
  have still := held.of_perform spares answered
  change Except (IoError Contents) Unit at reply
  cases reply with
  | error error => exact fails _ after still
  | ok value =>
      apply succeeds after _ still
      rintro rfl
      obtain ⟨⟨done | ⟨_, _, _, impossible, _⟩, _⟩, _⟩ := answered
      · rw [HostCall.answer, FileOperation.effect, if_pos held.1] at done
        cases done
      · cases impossible

theorem secures_discard (held : IsPrivate kept state) (other : path ≠ kept)
    (gone : ∀ after, IsPrivate kept after → performed () after) :
    Secures (discard label path) state performed raises := by
  simp only [discard, secures_bind, secures_outcome, secures_pure]
  exact secures_attempt held other gone fun _ => gone

/-- A file that was written anew and then restricted is private. -/
theorem secures_write {contents : Contents}
    (succeeds : ∀ after, (after.1.1 path).isSome → performed () after)
    (fails : ∀ message after, raises message after) :
    Secures (attempt label (.write path contents) describe) state
      performed raises := by
  refine ⟨trivial, ?_⟩
  rintro reply ⟨⟨files, noted⟩, granted⟩
    ⟨⟨answered | ⟨_, _, _, rfl, _⟩, _⟩, _⟩
  · cases answered
    apply succeeds
    have written : Function.update state.1.1 path (some contents) path =
        some contents := Function.update_self _ _ _
    exact Option.isSome_of_eq_some written
  · exact fails _ _

theorem secures_restrict (present : (state.1.1 path).isSome)
    (succeeds : ∀ after, IsPrivate path after → performed () after)
    (fails : ∀ message after, raises message after) :
    Secures (attempt label (.restrict path) describe) state
      performed raises := by
  refine ⟨trivial, ?_⟩
  rintro reply ⟨⟨files, noted⟩, granted⟩
    ⟨⟨answered | ⟨_, _, _, rfl, _⟩, _⟩, grants⟩
  · cases answered
    cases grants
    exact succeeds _ ⟨present, Function.update_self _ _ _⟩
  · exact fails _ _

end Private

end HostProgram

/-! ## Runs -/

section Runs

variable {Label Path Contents Result : Type} [DecidableEq Path]

/-- The modes on a host where new files are exposed. -/
def FileOperation.granted (files : Path → Option Contents)
    (exposed : Path → Bool) (performed : Bool) :
    FileOperation Path Contents → Path → Bool
  | .write path _ =>
      if (files path).isSome then exposed
      else Function.update exposed path true
  | .copy _ target => Function.update exposed target true
  | .createNew path _ =>
      if performed then Function.update exposed path false else exposed
  | .restrict path =>
      if performed then Function.update exposed path false else exposed
  | .rename source target =>
      if performed then Function.update exposed target (exposed source)
      else exposed
  | _ => exposed

theorem FileOperation.grants_granted (files : Path → Option Contents)
    (exposed : Path → Bool) (performed : Bool)
    (operation : FileOperation Path Contents) :
    operation.Grants files exposed performed
      (operation.granted files exposed performed) := by
  cases operation with
  | write path contents =>
      intro other kept
      rw [FileOperation.granted]
      split
      next => rfl
      next absent =>
          apply Function.update_of_ne
          rintro rfl
          rcases kept with different | present
          · exact different rfl
          · exact absent present
  | copy source target =>
      intro other different
      exact Function.update_of_ne different _ _
  | createNew | restrict | rename | createDirectory | remove | request =>
      rfl

def HostCall.granted (files : Path → Option Contents)
    (exposed : Path → Bool) :
    (call : HostCall Label Path Contents) → call.Reply → Path → Bool
  | .perform _ operation, reply => operation.granted files exposed
      (match reply with | .ok _ => true | .error _ => false)
  | _, _ => exposed

/-- The answers of such a host on which the calls under some labels fail. -/
def HostProgram.answerModed (stops : Label → Option String)
    (state : ModedState Label Path Contents)
    (call : HostCall Label Path Contents) :
    call.Reply × ModedState Label Path Contents :=
  ((answerStopping stops state.1 call).1,
    (answerStopping stops state.1 call).2,
    call.granted state.1.1 state.2 (answerStopping stops state.1 call).1)

def HostProgram.runModed (stops : Label → Option String)
    (program : HostProgram Label Path Contents Result)
    (state : ModedState Label Path Contents) :
    Except String Result × ModedState Label Path Contents :=
  Script.run (answerModed stops) program state

theorem HostProgram.ends_runModed (stops : Label → Option String)
    (program : HostProgram Label Path Contents Result)
    (state : ModedState Label Path Contents) :
    Script.Ends (ModedAnswers Label Path Contents) state program
      (program.runModed stops state).1 (program.runModed stops state).2 := by
  apply Script.ends_run
  intro state call
  refine ⟨answers_answerStopping stops state.1 call, ?_⟩
  cases call with
  | look path => rfl
  | read label path => rfl
  | perform label operation =>
      exact FileOperation.grants_granted _ _ _ operation

theorem HostProgram.answerModed_read (stops : Label → Option String)
    {label : Label} {path : Path} {state : ModedState Label Path Contents}
    {contents : Contents} (reads : stops label = none)
    (held : state.1.1 path = some contents) :
    answerModed stops state (.read label path) =
      (Except.ok contents, state) := by
  simp only [answerModed, answerStopping, reads, Script.observed,
    HostCall.answer, held]
  rfl

/-- An operation that can be performed, on a host where nothing fails. -/
theorem HostProgram.run_attempt {label : Label} {describe : String → String}
    {operation : FileOperation Path Contents}
    {state : ModedState Label Path Contents}
    {after : Path → Option Contents}
    (effect : operation.effect state.1.1 = some after) :
    Script.run (answerModed fun _ => none)
        (attempt label operation describe) state =
      (.ok (), (after, state.1.2),
        operation.granted state.1.1 state.2 true) := by
  refine (Script.run_bind _ _ _).trans ?_
  simp only [Script.run_call, answerModed, answerStopping, Script.observed,
    HostCall.answer, HostCall.granted, effect]
  rfl

end Runs

end Foundation
