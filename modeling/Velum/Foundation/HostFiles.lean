import Velum.Foundation.Script
import Mathlib.Logic.Function.Basic

/-!
# Programs on a host's files

A program looks at files and performs operations on them, each under a label
of its own.  Any operation may fail; a failing copy or write may leave anything
under the name of its target.  What failed, and what it left, is recorded
beside the files, so a statement about a run can speak of its failures.

Different paths name different files.  Where a program may spell one file in
several ways, `onto` carries it to the files that its paths lead to.

`Ensures` is the triple of these programs, with one condition for a returned
value and one for a raised message.
-/

namespace Foundation

inductive FileOperation (Path Contents : Type) where
  | createDirectory (path : Path)
  | copy (source target : Path)
  | write (path : Path) (contents : Contents)
  | createNew (path : Path) (contents : Contents)
  | restrict (path : Path)
  | rename (source target : Path)
  | remove (path : Path)
  /-- A request to another process, which changes no file. -/
  | request

/-- Why an operation did not succeed. -/
inductive IoError (Contents : Type) where
  /-- What the target of a copy or a write holds then. -/
  | failed (message : String) (left : Option Contents)
  /-- A file that was to be removed is not there. -/
  | absent (message : String)

def IoError.message {Contents : Type} : IoError Contents → String
  | .failed message _ => message
  | .absent message => message

def notFound : String := "No such file or directory (os error 2)"

structure Failure (Label Contents : Type) where
  step : Label
  left : Option Contents
  deriving DecidableEq

namespace FileOperation

variable {Path Contents : Type} [DecidableEq Path]

/-- The files after the operation, where it can be performed. -/
def effect (files : Path → Option Contents) :
    FileOperation Path Contents → Option (Path → Option Contents)
  | .copy source target => (files source).map fun contents =>
      Function.update files target (some contents)
  | .write path contents => some (Function.update files path (some contents))
  | .createNew path contents =>
      if (files path).isSome then none
      else some (Function.update files path (some contents))
  | .rename source target => (files source).map fun contents =>
      Function.update (Function.update files source none) target
        (some contents)
  | .remove path =>
      if (files path).isSome then some (Function.update files path none)
      else none
  | .createDirectory _ => some files
  | .restrict _ => some files
  | .request => some files

/-- What a failure makes of the files. -/
def Leaves (files : Path → Option Contents) (left : Option Contents)
    (after : Path → Option Contents) :
    FileOperation Path Contents → Prop
  | .copy _ target => after = Function.update files target left
  | .write path _ => after = Function.update files path left
  | _ => left = none ∧ after = files

/-- What a failure leaves that has changed nothing. -/
def untouched (files : Path → Option Contents) :
    FileOperation Path Contents → Option Contents
  | .copy _ target => files target
  | .write path _ => files path
  | _ => none

theorem leaves_untouched (files : Path → Option Contents)
    (operation : FileOperation Path Contents) :
    operation.Leaves files (operation.untouched files) files := by
  cases operation with
  | copy source target => exact (Function.update_eq_self _ _).symm
  | write path contents => exact (Function.update_eq_self _ _).symm
  | createDirectory | createNew | restrict | rename | remove | request =>
      exact ⟨rfl, rfl⟩

/-- The operation on the files that its paths lead to. -/
def map {File : Type} (locate : Path → File) :
    FileOperation Path Contents → FileOperation File Contents
  | .createDirectory path => .createDirectory (locate path)
  | .copy source target => .copy (locate source) (locate target)
  | .write path contents => .write (locate path) contents
  | .createNew path contents => .createNew (locate path) contents
  | .restrict path => .restrict (locate path)
  | .rename source target => .rename (locate source) (locate target)
  | .remove path => .remove (locate path)
  | .request => .request

/-- The answer where the operation cannot be performed. -/
def refusal (files : Path → Option Contents)
    (operation : FileOperation Path Contents) : IoError Contents :=
  match operation with
  | .remove _ => .absent notFound
  | .createNew _ _ => .failed "File exists (os error 17)" none
  | _ => .failed notFound (operation.untouched files)

end FileOperation

inductive HostCall (Label Path Contents : Type) where
  | look (path : Path)
  | read (label : Label) (path : Path)
  | perform (label : Label) (operation : FileOperation Path Contents)

namespace HostCall

variable {Label Path Contents : Type}

def Reply : HostCall Label Path Contents → Type
  | .look _ => Bool
  | .read _ _ => Except (IoError Contents) Contents
  | .perform _ _ => Except (IoError Contents) Unit

/-- The answer of a host on which nothing fails. -/
def answer [DecidableEq Path] (files : Path → Option Contents) :
    (call : HostCall Label Path Contents) →
      call.Reply × (Path → Option Contents)
  | .look path => ((files path).isSome, files)
  | .read _ path =>
      match files path with
      | some contents => (.ok contents, files)
      | none => (.error (.failed notFound none), files)
  | .perform _ operation =>
      match operation.effect files with
      | some after => (.ok (), after)
      | none => (.error (operation.refusal files), files)

/-- What may happen instead. -/
def Fails [DecidableEq Path] (files : Path → Option Contents) :
    (call : HostCall Label Path Contents) → call.Reply →
    (Path → Option Contents) → Prop
  | .look _, _, _ => False
  | .read _ _, reply, after =>
      after = files ∧ ∃ message, reply = .error (.failed message none)
  | .perform _ operation, reply, after =>
      ∃ message left, reply = .error (.failed message left) ∧
        operation.Leaves files left after

/-- The failures so far. -/
def record : (call : HostCall Label Path Contents) → call.Reply →
    List (Failure Label Contents) → List (Failure Label Contents)
  | .read label _, .error (.failed _ left), failures =>
      failures ++ [⟨label, left⟩]
  | .perform label _, .error (.failed _ left), failures =>
      failures ++ [⟨label, left⟩]
  | _, _, failures => failures

end HostCall

/-- The files and the failures so far. -/
abbrev HostState (Label Path Contents : Type) :=
  (Path → Option Contents) × List (Failure Label Contents)

/-- The host with its failures. -/
abbrev HostAnswers (Label Path Contents : Type) [DecidableEq Path] :
    HostState Label Path Contents →
    (call : HostCall Label Path Contents) → call.Reply →
    HostState Label Path Contents → Prop :=
  Script.observing (Script.faulty True HostCall.Fails HostCall.answer)
    HostCall.record

/-- A program that may raise a message. -/
abbrev HostProgram (Label Path Contents Result : Type) :=
  ExceptT String (Script (HostCall Label Path Contents) HostCall.Reply) Result

namespace HostProgram

variable {Label Path Contents Result Final : Type}

def look (path : Path) : HostProgram Label Path Contents Bool :=
  ExceptT.lift (Script.call (HostCall.look path))

def read (label : Label) (path : Path) (describe : String → String) :
    HostProgram Label Path Contents Contents :=
  Script.bind (Script.call (HostCall.read label path))
    fun reply : Except (IoError Contents) Contents =>
      .done (reply.mapError fun error => describe error.message)

def attempt (label : Label) (operation : FileOperation Path Contents)
    (describe : String → String) : HostProgram Label Path Contents Unit :=
  Script.bind (Script.call (HostCall.perform label operation))
    fun reply : Except (IoError Contents) Unit =>
      .done (reply.mapError fun error => describe error.message)

/-- The result of a program as a value. -/
def outcome (program : HostProgram Label Path Contents Result) :
    HostProgram Label Path Contents (Except String Result) :=
  ExceptT.lift program

/-- Removes a file, whatever comes of it. -/
def discard (label : Label) (path : Path) :
    HostProgram Label Path Contents Unit := do
  let _ ← outcome (attempt label (.remove path) id)
  return ()

/-- The program returns or raises in a state that meets the condition. -/
def Ensures [DecidableEq Path]
    (program : HostProgram Label Path Contents Result)
    (state : HostState Label Path Contents)
    (returns : Result → HostState Label Path Contents → Prop)
    (raises : String → HostState Label Path Contents → Prop) : Prop :=
  Script.Yields (HostAnswers Label Path Contents) program state returns raises

section Rules

variable [DecidableEq Path]
  {program : HostProgram Label Path Contents Result}
  {state : HostState Label Path Contents}
  {returns : Result → HostState Label Path Contents → Prop}
  {raises : String → HostState Label Path Contents → Prop}

@[simp] theorem ensures_pure {value : Result} :
    Ensures (pure value) state returns raises ↔ returns value state :=
  Iff.rfl

@[simp] theorem ensures_throw {message : String} :
    Ensures (throw message) state returns raises ↔ raises message state :=
  Iff.rfl

@[simp] theorem ensures_bind
    {rest : Result → HostProgram Label Path Contents Final}
    {finally_ : Final → HostState Label Path Contents → Prop} :
    Ensures (program >>= rest) state finally_ raises ↔
      Ensures program state
        (fun value after => Ensures (rest value) after finally_ raises)
        raises :=
  Script.yields_bind

@[simp] theorem ensures_tryCatch
    {handler : String → HostProgram Label Path Contents Result} :
    Ensures (tryCatch program handler) state returns raises ↔
      Ensures program state returns
        (fun message after =>
          Ensures (handler message) after returns raises) :=
  Script.yields_tryCatch

@[simp] theorem ensures_outcome
    {answered : Except String Result → HostState Label Path Contents → Prop} :
    Ensures (outcome program) state answered raises ↔
      Ensures program state (fun value after => answered (.ok value) after)
        (fun message after => answered (.error message) after) :=
  Script.yields_lift

theorem Ensures.mono
    {later : Result → HostState Label Path Contents → Prop}
    {louder : String → HostState Label Path Contents → Prop}
    (held : Ensures program state returns raises)
    (values : ∀ {value after}, returns value after → later value after)
    (messages : ∀ {message after}, raises message after →
      louder message after) :
    Ensures program state later louder :=
  Script.Yields.mono held values messages

section Calls

variable {files : Path → Option Contents}
  {failures : List (Failure Label Contents)} {label : Label}
  {describe : String → String}
  {performed : Unit → HostState Label Path Contents → Prop}

@[simp] theorem ensures_look {path : Path}
    {looked : Bool → HostState Label Path Contents → Prop} :
    Ensures (look path) (files, failures) looked raises ↔
      looked (files path).isSome (files, failures) := by
  constructor
  · intro held
    exact held.2 _ (files, failures) ⟨.inl rfl, rfl⟩
  · intro held
    refine ⟨trivial, ?_⟩
    rintro reply ⟨after, noted⟩ ⟨answered | ⟨_, impossible⟩, recorded⟩
    · cases answered
      cases recorded
      exact held
    · exact impossible.elim

theorem ensures_read {path : Path}
    {found : Contents → HostState Label Path Contents → Prop}
    (present : ∀ contents, files path = some contents →
      found contents (files, failures))
    (failed : ∀ message,
      raises message (files, failures ++ [⟨label, none⟩])) :
    Ensures (read label path describe) (files, failures) found raises := by
  refine ⟨trivial, ?_⟩
  rintro reply ⟨after, noted⟩ ⟨answered | ⟨_, same, message, rfl⟩, recorded⟩
  · rw [HostCall.answer] at answered
    split at answered
    next contents held =>
        cases answered
        cases recorded
        exact present contents held
    next missing =>
        cases answered
        cases recorded
        exact failed _
  · cases same
    cases recorded
    exact failed _

/-- An operation is performed, or it fails and what it left is recorded; a
missing file that was to be removed is no failure. -/
theorem ensures_attempt {operation : FileOperation Path Contents}
    (succeeds : ∀ after, operation.effect files = some after →
      performed () (after, failures))
    (fails : ∀ message left after, operation.Leaves files left after →
      raises message (after, failures ++ [⟨label, left⟩]))
    (absent : ∀ message path, operation = .remove path →
      files path = none → raises message (files, failures)) :
    Ensures (attempt label operation describe) (files, failures) performed
      raises := by
  refine ⟨trivial, ?_⟩
  rintro reply ⟨after, noted⟩
    ⟨answered | ⟨_, message, left, rfl, leaves⟩, recorded⟩
  · rw [HostCall.answer] at answered
    split at answered
    next files effect =>
        cases answered
        cases recorded
        exact succeeds _ effect
    next impossible =>
        cases operation with
        | remove path =>
            cases answered
            cases recorded
            refine absent _ path rfl ?_
            simpa [FileOperation.effect] using impossible
        | copy | rename =>
            cases answered
            cases recorded
            exact fails _ _ _ (FileOperation.leaves_untouched _ _)
        | createNew path contents =>
            cases answered
            cases recorded
            exact fails _ _ _ ⟨rfl, rfl⟩
        | write | createDirectory | restrict | request =>
            simp [FileOperation.effect] at impossible
  · cases recorded
    exact fails _ _ _ leaves

/-- The rule of an operation that changes no file. -/
theorem ensures_attempt_unchanged {operation : FileOperation Path Contents}
    (effect : operation.effect files = some files)
    (leaves : ∀ {left after}, operation.Leaves files left after →
      left = none ∧ after = files)
    (other : ∀ path, operation ≠ .remove path)
    (succeeds : performed () (files, failures))
    (fails : ∀ message,
      raises message (files, failures ++ [⟨label, none⟩])) :
    Ensures (attempt label operation describe) (files, failures) performed
      raises := by
  apply ensures_attempt
  · intro after changed
    cases effect.symm.trans changed
    exact succeeds
  · intro message left after left_
    obtain ⟨rfl, rfl⟩ := leaves left_
    exact fails message
  · intro message path impossible
    exact absurd impossible (other path)

theorem ensures_copy {source target : Path} {contents : Contents}
    (held : files source = some contents)
    (succeeds : performed ()
      (Function.update files target (some contents), failures))
    (fails : ∀ message left, raises message
      (Function.update files target left, failures ++ [⟨label, left⟩])) :
    Ensures (attempt label (.copy source target) describe) (files, failures)
      performed raises := by
  apply ensures_attempt
  · intro after effect
    rw [FileOperation.effect, held] at effect
    cases effect
    exact succeeds
  · intro message left after leaves
    cases leaves
    exact fails message left
  · intro message path impossible
    cases impossible

theorem ensures_write {path : Path} {contents : Contents}
    (succeeds : performed ()
      (Function.update files path (some contents), failures))
    (fails : ∀ message left, raises message
      (Function.update files path left, failures ++ [⟨label, left⟩])) :
    Ensures (attempt label (.write path contents) describe) (files, failures)
      performed raises := by
  apply ensures_attempt
  · intro after effect
    cases effect
    exact succeeds
  · intro message left after leaves
    cases leaves
    exact fails message left
  · intro message other impossible
    cases impossible

theorem ensures_createNew {path : Path} {contents : Contents}
    (succeeds : files path = none → performed ()
      (Function.update files path (some contents), failures))
    (fails : ∀ message,
      raises message (files, failures ++ [⟨label, none⟩])) :
    Ensures (attempt label (.createNew path contents) describe)
      (files, failures) performed raises := by
  apply ensures_attempt
  · intro after effect
    rw [FileOperation.effect] at effect
    split at effect
    next => cases effect
    next free =>
        cases effect
        exact succeeds (by simpa using free)
  · rintro message left after ⟨rfl, rfl⟩
    exact fails message
  · intro message other impossible
    cases impossible

theorem ensures_rename {source target : Path} {contents : Contents}
    (held : files source = some contents)
    (succeeds : performed ()
      (Function.update (Function.update files source none) target
        (some contents), failures))
    (fails : ∀ message,
      raises message (files, failures ++ [⟨label, none⟩])) :
    Ensures (attempt label (.rename source target) describe) (files, failures)
      performed raises := by
  apply ensures_attempt
  · intro after effect
    rw [FileOperation.effect, held] at effect
    cases effect
    exact succeeds
  · rintro message left after ⟨rfl, rfl⟩
    exact fails message
  · intro message path impossible
    cases impossible

theorem ensures_remove {path : Path} (present : (files path).isSome)
    (succeeds : performed () (Function.update files path none, failures))
    (fails : ∀ message,
      raises message (files, failures ++ [⟨label, none⟩])) :
    Ensures (attempt label (.remove path) describe) (files, failures)
      performed raises := by
  apply ensures_attempt
  · intro after effect
    rw [FileOperation.effect, if_pos present] at effect
    cases effect
    exact succeeds
  · rintro message left after ⟨rfl, rfl⟩
    exact fails message
  · rintro message other same missing
    cases same
    simp [missing] at present

/-- A discarded file is gone, or its removal failed. -/
theorem ensures_discard {path : Path}
    (gone : performed () (Function.update files path none, failures))
    (kept : performed () (files, failures ++ [⟨label, none⟩])) :
    Ensures (discard label path) (files, failures) performed raises := by
  simp only [discard, ensures_bind, ensures_outcome, ensures_pure]
  apply ensures_attempt
  · intro after effect
    rw [FileOperation.effect] at effect
    split at effect
    next => exact Option.some.inj effect ▸ gone
    next => cases effect
  · rintro message left after ⟨rfl, rfl⟩
    exact kept
  · rintro message other same missing
    cases same
    rw [← missing, Function.update_eq_self] at gone
    exact gone

end Calls

theorem Ensures.of_ends {result : Except String Result}
    {final : HostState Label Path Contents}
    (held : Ensures program state returns raises)
    (ended : Script.Ends (HostAnswers Label Path Contents) state program
      result final) :
    (∀ value, result = .ok value → returns value final) ∧
      ∀ message, result = .error message → raises message final :=
  Script.Yields.of_ends held ended

end Rules

/-! ## Paths that lead to files -/

section Locating

variable {Label Path File Contents Result Final : Type}

/-- The calls of a program on the files that its paths lead to. -/
def located (locate : Path → File) :
    Script (HostCall Label Path Contents) HostCall.Reply Result →
    Script (HostCall Label File Contents) HostCall.Reply Result
  | .done result => .done result
  | .ask (.look path) next =>
      .ask (.look (locate path)) fun reply => located locate (next reply)
  | .ask (.read label path) next =>
      .ask (.read label (locate path)) fun reply =>
        located locate (next reply)
  | .ask (.perform label operation) next =>
      .ask (.perform label (operation.map locate)) fun reply =>
        located locate (next reply)

theorem located_script_bind (locate : Path → File)
    (script : Script (HostCall Label Path Contents) HostCall.Reply Result)
    (rest : Result → Script (HostCall Label Path Contents) HostCall.Reply
      Final) :
    located locate (script.bind rest) =
      (located locate script).bind fun result =>
        located locate (rest result) := by
  induction script with
  | done result => rfl
  | ask call next induction =>
      cases call with
      | look path | read label path | perform label operation =>
          apply congrArg (Script.ask _)
          funext reply
          exact induction reply

/-- The program on the files that its paths lead to. -/
def onto (locate : Path → File)
    (program : HostProgram Label Path Contents Result) :
    HostProgram Label File Contents Result :=
  located locate program

variable (locate : Path → File)
  (program : HostProgram Label Path Contents Result)

@[simp] theorem onto_pure (value : Result) :
    onto locate (pure value : HostProgram Label Path Contents Result) =
      pure value := rfl

@[simp] theorem onto_throw (message : String) :
    onto locate (throw message : HostProgram Label Path Contents Result) =
      throw message := rfl

@[simp] theorem onto_bind
    (rest : Result → HostProgram Label Path Contents Final) :
    onto locate (program >>= rest) =
      onto locate program >>= fun value => onto locate (rest value) := by
  refine (located_script_bind locate program _).trans ?_
  apply congrArg (Script.bind _)
  funext result
  cases result with
  | ok value => rfl
  | error message => rfl

@[simp] theorem onto_tryCatch
    (handler : String → HostProgram Label Path Contents Result) :
    onto locate (tryCatch program handler) =
      tryCatch (onto locate program)
        fun message => onto locate (handler message) := by
  refine (located_script_bind locate program _).trans ?_
  apply congrArg (Script.bind _)
  funext result
  cases result with
  | ok value => rfl
  | error message => rfl

@[simp] theorem onto_outcome :
    onto locate (outcome program) = outcome (onto locate program) := by
  refine (located_script_bind locate program _).trans ?_
  rfl

@[simp] theorem onto_look (path : Path) :
    onto locate (look path : HostProgram Label Path Contents Bool) =
      look (locate path) := rfl

@[simp] theorem onto_read (label : Label) (path : Path)
    (describe : String → String) :
    onto locate (read label path describe :
      HostProgram Label Path Contents Contents) =
      read label (locate path) describe := rfl

@[simp] theorem onto_attempt (label : Label)
    (operation : FileOperation Path Contents) (describe : String → String) :
    onto locate (attempt label operation describe) =
      attempt label (operation.map locate) describe := rfl

@[simp] theorem onto_discard (label : Label) (path : Path) :
    onto locate (discard label path :
      HostProgram Label Path Contents Unit) =
      discard label (locate path) := rfl

end Locating

/-! ## Runs -/

section Runs

variable [DecidableEq Path]

/-- The answers of a host on which the calls under some labels fail, and
change nothing. -/
def answerStopping (stops : Label → Option String)
    (state : HostState Label Path Contents) :
    (call : HostCall Label Path Contents) →
      call.Reply × HostState Label Path Contents
  | .look path => Script.observed HostCall.answer HostCall.record state
      (.look path)
  | .read label path =>
      match stops label with
      | some message => (.error (.failed message none),
          (state.1, state.2 ++ [⟨label, none⟩]))
      | none => Script.observed HostCall.answer HostCall.record state
          (.read label path)
  | .perform label operation =>
      match stops label with
      | some message =>
          (.error (.failed message (operation.untouched state.1)),
            (state.1, state.2 ++ [⟨label, operation.untouched state.1⟩]))
      | none => Script.observed HostCall.answer HostCall.record state
          (.perform label operation)

theorem answers_answerStopping (stops : Label → Option String)
    (state : HostState Label Path Contents)
    (call : HostCall Label Path Contents) :
    HostAnswers Label Path Contents state call
      (answerStopping stops state call).1
      (answerStopping stops state call).2 := by
  cases call with
  | look path => exact ⟨.inl rfl, rfl⟩
  | read label path =>
      rw [answerStopping]
      split
      next message stopped =>
          exact ⟨.inr ⟨trivial, rfl, message, rfl⟩, rfl⟩
      next => exact ⟨.inl rfl, rfl⟩
  | perform label operation =>
      rw [answerStopping]
      split
      next message stopped =>
          exact ⟨.inr ⟨trivial, message, _, rfl,
            FileOperation.leaves_untouched _ _⟩, rfl⟩
      next => exact ⟨.inl rfl, rfl⟩

def runStopping (stops : Label → Option String)
    (program : HostProgram Label Path Contents Result)
    (files : Path → Option Contents) :
    Except String Result × HostState Label Path Contents :=
  Script.run (answerStopping stops) program (files, [])

theorem ends_runStopping (stops : Label → Option String)
    (program : HostProgram Label Path Contents Result)
    (files : Path → Option Contents) :
    Script.Ends (HostAnswers Label Path Contents) (files, []) program
      (program.runStopping stops files).1
      (program.runStopping stops files).2 :=
  Script.ends_run (answers_answerStopping stops) _ _

end Runs

end HostProgram

end Foundation
