import Velum.Foundation.Script
import Mathlib.Logic.Function.Basic

/-!
# Scripts of file-system calls

Files are named texts.  Every call is atomic and may fail; a failing `write`
may leave anything under its name, the other calls then leave everything as it
was.  A script raises the failure of a call unless it catches it.
-/

namespace Foundation

inductive FileCall (Path Text : Type) where
  | createParent
  | look (path : Path)
  | read (path : Path)
  | write (path : Path) (text : Text)
  | delete (path : Path)
  | rename (source target : Path)

namespace FileCall

variable {Path Text : Type}

def Reply (Failure : Type) : FileCall Path Text → Type
  | .look _ => Except Failure Bool
  | .read _ => Except Failure Text
  | _ => Except Failure Unit

/-- What a call may answer, and the files after it. -/
def Answers [DecidableEq Path] {Failure : Type}
    (files : Path → Option Text) :
    (call : FileCall Path Text) → call.Reply Failure →
    (Path → Option Text) → Prop
  | .createParent, _, after => after = files
  | .look path, reply, after =>
      after = files ∧
        ((∃ failure, reply = .error failure) ∨
          reply = .ok (files path).isSome)
  | .read path, reply, after =>
      after = files ∧
        ((∃ failure, reply = .error failure) ∨
          ∃ text, files path = some text ∧ reply = .ok text)
  | .write path text, reply, after =>
      (∃ failure left, reply = .error failure ∧
        after = Function.update files path left) ∨
      reply = .ok () ∧ after = Function.update files path (some text)
  | .delete path, reply, after =>
      (∃ failure, reply = .error failure ∧ after = files) ∨
      (files path).isSome = true ∧ reply = .ok () ∧
        after = Function.update files path none
  | .rename source target, reply, after =>
      (∃ failure, reply = .error failure ∧ after = files) ∨
      ∃ text, files source = some text ∧ reply = .ok () ∧
        after = Function.update (Function.update files source none) target
          (some text)

/-- The answer of a file system without failures of its own. -/
def perform [DecidableEq Path] {Failure : Type} (missing : Failure)
    (files : Path → Option Text) :
    (call : FileCall Path Text) →
      call.Reply Failure × (Path → Option Text)
  | .createParent => (.ok (), files)
  | .look path => (.ok (files path).isSome, files)
  | .read path => ((files path).elim (.error missing) .ok, files)
  | .write path text => (.ok (), Function.update files path (some text))
  | .delete path =>
      if (files path).isSome then (.ok (), Function.update files path none)
      else (.error missing, files)
  | .rename source target =>
      match files source with
      | some text => (.ok (), Function.update
          (Function.update files source none) target (some text))
      | none => (.error missing, files)

section Perform

variable [DecidableEq Path] {Failure : Type} {missing : Failure}
  {files : Path → Option Text}

theorem perform_read {path : Path} {text : Text}
    (stored : files path = some text) :
    perform missing files (.read path) = (.ok text, files) := by
  unfold perform
  dsimp only
  rw [stored]
  rfl

theorem perform_read_none {path : Path} (absent : files path = none) :
    perform missing files (.read path) = (.error missing, files) := by
  unfold perform
  dsimp only
  rw [absent]
  rfl

theorem perform_delete {path : Path}
    (stored : (files path).isSome = true) :
    perform missing files (.delete path) =
      (.ok (), Function.update files path none) :=
  if_pos stored

theorem perform_delete_none {path : Path}
    (absent : (files path).isSome = false) :
    perform missing files (.delete path) = (.error missing, files) :=
  if_neg (by simp [absent])

theorem perform_rename {source target : Path} {text : Text}
    (stored : files source = some text) :
    perform missing files (.rename source target) =
      (.ok (), Function.update (Function.update files source none) target
        (some text)) := by
  unfold perform
  dsimp only
  rw [stored]

theorem perform_rename_none {source target : Path}
    (absent : files source = none) :
    perform missing files (.rename source target) =
      (.error missing, files) := by
  unfold perform
  dsimp only
  rw [absent]

variable (missing files) in
theorem perform_answers (call : FileCall Path Text) :
    Answers files call (call.perform missing files).1
      (call.perform missing files).2 := by
  cases call with
  | createParent => rfl
  | look path => exact ⟨rfl, .inr rfl⟩
  | read path =>
      cases stored : files path with
      | none =>
          rw [perform_read_none stored]
          exact ⟨rfl, .inl ⟨missing, rfl⟩⟩
      | some text =>
          rw [perform_read stored]
          exact ⟨rfl, .inr ⟨text, stored, rfl⟩⟩
  | write path text => exact .inr ⟨rfl, rfl⟩
  | delete path =>
      cases stored : (files path).isSome with
      | false =>
          rw [perform_delete_none stored]
          exact .inl ⟨missing, rfl, rfl⟩
      | true =>
          rw [perform_delete stored]
          exact .inr ⟨stored, rfl, rfl⟩
  | rename source target =>
      cases stored : files source with
      | none =>
          rw [perform_rename_none stored]
          exact .inl ⟨missing, rfl, rfl⟩
      | some text =>
          rw [perform_rename stored]
          exact .inr ⟨text, stored, rfl, rfl⟩

end Perform

end FileCall

/-- A script of file-system calls that may raise a failure. -/
abbrev FileScript (Path Text Failure Result : Type) :=
  ExceptT Failure (Script (FileCall Path Text) (FileCall.Reply Failure))
    Result

namespace FileScript

variable {Path Text Failure : Type}

def createParent : FileScript Path Text Failure Unit :=
  ExceptT.mk (Script.call FileCall.createParent)

def look (path : Path) : FileScript Path Text Failure Bool :=
  ExceptT.mk (Script.call (FileCall.look path))

def read (path : Path) : FileScript Path Text Failure Text :=
  ExceptT.mk (Script.call (FileCall.read path))

def write (path : Path) (text : Text) : FileScript Path Text Failure Unit :=
  ExceptT.mk (Script.call (FileCall.write path text))

def delete (path : Path) : FileScript Path Text Failure Unit :=
  ExceptT.mk (Script.call (FileCall.delete path))

def rename (source target : Path) : FileScript Path Text Failure Unit :=
  ExceptT.mk (Script.call (FileCall.rename source target))

def deleteExisting (path : Path) : FileScript Path Text Failure Unit := do
  if ← look path then delete path

def renameExisting (source target : Path) :
    FileScript Path Text Failure Unit := do
  if ← look source then rename source target

/-! ## Rules for the calls

Each rule lists what has to hold when the call fails and when it succeeds.  A
variable that observes the calls is kept beside the files. -/

section Rules

variable [DecidableEq Path] {Ghost : Type}
  {observe : (call : FileCall Path Text) → call.Reply Failure → Ghost → Ghost}
  {safe : (Path → Option Text) × Ghost → FileCall Path Text → Prop}
  {files : Path → Option Text} {ghost : Ghost}

open Script

/-- What holds after every answer holds after the call. -/
theorem guarantees_answered {call : FileCall Path Text}
    {post : call.Reply Failure → (Path → Option Text) × Ghost → Prop}
    (allowed : safe (files, ghost) call)
    (answered : ∀ reply after, FileCall.Answers files call reply after →
      post reply (after, observe call reply ghost)) :
    Guarantees (observing FileCall.Answers observe) safe post
      (Script.call call) (files, ghost) := by
  refine ⟨allowed, ?_⟩
  rintro reply ⟨after, noted⟩ ⟨answer, observed⟩
  cases observed
  exact answered reply after answer

theorem guarantees_createParent
    {post : Except Failure Unit → (Path → Option Text) × Ghost → Prop}
    (allowed : safe (files, ghost) .createParent)
    (answered : ∀ reply, post reply
      (files, observe .createParent reply ghost)) :
    Guarantees (observing FileCall.Answers observe) safe post createParent
      (files, ghost) := by
  apply guarantees_answered allowed
  rintro reply after rfl
  exact answered reply

theorem guarantees_look {path : Path}
    {post : Except Failure Bool → (Path → Option Text) × Ghost → Prop}
    (allowed : safe (files, ghost) (.look path))
    (failed : ∀ failure, post (.error failure)
      (files, observe (.look path) (.error failure) ghost))
    (seen : post (.ok (files path).isSome)
      (files, observe (.look path) (.ok (files path).isSome) ghost)) :
    Guarantees (observing FileCall.Answers observe) safe post (look path)
      (files, ghost) := by
  apply guarantees_answered allowed
  rintro reply after ⟨rfl, ⟨failure, rfl⟩ | rfl⟩
  · exact failed failure
  · exact seen

theorem guarantees_read {path : Path}
    {post : Except Failure Text → (Path → Option Text) × Ghost → Prop}
    (allowed : safe (files, ghost) (.read path))
    (failed : ∀ failure, post (.error failure)
      (files, observe (.read path) (.error failure) ghost))
    (seen : ∀ text, files path = some text → post (.ok text)
      (files, observe (.read path) (.ok text) ghost)) :
    Guarantees (observing FileCall.Answers observe) safe post (read path)
      (files, ghost) := by
  apply guarantees_answered allowed
  rintro reply after ⟨rfl, ⟨failure, rfl⟩ | ⟨text, stored, rfl⟩⟩
  · exact failed failure
  · exact seen text stored

theorem guarantees_write {path : Path} {text : Text}
    {post : Except Failure Unit → (Path → Option Text) × Ghost → Prop}
    (allowed : safe (files, ghost) (.write path text))
    (failed : ∀ failure left, post (.error failure)
      (Function.update files path left,
        observe (.write path text) (.error failure) ghost))
    (written : post (.ok ())
      (Function.update files path (some text),
        observe (.write path text) (.ok ()) ghost)) :
    Guarantees (observing FileCall.Answers observe) safe post
      (write path text) (files, ghost) := by
  apply guarantees_answered allowed
  rintro reply after (⟨failure, left, rfl, rfl⟩ | ⟨rfl, rfl⟩)
  · exact failed failure left
  · exact written

theorem guarantees_delete {path : Path}
    {post : Except Failure Unit → (Path → Option Text) × Ghost → Prop}
    (allowed : safe (files, ghost) (.delete path))
    (failed : ∀ failure, post (.error failure)
      (files, observe (.delete path) (.error failure) ghost))
    (deleted : post (.ok ())
      (Function.update files path none,
        observe (.delete path) (.ok ()) ghost)) :
    Guarantees (observing FileCall.Answers observe) safe post (delete path)
      (files, ghost) := by
  apply guarantees_answered allowed
  rintro reply after (⟨failure, rfl, rfl⟩ | ⟨_, rfl, rfl⟩)
  · exact failed failure
  · exact deleted

theorem guarantees_rename {source target : Path}
    {post : Except Failure Unit → (Path → Option Text) × Ghost → Prop}
    (allowed : safe (files, ghost) (.rename source target))
    (failed : ∀ failure, post (.error failure)
      (files, observe (.rename source target) (.error failure) ghost))
    (renamed : ∀ text, files source = some text → post (.ok ())
      (Function.update (Function.update files source none) target (some text),
        observe (.rename source target) (.ok ()) ghost)) :
    Guarantees (observing FileCall.Answers observe) safe post
      (rename source target) (files, ghost) := by
  apply guarantees_answered allowed
  rintro reply after (⟨failure, rfl, rfl⟩ | ⟨text, stored, rfl, rfl⟩)
  · exact failed failure
  · exact renamed text stored

end Rules

/-! ## Runs without failures -/

section Run

variable [DecidableEq Path] (missing : Failure) (files : Path → Option Text)

theorem run_deleteExisting (path : Path) :
    ∃ after, Script.run (FileCall.perform missing)
        (deleteExisting path : FileScript Path Text Failure Unit) files =
        (.ok (), after) ∧
      ∀ other, other ≠ path → after other = files other := by
  cases stored : (files path).isSome with
  | false =>
      refine ⟨files, ?_, fun _ _ => rfl⟩
      refine (Script.run_bind_ok (Script.run_call _ _)).trans ?_
      rw [stored]
      rfl
  | true =>
      refine ⟨Function.update files path none, ?_, ?_⟩
      · refine (Script.run_bind_ok (Script.run_call _ _)).trans ?_
        rw [stored]
        exact FileCall.perform_delete stored
      · intro other different
        exact Function.update_of_ne different _ _

theorem run_renameExisting {source target : Path}
    (different : source ≠ target) :
    ∃ after, Script.run (FileCall.perform missing)
        (renameExisting source target :
          FileScript Path Text Failure Unit) files = (.ok (), after) ∧
      after source = none ∧
      ∀ other, other ≠ source → other ≠ target →
        after other = files other := by
  cases stored : files source with
  | none =>
      refine ⟨files, ?_, stored, fun _ _ _ => rfl⟩
      refine (Script.run_bind_ok (Script.run_call _ _)).trans ?_
      rw [stored]
      rfl
  | some text =>
      refine ⟨Function.update (Function.update files source none) target
        (some text), ?_, ?_, ?_⟩
      · refine (Script.run_bind_ok (Script.run_call _ _)).trans ?_
        rw [stored]
        exact FileCall.perform_rename stored
      · rw [Function.update_of_ne different, Function.update_self]
      · intro other apart elsewhere
        rw [Function.update_of_ne elsewhere, Function.update_of_ne apart]

end Run

end FileScript

end Foundation
