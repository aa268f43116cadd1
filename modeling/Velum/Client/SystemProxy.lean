import Velum.Foundation.Files
import Velum.Foundation.TransitionSystem
import Velum.Node.Enrollment

/-!
# The desktop system proxy

Before the settings of the desktop are changed, the original ones are written
to a backup file; when the change is complete, the backup is written again with
the applied settings.  Disabling restores the original settings and deletes the
backup, unless the current settings are not the applied ones.  A process may
die after any step of this.
-/

namespace Velum.Client

open Foundation
open Foundation.Script

inductive ProxyException where
  | argument (name : String)
  | state (message : String)
  | format (message : String)
  | type
  | fileSystem
  | process
  deriving DecidableEq, Repr

/-- The values of a snapshot: those of a backup with the original and perhaps
the applied settings, or settings alone. -/
inductive SnapshotValues (Settings : Type) where
  | plain (settings : Settings)
  | recovery (original : Settings) (applied : Option Settings)

structure ProxySnapshot (Settings : Type) where
  backend : String
  values : SnapshotValues Settings

/-- The texts of backups.  A backup holds original settings and perhaps applied
ones. -/
structure SnapshotCodec (Settings Text : Type) where
  encode : ProxySnapshot Settings → Text
  decode : Text → Except ProxyException (ProxySnapshot Settings)
  decode_encode : ∀ backend original applied,
    decode (encode ⟨backend, .recovery original applied⟩) =
      .ok ⟨backend, .recovery original applied⟩

/-- A backend changes the settings by commands, one after the other; those of
an enable may depend on the settings that are there. -/
structure ProxyBackend (Settings : Type) where
  id : String
  enableCommands : Settings → Int → List String → List (Settings → Settings)
  restoreCommands : Settings → List (Settings → Settings)

/-- The commands one after the other. -/
def carryOut {State : Type} (commands : List (State → State)) (state : State) :
    State :=
  commands.foldl (fun state command => command state) state

section CarryOut

variable {State : Type}

@[simp] theorem carryOut_nil (state : State) : carryOut [] state = state := rfl

@[simp] theorem carryOut_cons (command : State → State)
    (commands : List (State → State)) (state : State) :
    carryOut (command :: commands) state =
      carryOut commands (command state) := rfl

@[simp] theorem carryOut_append (first second : List (State → State))
    (state : State) :
    carryOut (first ++ second) state =
      carryOut second (carryOut first state) :=
  List.foldl_append

end CarryOut

section Touched

variable {Settings : Type} (backend : ProxyBackend Settings)
  (original : Settings)

/-- What the commands of the backend may have made of the original settings. -/
inductive Touched : Settings → Prop where
  | untouched : Touched original
  | enabled {settings : Settings} {port : Int} {bypassHosts : List String}
      {command : Settings → Settings} :
      Touched settings →
      command ∈ backend.enableCommands original port bypassHosts →
      Touched (command settings)
  | restored {settings : Settings} {command : Settings → Settings} :
      Touched settings → command ∈ backend.restoreCommands original →
      Touched (command settings)

variable {backend original} in
theorem Touched.carryOut {settings : Settings} {port : Int}
    {bypassHosts : List String} {commands : List (Settings → Settings)}
    (touched : Touched backend original settings)
    (known : ∀ command ∈ commands,
      command ∈ backend.enableCommands original port bypassHosts) :
    Touched backend original (carryOut commands settings) := by
  induction commands generalizing settings with
  | nil => exact touched
  | cons command rest induction =>
      apply induction (touched.enabled (known command List.mem_cons_self))
      intro other member
      exact known other (List.mem_cons_of_mem _ member)

/-- The settings after the commands of a restore. -/
def restoredFrom (settings : Settings) : Settings :=
  carryOut (backend.restoreCommands original) settings

/-- A restore gives the original settings back, whatever the backend has made
of them. -/
def Restorable : Prop :=
  ∀ settings, Touched backend original settings →
    restoredFrom backend original settings = original

end Touched

inductive BackendCall (Settings : Type) where
  | capture
  | enable (command : Settings → Settings)
  | restore (command : Settings → Settings)

namespace BackendCall

variable {Settings : Type}

def Reply : BackendCall Settings → Type
  | .capture => Except ProxyException Settings
  | _ => Except ProxyException Unit

def perform (settings : Settings) :
    (call : BackendCall Settings) → call.Reply × Settings
  | .capture => (.ok settings, settings)
  | .enable command => (.ok (), command settings)
  | .restore command => (.ok (), command settings)

end BackendCall

inductive BackupSlot where
  | backup
  | temporary
  deriving DecidableEq, Repr

abbrev ProxyCall (Settings Text : Type) :=
  BackendCall Settings ⊕ FileCall BackupSlot Text

abbrev ProxyReply {Settings Text : Type} : ProxyCall Settings Text → Type :=
  Sum.elim BackendCall.Reply (FileCall.Reply ProxyException)

abbrev ProxyScript (Settings Text Result : Type) :=
  ExceptT ProxyException (Script (ProxyCall Settings Text) ProxyReply) Result

section Calls

variable {Settings Text : Type}

def capture : ProxyScript Settings Text Settings :=
  ExceptT.mk (Script.call (Sum.inl BackendCall.capture))

def enableCommand (command : Settings → Settings) :
    ProxyScript Settings Text Unit :=
  ExceptT.mk (Script.call (Sum.inl (BackendCall.enable command)))

def restoreCommand (command : Settings → Settings) :
    ProxyScript Settings Text Unit :=
  ExceptT.mk (Script.call (Sum.inl (BackendCall.restore command)))

def createBackupParent : ProxyScript Settings Text Unit :=
  ExceptT.mk (Script.call (Sum.inr FileCall.createParent))

def lookBackup : ProxyScript Settings Text Bool :=
  ExceptT.mk (Script.call (Sum.inr (FileCall.look .backup)))

def readBackup : ProxyScript Settings Text Text :=
  ExceptT.mk (Script.call (Sum.inr (FileCall.read .backup)))

def writeTemporary (text : Text) : ProxyScript Settings Text Unit :=
  ExceptT.mk (Script.call (Sum.inr (FileCall.write .temporary text)))

def deleteBackup : ProxyScript Settings Text Unit :=
  ExceptT.mk (Script.call (Sum.inr (FileCall.delete .backup)))

def renameTemporary : ProxyScript Settings Text Unit :=
  ExceptT.mk (Script.call (Sum.inr (FileCall.rename .temporary .backup)))

end Calls

namespace FileProxyBackupStore

variable {Settings Text : Type} (codec : SnapshotCodec Settings Text)

def read : ProxyScript Settings Text (Option (ProxySnapshot Settings)) := do
  if !(← lookBackup) then return none
  let source ← readBackup
  let snapshot ← ExceptT.mk (pure (codec.decode source))
  return some snapshot

def clear : ProxyScript Settings Text Unit := do
  if ← lookBackup then deleteBackup

def write (snapshot : ProxySnapshot Settings) :
    ProxyScript Settings Text Unit := do
  createBackupParent
  writeTemporary (codec.encode snapshot)
  clear
  renameTemporary

end FileProxyBackupStore

namespace SystemProxy

variable {Settings Text : Type} [DecidableEq Settings]
  (backend : ProxyBackend Settings) (codec : SnapshotCodec Settings Text)

def recoverySnapshot (original : Settings) (applied : Option Settings) :
    ProxySnapshot Settings :=
  ⟨backend.id, .recovery original applied⟩

def restore (original : Settings) : ProxyScript Settings Text Unit :=
  (backend.restoreCommands original).forM restoreCommand

/-- The settings that a snapshot restores. -/
def originalOf : SnapshotValues Settings → Settings
  | .plain settings => settings
  | .recovery original _ => original

def appliedOf : SnapshotValues Settings → Option Settings
  | .plain _ => none
  | .recovery _ applied => applied

def requireOwn (snapshot : ProxySnapshot Settings) :
    ProxyScript Settings Text Unit :=
  if snapshot.backend = backend.id then pure ()
  else throw (.state ("System proxy backup belongs to " ++
    snapshot.backend ++ "."))

/-- The settings are still those that were applied. -/
def requireUnchanged (applied : Option Settings) :
    ProxyScript Settings Text Unit :=
  match applied with
  | none => pure ()
  | some applied => do
      let current ← capture
      if current = applied then pure ()
      else throw (.state ("System proxy changed outside Velum; " ++
        "original settings were not overwritten."))

def restoreSnapshot (snapshot : ProxySnapshot Settings) :
    ProxyScript Settings Text Unit := do
  requireOwn backend snapshot
  requireUnchanged (appliedOf snapshot.values)
  restore backend (originalOf snapshot.values)
  FileProxyBackupStore.clear

def restorePending : ProxyScript Settings Text Unit := do
  match ← FileProxyBackupStore.read codec with
  | none => pure ()
  | some snapshot => restoreSnapshot backend snapshot

/-- What is done under the backup of the original settings. -/
def applySettings (port : Int) (bypassHosts : List String)
    (original : Settings) : ProxyScript Settings Text Unit := do
  (backend.enableCommands original port bypassHosts).forM enableCommand
  let applied ← capture
  FileProxyBackupStore.write codec
    (recoverySnapshot backend original (some applied))

/-- Nothing but white space, the byte order mark included. -/
def isBlankHost (host : String) : Bool :=
  host.toList.all fun character =>
    Node.isWhiteSpace character || character.toNat == 0xFEFF

def requireArguments (port : Int) (bypassHosts : List String) :
    ProxyScript Settings Text Unit :=
  if port < 1 ∨ port > 65535 then throw (.argument "port")
  else if bypassHosts.any isBlankHost then throw (.argument "bypassHosts")
  else pure ()

/-- A failure to restore keeps the backup, so that the next launch can
retry. -/
def undo (original : Settings) : ProxyScript Settings Text Unit := do
  try
    restore backend original
    FileProxyBackupStore.clear
  catch _ => pure ()

def enable (port : Int) (bypassHosts : List String) :
    ProxyScript Settings Text Unit := do
  requireArguments port bypassHosts
  restorePending backend codec
  let original ← capture
  FileProxyBackupStore.write codec (recoverySnapshot backend original none)
  try
    applySettings backend codec port bypassHosts original
  catch failure =>
    undo backend original
    throw failure

def disable : ProxyScript Settings Text Unit := restorePending backend codec

end SystemProxy

inductive ProxyOperation where
  | enable (port : Int) (bypassHosts : List String)
  | disable

section Session

variable {Settings Text : Type} [DecidableEq Settings]
  (backend : ProxyBackend Settings) (codec : SnapshotCodec Settings Text)

def ProxyOperation.script : ProxyOperation → ProxyScript Settings Text Unit
  | .enable port bypassHosts =>
      SystemProxy.enable backend codec port bypassHosts
  | .disable => SystemProxy.disable backend codec

abbrev ProxyWorld (Settings Text : Type) :=
  Settings × (BackupSlot → Option Text)

/-- No call fails, and nobody else changes anything. -/
abbrev performProxy := @beside (FileCall BackupSlot Text)
  (FileCall.Reply ProxyException) (BackendCall Settings) BackendCall.Reply
  (BackupSlot → Option Text) Settings BackendCall.perform
  (FileCall.perform .fileSystem)

/-- A call that fails.  A command has then been carried out or has changed
nothing, and a write may leave any text. -/
def FailsProxy (world : ProxyWorld Settings Text) :
    (call : ProxyCall Settings Text) → ProxyReply call →
    ProxyWorld Settings Text → Prop
  | .inl .capture, reply, after =>
      after = world ∧ ∃ failure, reply = .error failure
  | .inl (.enable command), reply, after =>
      (after = world ∨ after = (command world.1, world.2)) ∧
        ∃ failure, reply = .error failure
  | .inl (.restore command), reply, after =>
      (after = world ∨ after = (command world.1, world.2)) ∧
        ∃ failure, reply = .error failure
  | .inr (.write path _), reply, after =>
      (∃ left, after = (world.1, Function.update world.2 path left)) ∧
        ∃ failure, reply = .error failure
  | .inr .createParent, reply, after =>
      after = world ∧ ∃ failure, reply = .error failure
  | .inr (.look _), reply, after =>
      after = world ∧ ∃ failure, reply = .error failure
  | .inr (.read _), reply, after =>
      after = world ∧ ∃ failure, reply = .error failure
  | .inr (.delete _), reply, after =>
      after = world ∧ ∃ failure, reply = .error failure
  | .inr (.rename _ _), reply, after =>
      after = world ∧ ∃ failure, reply = .error failure

/-! ## Where a process dies -/

/-- What a process has done last, as far as it matters. -/
inductive Moment (Settings : Type) where
  | calm
  | checked (settings : Settings)
  | writing
  | exposed
  | restoring (before : Settings)

/-- The backup is exposed from its deletion in a write to the renaming of the
new one.  A restore that was preceded by a look at the settings is one from a
backup with applied settings. -/
def observeMoment : (call : ProxyCall Settings Text) → ProxyReply call →
    Moment Settings → Moment Settings
  | .inl .capture, .ok settings, _ => .checked settings
  | .inl (.restore _), _, .checked settings => .restoring settings
  | .inr .createParent, _, _ => .writing
  | .inr (.delete .backup), .ok _, .writing => .exposed
  | .inr (.delete .backup), .ok _, _ => .calm
  | .inr (.rename .temporary .backup), .ok _, _ => .calm
  | _, _, moment => moment

/-- The condition on the place where a process dies: not while the backup is
exposed and the settings are not the original ones, and not in a restore from
a backup with applied settings after these have been changed. -/
def Harmless (original : Settings) (moment : Moment Settings)
    (world : ProxyWorld Settings Text) : Prop :=
  match moment with
  | .exposed => world.1 = original
  | .restoring before => world.1 = before
  | _ => True

/-- Disabling at the next launch succeeds, gives the original settings back
and leaves no backup, and enabling is possible afterwards. -/
def Restores (original : Settings) (world : ProxyWorld Settings Text) :
    Prop :=
  ∃ after, Script.run performProxy (SystemProxy.disable backend codec).run
      world = (.ok (), after) ∧
    after.1 = original ∧ after.2 .backup = none ∧
    ∀ port bypassHosts, 1 ≤ port → port ≤ 65535 →
      bypassHosts.any SystemProxy.isBlankHost = false →
      (Script.run performProxy
        (SystemProxy.enable backend codec port bypassHosts).run after).1 =
          .ok ()

/-- The environment of a process, with what it has done last observed. -/
abbrev ProxyAnswers (faults : Prop) := observing
  (faulty faults FailsProxy (@performProxy Settings Text)) observeMoment

end Session

end Velum.Client
