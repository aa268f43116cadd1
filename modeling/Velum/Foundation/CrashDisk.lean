import Mathlib.Data.Set.Insert
import Mathlib.Logic.Function.Basic
import Velum.Foundation.Script

/-!
# Files that outlive a power failure

A directory names inodes.  The contents of an inode survive a power failure
once they are synchronised, and a change of the directory survives once the
directory is; before that a power failure brings back one of the directories
since then.  The directory itself may have to be made, and as nothing
synchronises the one above it, the next power failure may take it away with
all its files.  Any call may fail.

`Stored` is the invariant of a file that is only ever replaced by renaming a
synchronised temporary file over it.
-/

namespace Foundation

structure Inode (Symbol : Type) where
  contents : List Symbol
  synced : Bool

inductive Entry where
  | file (inode : Nat)
  | link
  deriving DecidableEq

abbrev Directory (Name : Type) := Name → Option Entry

/-- Whether there is the directory itself, and whether that outlives a power
failure. -/
inductive Presence where
  | missing
  | unsynced
  | durable
  deriving DecidableEq, Repr

namespace Presence

/-- When the directory is made, unless it is there. -/
def made : Presence → Presence
  | .missing => .unsynced
  | presence => presence

/-- What a power failure leaves is on the disk. -/
def settled : Presence → Presence
  | .missing => .missing
  | _ => .durable

@[simp] theorem made_eq_durable_iff {presence : Presence} :
    presence.made = .durable ↔ presence = .durable := by
  cases presence with
  | missing => simp [made]
  | unsynced => simp [made]
  | durable => simp [made]

end Presence

structure Disk (Name Symbol : Type) where
  presence : Presence
  inodes : Nat → Inode Symbol
  /-- No directory names an inode from here on. -/
  fresh : Nat
  directory : Directory Name
  /-- The directories that a power failure may bring back instead. -/
  older : List (Directory Name)

inductive DiskFailure where
  | failed
  deriving DecidableEq

inductive DiskCall (Name Symbol : Type) where
  | createParent
  | isLink (name : Name)
  | read (name : Name)
  /-- Opens a file for writing, creates it or empties it. -/
  | truncate (name : Name)
  | write (inode : Nat) (contents : List Symbol)
  | sync (inode : Nat)
  | rename (source target : Name)
  | syncDirectory
  | remove (name : Name)

namespace DiskCall

variable {Name Symbol : Type}

/-- A look and a read answer `none` when nothing is there, and a removal then
answers `false`. -/
def Reply : DiskCall Name Symbol → Type
  | .isLink _ => Except DiskFailure (Option Bool)
  | .read _ => Except DiskFailure (Option (List Symbol))
  | .truncate _ => Except DiskFailure Nat
  | .remove _ => Except DiskFailure Bool
  | _ => Except DiskFailure Unit

end DiskCall

abbrev DiskScript (Name Symbol : Type) :=
  Script (DiskCall Name Symbol) DiskCall.Reply

namespace DiskScript

variable {Name Symbol : Type}

abbrev createParent : DiskScript Name Symbol (Except DiskFailure Unit) :=
  Script.call DiskCall.createParent

abbrev isLink (name : Name) :
    DiskScript Name Symbol (Except DiskFailure (Option Bool)) :=
  Script.call (DiskCall.isLink name)

abbrev read (name : Name) :
    DiskScript Name Symbol (Except DiskFailure (Option (List Symbol))) :=
  Script.call (DiskCall.read name)

abbrev truncate (name : Name) :
    DiskScript Name Symbol (Except DiskFailure Nat) :=
  Script.call (DiskCall.truncate name)

abbrev write (inode : Nat) (contents : List Symbol) :
    DiskScript Name Symbol (Except DiskFailure Unit) :=
  Script.call (DiskCall.write inode contents)

abbrev sync (inode : Nat) :
    DiskScript Name Symbol (Except DiskFailure Unit) :=
  Script.call (DiskCall.sync inode)

abbrev rename (source target : Name) :
    DiskScript Name Symbol (Except DiskFailure Unit) :=
  Script.call (DiskCall.rename source target)

abbrev syncDirectory : DiskScript Name Symbol (Except DiskFailure Unit) :=
  Script.call DiskCall.syncDirectory

abbrev remove (name : Name) :
    DiskScript Name Symbol (Except DiskFailure Bool) :=
  Script.call (DiskCall.remove name)

end DiskScript

namespace Disk

variable {Name Symbol : Type}

def setInode (disk : Disk Name Symbol) (inode : Nat)
    (contents : List Symbol) (synced : Bool) : Disk Name Symbol :=
  { disk with
    inodes := Function.update disk.inodes inode ⟨contents, synced⟩ }

@[simp] theorem setInode_self (disk : Disk Name Symbol) (inode : Nat)
    (contents : List Symbol) (synced : Bool) :
    (disk.setInode inode contents synced).inodes inode =
      ⟨contents, synced⟩ :=
  Function.update_self _ _ _

def makeDirectory (disk : Disk Name Symbol) : Disk Name Symbol :=
  { disk with presence := disk.presence.made }

/-- A change of the directory that a power failure may undo. -/
def relink (disk : Disk Name Symbol) (directory : Directory Name) :
    Disk Name Symbol :=
  { disk with
    directory
    older := disk.directory :: disk.older }

section Calls

variable [DecidableEq Name]

def create (disk : Disk Name Symbol) (name : Name) : Disk Name Symbol :=
  { (disk.relink (Function.update disk.directory name
      (some (.file disk.fresh)))).setInode disk.fresh [] false with
    fresh := disk.fresh + 1 }

def renamed (disk : Disk Name Symbol) (source target : Name) :
    Disk Name Symbol :=
  disk.relink (Function.update
    (Function.update disk.directory source none) target
      (disk.directory source))

def removed (disk : Disk Name Symbol) (name : Name) : Disk Name Symbol :=
  disk.relink (Function.update disk.directory name none)

/-- What a call may answer, and the disk after it.  A link leads out of the
directory: reading through it may give anything, and it is not opened for
writing. -/
def Answers (disk : Disk Name Symbol) :
    (call : DiskCall Name Symbol) → call.Reply → Disk Name Symbol → Prop
  | .createParent, reply, after =>
      (∃ failure, reply = .error failure ∧
        (after = disk ∨ after = disk.makeDirectory)) ∨
      reply = .ok () ∧ after = disk.makeDirectory
  | .isLink name, reply, after =>
      after = disk ∧ ((∃ failure, reply = .error failure) ∨
        reply = .ok ((disk.directory name).map (· = .link)))
  | .read name, reply, after =>
      after = disk ∧ ((∃ failure, reply = .error failure) ∨
        match disk.directory name with
        | none => reply = .ok none
        | some (.file inode) =>
            reply = .ok (some (disk.inodes inode).contents)
        | some .link => ∃ contents, reply = .ok contents)
  | .truncate name, reply, after =>
      if disk.presence = .missing then
        ∃ failure, reply = .error failure ∧ after = disk
      else
      match disk.directory name with
      | none =>
          (∃ failure, reply = .error failure ∧
            (after = disk ∨ after = disk.create name)) ∨
          reply = .ok disk.fresh ∧ after = disk.create name
      | some (.file inode) =>
          (∃ failure, reply = .error failure ∧
            (after = disk ∨ after = disk.setInode inode [] false)) ∨
          reply = .ok inode ∧ after = disk.setInode inode [] false
      | some .link => ∃ failure, reply = .error failure ∧ after = disk
  | .write inode contents, reply, after =>
      (∃ failure left, reply = .error failure ∧
        after = disk.setInode inode left false) ∨
      reply = .ok () ∧ after = disk.setInode inode
        ((disk.inodes inode).contents ++ contents) false
  | .sync inode, reply, after =>
      (∃ failure, reply = .error failure ∧ after = disk) ∨
      reply = .ok () ∧
        after = disk.setInode inode (disk.inodes inode).contents true
  | .rename source target, reply, after =>
      (∃ failure, reply = .error failure ∧ after = disk) ∨
      (disk.directory source).isSome = true ∧ reply = .ok () ∧
        after = disk.renamed source target
  | .syncDirectory, reply, after =>
      (∃ failure, reply = .error failure ∧ after = disk) ∨
      disk.presence ≠ .missing ∧ reply = .ok () ∧
        after = { disk with older := [] }
  | .remove name, reply, after =>
      (∃ failure, reply = .error failure ∧ after = disk) ∨
      (disk.directory name = none ∧ reply = .ok false ∧ after = disk) ∨
      (disk.directory name).isSome = true ∧ reply = .ok true ∧
        after = disk.removed name

/-- The answer of a disk on which nothing fails. -/
def perform (disk : Disk Name Symbol) :
    (call : DiskCall Name Symbol) → call.Reply × Disk Name Symbol
  | .createParent => (.ok (), disk.makeDirectory)
  | .isLink name => (.ok ((disk.directory name).map (· = .link)), disk)
  | .read name =>
      match disk.directory name with
      | none => (.ok none, disk)
      | some (.file inode) =>
          (.ok (some (disk.inodes inode).contents), disk)
      | some .link => (.ok none, disk)
  | .truncate name =>
      if disk.presence = .missing then (.error .failed, disk)
      else
      match disk.directory name with
      | none => (.ok disk.fresh, disk.create name)
      | some (.file inode) => (.ok inode, disk.setInode inode [] false)
      | some .link => (.error .failed, disk)
  | .write inode contents =>
      (.ok (), disk.setInode inode
        ((disk.inodes inode).contents ++ contents) false)
  | .sync inode =>
      (.ok (), disk.setInode inode (disk.inodes inode).contents true)
  | .rename source target =>
      if (disk.directory source).isSome then
        (.ok (), disk.renamed source target)
      else (.error .failed, disk)
  | .syncDirectory =>
      if disk.presence = .missing then (.error .failed, disk)
      else (.ok (), { disk with older := [] })
  | .remove name =>
      if (disk.directory name).isSome then (.ok true, disk.removed name)
      else (.ok false, disk)

theorem perform_read_answers (disk : Disk Name Symbol) (name : Name) :
    disk.Answers (.read name) (disk.perform (.read name)).1
      (disk.perform (.read name)).2 := by
  rcases named : disk.directory name with _ | inode | _
  all_goals simp only [Answers, perform, named]
  · exact ⟨trivial, .inr rfl⟩
  · exact ⟨trivial, .inr rfl⟩
  · exact ⟨trivial, .inr ⟨none, rfl⟩⟩

theorem perform_truncate_answers (disk : Disk Name Symbol) (name : Name) :
    disk.Answers (.truncate name) (disk.perform (.truncate name)).1
      (disk.perform (.truncate name)).2 := by
  by_cases missing : disk.presence = .missing
  · simp only [Answers, perform, if_pos missing]
    exact ⟨_, rfl, trivial⟩
  · rcases named : disk.directory name with _ | inode | _
    all_goals simp only [Answers, perform, if_neg missing, named]
    · exact .inr ⟨rfl, trivial⟩
    · exact .inr ⟨rfl, trivial⟩
    · exact ⟨_, rfl, trivial⟩

theorem perform_answers (disk : Disk Name Symbol)
    (call : DiskCall Name Symbol) :
    disk.Answers call (disk.perform call).1 (disk.perform call).2 := by
  cases call with
  | createParent => exact .inr ⟨rfl, rfl⟩
  | isLink name => exact ⟨rfl, .inr rfl⟩
  | read name => exact disk.perform_read_answers name
  | truncate name => exact disk.perform_truncate_answers name
  | write inode contents => exact .inr ⟨rfl, rfl⟩
  | sync inode => exact .inr ⟨rfl, rfl⟩
  | rename source target =>
      by_cases present : (disk.directory source).isSome = true
      · simp only [Answers, perform, if_pos present]
        exact .inr ⟨present, rfl, trivial⟩
      · simp only [Answers, perform, if_neg present]
        exact .inl ⟨_, rfl, trivial⟩
  | syncDirectory =>
      by_cases missing : disk.presence = .missing
      · simp only [Answers, perform, if_pos missing]
        exact .inl ⟨_, rfl, trivial⟩
      · simp only [Answers, perform, if_neg missing]
        exact .inr ⟨missing, rfl, trivial⟩
  | remove name =>
      by_cases present : (disk.directory name).isSome = true
      · simp only [Answers, perform, if_pos present]
        exact .inr (.inr ⟨present, rfl, trivial⟩)
      · simp only [Answers, perform, if_neg present]
        refine .inr (.inl ⟨?_, rfl, trivial⟩)
        simpa using present

/-- No call makes a directory durable. -/
theorem Answers.durable_iff {disk after : Disk Name Symbol}
    {call : DiskCall Name Symbol} {reply : call.Reply}
    (answered : disk.Answers call reply after) :
    after.presence = .durable ↔ disk.presence = .durable := by
  cases call with
  | createParent =>
      rcases answered with ⟨failure, rfl, rfl | rfl⟩ | ⟨rfl, rfl⟩
      · rfl
      · exact Presence.made_eq_durable_iff
      · exact Presence.made_eq_durable_iff
  | isLink name =>
      obtain ⟨rfl, _⟩ := answered
      rfl
  | read name =>
      obtain ⟨rfl, _⟩ := answered
      rfl
  | truncate name =>
      by_cases missing : disk.presence = .missing
      · simp only [Answers, if_pos missing] at answered
        obtain ⟨failure, _, rfl⟩ := answered
        rfl
      · rcases named : disk.directory name with _ | inode | _
        all_goals simp only [Answers, if_neg missing, named] at answered
        · rcases answered with ⟨failure, _, rfl | rfl⟩ | ⟨_, rfl⟩
          · rfl
          · rfl
          · rfl
        · rcases answered with ⟨failure, _, rfl | rfl⟩ | ⟨_, rfl⟩
          · rfl
          · rfl
          · rfl
        · obtain ⟨failure, _, rfl⟩ := answered
          rfl
  | write inode contents =>
      rcases answered with ⟨failure, left, rfl, rfl⟩ | ⟨rfl, rfl⟩
      · rfl
      · rfl
  | sync inode =>
      rcases answered with ⟨failure, rfl, rfl⟩ | ⟨rfl, rfl⟩
      · rfl
      · rfl
  | rename source target =>
      rcases answered with ⟨failure, rfl, rfl⟩ | ⟨_, rfl, rfl⟩
      · rfl
      · rfl
  | syncDirectory =>
      rcases answered with ⟨failure, rfl, rfl⟩ | ⟨_, rfl, rfl⟩
      · rfl
      · rfl
  | remove name =>
      rcases answered with
        ⟨failure, rfl, rfl⟩ | ⟨_, rfl, rfl⟩ | ⟨_, rfl, rfl⟩
      · rfl
      · rfl
      · rfl

end Calls

/-- One of the surviving directories, with the contents that survive. -/
structure Restart (disk after : Disk Name Symbol) : Prop where
  presence : after.presence = disk.presence.settled
  directory : after.directory ∈ disk.directory :: disk.older
  older : after.older = []
  fresh : after.fresh = disk.fresh
  kept : ∀ inode, (disk.inodes inode).synced = true →
    after.inodes inode = disk.inodes inode

/-- The directory is gone with all its files. -/
structure Gone (after : Disk Name Symbol) : Prop where
  presence : after.presence = .missing
  directory : after.directory = fun _ => none
  older : after.older = []

def PowerLoss (disk after : Disk Name Symbol) : Prop :=
  disk.Restart after ∨ disk.presence ≠ .durable ∧ Gone after

theorem powerLoss_settled (disk : Disk Name Symbol) :
    disk.PowerLoss
      { disk with presence := disk.presence.settled, older := [] } :=
  .inl {
    presence := rfl
    directory := List.mem_cons_self
    older := rfl
    fresh := rfl
    kept := fun _ _ => rfl }

/-! ## A file that is replaced by renaming -/

/-- A directory names a synchronised file with these contents, or none. -/
def Holds (disk : Disk Name Symbol) (directory : Directory Name)
    (name : Name) : Option (List Symbol) → Prop
  | none => directory name = none
  | some contents => ∃ inode, directory name = some (.file inode) ∧
      disk.inodes inode = ⟨contents, true⟩

/-- The target holds `live`, and a power failure can only bring back
`revivable` contents.  The temporary file of a surviving directory is not the
target, and the present one is nobody's target. -/
structure Stored (target temporary : Name) (live : Option (List Symbol))
    (revivable : Set (Option (List Symbol))) (disk : Disk Name Symbol) :
    Prop where
  current : disk.Holds disk.directory target live
  older : ∀ directory ∈ disk.older,
    ∃ contents ∈ revivable, disk.Holds directory target contents
  below : ∀ directory ∈ disk.directory :: disk.older, ∀ name inode,
    directory name = some (.file inode) → inode < disk.fresh
  apart : ∀ directory ∈ disk.directory :: disk.older, ∀ inode,
    directory temporary = some (.file inode) →
      directory target ≠ some (.file inode)
  unshared : ∀ inode, disk.directory temporary = some (.file inode) →
    ∀ directory ∈ disk.older, directory target ≠ some (.file inode)

theorem Holds.setInode {disk : Disk Name Symbol}
    {directory : Directory Name} {name : Name}
    {contents : Option (List Symbol)}
    (holds : disk.Holds directory name contents) {inode : Nat}
    (other : directory name ≠ some (.file inode)) (written : List Symbol)
    (synced : Bool) :
    (disk.setInode inode written synced).Holds directory name contents := by
  cases contents with
  | none => exact holds
  | some stored =>
      obtain ⟨found, named, kept⟩ := holds
      refine ⟨found, named, ?_⟩
      have different : found ≠ inode := by
        rintro rfl
        exact other named
      exact (Function.update_of_ne different _ _).trans kept

theorem Holds.of_directory {disk : Disk Name Symbol}
    {directory later : Directory Name} {name : Name}
    {contents : Option (List Symbol)}
    (holds : disk.Holds directory name contents)
    (same : later name = directory name) :
    disk.Holds later name contents := by
  cases contents with
  | none => exact same.trans holds
  | some stored =>
      obtain ⟨found, named, kept⟩ := holds
      exact ⟨found, same.trans named, kept⟩

namespace Stored

variable {target temporary : Name} {live : Option (List Symbol)}
  {revivable : Set (Option (List Symbol))} {disk after : Disk Name Symbol}

theorem mono (stored : Stored target temporary live revivable disk)
    {larger : Set (Option (List Symbol))} (within : revivable ⊆ larger) :
    Stored target temporary live larger disk :=
  { stored with
    older := fun directory member => by
      obtain ⟨contents, listed, holds⟩ := stored.older directory member
      exact ⟨contents, within listed, holds⟩ }

/-- Writing to the temporary file. -/
theorem setTemporary (stored : Stored target temporary live revivable disk)
    {inode : Nat} (named : disk.directory temporary = some (.file inode))
    (contents : List Symbol) (synced : Bool) :
    Stored target temporary live revivable
      (disk.setInode inode contents synced) where
  current := stored.current.setInode
    (stored.apart _ List.mem_cons_self inode named) contents synced
  older directory member := by
    obtain ⟨found, listed, holds⟩ := stored.older directory member
    exact ⟨found, listed, holds.setInode
      (stored.unshared inode named directory member) contents synced⟩
  below := stored.below
  apart := stored.apart
  unshared := stored.unshared

/-- A fresh temporary file. -/
theorem create [DecidableEq Name]
    (stored : Stored target temporary live revivable disk)
    (distinct : target ≠ temporary)
    (missing : disk.directory temporary = none) :
    Stored target temporary live (insert live revivable)
      (disk.create temporary) := by
  have unused : ∀ directory ∈ disk.directory :: disk.older,
      directory target ≠ some (.file disk.fresh) := by
    intro directory member named
    exact Nat.lt_irrefl _ (stored.below directory member _ _ named)
  have same : Function.update disk.directory temporary
      (some (.file disk.fresh)) target = disk.directory target :=
    Function.update_of_ne distinct _ _
  refine ⟨?_, ?_, ?_, ?_, ?_⟩
  · exact (stored.current.setInode (unused _ List.mem_cons_self) [] false
      ).of_directory same
  · intro directory member
    rcases List.mem_cons.mp member with rfl | before
    · exact ⟨live, Set.mem_insert _ _, stored.current.setInode
        (unused _ List.mem_cons_self) [] false⟩
    · obtain ⟨found, listed, holds⟩ := stored.older directory before
      exact ⟨found, Set.mem_insert_of_mem _ listed, holds.setInode
        (unused _ (List.mem_cons_of_mem _ before)) [] false⟩
  · intro directory member name inode named
    rcases List.mem_cons.mp member with rfl | before
    · by_cases isTemporary : name = temporary
      · subst isTemporary
        change Function.update disk.directory name _ name = _ at named
        rw [Function.update_self] at named
        cases named
        exact Nat.lt_succ_self _
      · change Function.update disk.directory temporary _ name = _ at named
        rw [Function.update_of_ne isTemporary] at named
        exact Nat.lt_succ_of_lt
          (stored.below _ List.mem_cons_self name inode named)
    · exact Nat.lt_succ_of_lt (stored.below directory before name inode named)
  · intro directory member inode named
    rcases List.mem_cons.mp member with rfl | before
    · change Function.update disk.directory temporary _ temporary = _
        at named
      rw [Function.update_self] at named
      cases named
      change Function.update disk.directory temporary _ target ≠ _
      rw [same]
      exact unused _ List.mem_cons_self
    · exact stored.apart directory before inode named
  · intro inode named directory member
    change Function.update disk.directory temporary _ temporary = _ at named
    rw [Function.update_self] at named
    cases named
    exact unused directory member

/-- The temporary file becomes the target. -/
theorem renamed [DecidableEq Name]
    (stored : Stored target temporary live revivable disk)
    (distinct : target ≠ temporary) {inode : Nat} {contents : List Symbol}
    (named : disk.directory temporary = some (.file inode))
    (synced : disk.inodes inode = ⟨contents, true⟩) :
    Stored target temporary (some contents) (insert live revivable)
      (disk.renamed temporary target) := by
  have onTarget : Function.update (Function.update disk.directory temporary
      none) target (disk.directory temporary) target =
        some (.file inode) := by
    rw [Function.update_self, named]
  have offTemporary : Function.update (Function.update disk.directory
      temporary none) target (disk.directory temporary) temporary =
        none := by
    rw [Function.update_of_ne distinct.symm, Function.update_self]
  refine ⟨⟨inode, onTarget, synced⟩, ?_, ?_, ?_, ?_⟩
  · intro directory member
    rcases List.mem_cons.mp member with rfl | before
    · exact ⟨live, Set.mem_insert _ _, stored.current⟩
    · obtain ⟨found, listed, holds⟩ := stored.older directory before
      exact ⟨found, Set.mem_insert_of_mem _ listed, holds⟩
  · intro directory member name other isNamed
    rcases List.mem_cons.mp member with rfl | before
    · by_cases isTarget : name = target
      · subst isTarget
        rw [show (disk.renamed temporary name).directory name =
          some (.file inode) from onTarget] at isNamed
        cases isNamed
        exact stored.below _ List.mem_cons_self _ _ named
      · by_cases isTemporary : name = temporary
        · subst isTemporary
          rw [show (disk.renamed name target).directory name = none
            from offTemporary] at isNamed
          cases isNamed
        · refine stored.below _ List.mem_cons_self name other ?_
          change Function.update (Function.update disk.directory temporary
            none) target _ name = _ at isNamed
          rw [Function.update_of_ne isTarget,
            Function.update_of_ne isTemporary] at isNamed
          exact isNamed
    · exact stored.below directory before name other isNamed
  · intro directory member other isNamed
    rcases List.mem_cons.mp member with rfl | before
    · rw [show (disk.renamed temporary target).directory temporary = none
        from offTemporary] at isNamed
      cases isNamed
    · exact stored.apart directory before other isNamed
  · intro other isNamed
    rw [show (disk.renamed temporary target).directory temporary = none
      from offTemporary] at isNamed
    cases isNamed

theorem removed [DecidableEq Name]
    (stored : Stored target temporary live revivable disk)
    (distinct : target ≠ temporary) :
    Stored target temporary none (insert live revivable)
      (disk.removed target) := by
  have sameTemporary : (disk.removed target).directory temporary =
      disk.directory temporary :=
    Function.update_of_ne distinct.symm _ _
  have offTarget : (disk.removed target).directory target = none :=
    Function.update_self _ _ _
  refine ⟨offTarget, ?_, ?_, ?_, ?_⟩
  · intro directory member
    rcases List.mem_cons.mp member with rfl | before
    · exact ⟨live, Set.mem_insert _ _, stored.current⟩
    · obtain ⟨found, listed, holds⟩ := stored.older directory before
      exact ⟨found, Set.mem_insert_of_mem _ listed, holds⟩
  · intro directory member name inode named
    rcases List.mem_cons.mp member with rfl | before
    · by_cases isTarget : name = target
      · subst isTarget
        rw [offTarget] at named
        cases named
      · refine stored.below _ List.mem_cons_self name inode ?_
        change Function.update disk.directory target none name = _ at named
        rw [Function.update_of_ne isTarget] at named
        exact named
    · exact stored.below directory before name inode named
  · intro directory member inode named
    rcases List.mem_cons.mp member with rfl | before
    · rw [offTarget]
      exact nofun
    · exact stored.apart directory before inode named
  · intro inode named directory member
    rw [sameTemporary] at named
    rcases List.mem_cons.mp member with rfl | before
    · exact stored.apart _ List.mem_cons_self inode named
    · exact stored.unshared inode named directory before

theorem syncDirectory (stored : Stored target temporary live revivable disk) :
    Stored target temporary live ∅ { disk with older := [] } where
  current := stored.current
  older := nofun
  below directory member :=
    stored.below directory (List.mem_cons.mpr
      (.inl (List.mem_singleton.mp member)))
  apart directory member :=
    stored.apart directory (List.mem_cons.mpr
      (.inl (List.mem_singleton.mp member)))
  unshared := nofun

theorem restart (stored : Stored target temporary live revivable disk)
    (lost : disk.Restart after) :
    ∃ contents ∈ insert live revivable,
      Stored target temporary contents ∅ after := by
  have survives : ∀ contents, disk.Holds after.directory target contents →
      after.Holds after.directory target contents := by
    intro contents holds
    cases contents with
    | none => exact holds
    | some bytes =>
        obtain ⟨inode, named, kept⟩ := holds
        exact ⟨inode, named,
          (lost.kept inode (by rw [kept])).trans kept⟩
  have others : ∀ contents, disk.Holds after.directory target contents →
      Stored target temporary contents ∅ after := by
    intro contents holds
    refine ⟨survives contents holds, ?_, ?_, ?_, ?_⟩
    · rw [lost.older]
      exact nofun
    · intro directory member name inode named
      rw [lost.older, List.mem_singleton] at member
      rw [member] at named
      rw [lost.fresh]
      exact stored.below _ lost.directory name inode named
    · intro directory member inode named
      rw [lost.older, List.mem_singleton] at member
      rw [member] at named ⊢
      exact stored.apart _ lost.directory inode named
    · rw [lost.older]
      exact fun _ _ => nofun
  rcases List.mem_cons.mp lost.directory with same | before
  · refine ⟨live, Set.mem_insert _ _, others live ?_⟩
    rw [same]
    exact stored.current
  · obtain ⟨contents, listed, holds⟩ := stored.older _ before
    exact ⟨contents, Set.mem_insert_of_mem _ listed, others contents holds⟩

theorem gone (lost : Gone after) :
    Stored target temporary none ∅ after := by
  have nothing (name : Name) : after.directory name = none := by
    rw [lost.directory]
  refine ⟨nothing target, ?_, ?_, ?_, ?_⟩
  · rw [lost.older]
    exact nofun
  · intro directory member name inode named
    rw [lost.older, List.mem_singleton] at member
    rw [member, nothing] at named
    cases named
  · intro directory member inode named
    rw [lost.older, List.mem_singleton] at member
    rw [member, nothing] at named
    cases named
  · rw [lost.older]
    exact fun _ _ => nofun

theorem makeDirectory
    (stored : Stored target temporary live revivable disk) :
    Stored target temporary live revivable disk.makeDirectory :=
  { stored with }

section Answers

variable [DecidableEq Name]

theorem of_createParent
    (stored : Stored target temporary live revivable disk)
    {reply : (DiskCall.createParent : DiskCall Name Symbol).Reply}
    (answered : disk.Answers .createParent reply after) :
    Stored target temporary live revivable after := by
  rcases answered with ⟨failure, rfl, rfl | rfl⟩ | ⟨rfl, rfl⟩
  · exact stored
  · exact stored.makeDirectory
  · exact stored.makeDirectory

theorem of_truncate (stored : Stored target temporary live revivable disk)
    (distinct : target ≠ temporary)
    {reply : (DiskCall.truncate temporary : DiskCall Name Symbol).Reply}
    (answered : disk.Answers (.truncate temporary) reply after) :
    Stored target temporary live (insert live revivable) after ∧
      ∀ inode, reply = .ok inode →
        after.directory temporary = some (.file inode) ∧
          (after.inodes inode).contents = [] := by
  have kept := stored.mono (Set.subset_insert live revivable)
  by_cases missing : disk.presence = .missing
  · simp only [Answers, if_pos missing] at answered
    obtain ⟨failure, rfl, rfl⟩ := answered
    exact ⟨kept, nofun⟩
  simp only [Answers, if_neg missing] at answered
  cases named : disk.directory temporary with
  | none =>
      simp only [named] at answered
      have created := stored.create distinct named
      rcases answered with ⟨failure, rfl, rfl | rfl⟩ | ⟨rfl, rfl⟩
      · exact ⟨kept, nofun⟩
      · exact ⟨created, nofun⟩
      · refine ⟨created, ?_⟩
        intro inode same
        cases same
        refine ⟨Function.update_self _ _ _, ?_⟩
        simp [Disk.create]
  | some entry =>
      cases entry with
      | link =>
          simp only [named] at answered
          obtain ⟨failure, rfl, rfl⟩ := answered
          exact ⟨kept, nofun⟩
      | file inode =>
          simp only [named] at answered
          have emptied := kept.setTemporary named [] false
          rcases answered with ⟨failure, rfl, rfl | rfl⟩ | ⟨rfl, rfl⟩
          · exact ⟨kept, nofun⟩
          · exact ⟨emptied, nofun⟩
          · refine ⟨emptied, ?_⟩
            intro other same
            cases same
            exact ⟨named, by rw [setInode_self]⟩

theorem of_write (stored : Stored target temporary live revivable disk)
    {inode : Nat} (named : disk.directory temporary = some (.file inode))
    {contents : List Symbol}
    {reply : (DiskCall.write inode contents : DiskCall Name Symbol).Reply}
    (answered : disk.Answers (.write inode contents) reply after) :
    Stored target temporary live revivable after ∧
      (reply = .ok () → after.directory temporary = some (.file inode) ∧
        (after.inodes inode).contents =
          (disk.inodes inode).contents ++ contents) := by
  rcases answered with ⟨failure, left, rfl, rfl⟩ | ⟨rfl, rfl⟩
  · exact ⟨stored.setTemporary named _ _, nofun⟩
  · exact ⟨stored.setTemporary named _ _, fun _ =>
      ⟨named, by rw [setInode_self]⟩⟩

theorem of_sync (stored : Stored target temporary live revivable disk)
    {inode : Nat} (named : disk.directory temporary = some (.file inode))
    {reply : (DiskCall.sync inode : DiskCall Name Symbol).Reply}
    (answered : disk.Answers (.sync inode) reply after) :
    Stored target temporary live revivable after ∧
      (reply = .ok () → after.directory temporary = some (.file inode) ∧
        after.inodes inode = ⟨(disk.inodes inode).contents, true⟩) := by
  rcases answered with ⟨failure, rfl, rfl⟩ | ⟨rfl, rfl⟩
  · exact ⟨stored, nofun⟩
  · exact ⟨stored.setTemporary named _ _, fun _ =>
      ⟨named, setInode_self _ _ _ _⟩⟩

theorem of_rename (stored : Stored target temporary live revivable disk)
    (distinct : target ≠ temporary) {inode : Nat} {contents : List Symbol}
    (named : disk.directory temporary = some (.file inode))
    (synced : disk.inodes inode = ⟨contents, true⟩)
    {reply : (DiskCall.rename temporary target :
      DiskCall Name Symbol).Reply}
    (answered : disk.Answers (.rename temporary target) reply after) :
    (∃ failure, reply = .error failure) ∧
        Stored target temporary live revivable after ∨
      reply = .ok () ∧
        Stored target temporary (some contents) (insert live revivable)
          after := by
  rcases answered with ⟨failure, rfl, rfl⟩ | ⟨_, rfl, rfl⟩
  · exact .inl ⟨⟨failure, rfl⟩, stored⟩
  · exact .inr ⟨rfl, stored.renamed distinct named synced⟩

theorem of_syncDirectory
    (stored : Stored target temporary live revivable disk)
    {reply : (DiskCall.syncDirectory : DiskCall Name Symbol).Reply}
    (answered : disk.Answers .syncDirectory reply after) :
    (∃ failure, reply = .error failure) ∧
        Stored target temporary live revivable after ∨
      reply = .ok () ∧ Stored target temporary live ∅ after := by
  rcases answered with ⟨failure, rfl, rfl⟩ | ⟨_, rfl, rfl⟩
  · exact .inl ⟨⟨failure, rfl⟩, stored⟩
  · exact .inr ⟨rfl, stored.syncDirectory⟩

theorem of_remove (stored : Stored target temporary live revivable disk)
    (distinct : target ≠ temporary)
    {reply : (DiskCall.remove target : DiskCall Name Symbol).Reply}
    (answered : disk.Answers (.remove target) reply after) :
    (∃ failure, reply = .error failure) ∧
        Stored target temporary live revivable after ∨
      (∃ found, reply = .ok found) ∧
        Stored target temporary none (insert live revivable) after := by
  rcases answered with
    ⟨failure, rfl, rfl⟩ | ⟨missing, rfl, rfl⟩ | ⟨_, rfl, rfl⟩
  · exact .inl ⟨⟨failure, rfl⟩, stored⟩
  · have absent : live = none := by
      have held := stored.current
      cases live with
      | none => rfl
      | some contents =>
          obtain ⟨inode, named, _⟩ := held
          rw [missing] at named
          cases named
    subst absent
    exact .inr ⟨⟨false, rfl⟩, stored.mono (Set.subset_insert _ _)⟩
  · exact .inr ⟨⟨true, rfl⟩, stored.removed distinct⟩

theorem of_read (stored : Stored target temporary live revivable disk)
    {reply : (DiskCall.read target : DiskCall Name Symbol).Reply}
    (answered : disk.Answers (.read target) reply after) :
    after = disk ∧
      ((∃ failure, reply = .error failure) ∨ reply = .ok live) := by
  obtain ⟨rfl, failed | read⟩ := answered
  · exact ⟨rfl, .inl failed⟩
  · refine ⟨rfl, .inr ?_⟩
    have held := stored.current
    cases live with
    | none =>
        rw [show after.directory target = none from held] at read
        exact read
    | some contents =>
        obtain ⟨inode, named, kept⟩ := held
        simp only [named, kept] at read
        exact read

end Answers

end Stored

end Disk

end Foundation
