import Velum.Foundation.CrashDisk
import Velum.Foundation.TransitionSystem
import Velum.Host.RecordText

/-!
# The recovery journal in a file

A write goes to a temporary file that is synchronised and renamed over the
journal, and then the directory is synchronised.  A removal does not
synchronise the directory.  Any call may fail, the process may die between any
two calls, and the power may fail at any time.

A `Ledger` says what all of this amounts to: the record that a load reads, the
ones that a power failure may bring back, and whether one may take away the
directory, which a write makes but does not synchronise in its parent.
-/

namespace Velum.Host

open Foundation

/-- The journal and its temporary file. -/
inductive JournalName where
  | path
  | temporaryPath
  deriving DecidableEq

/-- The serialisation of records, which is another library's. -/
structure RecordCodec where
  encode : RecoveryRecord → List UInt8
  decode : List UInt8 → Option RecoveryRecord

/-- Compact JSON texts. -/
def recordCodec : RecordCodec where
  encode := RecordText.encode
  decode := RecordText.decode

def RecordCodec.Restores (codec : RecordCodec) (record : RecoveryRecord) :
    Prop :=
  codec.decode (codec.encode record) = some record

namespace FileRecoveryJournal

abbrev JournalDisk := Disk JournalName UInt8

abbrev JournalScript (Value : Type) :=
  ExceptT HostFailure (DiskScript JournalName UInt8) Value

/-- Every failure of a call is a failure of the journal. -/
def orJournal {Value : Type}
    (script : DiskScript JournalName UInt8 (Except DiskFailure Value)) :
    JournalScript Value :=
  ExceptT.mk (script >>= fun reply =>
    pure (reply.mapError fun _ => HostFailure.journal))

def rejectSymlink (name : JournalName) : JournalScript Unit := do
  match ← orJournal (DiskScript.isLink name) with
  | some true => throw HostFailure.journal
  | _ => pure ()

def load (codec : RecordCodec) : JournalScript (Option RecoveryRecord) := do
  rejectSymlink .path
  match ← orJournal (DiskScript.read .path) with
  | none => pure none
  | some source =>
      match codec.decode source with
      | some record => pure (some record)
      | none => throw HostFailure.journal

def write (codec : RecordCodec) (record : RecoveryRecord) :
    JournalScript Unit := do
  orJournal DiskScript.createParent
  rejectSymlink .path
  rejectSymlink .temporaryPath
  let file ← orJournal (DiskScript.truncate .temporaryPath)
  orJournal (DiskScript.write file (codec.encode record))
  orJournal (DiskScript.sync file)
  orJournal (DiskScript.rename .temporaryPath .path)
  orJournal DiskScript.syncDirectory
  pure ()

def clear : JournalScript Unit := do
  rejectSymlink .path
  let _ ← orJournal (DiskScript.remove .path)
  pure ()

end FileRecoveryJournal

inductive JournalEvent where
  | loaded (reply : Except HostFailure (Option RecoveryRecord))
  | wrote (record : RecoveryRecord) (reply : Except HostFailure Unit)
  | cleared (reply : Except HostFailure Unit)
  /-- The process died during a write. -/
  | writeCut (record : RecoveryRecord)
  | clearCut
  | powerLost

namespace JournalEvent

/-- The record that an event begins to write. -/
def record : JournalEvent → Option RecoveryRecord
  | .wrote record _ => some record
  | .writeCut record => some record
  | _ => none

/-- A completed call to the journal, as the host sees it. -/
def hostCall : JournalEvent → Option ((call : HostCall) × call.Reply)
  | .loaded reply => some ⟨.load, reply⟩
  | .wrote record reply => some ⟨.write record, reply⟩
  | .cleared reply => some ⟨.clear, reply⟩
  | _ => none

/-- Neither a write nor a removal. -/
def Reading : JournalEvent → Prop
  | .loaded _ => True
  | .powerLost => True
  | _ => False

end JournalEvent

namespace FileRecoveryJournal

inductive Step (codec : RecordCodec) :
    JournalDisk → JournalEvent → JournalDisk → Prop where
  | loaded {disk after : JournalDisk}
      {reply : Except HostFailure (Option RecoveryRecord)} :
      Script.Ends Disk.Answers disk (load codec) reply after →
      Step codec disk (.loaded reply) after
  | wrote {disk after : JournalDisk} {record : RecoveryRecord}
      {reply : Except HostFailure Unit} :
      Script.Ends Disk.Answers disk (write codec record) reply after →
      Step codec disk (.wrote record reply) after
  | cleared {disk after : JournalDisk} {reply : Except HostFailure Unit} :
      Script.Ends Disk.Answers disk clear reply after →
      Step codec disk (.cleared reply) after
  | writeCut {disk after : JournalDisk} {record : RecoveryRecord} :
      Script.Leads Disk.Answers disk (write codec record) after →
      Step codec disk (.writeCut record) after
  | clearCut {disk after : JournalDisk} :
      Script.Leads Disk.Answers disk clear after →
      Step codec disk .clearCut after
  | powerLost {disk after : JournalDisk} :
      disk.PowerLoss after → Step codec disk .powerLost after

end FileRecoveryJournal

/-! ## The abstract journal -/

structure Ledger where
  live : Option RecoveryRecord
  /-- What a power failure may bring back instead. -/
  revivable : Set (Option RecoveryRecord)
  /-- The directory of the journal outlives a power failure. -/
  rooted : Bool

namespace Ledger

/-- After an operation that has not synchronised the directory. -/
def unsettled (ledger : Ledger) (live : Option RecoveryRecord) : Ledger :=
  ⟨live, insert ledger.live ledger.revivable, ledger.rooted⟩

inductive Step : Ledger → JournalEvent → Ledger → Prop where
  | loaded {ledger : Ledger} :
      Step ledger (.loaded (.ok ledger.live)) ledger
  | loadFailed {ledger : Ledger} :
      Step ledger (.loaded (.error .journal)) ledger
  | wrote {ledger : Ledger} {record : RecoveryRecord} :
      Step ledger (.wrote record (.ok ())) ⟨some record, ∅, ledger.rooted⟩
  | writeFailed {ledger : Ledger} {record : RecoveryRecord}
      {live : Option RecoveryRecord} :
      live = ledger.live ∨ live = some record →
      Step ledger (.wrote record (.error .journal)) (ledger.unsettled live)
  | writeCut {ledger : Ledger} {record : RecoveryRecord}
      {live : Option RecoveryRecord} :
      live = ledger.live ∨ live = some record →
      Step ledger (.writeCut record) (ledger.unsettled live)
  | cleared {ledger : Ledger} :
      Step ledger (.cleared (.ok ())) (ledger.unsettled none)
  | clearFailed {ledger : Ledger} :
      Step ledger (.cleared (.error .journal)) ledger
  | clearCut {ledger : Ledger} {live : Option RecoveryRecord} :
      live = ledger.live ∨ live = none →
      Step ledger .clearCut (ledger.unsettled live)
  | powerLost {ledger : Ledger} {live : Option RecoveryRecord}
      {rooted : Bool} :
      live ∈ insert ledger.live ledger.revivable →
      (ledger.rooted = true → rooted = true) →
      Step ledger .powerLost ⟨live, ∅, rooted⟩
  | directoryLost {ledger : Ledger} :
      ledger.rooted = false → Step ledger .powerLost ⟨none, ∅, false⟩

end Ledger

namespace FileRecoveryJournal

/-- The files of a ledger. -/
structure Contents (codec : RecordCodec) (ledger : Ledger)
    (disk : JournalDisk) : Prop where
  stored : Disk.Stored .path .temporaryPath (ledger.live.map codec.encode)
    (Set.image (Option.map codec.encode) ledger.revivable) disk
  restores : ∀ record, some record ∈ insert ledger.live ledger.revivable →
    codec.Restores record

/-- The disk of a ledger. -/
structure Represents (codec : RecordCodec) (ledger : Ledger)
    (disk : JournalDisk) : Prop where
  contents : Contents codec ledger disk
  rooted : disk.presence = .durable ↔ ledger.rooted = true

/-! ## Rules for the journal's scripts -/

section Rules

variable {safe : JournalDisk → DiskCall JournalName UInt8 → Prop}
  {Value : Type} {post : Except HostFailure Value → JournalDisk → Prop}
  {disk : JournalDisk}

/-- The rule for a call whose failure ends the script. -/
theorem guarantees_orJournal {Answer : Type}
    {script : DiskScript JournalName UInt8 (Except DiskFailure Answer)}
    {rest : Answer → JournalScript Value} :
    Script.Guarantees Disk.Answers safe post
        (orJournal script >>= rest : JournalScript Value) disk ↔
      Script.Guarantees Disk.Answers safe
        (fun reply after =>
          match reply with
          | .ok answer =>
              Script.Guarantees Disk.Answers safe post (rest answer) after
          | .error _ => post (.error .journal) after)
        script disk := by
  refine Script.guarantees_bind_except.trans ?_
  refine Script.guarantees_bind.trans ?_
  apply iff_of_eq
  congr 1
  funext reply after
  cases reply with
  | ok answer => rfl
  | error failure => rfl

/-- A look changes nothing and may fail. -/
theorem guarantees_rejectSymlink {name : JournalName}
    (rest : Unit → JournalScript Value)
    (allowed : safe disk (.isLink name)) (failed : post (.error .journal) disk)
    (passed : Script.Guarantees Disk.Answers safe post (rest ()) disk) :
    Script.Guarantees Disk.Answers safe post
      (rejectSymlink name >>= rest : JournalScript Value) disk := by
  refine Script.guarantees_bind_except.mpr ?_
  refine guarantees_orJournal.mpr ⟨allowed, ?_⟩
  rintro reply after ⟨rfl, answered⟩
  cases reply with
  | error failure => exact failed
  | ok found =>
      cases found with
      | none => exact passed
      | some link =>
          cases link with
          | false => exact passed
          | true => exact failed

end Rules

/-! ## Operations -/

theorem path_ne_temporaryPath :
    JournalName.path ≠ JournalName.temporaryPath := nofun

section Operations

variable {codec : RecordCodec} {ledger : Ledger} {disk : JournalDisk}

theorem Contents.unsettled (held : Contents codec ledger disk)
    {after : JournalDisk} {live : Option RecoveryRecord}
    (stored : Disk.Stored .path .temporaryPath (live.map codec.encode)
      (insert (ledger.live.map codec.encode)
        (Set.image (Option.map codec.encode) ledger.revivable)) after)
    (restores : ∀ record, live = some record → codec.Restores record) :
    Contents codec (ledger.unsettled live) after := by
  refine ⟨?_, ?_⟩
  · change Disk.Stored _ _ _ (Set.image _ (insert _ _)) _
    rw [Set.image_insert_eq]
    exact stored
  · intro record member
    rcases Set.mem_insert_iff.mp member with same | earlier
    · exact restores record same.symm
    · exact held.restores record earlier

/-- A load changes nothing and reads the live record. -/
theorem guarantees_load (held : Contents codec ledger disk) :
    Script.Guarantees Disk.Answers (fun world _ => world = disk)
      (fun reply after => after = disk ∧
        (reply = .ok ledger.live ∨ reply = .error .journal))
      (load codec) disk := by
  unfold load
  refine guarantees_rejectSymlink (fun _ => _) rfl ⟨rfl, .inr rfl⟩ ?_
  refine guarantees_orJournal.mpr ⟨rfl, ?_⟩
  intro reply after answered
  obtain ⟨rfl, ⟨failure, rfl⟩ | rfl⟩ := held.stored.of_read answered
  · exact ⟨rfl, .inr rfl⟩
  · cases recorded : ledger.live with
    | none => exact ⟨rfl, .inl rfl⟩
    | some record =>
        have restored := held.restores record
          (Set.mem_insert_iff.mpr (.inl recorded.symm))
        change Script.Guarantees _ _ _
          (match codec.decode (codec.encode record) with
            | some record => pure (some record)
            | none => throw HostFailure.journal : JournalScript _) _
        rw [restored]
        exact ⟨rfl, .inl rfl⟩

/-- The old record or the new one. -/
def Between (codec : RecordCodec) (ledger : Ledger)
    (record : RecoveryRecord) (disk : JournalDisk) : Prop :=
  ∃ live, (live = ledger.live ∨ live = some record) ∧
    Contents codec (ledger.unsettled live) disk

theorem Contents.between (held : Contents codec ledger disk)
    {after : JournalDisk} (record : RecoveryRecord)
    (stored : Disk.Stored .path .temporaryPath
      (ledger.live.map codec.encode)
      (insert (ledger.live.map codec.encode)
        (Set.image (Option.map codec.encode) ledger.revivable)) after) :
    Between codec ledger record after := by
  refine ⟨ledger.live, .inl rfl, held.unsettled stored ?_⟩
  intro other same
  exact held.restores other (Set.mem_insert_iff.mpr (.inl same.symm))

/-- Wherever a write fails or is cut off, the journal holds the old record or
the new one, and a write that returns is durable. -/
theorem guarantees_write (held : Contents codec ledger disk)
    {record : RecoveryRecord} (restores : codec.Restores record) :
    Script.Guarantees Disk.Answers
      (fun world _ => Between codec ledger record world)
      (fun reply after =>
        reply = .ok () ∧ Contents codec ⟨some record, ∅, ledger.rooted⟩ after ∨
        reply = .error .journal ∧ Between codec ledger record after)
      (write codec record) disk := by
  have untouched := held.stored.mono
    (Set.subset_insert (ledger.live.map codec.encode) _)
  have start := held.between record untouched
  unfold write
  refine guarantees_orJournal.mpr ⟨start, ?_⟩
  intro reply made answered
  have kept := held.stored.of_createParent answered
  have start := held.between record (kept.mono (Set.subset_insert _ _))
  cases reply with
  | error failure => exact .inr ⟨rfl, start⟩
  | ok created =>
  refine Script.guarantees_done.mpr (guarantees_rejectSymlink
    (fun _ => _) start (.inr ⟨rfl, start⟩) ?_)
  refine guarantees_rejectSymlink (fun _ => _) start
    (.inr ⟨rfl, start⟩) ?_
  refine guarantees_orJournal.mpr ⟨start, ?_⟩
  intro reply opened answered
  obtain ⟨stored, emptied⟩ := kept.of_truncate path_ne_temporaryPath answered
  have safe := held.between record stored
  cases reply with
  | error failure => exact .inr ⟨rfl, safe⟩
  | ok file =>
  obtain ⟨named, empty⟩ := emptied file rfl
  refine Script.guarantees_done.mpr (guarantees_orJournal.mpr ⟨safe, ?_⟩)
  intro reply written answered
  obtain ⟨stored, contents⟩ := stored.of_write named answered
  have safe := held.between record stored
  cases reply with
  | error failure => exact .inr ⟨rfl, safe⟩
  | ok _ =>
  obtain ⟨named, contents⟩ := contents rfl
  rw [empty, List.nil_append] at contents
  refine Script.guarantees_done.mpr (guarantees_orJournal.mpr ⟨safe, ?_⟩)
  intro reply synced answered
  obtain ⟨stored, durable⟩ := stored.of_sync named answered
  have safe := held.between record stored
  cases reply with
  | error failure => exact .inr ⟨rfl, safe⟩
  | ok _ =>
  obtain ⟨named, durable⟩ := durable rfl
  rw [contents] at durable
  refine Script.guarantees_done.mpr (guarantees_orJournal.mpr ⟨safe, ?_⟩)
  intro reply renamed answered
  rcases stored.of_rename path_ne_temporaryPath named durable answered with
    ⟨⟨failure, rfl⟩, stored⟩ | ⟨rfl, stored⟩
  · exact .inr ⟨rfl, held.between record stored⟩
  have isNew : ∀ other, some record = some other → codec.Restores other := by
    rintro other ⟨⟩
    exact restores
  have safe : Between codec ledger record renamed := by
    refine ⟨some record, .inr rfl, held.unsettled ?_ isNew⟩
    rw [Set.insert_eq_of_mem (Set.mem_insert _ _)] at stored
    exact stored
  refine Script.guarantees_done.mpr (guarantees_orJournal.mpr ⟨safe, ?_⟩)
  intro reply settled answered
  rcases stored.of_syncDirectory answered with
    ⟨⟨failure, rfl⟩, stored⟩ | ⟨rfl, stored⟩
  · rw [Set.insert_eq_of_mem (Set.mem_insert _ _)] at stored
    exact .inr ⟨rfl, some record, .inr rfl,
      held.unsettled stored isNew⟩
  · refine .inl ⟨rfl, ?_, ?_⟩
    · rw [Set.image_empty]
      exact stored
    · intro other member
      rcases Set.mem_insert_iff.mp member with same | impossible
      · exact isNew other same.symm
      · exact impossible.elim

/-- A removal that fails has changed nothing. -/
theorem guarantees_clear (held : Contents codec ledger disk) :
    Script.Guarantees Disk.Answers
      (fun world _ => Contents codec ledger world)
      (fun reply after =>
        reply = .ok () ∧ Contents codec (ledger.unsettled none) after ∨
        reply = .error .journal ∧ Contents codec ledger after)
      clear disk := by
  unfold clear
  refine guarantees_rejectSymlink (fun _ => _) held
    (.inr ⟨rfl, held⟩) ?_
  refine guarantees_orJournal.mpr ⟨held, ?_⟩
  intro reply after answered
  rcases held.stored.of_remove path_ne_temporaryPath answered with
    ⟨⟨failure, rfl⟩, stored⟩ | ⟨⟨found, rfl⟩, stored⟩
  · exact .inr ⟨rfl, stored, held.restores⟩
  · exact .inl ⟨rfl, held.unsettled stored nofun⟩

/-- Every step on the files but a power failure is one of the ledger. -/
theorem step_contents (held : Contents codec ledger disk)
    {event : JournalEvent} {after : JournalDisk}
    (restores : ∀ record, event.record = some record →
      codec.Restores record)
    (powered : event ≠ .powerLost) (step : Step codec disk event after) :
    ∃ next, Ledger.Step ledger event next ∧ next.rooted = ledger.rooted ∧
      Contents codec next after := by
  cases step with
  | loaded ended =>
      obtain ⟨rfl, rfl | rfl⟩ := (guarantees_load held).of_ends ended
      · exact ⟨ledger, .loaded, rfl, held⟩
      · exact ⟨ledger, .loadFailed, rfl, held⟩
  | @wrote _ record _ ended =>
      rcases (guarantees_write held (restores record rfl)).of_ends ended
        with ⟨rfl, written⟩ | ⟨rfl, live, which, between⟩
      · exact ⟨_, .wrote, rfl, written⟩
      · exact ⟨_, .writeFailed which, rfl, between⟩
  | cleared ended =>
      rcases (guarantees_clear held).of_ends ended with
        ⟨rfl, removed⟩ | ⟨rfl, kept⟩
      · exact ⟨_, .cleared, rfl, removed⟩
      · exact ⟨_, .clearFailed, rfl, kept⟩
  | @writeCut _ record cut =>
      obtain ⟨live, which, between⟩ :
          Between codec ledger record after := by
        refine (guarantees_write held (restores record rfl)).of_leads
          id ?_ cut
        rintro reply world (⟨_, written⟩ | ⟨_, between⟩)
        · refine ⟨some record, .inr rfl, ?_, ?_⟩
          · exact written.stored.mono (by simp)
          · intro other member
            rcases Set.mem_insert_iff.mp member with same | earlier
            · exact written.restores other
                (Set.mem_insert_iff.mpr (.inl same))
            · exact held.restores other earlier
        · exact between
      exact ⟨_, .writeCut which, rfl, between⟩
  | clearCut cut =>
      have kept : Contents codec ledger after ∨
          Contents codec (ledger.unsettled none) after := by
        have still : ∀ {world : JournalDisk}, Contents codec ledger world →
            Contents codec ledger world ∨
              Contents codec (ledger.unsettled none) world := .inl
        refine (guarantees_clear held).of_leads (still ·) ?_ cut
        rintro reply world (⟨_, removed⟩ | ⟨_, kept⟩)
        · exact .inr removed
        · exact .inl kept
      rcases kept with kept | removed
      · refine ⟨_, .clearCut (.inl rfl), rfl, kept.unsettled
          (kept.stored.mono (Set.subset_insert _ _)) ?_⟩
        intro record same
        exact kept.restores record (Set.mem_insert_iff.mpr (.inl same.symm))
      · exact ⟨_, .clearCut (.inr rfl), rfl, removed⟩
  | powerLost lost => exact absurd rfl powered

/-- Without a power failure the directory is as durable as it was. -/
theorem step_durable_iff {event : JournalEvent} {after : JournalDisk}
    (powered : event ≠ .powerLost) (step : Step codec disk event after) :
    after.presence = .durable ↔ disk.presence = .durable := by
  have kept {Value : Type} {script : JournalScript Value}
      (cut : Script.Leads Disk.Answers disk script after) :
      after.presence = .durable ↔ disk.presence = .durable := by
    refine @Script.Leads.invariant _ _ _ _ Disk.Answers
      (fun world : JournalDisk =>
        world.presence = .durable ↔ disk.presence = .durable)
      _ _ _ ?_ cut Iff.rfl
    intro world request reply later same answered
    exact answered.durable_iff.trans same
  cases step with
  | loaded ended => exact kept ended.leads
  | wrote ended => exact kept ended.leads
  | cleared ended => exact kept ended.leads
  | writeCut cut => exact kept cut
  | clearCut cut => exact kept cut
  | powerLost lost => exact absurd rfl powered

theorem powerLoss_refines (represents : Represents codec ledger disk)
    {after : JournalDisk} (lost : disk.PowerLoss after) :
    ∃ next, Ledger.Step ledger .powerLost next ∧
      Represents codec next after := by
  obtain ⟨held, rooted⟩ := represents
  rcases lost with lost | ⟨unsynced, gone⟩
  · obtain ⟨contents, member, stored⟩ := held.stored.restart lost
    rw [← Set.image_insert_eq] at member
    obtain ⟨live, revived, rfl⟩ := member
    refine ⟨⟨live, ∅, decide (after.presence = .durable)⟩,
      .powerLost revived ?_, ⟨?_, ?_⟩, ?_⟩
    · intro kept
      rw [lost.presence, rooted.mpr kept]
      rfl
    · rw [Set.image_empty]
      exact stored
    · intro record member
      rcases Set.mem_insert_iff.mp member with same | impossible
      · change some record = live at same
        rw [← same] at revived
        exact held.restores record revived
      · exact impossible.elim
    · exact decide_eq_true_iff.symm
  · have unrooted : ledger.rooted = false := by
      cases kept : ledger.rooted with
      | false => rfl
      | true => exact absurd (rooted.mpr kept) unsynced
    refine ⟨_, .directoryLost unrooted, ⟨?_, ?_⟩, ?_⟩
    · rw [Set.image_empty]
      exact Disk.Stored.gone gone
    · intro record member
      rcases Set.mem_insert_iff.mp member with same | impossible
      · cases same
      · exact impossible.elim
    · rw [gone.presence]
      simp

/-- Every step on the disk is one of the ledger. -/
theorem step_refines (represents : Represents codec ledger disk)
    {event : JournalEvent} {after : JournalDisk}
    (restores : ∀ record, event.record = some record →
      codec.Restores record)
    (step : Step codec disk event after) :
    ∃ next, Ledger.Step ledger event next ∧
      Represents codec next after := by
  by_cases powered : event = .powerLost
  · subst powered
    cases step with
    | powerLost lost => exact powerLoss_refines represents lost
  · obtain ⟨next, move, rooted, held⟩ :=
      step_contents represents.contents restores powered step
    refine ⟨next, move, held, ?_⟩
    rw [rooted, step_durable_iff powered step]
    exact represents.rooted

theorem run_refines {start : Ledger} {initial : JournalDisk}
    {trace : List JournalEvent} (represents : Represents codec start initial)
    (restores : ∀ event ∈ trace, ∀ record, event.record = some record →
      codec.Restores record)
    (run : Run (Step codec) initial trace disk) :
    ∃ ledger, Run Ledger.Step start trace ledger ∧
      Represents codec ledger disk := by
  induction run with
  | nil => exact ⟨start, .nil, represents⟩
  | snoc _ move induction =>
      obtain ⟨ledger, run, held⟩ := induction fun event member =>
        restores event (List.mem_append_left _ member)
      obtain ⟨next, step, kept⟩ := step_refines held
        (restores _ (List.mem_append_right _ List.mem_cons_self)) move
      exact ⟨next, run.snoc step, kept⟩

end Operations

end FileRecoveryJournal

namespace Ledger

/-- A completed step is what the host expects of its journal. -/
theorem Step.answers {ledger next : Ledger} {event : JournalEvent}
    {call : HostCall} {reply : call.Reply}
    (step : Step ledger event next)
    (completed : event.hostCall = some ⟨call, reply⟩) (world : World)
    (same : world.journal = ledger.live) :
    Host.Answers world call reply { world with journal := next.live } := by
  have untouched : { world with journal := ledger.live } = world := by
    rw [← same]
  cases step with
  | loaded =>
      cases completed
      exact ⟨untouched, .inr (by rw [same])⟩
  | loadFailed =>
      cases completed
      exact ⟨untouched, .inl ⟨_, rfl⟩⟩
  | wrote =>
      cases completed
      exact .inr ⟨rfl, rfl⟩
  | writeFailed which =>
      cases completed
      rcases which with rfl | rfl
      · exact .inl ⟨_, rfl, .inl untouched⟩
      · exact .inl ⟨_, rfl, .inr rfl⟩
  | cleared =>
      cases completed
      exact .inr ⟨rfl, rfl⟩
  | clearFailed =>
      cases completed
      exact .inl ⟨_, rfl, untouched⟩
  | writeCut => cases completed
  | clearCut => cases completed
  | powerLost => cases completed
  | directoryLost => cases completed

/-- The record is there, or it was lost with the directory. -/
def Kept (start : Ledger) (record : RecoveryRecord) (ledger : Ledger) : Prop :=
  ledger.revivable = ∅ ∧
    (ledger.live = some record ∨
      ledger.live = none ∧ start.rooted = false) ∧
    (start.rooted = true → ledger.rooted = true)

theorem Step.kept {start before next : Ledger} {record : RecoveryRecord}
    {event : JournalEvent} (kept : Kept start record before)
    (reading : event.Reading) (step : Step before event next) :
    Kept start record next := by
  obtain ⟨settled, present, rooted⟩ := kept
  cases step with
  | loaded => exact ⟨settled, present, rooted⟩
  | loadFailed => exact ⟨settled, present, rooted⟩
  | powerLost revived kept =>
      rw [settled] at revived
      rcases Set.mem_insert_iff.mp revived with rfl | impossible
      · exact ⟨rfl, present, fun first => kept (rooted first)⟩
      · exact impossible.elim
  | directoryLost unrooted =>
      have lost : start.rooted = false := by
        cases first : start.rooted with
        | false => rfl
        | true => exact absurd (rooted first) (by rw [unrooted]; exact nofun)
      refine ⟨rfl, .inr ⟨rfl, lost⟩, ?_⟩
      rw [lost]
      exact nofun
  | _ => exact reading.elim

/-- A record that was written stays through any loads and power failures, if
its directory does. -/
theorem run_reading {start ledger : Ledger} {record : RecoveryRecord}
    {trace : List JournalEvent}
    (run : Run Step ⟨some record, ∅, start.rooted⟩ trace ledger)
    (reading : ∀ event ∈ trace, event.Reading) : Kept start record ledger := by
  have first : Kept start record ⟨some record, ∅, start.rooted⟩ :=
    ⟨rfl, .inl rfl, id⟩
  refine @Run.invariant_on _ _ Step _ _ _ (Kept start record) _ first ?_ run
    reading
  intro before event next kept allowed step
  exact step.kept kept allowed

/-- A journal whose directory is durable does not lose it. -/
theorem run_rooted {start ledger : Ledger} {trace : List JournalEvent}
    (rooted : start.rooted = true) (run : Run Step start trace ledger) :
    ledger.rooted = true := by
  induction run with
  | nil => exact rooted
  | snoc _ move induction =>
      cases move with
      | powerLost _ stays => exact stays induction
      | directoryLost unrooted =>
          rw [unrooted] at induction
          cases induction
      | _ => exact induction

end Ledger

/-- However calls fail, the process dies, and the power is lost: the files are
those of a ledger, whose completed steps are what the host expects of its
journal; a load fails or returns the live record, never part of one; and a
write that returned is durable, unless the directory was not and is lost as a
whole. -/
theorem file_journal_refines (codec : RecordCodec) (start : Ledger)
    (initial : FileRecoveryJournal.JournalDisk)
    (represents : FileRecoveryJournal.Represents codec start initial)
    (trace : List JournalEvent) (disk : FileRecoveryJournal.JournalDisk)
    (restores : ∀ event ∈ trace, ∀ record, event.record = some record →
      codec.Restores record)
    (run : Run (FileRecoveryJournal.Step codec) initial trace disk) :
    ∃ ledger, Run Ledger.Step start trace ledger ∧
      (∀ reply after, Script.Ends Disk.Answers disk
          (FileRecoveryJournal.load codec) reply after →
        reply = .ok ledger.live ∨ reply = .error .journal) ∧
      (∀ before event next call reply,
        Ledger.Step before event next →
        event.hostCall = some ⟨call, reply⟩ →
        ∀ world : World, world.journal = before.live →
          Answers world call reply { world with journal := next.live }) ∧
      ∀ front record back,
        trace = front ++ .wrote record (.ok ()) :: back →
        (∀ event ∈ back, event.Reading) →
        ledger.revivable = ∅ ∧
          (ledger.live = some record ∨
            ledger.live = none ∧ start.rooted = false) := by
  obtain ⟨ledger, abstract, held⟩ :=
    FileRecoveryJournal.run_refines represents restores run
  refine ⟨ledger, abstract, ?_, ?_, ?_⟩
  · intro reply after ended
    exact ((FileRecoveryJournal.guarantees_load held.contents).of_ends ended).2
  · intro before event next call reply step completed
    exact step.answers completed
  · intro front record back whole reading
    subst whole
    obtain ⟨between, earlier, later⟩ := abstract.split
    obtain ⟨next, step, rest⟩ := later.head
    cases step
    obtain ⟨settled, present, _⟩ := Ledger.run_reading rest reading
    refine ⟨settled, present.imp_right ?_⟩
    rintro ⟨gone, unrooted⟩
    refine ⟨gone, ?_⟩
    cases rooted : start.rooted with
    | false => rfl
    | true =>
        rw [Ledger.run_rooted rooted earlier] at unrooted
        cases unrooted

namespace FileRecoveryJournal

/-- An empty directory that outlives a power failure. -/
def emptyDisk : JournalDisk where
  presence := .durable
  inodes _ := ⟨[], false⟩
  fresh := 0
  directory _ := none
  older := []

theorem represents_emptyDisk (codec : RecordCodec) :
    Represents codec ⟨none, ∅, true⟩ emptyDisk where
  contents :=
    { stored :=
        { current := rfl
          older := nofun
          below := by simp [emptyDisk]
          apart := by simp [emptyDisk]
          unshared := nofun }
      restores := by simp }
  rooted := by simp [emptyDisk]

def sampleRecord : RecoveryRecord where
  profileGeneration := 7
  configuration := {
    mtu := 1280
    ipv4 := some ⟨.v4 ⟨[10, 7, 0, 2], rfl⟩, 24⟩
    ipv6 := none
    dns := [.v4 ⟨[10, 7, 0, 1], rfl⟩] }

theorem recordCodec_restores_sample : recordCodec.Restores sampleRecord := by
  apply RecordText.decode_encode
  rintro address (⟨network, present, rfl⟩ | ⟨network, present, rfl⟩ | member)
  · cases present
    decide
  · cases present
  · cases List.mem_singleton.mp member
    decide

theorem run_orJournal_ok {Value : Type} {disk after : JournalDisk}
    {script : DiskScript JournalName UInt8 (Except DiskFailure Value)}
    {value : Value}
    (answered : Script.run Disk.perform script disk = (.ok value, after)) :
    Script.run Disk.perform (orJournal script).run disk =
      (.ok value, after) := by
  refine (Script.run_bind _ _ _).trans ?_
  rw [answered]
  rfl

theorem run_load {codec : RecordCodec} {disk : JournalDisk} {inode : Nat}
    {record : RecoveryRecord} (restores : codec.Restores record)
    (named : disk.directory .path = some (.file inode))
    (kept : (disk.inodes inode).contents = codec.encode record) :
    (Script.run Disk.perform (load codec) disk).1 = .ok (some record) := by
  have looked : Script.run Disk.perform
      (orJournal (DiskScript.isLink .path)).run disk =
        (.ok (some false), disk) := by
    apply run_orJournal_ok
    refine (Script.run_call _ _).trans ?_
    rw [Disk.perform, named]
    rfl
  have source : Script.run Disk.perform
      (orJournal (DiskScript.read .path)).run disk =
        (.ok (some (codec.encode record)), disk) := by
    apply run_orJournal_ok
    refine (Script.run_call _ _).trans ?_
    simp only [Disk.perform, named, kept]
    rfl
  have passed : Script.run Disk.perform (rejectSymlink .path).run disk =
      (.ok (), disk) := Script.run_bind_ok looked
  have loaded : Script.run Disk.perform (load codec).run disk =
      (.ok (some record), disk) := by
    refine (Script.run_bind_ok passed).trans ?_
    refine (Script.run_bind_ok source).trans ?_
    have decoded : codec.decode (codec.encode record) = some record := restores
    dsimp only
    rw [decoded]
    rfl
  exact congrArg Prod.fst loaded

theorem sample_run :
    ∃ disk, Run (Step recordCodec) emptyDisk
      [.wrote sampleRecord (.ok ()), .powerLost,
        .loaded (.ok (some sampleRecord))] disk := by
  have written := Script.ends_run Disk.perform_answers
    (write recordCodec sampleRecord) emptyDisk
  have start : Run (Step recordCodec) emptyDisk [] emptyDisk := .nil
  have first := start.snoc (.wrote written)
  have failed := first.snoc (.powerLost (Disk.powerLoss_settled _))
  have read := Script.ends_run Disk.perform_answers (load recordCodec)
    { (Script.run Disk.perform (write recordCodec sampleRecord) emptyDisk).2
      with presence := .durable, older := [] }
  rw [run_load recordCodec_restores_sample rfl rfl] at read
  exact ⟨_, failed.snoc (.loaded read)⟩

end FileRecoveryJournal

/-- A record outlives a power failure. -/
theorem file_journal_refines_sample :
    ∃ disk, Run (FileRecoveryJournal.Step recordCodec)
        FileRecoveryJournal.emptyDisk
        [.wrote FileRecoveryJournal.sampleRecord (.ok ()), .powerLost,
          .loaded (.ok (some FileRecoveryJournal.sampleRecord))] disk ∧
      ∀ reply after, Script.Ends Disk.Answers disk
          (FileRecoveryJournal.load recordCodec) reply after →
        reply = .ok (some FileRecoveryJournal.sampleRecord) ∨
          reply = .error .journal := by
  obtain ⟨disk, run⟩ := FileRecoveryJournal.sample_run
  obtain ⟨ledger, _, loads, _, durable⟩ := file_journal_refines recordCodec
    ⟨none, ∅, true⟩ _ (FileRecoveryJournal.represents_emptyDisk _) _ disk
    (by
      intro event member record same
      rcases List.mem_cons.mp member with rfl | later
      · cases same
        exact FileRecoveryJournal.recordCodec_restores_sample
      · rcases List.mem_pair.mp later with rfl | rfl
        · cases same
        · cases same) run
  have written := durable [] _ _ rfl (by
    intro event member
    rcases List.mem_pair.mp member with rfl | rfl
    · trivial
    · trivial)
  obtain ⟨_, present | ⟨_, impossible⟩⟩ := written
  · rw [present] at loads
    exact ⟨disk, run, loads⟩
  · cases impossible

end Velum.Host
