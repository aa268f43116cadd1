import Velum.Client.Repository
import Velum.Foundation.JsonReader

/-!
# Commits that are cut off

A commit changes the live file by two moves.  Wherever it is cut off, the live
file holds the old text or the new one, unless the old one has been moved aside
and nothing has been moved in since: then a load finds no file at all.
-/

namespace Velum.Client

open Foundation
open Foundation.Script
open Foundation.FileScript

section Commit

variable {Text : Type}

/-- Whether the live file has been moved aside and nothing has been moved in
since. -/
def observeMoves : (call : FileCall Slot Text) →
    call.Reply ClientException → Bool → Bool
  | .rename .live .previous, .ok _, _ => true
  | .rename _ .live, .ok _, _ => false
  | _, _, aside => aside

/-- The environment of a commit, with the moves observed. -/
abbrev Observed := observing (@FileCall.Answers Slot Text _ ClientException)
  observeMoves

/-- What a cut leaves: no live file after the old one was moved aside, and
otherwise the old text or the new one. -/
def Survives (old : Option Text) (text : Text)
    (world : (Slot → Option Text) × Bool) : Prop :=
  if world.2 then world.1 .live = none ∧ old.isSome = true
  else world.1 .live = old ∨ world.1 .live = some text

theorem survives_old {old : Option Text} {text : Text}
    {files : Slot → Option Text} (kept : files .live = old) :
    Survives old text (files, false) :=
  .inl kept

theorem survives_new {old : Option Text} {text : Text}
    {files : Slot → Option Text} (moved : files .live = some text) :
    Survives old text (files, false) :=
  .inr moved

/-- The files when the new text is about to be moved in. -/
structure Parted (old : Option Text) (text : Text)
    (world : (Slot → Option Text) × Bool) : Prop where
  temporary : world.1 .temporary = some text
  live : world.1 .live = none
  previous : world.1 .previous = old
  aside : world.2 = old.isSome

theorem Parted.survives {old : Option Text} {text : Text}
    {world : (Slot → Option Text) × Bool} (parted : Parted old text world) :
    Survives old text world := by
  unfold Survives
  rw [parted.aside, parted.live]
  cases old with
  | none => simp
  | some before => simp

theorem moveAside_parts {old : Option Text} {text : Text}
    {files : Slot → Option Text} (live : files .live = old)
    (temporary : files .temporary = some text) :
    Guarantees Observed (fun world _ => Survives old text world)
      (fun result world =>
        match result with
        | .ok _ => Parted old text world
        | .error _ => Survives old text world)
      moveAside (files, false) := by
  have kept : Survives old text (files, false) := survives_old live
  have cleared : ∀ files : Slot → Option Text, files .live = old →
      files .temporary = some text → files .previous = none →
      Guarantees Observed (fun world _ => Survives old text world)
        (fun result world =>
          match result with
          | .ok _ => Parted old text world
          | .error _ => Survives old text world)
        (FileScript.renameExisting .live .previous) (files, false) := by
    intro files live temporary previous
    have kept : Survives old text (files, false) := survives_old live
    apply guarantees_bind_except.mpr
    apply guarantees_look kept
    · intro _
      exact kept
    cases found : files .live with
    | none =>
        have missing : none = old := found.symm.trans live
        exact ⟨temporary, found, previous.trans missing,
          congrArg Option.isSome missing⟩
    | some before =>
        apply guarantees_rename kept
        · intro _
          exact kept
        · intro before stored
          refine ⟨?_, ?_, ?_, ?_⟩
          · simpa using temporary
          · simp
          · simp [← live, stored]
          · simp [← live, stored, observeMoves]
  apply guarantees_bind_except.mpr
  apply guarantees_bind_except.mpr
  apply guarantees_look kept
  · intro _
    exact kept
  cases found : files .previous with
  | none => exact cleared files live temporary found
  | some before =>
      apply guarantees_delete kept
      · intro _
        exact kept
      · apply cleared
        · simpa using live
        · simpa using temporary
        · simp

/-- Putting the old file back keeps what a cut leaves. -/
theorem moveBack_survives {old : Option Text} {text : Text}
    {world : (Slot → Option Text) × Bool} (kept : Survives old text world)
    (previous : world.1 .live = none → world.1 .previous = old) :
    Guarantees Observed (fun world _ => Survives old text world)
      (fun _ world => Survives old text world) moveBack world := by
  obtain ⟨files, aside⟩ := world
  apply guarantees_bind_except.mpr
  apply guarantees_look kept
  · intro _
    exact kept
  cases stored : files .previous with
  | none => exact kept
  | some before =>
      apply guarantees_bind_except.mpr
      apply guarantees_look kept
      · intro _
        exact kept
      cases found : files .live with
      | some current => exact kept
      | none =>
          apply guarantees_rename kept
          · intro _
            exact kept
          · intro before stored
            apply survives_old
            have same := (previous found).symm.trans stored
            simp [same]

theorem moveIn_survives {old : Option Text} {text : Text}
    {world : (Slot → Option Text) × Bool} (parted : Parted old text world) :
    Guarantees Observed (fun world _ => Survives old text world)
      (fun _ world => Survives old text world) moveIn world := by
  have kept := parted.survives
  -- A failure is raised again after the old file has been put back.
  have failing : ∀ {failure : ClientException}
      {world : (Slot → Option Text) × Bool}, Survives old text world →
      (world.1 .live = none → world.1 .previous = old) →
      Guarantees Observed (fun world _ => Survives old text world)
        (fun _ world => Survives old text world)
        (do moveBack; throw failure : RepositoryScript Text Unit) world := by
    intro failure world kept previous
    apply guarantees_bind_except.mpr
    apply (moveBack_survives kept previous).mono
    · exact id
    · intro result world survives
      cases result with
      | ok _ => exact survives
      | error _ => exact survives
  obtain ⟨files, aside⟩ := world
  apply guarantees_tryCatch.mpr
  apply guarantees_bind_except.mpr
  apply guarantees_rename kept
  · intro failure
    exact failing kept fun _ => parted.previous
  intro moved stored
  have same : moved = text := by
    have found := stored.symm.trans parted.temporary
    exact Option.some.inj found
  subst same
  have arrived : Survives old moved (Function.update
      (Function.update files .temporary none) .live (some moved), false) :=
    survives_new (by simp)
  apply guarantees_bind_except.mpr
  apply guarantees_look arrived
  · intro failure
    exact failing arrived (by simp)
  generalize (Function.update (Function.update files .temporary none)
    Slot.live (some moved) .previous).isSome = present
  cases present with
  | false => exact arrived
  | true =>
      apply guarantees_delete arrived
      · intro failure
        exact failing arrived (by simp)
      · exact survives_new (by simp)

theorem commit_survives (text : Text) (files : Slot → Option Text) :
    Guarantees Observed
      (fun world _ => Survives (files .live) text world)
      (fun _ world => Survives (files .live) text world)
      (commit text) (files, false) := by
  have kept : Survives (files .live) text (files, false) := survives_old rfl
  apply guarantees_bind_except.mpr
  apply guarantees_createParent kept
  intro reply
  cases reply with
  | error failure => exact kept
  | ok _ =>
      apply guarantees_bind_except.mpr
      apply guarantees_write kept
      · intro failure left
        exact survives_old (by simp)
      apply guarantees_bind_except.mpr
      have live : Function.update files .temporary (some text) Slot.live =
          files .live := by simp
      have temporary : Function.update files .temporary (some text)
          Slot.temporary = some text := by simp
      apply (moveAside_parts live temporary).mono
      · exact id
      · intro result world parted
        cases result with
        | error failure => exact parted
        | ok _ => exact moveIn_survives parted

/-- A commit that is cut off anywhere leaves the old text or the new one live,
unless it had moved the old one aside. -/
theorem survives_of_cut {text : Text} {files after : Slot → Option Text}
    {aside : Bool}
    (cut : Leads Observed (files, false) (commit text) (after, aside)) :
    Survives (files .live) text (after, aside) :=
  (commit_survives text files).of_leads id id cut

end Commit

/-! ## What a later load gives -/

section Load

variable {Text Value : Type} {missing : Value}
  {parse : Text → Except ClientException Value}

/-- Where no call fails, a load gives the value of the live file. -/
theorem run_loadLive (files : Slot → Option Text) :
    Script.run (FileCall.perform .fileSystem) (loadLive missing parse) files =
      (liveValue missing parse files, files) := by
  unfold liveValue
  refine (run_bind_ok rfl).trans ?_
  cases stored : files .live with
  | none => rfl
  | some text =>
      have reads : Script.run (FileCall.perform .fileSystem)
          (FileScript.read .live : RepositoryScript Text Text) files =
            (.ok text, files) := FileCall.perform_read stored
      exact run_bind_ok reads

theorem liveValue_after_cut {text : Text} {files after : Slot → Option Text}
    {aside : Bool}
    (cut : Leads Observed (files, false) (commit text) (after, aside)) :
    (liveValue missing parse after = liveValue missing parse files ∨
        liveValue missing parse after = parse text) ↔
      aside = false ∨ liveValue missing parse files = .ok missing ∨
        parse text = .ok missing := by
  have survives := survives_of_cut cut
  unfold Survives at survives
  cases aside with
  | true =>
      have gone : after .live = none := survives.1
      have nothing : liveValue missing parse after = .ok missing := by
        simp only [liveValue, gone]
      rw [nothing]
      simp [eq_comm]
  | false =>
      have value : liveValue missing parse after =
          liveValue missing parse files ∨
            liveValue missing parse after = parse text := by
        rcases survives with old | new
        · left
          simp only [liveValue] at old ⊢
          rw [old]
        · right
          simp only [liveValue] at new ⊢
          rw [new]
      simp [value]

end Load

/-- For both repositories and every cut of a commit, a later load gives the
old value or the new one exactly when the cut does not fall between moving the
old file aside and the next file moved in, or when the value of a repository
without a file is one of the two. -/
theorem commit_all_or_nothing_iff {Text Profile : Type}
    (codec : JsonCodec Text)
    (parseCanonical : Text → Except ClientException Profile)
    (files after : Slot → Option Text) (aside : Bool) :
    (∀ nodes, Leads Observed (files, false)
        (commit (EnrollmentRepository.indexText codec nodes))
        (after, aside) →
      let load := liveValue [] (EnrollmentRepository.parse codec)
      let new := EnrollmentRepository.parse codec
        (EnrollmentRepository.indexText codec nodes)
      (load after = load files ∨ load after = new ↔
        aside = false ∨ load files = .ok [] ∨ new = .ok [])) ∧
    ∀ canonical, Leads Observed (files, false) (commit canonical)
        (after, aside) →
      let load := liveValue none
        (ManagedProfileRepository.parse parseCanonical)
      let new := ManagedProfileRepository.parse parseCanonical canonical
      (load after = load files ∨ load after = new ↔ aside = false) := by
  constructor
  · intro nodes cut
    exact liveValue_after_cut cut
  · intro canonical cut
    dsimp only
    rw [liveValue_after_cut cut]
    have profiled : ∀ source, ManagedProfileRepository.parse parseCanonical
        source ≠ .ok none := by
      intro source
      unfold ManagedProfileRepository.parse
      cases parseCanonical source with
      | ok profile => simp [Except.map]
      | error failure => simp [Except.map]
    have survives := survives_of_cut cut
    constructor
    · rintro (held | held | held)
      · exact held
      · -- A repository that had no file had none to move aside.
        by_contra moved
        rw [Bool.not_eq_false] at moved
        subst moved
        obtain ⟨source, stored⟩ := Option.isSome_iff_exists.mp survives.2
        simp only [liveValue, stored] at held
        exact profiled _ held
      · exact absurd held (profiled _)
    · exact .inl

def sampleNode (nodeId : String) : InstalledEnrollmentNode where
  nodeId := nodeId
  nodeName := "node"
  relayAddress := "relay"
  serverName := "server"
  credentialRef := "secret://velum/enrollment/relay-0/0"
  trustMode := "system"
  certificateRef := none

/-- A repository whose live file holds one node. -/
def sampleFiles : Slot → Option Text
  | .live => some (EnrollmentRepository.indexText Json.texts [sampleNode "a"])
  | _ => none

def sampleText : Text :=
  EnrollmentRepository.indexText Json.texts [sampleNode "b"]

/-- The files after the new text has been written beside the old one. -/
def writtenFiles : Slot → Option Text :=
  Function.update sampleFiles .temporary (some sampleText)

/-- The files after the old text has been moved aside as well. -/
def partedFiles : Slot → Option Text :=
  Function.update (Function.update writtenFiles .live none) .previous
    (sampleFiles .live)

theorem created_sample : Observed (sampleFiles, false) .createParent (.ok ())
    (sampleFiles, false) := ⟨rfl, rfl⟩

theorem written_sample : Observed (sampleFiles, false)
    (.write .temporary sampleText) (.ok ()) (writtenFiles, false) :=
  ⟨.inr ⟨rfl, rfl⟩, rfl⟩

theorem parted_sample : Leads Observed (sampleFiles, false)
    (commit sampleText) (partedFiles, true) := by
  have free : Observed (writtenFiles, false) (.look .previous) (.ok false)
      (writtenFiles, false) := ⟨⟨rfl, .inr rfl⟩, rfl⟩
  have found : Observed (writtenFiles, false) (.look .live) (.ok true)
      (writtenFiles, false) := ⟨⟨rfl, .inr rfl⟩, rfl⟩
  have moved : Observed (writtenFiles, false) (.rename .live .previous)
      (.ok ()) (partedFiles, true) := ⟨.inr ⟨_, rfl, rfl, rfl⟩, rfl⟩
  exact .ask created_sample <| .ask written_sample <| .ask free <|
    .ask found <| .ask moved .stop

theorem commit_cut_before_moves :
    liveValue [] (EnrollmentRepository.parse Json.texts) writtenFiles =
        liveValue [] (EnrollmentRepository.parse Json.texts) sampleFiles ∨
      liveValue [] (EnrollmentRepository.parse Json.texts) writtenFiles =
        EnrollmentRepository.parse Json.texts sampleText := by
  have written : Leads Observed (sampleFiles, false) (commit sampleText)
      (writtenFiles, false) :=
    .ask created_sample (.ask written_sample .stop)
  exact ((commit_all_or_nothing_iff Json.texts
    (fun _ => .ok ()) sampleFiles writtenFiles false).1
      [sampleNode "b"] written).mpr (.inl rfl)

/-- A crash between the two moves makes the installed node disappear. -/
theorem commit_cut_between_moves :
    ¬∀ (files after : Slot → Option Text) (aside : Bool)
      (nodes : List InstalledEnrollmentNode),
      Leads Observed (files, false)
        (commit (EnrollmentRepository.indexText Json.texts nodes))
        (after, aside) →
      let load := liveValue [] (EnrollmentRepository.parse Json.texts)
      load after = load files ∨
        load after = EnrollmentRepository.parse Json.texts
          (EnrollmentRepository.indexText Json.texts nodes) := by
  intro atomic
  have old : EnrollmentRepository.parse Json.texts
      (EnrollmentRepository.indexText Json.texts [sampleNode "a"]) =
        .ok [sampleNode "a"] := by
    decide +kernel
  have new : EnrollmentRepository.parse Json.texts
      (EnrollmentRepository.indexText Json.texts [sampleNode "b"]) =
        .ok [sampleNode "b"] := by
    decide +kernel
  have kept := atomic sampleFiles partedFiles true [sampleNode "b"]
    parted_sample
  simp only [liveValue, partedFiles, sampleFiles, old, new] at kept
  simp [Function.update] at kept

end Velum.Client
