import Velum.Client.Repository
import Velum.Foundation.Interleaving

/-!
# Updates of the enrollment index

An update loads the index, changes it and commits it.  Here one update is
followed while something else is done to the files between its calls.  As long
as that leaves the live and the temporary file alone, the text it moves in is
that of the index it loaded with its own change.
-/

namespace Velum.Client

open Foundation
open Foundation.Script
open Foundation.FileScript
open EnrollmentRepository

variable {Text : Type}

/-! ## The updates -/

inductive IndexUpdate where
  | upsert (node : InstalledEnrollmentNode)
  | remove (nodeId : String)

namespace IndexUpdate

def nodeId : IndexUpdate → String
  | upsert node => node.nodeId
  | remove nodeId => nodeId

def script (codec : JsonCodec Text) :
    IndexUpdate → RepositoryScript Text Unit
  | upsert node => EnrollmentRepository.upsert codec node
  | remove nodeId => EnrollmentRepository.remove codec nodeId

/-- The nodes that an index has under the id of the update afterwards. -/
def shown : IndexUpdate → List InstalledEnrollmentNode
  | upsert node => [node]
  | remove _ => []

def result (update : IndexUpdate) (nodes : List InstalledEnrollmentNode) :
    List InstalledEnrollmentNode :=
  nodes.filter (fun node => node.nodeId ≠ update.nodeId) ++ update.shown

/-- The index shows the effect of the update. -/
def Effective (update : IndexUpdate)
    (nodes : List InstalledEnrollmentNode) : Prop :=
  nodes.filter (fun node => node.nodeId = update.nodeId) = update.shown

theorem nodeId_of_shown {update : IndexUpdate}
    {node : InstalledEnrollmentNode} (member : node ∈ update.shown) :
    node.nodeId = update.nodeId := by
  cases update with
  | upsert written =>
      rw [shown, List.mem_singleton] at member
      rw [member, nodeId]
  | remove nodeId => cases member

theorem effective_result (update : IndexUpdate)
    (nodes : List InstalledEnrollmentNode) :
    update.Effective (update.result nodes) := by
  have gone : (nodes.filter fun node => node.nodeId ≠ update.nodeId).filter
      (fun node => node.nodeId = update.nodeId) = [] := by
    simp [List.filter_filter]
  have kept : update.shown.filter
      (fun node => node.nodeId = update.nodeId) = update.shown := by
    apply List.filter_eq_self.mpr
    intro node member
    simpa using nodeId_of_shown member
  rw [Effective, result, List.filter_append, gone, kept, List.nil_append]

/-- An update changes nothing that is not under its id. -/
theorem filter_result {update : IndexUpdate}
    {apart : InstalledEnrollmentNode → Bool}
    (distinct : ∀ node, apart node = true → node.nodeId ≠ update.nodeId)
    (nodes : List InstalledEnrollmentNode) :
    (update.result nodes).filter apart = nodes.filter apart := by
  have kept : (nodes.filter fun node => node.nodeId ≠ update.nodeId).filter
      apart = nodes.filter apart := by
    rw [List.filter_filter]
    apply List.filter_congr
    intro node _
    cases held : apart node with
    | false => rfl
    | true => simpa using distinct node held
  have gone : update.shown.filter apart = [] := by
    apply List.filter_eq_nil_iff.mpr
    intro node member held
    exact distinct node held (nodeId_of_shown member)
  rw [result, List.filter_append, kept, gone, List.append_nil]

theorem Effective.of_result {update other : IndexUpdate}
    {nodes : List InstalledEnrollmentNode}
    (distinct : update.nodeId ≠ other.nodeId)
    (effective : update.Effective nodes) :
    update.Effective (other.result nodes) := by
  rw [Effective, filter_result]
  · exact effective
  · intro node same
    rw [of_decide_eq_true same]
    exact distinct

end IndexUpdate

/-- The nodes that the index holds: none without a file, and otherwise those
it was written for or those it loads as. -/
def Holds (codec : JsonCodec Text) (files : Slot → Option Text)
    (nodes : List InstalledEnrollmentNode) : Prop :=
  match files .live with
  | none => nodes = []
  | some text => text = indexText codec nodes ∨ parse codec text = .ok nodes

theorem Holds.congr {codec : JsonCodec Text} {files later : Slot → Option Text}
    {nodes : List InstalledEnrollmentNode} (holds : Holds codec files nodes)
    (same : later .live = files .live) : Holds codec later nodes := by
  rw [Holds, same]
  exact holds

theorem holds_of_indexText {codec : JsonCodec Text}
    {files : Slot → Option Text} {nodes : List InstalledEnrollmentNode}
    (written : files .live = some (indexText codec nodes)) :
    Holds codec files nodes := by
  rw [Holds, written]
  exact .inl rfl

theorem Holds.eq_of_none {codec : JsonCodec Text}
    {files : Slot → Option Text} {nodes : List InstalledEnrollmentNode}
    (holds : Holds codec files nodes) (missing : files .live = none) :
    nodes = [] := by
  rw [Holds, missing] at holds
  exact holds

theorem Holds.eq_of_parse {codec : JsonCodec Text}
    {files : Slot → Option Text} {nodes others : List InstalledEnrollmentNode}
    {text : Text} (holds : Holds codec files nodes)
    (stored : files .live = some text)
    (accepted : parse codec text = .ok others) : others = nodes := by
  rw [Holds, stored] at holds
  rcases holds with written | loaded
  · rw [written] at accepted
    exact parse_indexText accepted
  · rw [loaded] at accepted
    cases accepted
    rfl

/-! ## The progress of an update -/

inductive Progress where
  | underway
  | movedIn
  | failed
  deriving DecidableEq, Repr

/-- An update is through when its text has been moved in, and fails with the
first call that fails. -/
def observeProgress : (call : FileCall Slot Text) →
    call.Reply ClientException → Progress → Progress
  | .createParent, .ok _, progress => progress
  | .look _, .ok _, progress => progress
  | .read _, .ok _, progress => progress
  | .write _ _, .ok _, progress => progress
  | .delete _, .ok _, progress => progress
  | .rename .temporary .live, .ok _, .underway => .movedIn
  | .rename _ _, .ok _, progress => progress
  | _, _, _ => .failed

@[simp] theorem observeProgress_failed (call : FileCall Slot Text)
    (reply : call.Reply ClientException) :
    observeProgress call reply .failed = .failed := by
  unfold observeProgress
  split <;> simp_all

/-- While an update is under way, the other one may do anything to the
previous file, and later on anything at all. -/
def rely (world later : (Slot → Option Text) × Progress) : Prop :=
  later.2 = world.2 ∧ (world.2 = .underway →
    later.1 .live = world.1 .live ∧
      later.1 .temporary = world.1 .temporary)

theorem rely_refl (world : (Slot → Option Text) × Progress) :
    rely world world :=
  ⟨rfl, fun _ => ⟨rfl, rfl⟩⟩

theorem rely_trans {first second third : (Slot → Option Text) × Progress}
    (before : rely first second) (after : rely second third) :
    rely first third := by
  refine ⟨after.1.trans before.1, ?_⟩
  intro underway
  have earlier := before.2 underway
  have later := after.2 (before.1.trans underway)
  exact ⟨later.1.trans earlier.1, later.2.trans earlier.2⟩

/-- The environment of one update beside another one. -/
abbrev Interfered := interfered (@rely Text)
  (observing FileCall.Answers observeProgress)

section Proceeding

variable (codec : JsonCodec Text) (nodes : List InstalledEnrollmentNode)
  (update : IndexUpdate)

/-- What an update of `nodes` sees and does at each of its calls. -/
def Careful (world : (Slot → Option Text) × Progress)
    (call : FileCall Slot Text) : Prop :=
  match world.2 with
  | .underway =>
      (world.1 .live = none ∨ Holds codec world.1 nodes) ∧
        (call = .rename .temporary .live →
          world.1 .temporary =
            some (indexText codec (update.result nodes)))
  | .movedIn => call = .look .previous ∨ call = .delete .previous
  | .failed => True

/-- What an update of `nodes` ends in.  One that never moves anything in has
found nothing to change. -/
def Finished (result : Except ClientException Unit)
    (world : (Slot → Option Text) × Progress) : Prop :=
  match world.2 with
  | .underway => result = .ok () → Holds codec world.1 (update.result nodes)
  | .movedIn => True
  | .failed => result ≠ .ok ()

variable {codec nodes update}

theorem Careful.stable {world later : (Slot → Option Text) × Progress}
    {call : FileCall Slot Text} (relied : rely world later)
    (careful : Careful codec nodes update world call) :
    Careful codec nodes update later call := by
  unfold Careful at careful ⊢
  rw [relied.1]
  cases progress : world.2 with
  | underway =>
      rw [progress] at careful
      obtain ⟨live, temporary⟩ := relied.2 progress
      refine ⟨?_, ?_⟩
      · rcases careful.1 with missing | holds
        · exact .inl (live.trans missing)
        · exact .inr (holds.congr live)
      · intro moving
        exact temporary.trans (careful.2 moving)
  | movedIn =>
      rw [progress] at careful
      exact careful
  | failed => trivial

theorem Finished.stable {world later : (Slot → Option Text) × Progress}
    {result : Except ClientException Unit} (relied : rely world later)
    (finished : Finished codec nodes update result world) :
    Finished codec nodes update result later := by
  unfold Finished at finished ⊢
  rw [relied.1]
  cases progress : world.2 with
  | underway =>
      rw [progress] at finished
      intro ended
      exact (finished ended).congr (relied.2 progress).1
  | movedIn => trivial
  | failed =>
      rw [progress] at finished
      exact finished

/-- The rule for a call of an update that is under way. -/
theorem guarantees_underway {call : FileCall Slot Text}
    {files : Slot → Option Text}
    {post : call.Reply ClientException →
      (Slot → Option Text) × Progress → Prop}
    (seen : files .live = none ∨ Holds codec files nodes)
    (written : call = .rename .temporary .live →
      files .temporary = some (indexText codec (update.result nodes)))
    (each : ∀ later : Slot → Option Text, later .live = files .live →
      later .temporary = files .temporary →
      Guarantees (observing FileCall.Answers observeProgress)
        (fun _ _ => True) post (Script.call call) (later, .underway)) :
    Guarantees Interfered (Careful codec nodes update) post
      (Script.call call) (files, .underway) := by
  apply guarantees_call_interfered
  · exact ⟨seen, written⟩
  · rintro ⟨later, progress⟩ ⟨same, relied⟩
    cases same
    exact each later (relied rfl).1 (relied rfl).2

/-- The rule for a call of an update that has moved its text in. -/
theorem guarantees_movedIn {call : FileCall Slot Text}
    {files : Slot → Option Text}
    {post : call.Reply ClientException →
      (Slot → Option Text) × Progress → Prop}
    (allowed : call = .look .previous ∨ call = .delete .previous)
    (each : ∀ later : Slot → Option Text,
      Guarantees (observing FileCall.Answers observeProgress)
        (fun _ _ => True) post (Script.call call) (later, .movedIn)) :
    Guarantees Interfered (Careful codec nodes update) post
      (Script.call call) (files, .movedIn) := by
  apply guarantees_call_interfered
  · exact allowed
  · rintro ⟨later, progress⟩ ⟨same, _⟩
    cases same
    exact each later

/-- An update that has failed may do anything, and stays failed. -/
theorem guarantees_failed {Result : Type}
    {script : Script (FileCall Slot Text) (FileCall.Reply ClientException)
      Result}
    {post : Result → (Slot → Option Text) × Progress → Prop}
    (ends : ∀ result files, post result (files, .failed))
    (files : Slot → Option Text) :
    Guarantees Interfered (Careful codec nodes update) post script
      (files, .failed) := by
  induction script generalizing files with
  | done result => exact ends result files
  | ask call next induction =>
      refine ⟨trivial, ?_⟩
      rintro reply ⟨after, progress⟩ ⟨between, ⟨same, _⟩, _, observed⟩
      rw [same] at observed
      have failed : progress = .failed :=
        observed.trans (observeProgress_failed call reply)
      subst failed
      exact induction reply after

theorem moveIn_proceeds {files : Slot → Option Text}
    (live : files .live = none)
    (temporary : files .temporary =
      some (indexText codec (update.result nodes))) :
    Guarantees Interfered (Careful codec nodes update)
      (Finished codec nodes update) moveIn (files, .underway) := by
  -- A failure is raised again after the old file has been put back.
  have failing : ∀ (failure : ClientException) (files : Slot → Option Text),
      Guarantees Interfered (Careful codec nodes update)
        (Finished codec nodes update)
        (do moveBack; throw failure : RepositoryScript Text Unit)
        (files, .failed) := by
    intro failure files
    apply guarantees_bind_except.mpr
    apply guarantees_failed
    intro result files
    cases result with
    | ok _ =>
        intro impossible
        cases impossible
    | error _ =>
        intro impossible
        cases impossible
  apply guarantees_tryCatch.mpr
  apply guarantees_bind_except.mpr
  apply guarantees_underway (.inl live) (fun _ => temporary)
  intro later _ _
  apply guarantees_rename trivial
  · intro failure
    exact failing failure later
  intro text _
  apply guarantees_bind_except.mpr
  apply guarantees_movedIn (.inl rfl)
  intro later
  apply guarantees_look trivial
  · intro failure
    exact failing failure later
  generalize (later Slot.previous).isSome = present
  cases present with
  | false => trivial
  | true =>
      apply guarantees_movedIn (.inr rfl)
      intro later
      apply guarantees_delete trivial
      · intro failure
        exact failing failure later
      · trivial

/-- What the moves of an update leave it in: failed, or with nothing live and
its own text to be moved in. -/
def LeftAside (text : Text) (result : Except ClientException Unit)
    (world : (Slot → Option Text) × Progress) : Prop :=
  match result with
  | .ok _ => world.2 = .underway ∧ world.1 .live = none ∧
      world.1 .temporary = some text
  | .error _ => world.2 = .failed

theorem moveAside_leaves {files : Slot → Option Text}
    (holds : Holds codec files nodes)
    (temporary : files .temporary =
      some (indexText codec (update.result nodes))) :
    Guarantees Interfered (Careful codec nodes update)
      (LeftAside (indexText codec (update.result nodes))) moveAside
      (files, .underway) := by
  have cleared : ∀ files : Slot → Option Text, Holds codec files nodes →
      files .temporary = some (indexText codec (update.result nodes)) →
      Guarantees Interfered (Careful codec nodes update)
        (LeftAside (indexText codec (update.result nodes)))
        (renameExisting .live .previous) (files, .underway) := by
    intro files holds temporary
    apply guarantees_bind_except.mpr
    apply guarantees_underway (.inr holds)
    · intro moving
      cases moving
    intro seen sameLive sameTemporary
    apply guarantees_look trivial
    · intro failure
      rfl
    cases found : seen .live with
    | none => exact ⟨rfl, found, sameTemporary.trans temporary⟩
    | some before =>
        apply guarantees_underway (.inr (holds.congr sameLive))
        · intro moving
          cases moving
        intro later _ keptTemporary
        apply guarantees_rename trivial
        · intro failure
          rfl
        · intro text _
          refine ⟨rfl, ?_, ?_⟩
          · simp
          · simpa using (keptTemporary.trans sameTemporary).trans temporary
  apply guarantees_bind_except.mpr
  apply guarantees_bind_except.mpr
  apply guarantees_underway (.inr holds)
  · intro moving
    cases moving
  intro seen sameLive sameTemporary
  apply guarantees_look trivial
  · intro failure
    rfl
  cases found : seen .previous with
  | none =>
      exact cleared seen (holds.congr sameLive)
        (sameTemporary.trans temporary)
  | some before =>
      apply guarantees_underway (.inr (holds.congr sameLive))
      · intro moving
        cases moving
      intro later keptLive keptTemporary
      apply guarantees_delete trivial
      · intro failure
        rfl
      · apply cleared
        · apply holds.congr
          simpa using keptLive.trans sameLive
        · simpa using (keptTemporary.trans sameTemporary).trans temporary

theorem commit_proceeds {files : Slot → Option Text}
    (holds : Holds codec files nodes) :
    Guarantees Interfered (Careful codec nodes update)
      (Finished codec nodes update)
      (commit (indexText codec (update.result nodes)))
      (files, .underway) := by
  apply guarantees_bind_except.mpr
  apply guarantees_underway (.inr holds)
  · intro moving
    cases moving
  intro created createdLive _
  apply guarantees_createParent trivial
  intro reply
  cases reply with
  | error failure =>
      intro impossible
      cases impossible
  | ok _ =>
      apply guarantees_bind_except.mpr
      apply guarantees_underway (.inr (holds.congr createdLive))
      · intro moving
        cases moving
      intro seen sameLive _
      apply guarantees_write trivial
      · intro failure left impossible
        cases impossible
      apply guarantees_bind_except.mpr
      have written : Holds codec (Function.update seen .temporary
          (some (indexText codec (update.result nodes)))) nodes := by
        apply holds.congr
        simpa using sameLive.trans createdLive
      have stored : Function.update seen .temporary
          (some (indexText codec (update.result nodes))) Slot.temporary =
            some (indexText codec (update.result nodes)) := by
        simp
      apply (moveAside_leaves written stored).mono
      · exact id
      · intro result world aside
        obtain ⟨files, progress⟩ := world
        cases result with
        | error failure =>
            have failed : progress = .failed := aside
            subst failed
            intro impossible
            cases impossible
        | ok _ =>
            obtain ⟨same, live, temporary⟩ := aside
            cases same
            exact moveIn_proceeds live temporary

/-! ## From the snapshot on -/

namespace IndexUpdate

variable (codec update) in
/-- What an update does with the nodes it has loaded. -/
def finish (nodes : List InstalledEnrollmentNode) :
    RepositoryScript Text Unit :=
  match update with
  | upsert node => do
      let nodes := nodes.filter fun candidate => candidate.nodeId ≠ node.nodeId
      if nodes.length ≥ maxNodes then
        throw (.format "Installed enrollment node limit reached.")
      commit (indexText codec (nodes ++ [node]))
  | remove nodeId => do
      let kept := nodes.filter fun candidate => candidate.nodeId ≠ nodeId
      if kept.length = nodes.length then return ()
      commit (indexText codec kept)

variable (codec update) in
/-- An update that has found the live file and is about to read it. -/
def reading : RepositoryScript Text Unit := do
  let nodes ← (do
    let source ← read .live
    ExceptT.mk (pure (parse codec source)))
  update.finish codec nodes

theorem script_eq : update.script codec = (do
    let nodes ← load codec
    update.finish codec nodes) := by
  cases update with
  | upsert node => rfl
  | remove nodeId => rfl

/-- A remove that finds nothing under its id returns. -/
theorem finish_remove {nodeId : String}
    (absent : ∀ node ∈ nodes, node.nodeId ≠ nodeId) :
    (remove nodeId).finish codec nodes = .done (.ok ()) := by
  have kept : (nodes.filter fun candidate => candidate.nodeId ≠ nodeId) =
      nodes := by
    apply List.filter_eq_self.mpr
    intro node member
    simpa using absent node member
  simp only [finish, kept]
  rfl

theorem finish_proceeds {files : Slot → Option Text}
    (holds : Holds codec files nodes) :
    Guarantees Interfered (Careful codec nodes update)
      (Finished codec nodes update) (update.finish codec nodes)
      (files, .underway) := by
  cases update with
  | upsert node =>
      unfold finish
      dsimp only
      split
      · intro impossible
        cases impossible
      · exact commit_proceeds holds
  | remove nodeId =>
      have same : (remove nodeId).result nodes =
          nodes.filter fun candidate => candidate.nodeId ≠ nodeId :=
        List.append_nil _
      unfold finish
      dsimp only
      split
      · rename_i kept
        have whole := List.length_filter_eq_length_iff.mp kept
        have nothing : (remove nodeId).result nodes = nodes := by
          rw [same]
          exact List.filter_eq_self.mpr whole
        intro _
        rw [nothing]
        exact holds
      · rw [← same]
        exact commit_proceeds holds

theorem reading_proceeds {files : Slot → Option Text}
    (holds : Holds codec files nodes) :
    Guarantees Interfered (Careful codec nodes update)
      (Finished codec nodes update) (update.reading codec)
      (files, .underway) := by
  apply guarantees_bind_except.mpr
  apply guarantees_bind_except.mpr
  apply guarantees_underway (.inr holds)
  · intro moving
    cases moving
  intro seen sameLive _
  apply guarantees_read trivial
  · intro failure impossible
    cases impossible
  intro text stored
  have seenHolds := holds.congr sameLive
  change Guarantees Interfered (Careful codec nodes update) _
    (.done (parse codec text)) (seen, .underway)
  cases accepted : parse codec text with
  | error failure =>
      intro impossible
      cases impossible
  | ok others =>
      rw [seenHolds.eq_of_parse stored accepted]
      exact finish_proceeds seenHolds

theorem script_proceeds {files : Slot → Option Text}
    (holds : Holds codec files nodes) :
    Guarantees Interfered (Careful codec nodes update)
      (Finished codec nodes update) (update.script codec)
      (files, .underway) := by
  rw [script_eq]
  apply guarantees_bind_except.mpr
  apply guarantees_bind_except.mpr
  apply guarantees_underway (.inr holds)
  · intro moving
    cases moving
  intro seen sameLive _
  apply guarantees_look trivial
  · intro failure impossible
    cases impossible
  have seenHolds := holds.congr sameLive
  cases found : seen .live with
  | none =>
      cases seenHolds.eq_of_none found
      exact finish_proceeds seenHolds
  | some text =>
      have rest : Guarantees Interfered (Careful codec nodes update)
          (Finished codec nodes update) (update.reading codec)
          (seen, .underway) := reading_proceeds seenHolds
      exact guarantees_bind_except.mp rest

end IndexUpdate

end Proceeding

end Velum.Client
