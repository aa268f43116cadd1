import Velum.Client.Commit
import Velum.Client.Enrollment

/-!
# Installed enrollments

The references under which an enrollment is stored are made from the principal
id of its relay alone.  Two enrollments are installed beside each other exactly
when the relays that issued them had different largest ids.
-/

namespace Velum.Client

open Foundation
open Foundation.Script
open Velum.Node
open EnrollmentRepository

/-! ## Secure storage -/

inductive SecretCall where
  | read (key : String)
  | write (key value : String)
  | delete (key : String)

namespace SecretCall

def Reply : SecretCall → Type
  | .read _ => Except ClientException (Option String)
  | _ => Except ClientException Unit

/-- The answer of a storage without failures. -/
def perform (storage : String → Option String) :
    (call : SecretCall) → call.Reply × (String → Option String)
  | .read key => (.ok (storage key), storage)
  | .write key value => (.ok (), Function.update storage key (some value))
  | .delete key => (.ok (), Function.update storage key none)

end SecretCall

/-- A script over the secure storage and the files of the index. -/
abbrev InstallScript (Text Result : Type) :=
  ExceptT ClientException
    (Script (SecretCall ⊕ FileCall Slot Text)
      (Sum.elim SecretCall.Reply (FileCall.Reply ClientException))) Result

/-- The base64 text of a certificate. -/
structure CertificateCodec where
  encode : String → String
  decode : String → Option String
  decode_encode : ∀ certificate, decode (encode certificate) =
    some certificate

namespace ClientSecretStore

variable {Text : Type} (certificates : CertificateCodec)

def read (key : String) : InstallScript Text (Option String) :=
  ExceptT.mk (Script.call (Sum.inl (SecretCall.read key)))

def write (key value : String) : InstallScript Text Unit :=
  ExceptT.mk (Script.call (Sum.inl (SecretCall.write key value)))

def delete (key : String) : InstallScript Text Unit :=
  ExceptT.mk (Script.call (Sum.inl (SecretCall.delete key)))

def validateReference (value : String) : InstallScript Text Unit :=
  ExceptT.mk (pure (refuse (isSecretReference value = false)
    (.format "Invalid Velum secret reference.")))

def requireComplete (certificateReference certificate : Option String) :
    InstallScript Text Unit :=
  ExceptT.mk (pure (refuse (certificateReference.isNone ≠ certificate.isNone)
    (.format "Enrollment certificate is incomplete.")))

/-- Nothing is stored under the key. -/
def requireFree (key message : String) : InstallScript Text Unit := do
  let value ← read key
  ExceptT.mk (pure (refuse value.isSome (.state message)))

def writeCertificate : Option String → Option String →
    InstallScript Text Unit
  | some reference, some certificate =>
      write reference (certificates.encode certificate)
  | _, _ => pure ()

def installEnrollment (credentialReference : String)
    (credential : List UInt8) (certificateReference : Option String)
    (certificate : Option String) : InstallScript Text Unit := do
  validateReference credentialReference
  requireComplete certificateReference certificate
  certificateReference.forM validateReference
  requireFree credentialReference
    "This client enrollment is already installed."
  certificateReference.forM fun reference =>
    requireFree reference "This client enrollment CA is already installed."
  write credentialReference (Hex.encode credential)
  try
    writeCertificate certificates certificateReference certificate
  catch failure =>
    delete credentialReference
    throw failure

def removeEnrollment (credentialReference : String)
    (certificateReference : Option String) : InstallScript Text Unit := do
  validateReference credentialReference
  certificateReference.forM validateReference
  delete credentialReference
  certificateReference.forM delete

/-- The credential under a reference, when there is no file of an older
version to take it from. -/
def credential (reference : String) : InstallScript Text (List UInt8) := do
  validateReference reference
  let value ← read reference
  let text ← ExceptT.mk (pure (okOr value
    (.state "Credential is missing from secure storage.")))
  ExceptT.mk (pure (decodeStored text))

def certificate (reference : String) : InstallScript Text String := do
  validateReference reference
  let value ← read reference
  let text ← ExceptT.mk (pure (okOr value
    (.state "CA certificate is missing from secure storage.")))
  ExceptT.mk (pure (okOr (certificates.decode text)
    (.format "Invalid base64 data")))

end ClientSecretStore

section Install

variable {Text : Type} (codec : JsonCodec Text)
  (certificates : CertificateCodec)

/-- A script of file-system calls beside the secure storage. -/
def onFiles {Result : Type} (script : RepositoryScript Text Result) :
    InstallScript Text Result :=
  ExceptT.mk (Script.inRight script.run)

/-- What is stored is taken back when the index cannot be updated. -/
def installEnrollment (enrollment : ClientEnrollment) :
    InstallScript Text Unit := do
  ClientSecretStore.installEnrollment certificates enrollment.credentialRef
    enrollment.credential enrollment.certificateRef enrollment.certificatePem
  try
    onFiles (upsert codec enrollment.installedNode)
  catch failure =>
    ClientSecretStore.removeEnrollment enrollment.credentialRef
      enrollment.certificateRef
    throw failure

/-- The secure storage and the files of a client. -/
abbrev ClientState (Text : Type) :=
  (String → Option String) × (Slot → Option Text)

/-- A script without failing calls. -/
def runClient {Result : Type} (script : InstallScript Text Result)
    (client : ClientState Text) :
    Except ClientException Result × ClientState Text :=
  Script.run (beside SecretCall.perform (FileCall.perform .fileSystem)) script
    client

/-- The enrollment is in the index, and its references lead to what it
carried. -/
structure Usable (client : ClientState Text)
    (enrollment : ClientEnrollment) : Prop where
  listed : ∃ nodes, liveValue [] (parse codec) client.2 = .ok nodes ∧
    enrollment.installedNode ∈ nodes
  credential : runClient (ClientSecretStore.credential
    enrollment.credentialRef) client = (.ok enrollment.credential, client)
  certificate : ∀ reference pem,
    enrollment.certificateRef = some reference →
    enrollment.certificatePem = some pem →
    runClient (ClientSecretStore.certificate certificates reference) client =
      (.ok pem, client)

/-- A client with nothing under the references of an enrollment. -/
structure Free (storage : String → Option String)
    (enrollment : ClientEnrollment) : Prop where
  credential : storage enrollment.credentialRef = none
  certificate : ∀ reference, enrollment.certificateRef = some reference →
    storage reference = none

/-- A client that has neither enrollment and room for both. -/
structure Ready (client : ClientState Text)
    (base : List InstalledEnrollmentNode)
    (first second : ClientEnrollment) : Prop where
  loads : liveValue [] (parse codec) client.2 = .ok base
  count : base.length + 2 ≤ maxNodes
  firstFree : Free client.1 first
  secondFree : Free client.1 second
  firstShort : codec.length (indexText codec
    ((IndexUpdate.upsert first.installedNode).result base)) ≤ maxIndexLength
  secondShort : codec.length (indexText codec
    ((IndexUpdate.upsert second.installedNode).result
      ((IndexUpdate.upsert first.installedNode).result base))) ≤
        maxIndexLength

/-- The client tells the two enrollments apart, and can install both. -/
structure KeptApart (first second : ClientEnrollment) : Prop where
  nodeIds : first.nodeId ≠ second.nodeId
  references : first.credentialRef ≠ second.credentialRef
  installed : ∀ client base, Ready codec client base first second →
    ∃ after,
      runClient (do
        installEnrollment codec certificates first
        installEnrollment codec certificates second) client =
          (.ok (), after) ∧
      Usable codec certificates after first ∧
      Usable codec certificates after second

/-! ## One installation -/

variable {codec certificates}

theorem append_reference (first middle last : String) :
    first ++ middle ++ "/" ++ last = first ++ (middle ++ "/" ++ last) := by
  rw [String.append_assoc, String.append_assoc, String.append_assoc]

theorem credentialRef_eq (enrollment : ClientEnrollment) :
    enrollment.credentialRef = "secret://velum/enrollment/" ++
      (enrollment.nodeId ++ "/" ++ enrollment.principalId.repr) :=
  append_reference _ _ _

theorem isSecretReference_append (rest : String) :
    isSecretReference ("secret://velum/enrollment/" ++ rest) = true := by
  have root : "secret://velum/".toList <+:
      "secret://velum/enrollment/".toList := ⟨"enrollment/".toList, by decide⟩
  apply List.isPrefixOf_iff_prefix.mpr
  rw [String.toList_append]
  exact root.trans (List.prefix_append _ _)

theorem isSecretReference_credentialRef (enrollment : ClientEnrollment) :
    isSecretReference enrollment.credentialRef = true := by
  rw [credentialRef_eq]
  exact isSecretReference_append _

theorem isSecretReference_certificateRef {enrollment : ClientEnrollment}
    {reference : String}
    (found : enrollment.certificateRef = some reference) :
    isSecretReference reference = true := by
  unfold ClientEnrollment.certificateRef at found
  obtain ⟨pem, _, rfl⟩ := Option.map_eq_some_iff.mp found
  rw [credentialRef_eq, String.append_assoc]
  exact isSecretReference_append _

theorem run_validateReference {value : String}
    (valid : isSecretReference value = true) (client : ClientState Text) :
    runClient (ClientSecretStore.validateReference value) client =
      (.ok (), client) := by
  change (refuse (isSecretReference value = false) _, client) = _
  rw [refuse, if_neg (by simp [valid])]

theorem run_requireFree {key message : String} {client : ClientState Text}
    (free : client.1 key = none) :
    runClient (ClientSecretStore.requireFree key message) client =
      (.ok (), client) := by
  change (refuse ((client.1 key).isSome = true) _, client) = _
  rw [refuse, if_neg (by simp [free])]

/-- The storage with the secrets of an enrollment. -/
def storedSecrets (certificates : CertificateCodec)
    (storage : String → Option String) (enrollment : ClientEnrollment) :
    String → Option String :=
  let withCredential := Function.update storage enrollment.credentialRef
    (some (Hex.encode enrollment.credential))
  match enrollment.certificatePem with
  | none => withCredential
  | some pem => Function.update withCredential
      (enrollment.credentialRef ++ "/ca") (some (certificates.encode pem))

theorem run_installSecrets {enrollment : ClientEnrollment}
    {client : ClientState Text} (free : Free client.1 enrollment) :
    runClient (ClientSecretStore.installEnrollment certificates
        enrollment.credentialRef enrollment.credential
        enrollment.certificateRef enrollment.certificatePem) client =
      (.ok (), (storedSecrets certificates client.1 enrollment,
        client.2)) := by
  have reference := isSecretReference_credentialRef enrollment
  cases certificate : enrollment.certificatePem with
  | none =>
      have none_ : enrollment.certificateRef = none := by
        rw [ClientEnrollment.certificateRef, certificate]
        rfl
      rw [none_, storedSecrets, certificate]
      refine (run_bind_ok (run_validateReference reference _)).trans ?_
      refine (run_bind_ok rfl).trans ?_
      refine (run_bind_ok rfl).trans ?_
      refine (run_bind_ok (run_requireFree free.credential)).trans ?_
      refine (run_bind_ok rfl).trans ?_
      refine (run_bind_ok rfl).trans ?_
      rfl
  | some pem =>
      have some_ : enrollment.certificateRef =
          some (enrollment.credentialRef ++ "/ca") := by
        rw [ClientEnrollment.certificateRef, certificate]
        rfl
      have other := isSecretReference_certificateRef some_
      have otherFree := free.certificate _ some_
      rw [some_, storedSecrets, certificate]
      refine (run_bind_ok (run_validateReference reference _)).trans ?_
      refine (run_bind_ok rfl).trans ?_
      refine (run_bind_ok (run_validateReference other _)).trans ?_
      refine (run_bind_ok (run_requireFree free.credential)).trans ?_
      refine (run_bind_ok (run_requireFree otherFree)).trans ?_
      refine (run_bind_ok rfl).trans ?_
      rfl

theorem run_commit (text : Text) (files : Slot → Option Text) :
    ∃ after, Script.run (FileCall.perform .fileSystem) (commit text) files =
        (.ok (), after) ∧ after .live = some text := by
  let written := Function.update files .temporary (some text)
  obtain ⟨cleared, clears, clearedKeeps⟩ :=
    FileScript.run_deleteExisting ClientException.fileSystem written .previous
  obtain ⟨parted, parts, _, partedKeeps⟩ :=
    FileScript.run_renameExisting ClientException.fileSystem cleared
      (show Slot.live ≠ Slot.previous by decide)
  have temporary : parted .temporary = some text := by
    rw [partedKeeps .temporary (by decide) (by decide),
      clearedKeeps .temporary (by decide)]
    exact Function.update_self _ _ _
  let moved := Function.update (Function.update parted .temporary none) .live
    (some text)
  have moves : Script.run (FileCall.perform .fileSystem)
      (FileScript.rename .temporary .live : RepositoryScript Text Unit)
      parted = (.ok (), moved) := FileCall.perform_rename temporary
  obtain ⟨after, ends, keeps⟩ :=
    FileScript.run_deleteExisting ClientException.fileSystem moved .previous
  refine ⟨after, ?_, ?_⟩
  · refine (run_bind_ok rfl).trans ?_
    refine (run_bind_ok rfl).trans ?_
    refine (run_bind_ok ((run_bind_ok clears).trans parts)).trans ?_
    apply run_tryCatch_ok
    exact (run_bind_ok moves).trans ends
  · rw [keeps .live (by decide)]
    exact Function.update_self _ _ _

theorem run_load (codec : JsonCodec Text) (files : Slot → Option Text) :
    Script.run (FileCall.perform .fileSystem) (load codec) files =
      (liveValue [] (parse codec) files, files) :=
  run_loadLive files

theorem run_upsert {node : InstalledEnrollmentNode}
    {base : List InstalledEnrollmentNode} {files : Slot → Option Text}
    (loads : liveValue [] (parse codec) files = .ok base)
    (room : base.length < maxNodes) :
    ∃ after, Script.run (FileCall.perform .fileSystem) (upsert codec node)
        files = (.ok (), after) ∧
      after .live = some (indexText codec
        ((IndexUpdate.upsert node).result base)) := by
  have loaded := run_load codec files
  rw [loads] at loaded
  have below : ¬(base.filter fun candidate =>
      candidate.nodeId ≠ node.nodeId).length ≥ maxNodes := by
    have shorter := List.length_filter_le
      (fun candidate : InstalledEnrollmentNode =>
        decide (candidate.nodeId ≠ node.nodeId)) base
    omega
  obtain ⟨after, ends, live⟩ := run_commit (indexText codec
    ((IndexUpdate.upsert node).result base)) files
  refine ⟨after, ?_, live⟩
  refine (run_bind_ok loaded).trans ?_
  dsimp only
  rw [if_neg below]
  exact ends

variable (certificates) in
/-- An installation stores the secrets and moves the new index in. -/
theorem run_installEnrollment {enrollment : ClientEnrollment}
    {base : List InstalledEnrollmentNode} (client : ClientState Text)
    (free : Free client.1 enrollment)
    (loads : liveValue [] (parse codec) client.2 = .ok base)
    (room : base.length < maxNodes) :
    ∃ files, runClient (installEnrollment codec certificates enrollment)
        client = (.ok (), (storedSecrets certificates client.1 enrollment,
          files)) ∧
      files .live = some (indexText codec
        ((IndexUpdate.upsert enrollment.installedNode).result base)) := by
  obtain ⟨files, ends, live⟩ := run_upsert loads room
  refine ⟨files, ?_, live⟩
  refine (run_bind_ok (run_installSecrets free)).trans ?_
  apply run_tryCatch_ok
  refine (run_inRight _ _ _).trans ?_
  have split : Script.run (FileCall.perform .fileSystem)
      (ExceptT.run (upsert codec enrollment.installedNode)) client.2 =
        (.ok (), files) := ends
  rw [split]

/-! ## The references of two enrollments -/

/-- A key that an enrollment is stored under. -/
def RefersTo (enrollment : ClientEnrollment) (key : String) : Prop :=
  key = enrollment.credentialRef ∨ enrollment.certificateRef = some key

theorem repr_inj {first second : Nat} (same : first.repr = second.repr) :
    first = second := by
  have digits : Nat.toDigits 10 first = Nat.toDigits 10 second := by
    rw [← Nat.toList_repr, ← Nat.toList_repr, same]
  rw [← @Nat.ofDigitChars_ten_toDigits first, digits,
    Nat.ofDigitChars_ten_toDigits]

theorem takeWhile_digits (number : Nat) (rest : List Char) :
    (Nat.toDigits 10 number ++ '/' :: rest).takeWhile (· ≠ '/') =
      Nat.toDigits 10 number := by
  have plain : ∀ digit ∈ Nat.toDigits 10 number,
      decide (digit ≠ '/') = true := by
    intro digit member
    have isDigit := Nat.isDigit_of_mem_toDigits (by decide) (by decide) member
    apply decide_eq_true
    rintro rfl
    cases isDigit
  rw [List.takeWhile_append_of_pos plain, List.takeWhile_cons_of_neg (by simp),
    List.append_nil]

/-- The principal id can be read off every reference. -/
theorem reference_inj {first second : Nat} {rest other : String}
    (same : "secret://velum/enrollment/" ++
        ("relay-" ++ first.repr ++ "/" ++ rest) =
      "secret://velum/enrollment/" ++
        ("relay-" ++ second.repr ++ "/" ++ other)) : first = second := by
  have lists := congrArg String.toList same
  simp only [String.toList_append] at lists
  have parts := List.append_cancel_left lists
  simp only [List.append_assoc, Nat.toList_repr] at parts
  have digits := List.append_cancel_left parts
  have firsts := congrArg (List.takeWhile (· ≠ '/')) digits
  have numbers : Nat.toDigits 10 first = Nat.toDigits 10 second := by
    rw [← takeWhile_digits first rest.toList,
      ← takeWhile_digits second other.toList]
    exact firsts
  rw [← @Nat.ofDigitChars_ten_toDigits first, numbers,
    Nat.ofDigitChars_ten_toDigits]

/-- Every reference of an issued enrollment starts with its principal id. -/
theorem exists_rest_of_refersTo {enrollment : ClientEnrollment} {key : String}
    (named : enrollment.nodeId = "relay-" ++ enrollment.principalId.repr)
    (refers : RefersTo enrollment key) :
    ∃ rest, key = "secret://velum/enrollment/" ++
      ("relay-" ++ enrollment.principalId.repr ++ "/" ++ rest) := by
  have plain := credentialRef_eq enrollment
  rw [named] at plain
  rcases refers with rfl | certificate
  · exact ⟨enrollment.principalId.repr, plain⟩
  · unfold ClientEnrollment.certificateRef at certificate
    obtain ⟨pem, _, rfl⟩ := Option.map_eq_some_iff.mp certificate
    refine ⟨enrollment.principalId.repr ++ "/ca", ?_⟩
    rw [plain, String.append_assoc, String.append_assoc]

theorem not_refersTo_of_ne {first second : ClientEnrollment} {key : String}
    (firstNamed : first.nodeId = "relay-" ++ first.principalId.repr)
    (secondNamed : second.nodeId = "relay-" ++ second.principalId.repr)
    (different : first.principalId ≠ second.principalId)
    (refers : RefersTo first key) : ¬RefersTo second key := by
  intro also
  obtain ⟨rest, shape⟩ := exists_rest_of_refersTo firstNamed refers
  obtain ⟨other, shape'⟩ := exists_rest_of_refersTo secondNamed also
  exact different (reference_inj (shape.symm.trans shape'))

theorem credentialRef_ne_certificate (enrollment : ClientEnrollment) :
    enrollment.credentialRef ≠ enrollment.credentialRef ++ "/ca" := by
  intro same
  have lengths := congrArg (fun text => text.toList.length) same
  simp at lengths

/-! ## Two installations -/

theorem storedSecrets_other {storage : String → Option String}
    {enrollment : ClientEnrollment} {key : String}
    (other : ¬RefersTo enrollment key) :
    storedSecrets certificates storage enrollment key = storage key := by
  rw [RefersTo, not_or] at other
  unfold storedSecrets
  cases certificate : enrollment.certificatePem with
  | none => exact Function.update_of_ne other.1 _ _
  | some pem =>
      have apart : key ≠ enrollment.credentialRef ++ "/ca" := by
        rintro rfl
        apply other.2
        rw [ClientEnrollment.certificateRef, certificate]
        rfl
      dsimp only
      rw [Function.update_of_ne apart, Function.update_of_ne other.1]

theorem storedSecrets_credential (storage : String → Option String)
    (enrollment : ClientEnrollment) :
    storedSecrets certificates storage enrollment enrollment.credentialRef =
      some (Hex.encode enrollment.credential) := by
  unfold storedSecrets
  cases enrollment.certificatePem with
  | none => exact Function.update_self _ _ _
  | some pem =>
      dsimp only
      rw [Function.update_of_ne (credentialRef_ne_certificate enrollment),
        Function.update_self]

theorem storedSecrets_certificate {storage : String → Option String}
    {enrollment : ClientEnrollment} {reference pem : String}
    (found : enrollment.certificateRef = some reference)
    (certificate : enrollment.certificatePem = some pem) :
    storedSecrets certificates storage enrollment reference =
      some (certificates.encode pem) := by
  rw [ClientEnrollment.certificateRef, certificate] at found
  cases found
  unfold storedSecrets
  rw [certificate]
  exact Function.update_self _ _ _

theorem proper_upsert {nodes : List InstalledEnrollmentNode}
    {node : InstalledEnrollmentNode} (proper : Proper nodes)
    (valid : node.Valid) (room : nodes.length < maxNodes) :
    Proper ((IndexUpdate.upsert node).result nodes) := by
  have shorter := List.length_filter_le
    (fun other : InstalledEnrollmentNode =>
      decide (other.nodeId ≠ node.nodeId)) nodes
  refine ⟨?_, ?_, ?_⟩
  · change (nodes.filter _ ++ [node]).length ≤ maxNodes
    rw [List.length_append, List.length_singleton]
    exact (Nat.add_le_add_right shorter 1).trans room
  · change ((nodes.filter _ ++ [node]).map (·.nodeId)).Nodup
    rw [List.map_append, List.nodup_append]
    refine ⟨?_, List.nodup_singleton _, ?_⟩
    · exact proper.distinct.sublist (List.filter_sublist.map _)
    · intro id old other new
      obtain ⟨listed, member, rfl⟩ := List.mem_map.mp old
      rw [List.map_singleton, List.mem_singleton] at new
      rw [new]
      exact of_decide_eq_true (List.mem_filter.mp member).2
  · intro other member
    rcases List.mem_append.mp member with old | new
    · exact proper.valid other (List.mem_filter.mp old).1
    · rw [IndexUpdate.shown, List.mem_singleton] at new
      rw [new]
      exact valid

theorem usable_of_stored {enrollment : ClientEnrollment}
    {client : ClientState Text} {nodes : List InstalledEnrollmentNode}
    (loads : liveValue [] (parse codec) client.2 = .ok nodes)
    (member : enrollment.installedNode ∈ nodes)
    (present : enrollment.credential ≠ [])
    (credential : client.1 enrollment.credentialRef =
      some (Hex.encode enrollment.credential))
    (certificate : ∀ reference pem,
      enrollment.certificateRef = some reference →
      enrollment.certificatePem = some pem →
      client.1 reference = some (certificates.encode pem)) :
    Usable codec certificates client enrollment := by
  refine ⟨⟨nodes, loads, member⟩, ?_, ?_⟩
  · have valid := isSecretReference_credentialRef enrollment
    refine (run_bind_ok (run_validateReference valid _)).trans ?_
    refine (run_bind_ok rfl).trans ?_
    rw [credential]
    refine (run_bind_ok rfl).trans ?_
    change (decodeStored (Hex.encode enrollment.credential), client) = _
    rw [decodeStored_encode present]
  · intro reference pem found carried
    have valid := isSecretReference_certificateRef found
    refine (run_bind_ok (run_validateReference valid _)).trans ?_
    refine (run_bind_ok rfl).trans ?_
    rw [certificate reference pem found carried]
    refine (run_bind_ok rfl).trans ?_
    change (okOr (certificates.decode (certificates.encode pem)) _, client) =
      _
    rw [certificates.decode_encode]
    rfl

/-- What an enrollment needs to be installed. -/
structure Installable (enrollment : ClientEnrollment) : Prop where
  named : enrollment.nodeId = "relay-" ++ enrollment.principalId.repr
  valid : enrollment.installedNode.Valid
  present : enrollment.credential ≠ []

theorem keptApart_of_ne {first second : ClientEnrollment}
    (firstFit : Installable first) (secondFit : Installable second)
    (different : first.principalId ≠ second.principalId) :
    KeptApart codec certificates first second := by
  have nodeIds : first.nodeId ≠ second.nodeId := by
    rw [firstFit.named, secondFit.named]
    intro same
    exact different (repr_inj ((String.append_right_inj _).mp same))
  have foreign {key : String} (refers : RefersTo first key) :
      ¬RefersTo second key :=
    not_refersTo_of_ne firstFit.named secondFit.named different refers
  refine ⟨nodeIds, ?_, ?_⟩
  · intro same
    exact foreign (.inl rfl) (.inl same)
  intro client base ready
  have room : base.length < maxNodes := by
    have count := ready.count
    omega
  obtain ⟨firstFiles, firstRun, firstLive⟩ := run_installEnrollment
    certificates client ready.firstFree ready.loads room
  have firstProper := proper_upsert (proper_of_liveValue ready.loads)
    firstFit.valid room
  have firstLoads : liveValue [] (parse codec) firstFiles = .ok
      ((IndexUpdate.upsert first.installedNode).result base) := by
    rw [liveValue, firstLive]
    exact firstProper.parse_indexText ready.firstShort
  -- The second installation finds the index of the first and its own keys
  -- free.
  have secondRoom : ((IndexUpdate.upsert first.installedNode).result
      base).length < maxNodes := by
    have count := ready.count
    have shorter := List.length_filter_le
      (fun other : InstalledEnrollmentNode =>
        decide (other.nodeId ≠ first.installedNode.nodeId)) base
    change (base.filter _ ++ [first.installedNode]).length < maxNodes
    rw [List.length_append, List.length_singleton]
    exact (Nat.add_le_add_right shorter 1).trans_lt (by omega)
  have secondFree : Free (storedSecrets certificates client.1 first)
      second := by
    refine ⟨?_, ?_⟩
    · rw [storedSecrets_other fun refers => foreign refers (.inl rfl)]
      exact ready.secondFree.credential
    · intro reference found
      rw [storedSecrets_other fun refers => foreign refers (.inr found)]
      exact ready.secondFree.certificate reference found
  obtain ⟨secondFiles, secondRun, secondLive⟩ := run_installEnrollment
    certificates (storedSecrets certificates client.1 first, firstFiles)
    secondFree firstLoads secondRoom
  have secondProper := proper_upsert firstProper secondFit.valid secondRoom
  have secondLoads : liveValue [] (parse codec) secondFiles = .ok
      ((IndexUpdate.upsert second.installedNode).result
        ((IndexUpdate.upsert first.installedNode).result base)) := by
    rw [liveValue, secondLive]
    exact secondProper.parse_indexText ready.secondShort
  refine ⟨_, (run_bind_ok firstRun).trans secondRun, ?_, ?_⟩
  · apply usable_of_stored secondLoads ?_ firstFit.present
    · dsimp only
      rw [storedSecrets_other (foreign (.inl rfl)), storedSecrets_credential]
    · intro reference pem found carried
      dsimp only
      rw [storedSecrets_other (foreign (.inr found)),
        storedSecrets_certificate found carried]
    · apply List.mem_append_left
      apply List.mem_filter.mpr
      refine ⟨List.mem_append_right _ List.mem_cons_self, ?_⟩
      exact decide_eq_true nodeIds
  · apply usable_of_stored secondLoads ?_ secondFit.present
    · exact storedSecrets_credential _ _
    · intro reference pem found carried
      exact storedSecrets_certificate found carried
    · exact List.mem_append_right _ List.mem_cons_self

/-! ## Issued enrollments -/

theorem wellFormed_installedNode {Source : Type} (issued : Issued Source) :
    (enrollmentOf issued).installedNode.wellFormed = true := by
  have credential := isSecretReference_credentialRef (enrollmentOf issued)
  unfold InstalledEnrollmentNode.wellFormed
  cases certificate : (enrollmentOf issued).certificateRef with
  | none =>
      have system : (enrollmentOf issued).trustMode = "system" := by
        unfold ClientEnrollment.certificateRef enrollmentOf at certificate
        unfold enrollmentOf
        cases trust : issued.bundle.trust with
        | system => rfl
        | customCa pem =>
            rw [trust] at certificate
            cases certificate
      simp [ClientEnrollment.installedNode, credential, certificate, system]
  | some reference =>
      have custom : (enrollmentOf issued).trustMode = "custom-ca" := by
        unfold ClientEnrollment.certificateRef enrollmentOf at certificate
        unfold enrollmentOf
        cases trust : issued.bundle.trust with
        | system =>
            rw [trust] at certificate
            cases certificate
        | customCa pem => rfl
      have other := isSecretReference_certificateRef certificate
      simp [ClientEnrollment.installedNode, credential, certificate, custom,
        other]

theorem installable_enrollmentOf {texts : EnrollmentCodec Text}
    {acceptsServerName : String → Bool} {options : IssueOptions}
    {original : List CredentialConfig} {issued : Issued Text}
    (issuedBy : IssuedBy texts acceptsServerName options original issued) :
    Installable (enrollmentOf issued) := by
  obtain ⟨_, _, _, id, blank, _⟩ := validateAndNormalize_eq_ok issuedBy.valid
  have name : issued.bundle.node.name ≠ "" := by
    intro empty
    rw [empty] at blank
    cases blank
  have reference : (enrollmentOf issued).credentialRef ≠ "" := by
    intro empty
    have valid := isSecretReference_credentialRef (enrollmentOf issued)
    rw [empty] at valid
    cases valid
  have mode : (enrollmentOf issued).trustMode ≠ "" := by
    change trustModeOf issued.bundle.trust ≠ ""
    cases issued.bundle.trust with
    | system => simp [trustModeOf]
    | customCa pem => simp [trustModeOf]
  refine ⟨issuedBy.nodeId, ?_, ?_⟩
  · refine ⟨id, name, issued.bundle.node.relayAddress.text_ne_empty,
      ?_, reference,
      mode, wellFormed_installedNode issued⟩
    change issued.bundle.node.serverName ≠ ""
    rw [← issuedBy.named]
    exact name
  · intro empty
    have length := issuedBy.secretLength
    have same : issued.secret = [] := empty
    rw [same] at length
    cases length

end Install

/-- For every two enrollments that issue runs have delivered, from whatever
configurations they found, the client derives different node ids and
references and can install both beside each other exactly when the largest
configured ids were different and neither text is too long to be taken. -/
theorem issued_enrollments_apart_iff {Text : Type}
    (texts : EnrollmentCodec Text) (certificates : CertificateCodec)
    (acceptsServerName : String → Bool) {firstHost secondHost : RelayHost Text}
    {firstOptions secondOptions : IssueOptions}
    {firstConfig secondConfig : List CredentialConfig}
    {first second : Issued Text}
    (firstIssued : (issue texts acceptsServerName firstHost firstOptions
      firstConfig).1 = .ok first)
    (secondIssued : (issue texts acceptsServerName secondHost secondOptions
      secondConfig).1 = .ok second) :
    (∃ firstEnrollment secondEnrollment,
      importEnrollment texts acceptsServerName first.delivered =
        .ok firstEnrollment ∧
      importEnrollment texts acceptsServerName second.delivered =
        .ok secondEnrollment ∧
      KeptApart texts.toJsonCodec certificates firstEnrollment
        secondEnrollment) ↔
    largestId firstConfig ≠ largestId secondConfig ∧
      texts.bytes first.delivered ≤ maxEnrollmentBytes ∧
      texts.bytes second.delivered ≤ maxEnrollmentBytes := by
  have firstBy := issuedBy_of_issue firstIssued
  have secondBy := issuedBy_of_issue secondIssued
  constructor
  · rintro ⟨firstEnrollment, secondEnrollment, firstTaken, secondTaken, apart⟩
    have firstFits := fits_of_importEnrollment firstTaken
    have secondFits := fits_of_importEnrollment secondTaken
    refine ⟨?_, firstFits, secondFits⟩
    intro same
    rw [importEnrollment_issued firstBy firstFits] at firstTaken
    rw [importEnrollment_issued secondBy secondFits] at secondTaken
    cases firstTaken
    cases secondTaken
    apply apart.nodeIds
    change first.bundle.node.id = second.bundle.node.id
    rw [firstBy.nodeId, secondBy.nodeId, firstBy.principal,
      secondBy.principal, same]
  · rintro ⟨different, firstFits, secondFits⟩
    refine ⟨_, _, importEnrollment_issued firstBy firstFits,
      importEnrollment_issued secondBy secondFits, ?_⟩
    apply keptApart_of_ne (installable_enrollmentOf firstBy)
      (installable_enrollmentOf secondBy)
    intro same
    have principals : first.bundle.principalId.toNat =
        second.bundle.principalId.toNat := same
    rw [firstBy.principal, secondBy.principal] at principals
    exact different (UInt64.toNat_inj.mp (Nat.add_right_cancel principals))

/-! ## A credential issued after a revoke -/

def sampleHost (secret : UInt8) : RelayHost Foundation.Text where
  configParent := some "/etc/velum"
  readSecret := fun _ => .ok (List.replicate 32 0)
  readCertificate := .error "cannot read certificate"
  newSecret := .ok ⟨List.replicate 32 secret, List.length_replicate⟩
  prepareQr := fun _ => .ok ()
  writeSecret := fun _ => .ok ()
  removeSecret := fun _ => .ok ()
  writeConfig := fun credentials =>
    refuse (∃ credential ∈ credentials, 2 ^ 63 ≤ credential.id.toNat)
      "cannot encode configuration: out-of-range value for u64 type"
  deliver := fun _ => .ok ()
  ids_of_writeConfig := by
    intro credentials written credential member
    by_contra large
    exact refuse_eq_ok written ⟨credential, member, Nat.not_lt.mp large⟩

def sampleOptions (clientName : String) : IssueOptions where
  clientName := clientName
  relayAddress := ⟨"203.0.113.10:4433", by decide +kernel⟩
  serverName := "relay.example"
  customCa := false
  delivery := .file

def sampleConfig : List CredentialConfig :=
  [{ id := 1, name := none, secretFile := "/etc/velum/credential.hex" }]

def sampleIssued (principalId : UInt64) (secret : UInt8) :
    Issued Foundation.Text :=
  let bundle : EnrollmentBundle := {
    kind := enrollmentKind
    version := enrollmentVersion
    node := {
      id := "relay-" ++ principalId.toNat.repr
      name := "relay.example"
      relayAddress := ⟨"203.0.113.10:4433", by decide +kernel⟩
      serverName := "relay.example" }
    principalId
    credential := Hex.encode (List.replicate 32 secret)
    trust := .system }
  ⟨bundle, List.replicate 32 secret,
    EnrollmentBundle.texts.withNewline (Json.texts.encode bundle.toJson)⟩

/-- The configuration after a first issue. -/
def issuedConfig : List CredentialConfig :=
  (issue EnrollmentBundle.texts (fun _ => true) (sampleHost 1)
    (sampleOptions "phone") sampleConfig).2

/-- The configuration after the credential was revoked again. -/
def revokedConfig : List CredentialConfig :=
  (revoke (sampleHost 1) (.name "phone") issuedConfig).2

theorem issue_phone : (issue EnrollmentBundle.texts (fun _ => true)
    (sampleHost 1) (sampleOptions "phone") sampleConfig).1 =
      .ok (sampleIssued 2 1) := by
  rfl

theorem issue_tablet : (issue EnrollmentBundle.texts (fun _ => true)
    (sampleHost 2) (sampleOptions "tablet") issuedConfig).1 =
      .ok (sampleIssued 3 2) := by
  rfl

theorem issue_tablet_revoked : (issue EnrollmentBundle.texts (fun _ => true)
    (sampleHost 2) (sampleOptions "tablet") revokedConfig).1 =
      .ok (sampleIssued 2 2) := by
  rfl

def plainCertificates : CertificateCodec where
  encode := id
  decode := some
  decode_encode := by
    intro certificate
    rfl

theorem issued_in_turn_apart : ∃ first second,
    importEnrollment EnrollmentBundle.texts (fun _ => true)
        (sampleIssued 2 1).delivered = .ok first ∧
      importEnrollment EnrollmentBundle.texts (fun _ => true)
        (sampleIssued 3 2).delivered = .ok second ∧
      KeptApart Json.texts plainCertificates first second := by
  have different : largestId sampleConfig ≠ largestId issuedConfig := by
    decide
  have first : EnrollmentBundle.texts.bytes (sampleIssued 2 1).delivered ≤
      maxEnrollmentBytes := by decide +kernel
  have second : EnrollmentBundle.texts.bytes (sampleIssued 3 2).delivered ≤
      maxEnrollmentBytes := by decide +kernel
  exact (issued_enrollments_apart_iff EnrollmentBundle.texts
    plainCertificates (fun _ => true) issue_phone issue_tablet).mpr
      ⟨different, first, second⟩

/-- The id of a revoked credential is given to the next client, with another
secret. -/
theorem issued_after_revoke_collides :
    ∃ first second : Issued Foundation.Text,
      (issue EnrollmentBundle.texts (fun _ => true) (sampleHost 1)
        (sampleOptions "phone") sampleConfig).1 = .ok first ∧
      (issue EnrollmentBundle.texts (fun _ => true) (sampleHost 2)
        (sampleOptions "tablet") revokedConfig).1 = .ok second ∧
      first.bundle.credential ≠ second.bundle.credential ∧
      ¬∃ firstEnrollment secondEnrollment,
        importEnrollment EnrollmentBundle.texts (fun _ => true)
          first.delivered = .ok firstEnrollment ∧
        importEnrollment EnrollmentBundle.texts (fun _ => true)
          second.delivered = .ok secondEnrollment ∧
        KeptApart Json.texts plainCertificates firstEnrollment
          secondEnrollment := by
  refine ⟨_, _, issue_phone, issue_tablet_revoked, by decide, ?_⟩
  rintro ⟨firstEnrollment, secondEnrollment, firstTaken, secondTaken, apart⟩
  have short : EnrollmentBundle.texts.bytes (sampleIssued 2 1).delivered ≤
      maxEnrollmentBytes := by decide +kernel
  have shortAgain : EnrollmentBundle.texts.bytes
      (sampleIssued 2 2).delivered ≤ maxEnrollmentBytes := by decide +kernel
  have first := importEnrollment_issued (issuedBy_of_issue issue_phone) short
  have second := importEnrollment_issued
    (issuedBy_of_issue issue_tablet_revoked) shortAgain
  cases first.symm.trans firstTaken
  cases second.symm.trans secondTaken
  exact apart.nodeIds rfl

end Velum.Client
