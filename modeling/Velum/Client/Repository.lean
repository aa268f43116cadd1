import Velum.Foundation.Checked
import Velum.Foundation.Files
import Velum.Foundation.Json

/-!
# The application's repositories

Two documents of the client are kept in files: the index of the installed
enrollments and the canonical profile.  Both are committed in the same way:
the new text is written beside the live file, the live file is moved aside,
and the new text is moved in.  Between the two moves there is no live file.
-/

namespace Velum.Client

open Foundation

inductive ClientException where
  | fileSystem
  | format (message : String)
  | state (message : String)
  deriving DecidableEq, Repr

/-- The three files of a repository: the live one, and the names ending in
`.tmp` and in `.previous`. -/
inductive Slot where
  | live
  | temporary
  | previous
  deriving DecidableEq, Repr

abbrev RepositoryScript (Text Result : Type) :=
  FileScript Slot Text ClientException Result

open FileScript

section Commit

variable {Text : Type}

def moveAside : RepositoryScript Text Unit := do
  deleteExisting .previous
  renameExisting .live .previous

/-- Puts the previous file back if there is no live one. -/
def moveBack : RepositoryScript Text Unit := do
  if ← look .previous then
    if !(← look .live) then
      rename .previous .live

def moveIn : RepositoryScript Text Unit := do
  try
    rename .temporary .live
    deleteExisting .previous
  catch failure =>
    moveBack
    throw failure

/-- The body of `_commit` in both repositories. -/
def commit (text : Text) : RepositoryScript Text Unit := do
  createParent
  write .temporary text
  moveAside
  moveIn

/-- The body of `load` in both repositories: the value of a repository without
a live file, and the reading of its text. -/
def loadLive {Value : Type} (missing : Value)
    (parse : Text → Except ClientException Value) :
    RepositoryScript Text Value := do
  if !(← look .live) then return missing
  let source ← read .live
  ExceptT.mk (pure (parse source))

/-- What `loadLive` gives when no call fails. -/
def liveValue {Value : Type} (missing : Value)
    (parse : Text → Except ClientException Value)
    (files : Slot → Option Text) : Except ClientException Value :=
  match files .live with
  | none => .ok missing
  | some source => parse source

end Commit

/-! ## Installed enrollments -/

structure InstalledEnrollmentNode where
  nodeId : String
  nodeName : String
  relayAddress : String
  serverName : String
  credentialRef : String
  trustMode : String
  certificateRef : Option String
  deriving DecidableEq, Repr

def invalidLabel (label : String) : ClientException :=
  .format ("Enrollment " ++ label ++ " is invalid.")

def requireMap (value : Json) (label : String) :
    Except ClientException (List (String × Json)) :=
  match value with
  | .object fields => .ok fields
  | _ => .error (invalidLabel label)

def requireString (value : Json) (label : String) :
    Except ClientException String :=
  match value with
  | .string text => if text = "" then .error (invalidLabel label) else .ok text
  | _ => .error (invalidLabel label)

def requireKeys (fields : List (String × Json)) (expected : List String) :
    Except ClientException Unit :=
  let keys := fields.map Prod.fst
  if (∀ key ∈ keys, key ∈ expected) ∧ ∀ key ∈ expected, key ∈ keys then
    .ok ()
  else .error (.format "Enrollment fields are invalid.")

def requireReference (value : Json) :
    Except ClientException (Option String) :=
  match value with
  | .null => .ok none
  | .string reference => .ok (some reference)
  | _ => .error (.format "Installed certificate reference is invalid.")

/-- A reference into the secure storage, `secret://velum/` in front. -/
def isSecretReference (reference : String) : Bool :=
  "secret://velum/".toList.isPrefixOf reference.toList

namespace InstalledEnrollmentNode

/-- The references that a node of the index may have. -/
def wellFormed (node : InstalledEnrollmentNode) : Bool :=
  isSecretReference node.credentialRef &&
    node.certificateRef.all isSecretReference &&
    (node.trustMode == "system" || node.trustMode == "custom-ca") &&
    (node.trustMode == "custom-ca") == node.certificateRef.isSome

def fromJson (source : Json) :
    Except ClientException InstalledEnrollmentNode := do
  let value ← requireMap source "installed node"
  requireKeys value ["node-id", "node-name", "relay-address", "server-name",
    "credential-ref", "trust-mode", "certificate-ref"]
  let certificateRef ← requireReference (Json.field value "certificate-ref")
  let node : InstalledEnrollmentNode := {
    nodeId := ← requireString (Json.field value "node-id")
      "installed node id"
    nodeName := ← requireString (Json.field value "node-name")
      "installed node name"
    relayAddress := ← requireString (Json.field value "relay-address")
      "installed relay address"
    serverName := ← requireString (Json.field value "server-name")
      "installed server name"
    credentialRef := ← requireString (Json.field value "credential-ref")
      "installed credential reference"
    trustMode := ← requireString (Json.field value "trust-mode")
      "installed trust mode"
    certificateRef }
  if node.wellFormed then .ok node
  else .error (.format "Installed enrollment references are invalid.")

def toJson (node : InstalledEnrollmentNode) : Json :=
  .object [
    ("node-id", .string node.nodeId),
    ("node-name", .string node.nodeName),
    ("relay-address", .string node.relayAddress),
    ("server-name", .string node.serverName),
    ("credential-ref", .string node.credentialRef),
    ("trust-mode", .string node.trustMode),
    ("certificate-ref", node.certificateRef.elim .null .string)]

end InstalledEnrollmentNode

namespace EnrollmentRepository

variable {Text : Type} (codec : JsonCodec Text)

def maxIndexLength : Nat := 1024 * 1024
def maxNodes : Nat := 128

def decodeRoot (source : Text) :
    Except ClientException (List (String × Json)) :=
  if codec.length source > maxIndexLength then
    .error (.format "Installed enrollment index is too large.")
  else
    match codec.decode source with
    | some (.object fields) => .ok fields
    | some _ => .error (.format "Installed enrollment index is invalid.")
    | none => .error (.format "Unexpected character")

def requireItems (root : List (String × Json)) :
    Except ClientException (List Json) :=
  match Json.field root "version", Json.field root "nodes" with
  | .number 1, .array items => .ok items
  | _, _ => .error (.format "Installed enrollment index is invalid.")

/-- The index that a text holds. -/
def parse (source : Text) :
    Except ClientException (List InstalledEnrollmentNode) := do
  let root ← decodeRoot codec source
  requireKeys root ["version", "nodes"]
  let items ← requireItems root
  let nodes ← items.mapM InstalledEnrollmentNode.fromJson
  if nodes.length > maxNodes ∨ ¬(nodes.map (·.nodeId)).Nodup then
    .error (.format "Installed enrollment node set is invalid.")
  else .ok nodes

/-- The text that `_commit` writes for a list of nodes. -/
def indexText (nodes : List InstalledEnrollmentNode) : Text :=
  codec.encode (.object [
    ("version", .number 1),
    ("nodes", .array (nodes.map InstalledEnrollmentNode.toJson))])

def load : RepositoryScript Text (List InstalledEnrollmentNode) :=
  loadLive [] (parse codec)

def upsert (node : InstalledEnrollmentNode) : RepositoryScript Text Unit := do
  let nodes ← load codec
  let nodes := nodes.filter fun candidate => candidate.nodeId ≠ node.nodeId
  if nodes.length ≥ maxNodes then
    throw (.format "Installed enrollment node limit reached.")
  commit (indexText codec (nodes ++ [node]))

def remove (nodeId : String) : RepositoryScript Text Unit := do
  let nodes ← load codec
  let kept := nodes.filter fun candidate => candidate.nodeId ≠ nodeId
  if kept.length = nodes.length then return ()
  commit (indexText codec kept)

end EnrollmentRepository

/-! ## Reading back what was written -/

theorem requireString_eq_ok {value : Json} {label text : String}
    (accepted : requireString value label = .ok text) :
    value = .string text := by
  unfold requireString at accepted
  split at accepted
  · split at accepted
    · cases accepted
    · cases accepted
      rfl
  · cases accepted

/-- A node that is read back is the node that was written. -/
theorem fromJson_toJson {node other : InstalledEnrollmentNode}
    (accepted : InstalledEnrollmentNode.fromJson node.toJson = .ok other) :
    other = node := by
  unfold InstalledEnrollmentNode.fromJson at accepted
  obtain ⟨fields, same, accepted⟩ := bind_eq_ok accepted
  cases same
  obtain ⟨_, _, accepted⟩ := bind_eq_ok accepted
  obtain ⟨certificateRef, certificate, accepted⟩ := bind_eq_ok accepted
  obtain ⟨nodeId, id, accepted⟩ := bind_eq_ok accepted
  obtain ⟨nodeName, name, accepted⟩ := bind_eq_ok accepted
  obtain ⟨relayAddress, address, accepted⟩ := bind_eq_ok accepted
  obtain ⟨serverName, server, accepted⟩ := bind_eq_ok accepted
  obtain ⟨credentialRef, credential, accepted⟩ := bind_eq_ok accepted
  obtain ⟨trustMode, trust, accepted⟩ := bind_eq_ok accepted
  cases requireString_eq_ok id
  cases requireString_eq_ok name
  cases requireString_eq_ok address
  cases requireString_eq_ok server
  cases requireString_eq_ok credential
  cases requireString_eq_ok trust
  dsimp only at accepted
  split at accepted
  · cases accepted
    obtain ⟨_, _, _, _, _, _, _ | reference⟩ := node
    · cases certificate
      rfl
    · cases certificate
      rfl
  · cases accepted

theorem mapM_fromJson_toJson {nodes others : List InstalledEnrollmentNode}
    (accepted : (nodes.map InstalledEnrollmentNode.toJson).mapM
      InstalledEnrollmentNode.fromJson = .ok others) : others = nodes := by
  have read := mapM_eq_ok_iff.mp accepted
  rw [List.forall₂_map_left_iff] at read
  have same : List.Forall₂ Eq nodes others := by
    apply read.imp
    intro node other readNode
    exact (fromJson_toJson readNode).symm
  rw [List.forall₂_eq_eq_eq] at same
  exact same.symm

theorem InstalledEnrollmentNode.portable_toJson
    (node : InstalledEnrollmentNode) : node.toJson.Portable := by
  obtain ⟨_, _, _, _, _, _, _ | reference⟩ := node
  · simp [toJson, Json.Portable, Json.PortableFields]
  · simp [toJson, Json.Portable, Json.PortableFields]

theorem EnrollmentRepository.portable_index
    (nodes : List InstalledEnrollmentNode) :
    (Json.object [
      ("version", .number 1),
      ("nodes", .array
        (nodes.map InstalledEnrollmentNode.toJson))]).Portable := by
  have items : Json.PortableItems
      (nodes.map InstalledEnrollmentNode.toJson) := by
    apply Json.portableItems_of_forall
    intro item member
    obtain ⟨node, _, rfl⟩ := List.mem_map.mp member
    exact node.portable_toJson
  simp [Json.Portable, Json.PortableFields, items]

theorem EnrollmentRepository.parse_indexText {Text : Type}
    {codec : JsonCodec Text} {nodes others : List InstalledEnrollmentNode}
    (accepted : EnrollmentRepository.parse codec
      (EnrollmentRepository.indexText codec nodes) = .ok others) :
    others = nodes := by
  obtain ⟨root, decoded, accepted⟩ := bind_eq_ok accepted
  have same : root = [("version", .number 1),
      ("nodes", .array (nodes.map InstalledEnrollmentNode.toJson))] := by
    unfold decodeRoot indexText at decoded
    rw [codec.decode_encode _ (portable_index nodes)] at decoded
    split at decoded
    · cases decoded
    · cases decoded
      rfl
  cases same
  obtain ⟨_, _, accepted⟩ := bind_eq_ok accepted
  obtain ⟨items, found, accepted⟩ := bind_eq_ok accepted
  cases found
  obtain ⟨read, mapped, accepted⟩ := bind_eq_ok accepted
  split at accepted
  · cases accepted
  · cases accepted
    exact mapM_fromJson_toJson mapped

/-! ## What is accepted -/

/-- A node that can be read back. -/
structure InstalledEnrollmentNode.Valid (node : InstalledEnrollmentNode) :
    Prop where
  nodeId : node.nodeId ≠ ""
  nodeName : node.nodeName ≠ ""
  relayAddress : node.relayAddress ≠ ""
  serverName : node.serverName ≠ ""
  credentialRef : node.credentialRef ≠ ""
  trustMode : node.trustMode ≠ ""
  wellFormed : node.wellFormed = true

theorem requireString_of_ne {text label : String} (present : text ≠ "") :
    requireString (.string text) label = .ok text :=
  if_neg present

theorem ne_of_requireString {value : Json} {label text : String}
    (accepted : requireString value label = .ok text) : text ≠ "" := by
  intro empty
  subst empty
  cases requireString_eq_ok accepted
  cases accepted

theorem valid_of_fromJson {source : Json} {node : InstalledEnrollmentNode}
    (accepted : InstalledEnrollmentNode.fromJson source = .ok node) :
    node.Valid := by
  unfold InstalledEnrollmentNode.fromJson at accepted
  obtain ⟨fields, _, accepted⟩ := bind_eq_ok accepted
  obtain ⟨_, _, accepted⟩ := bind_eq_ok accepted
  obtain ⟨certificateRef, _, accepted⟩ := bind_eq_ok accepted
  obtain ⟨nodeId, id, accepted⟩ := bind_eq_ok accepted
  obtain ⟨nodeName, name, accepted⟩ := bind_eq_ok accepted
  obtain ⟨relayAddress, address, accepted⟩ := bind_eq_ok accepted
  obtain ⟨serverName, server, accepted⟩ := bind_eq_ok accepted
  obtain ⟨credentialRef, credential, accepted⟩ := bind_eq_ok accepted
  obtain ⟨trustMode, trust, accepted⟩ := bind_eq_ok accepted
  dsimp only at accepted
  split at accepted
  · rename_i formed
    cases accepted
    exact ⟨ne_of_requireString id, ne_of_requireString name,
      ne_of_requireString address, ne_of_requireString server,
      ne_of_requireString credential, ne_of_requireString trust, formed⟩
  · cases accepted

theorem InstalledEnrollmentNode.Valid.fromJson_toJson
    {node : InstalledEnrollmentNode} (valid : node.Valid) :
    InstalledEnrollmentNode.fromJson node.toJson = .ok node := by
  have certificate : requireReference
      (node.certificateRef.elim .null .string) = .ok node.certificateRef := by
    cases node.certificateRef with
    | none => rfl
    | some reference => rfl
  refine (bind_of_eq_ok rfl).trans ?_
  refine (bind_of_eq_ok rfl).trans ?_
  refine (bind_of_eq_ok certificate).trans ?_
  refine (bind_of_eq_ok (requireString_of_ne valid.nodeId)).trans ?_
  refine (bind_of_eq_ok (requireString_of_ne valid.nodeName)).trans ?_
  refine (bind_of_eq_ok (requireString_of_ne valid.relayAddress)).trans ?_
  refine (bind_of_eq_ok (requireString_of_ne valid.serverName)).trans ?_
  refine (bind_of_eq_ok (requireString_of_ne valid.credentialRef)).trans ?_
  refine (bind_of_eq_ok (requireString_of_ne valid.trustMode)).trans ?_
  exact if_pos valid.wellFormed

namespace EnrollmentRepository

/-- A list of nodes that an index may hold. -/
structure Proper (nodes : List InstalledEnrollmentNode) : Prop where
  count : nodes.length ≤ maxNodes
  distinct : (nodes.map (·.nodeId)).Nodup
  valid : ∀ node ∈ nodes, node.Valid

theorem valid_of_mapM {items : List Json}
    {nodes : List InstalledEnrollmentNode}
    (accepted : items.mapM InstalledEnrollmentNode.fromJson = .ok nodes) :
    ∀ node ∈ nodes, node.Valid := by
  intro node member
  obtain ⟨item, _, read⟩ :=
    exists_item_of_mem (mapM_eq_ok_iff.mp accepted) member
  exact valid_of_fromJson read

theorem mapM_toJson {nodes : List InstalledEnrollmentNode}
    (valid : ∀ node ∈ nodes, node.Valid) :
    (nodes.map InstalledEnrollmentNode.toJson).mapM
      InstalledEnrollmentNode.fromJson = .ok nodes := by
  rw [mapM_eq_ok_iff, List.forall₂_map_left_iff, List.forall₂_same]
  intro node member
  exact (valid node member).fromJson_toJson

variable {Text : Type} {codec : JsonCodec Text}

theorem proper_of_parse {source : Text}
    {nodes : List InstalledEnrollmentNode}
    (accepted : parse codec source = .ok nodes) : Proper nodes := by
  obtain ⟨_, _, accepted⟩ := bind_eq_ok accepted
  obtain ⟨_, _, accepted⟩ := bind_eq_ok accepted
  obtain ⟨_, _, accepted⟩ := bind_eq_ok accepted
  obtain ⟨read, mapped, accepted⟩ := bind_eq_ok accepted
  split at accepted
  · cases accepted
  · rename_i fine
    cases accepted
    rw [not_or, not_not, Nat.not_lt] at fine
    exact ⟨fine.1, fine.2, valid_of_mapM mapped⟩

/-- An index of proper nodes loads as these nodes unless it is too long. -/
theorem Proper.parse_indexText {nodes : List InstalledEnrollmentNode}
    (proper : Proper nodes)
    (short : codec.length (indexText codec nodes) ≤ maxIndexLength) :
    parse codec (indexText codec nodes) = .ok nodes := by
  have root : decodeRoot codec (indexText codec nodes) =
      .ok [("version", .number 1),
        ("nodes", .array (nodes.map InstalledEnrollmentNode.toJson))] := by
    rw [decodeRoot, if_neg (Nat.not_lt.mpr short), indexText,
      codec.decode_encode _ (portable_index nodes)]
  refine (bind_of_eq_ok root).trans ?_
  refine (bind_of_eq_ok rfl).trans ?_
  refine (bind_of_eq_ok rfl).trans ?_
  refine (bind_of_eq_ok (mapM_toJson proper.valid)).trans ?_
  apply if_neg
  rw [not_or, not_not, Nat.not_lt]
  exact ⟨proper.count, proper.distinct⟩

theorem proper_of_liveValue {files : Slot → Option Text}
    {nodes : List InstalledEnrollmentNode}
    (loaded : liveValue [] (parse codec) files = .ok nodes) :
    Proper nodes := by
  unfold liveValue at loaded
  split at loaded
  · cases loaded
    exact ⟨Nat.zero_le _, List.nodup_nil, by simp⟩
  · exact proper_of_parse loaded

end EnrollmentRepository

/-! ## The managed profile -/

namespace ManagedProfileRepository

variable {Text Profile : Type}
  (parseCanonical : Text → Except ClientException Profile)

def parse (source : Text) : Except ClientException (Option Profile) :=
  (parseCanonical source).map some

/-- The profile, or nothing before the first import.  The reading of the
canonical text is a parameter. -/
def load : RepositoryScript Text (Option Profile) :=
  loadLive none (parse parseCanonical)

end ManagedProfileRepository

end Velum.Client
