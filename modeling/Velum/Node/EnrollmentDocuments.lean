import Velum.Client.Installation

/-!
# Enrollment documents

What the credential and the document of an enrollment come back as after they
have been written and read.
-/

namespace Velum.Node

open Foundation

/-! ## Credentials -/

/-- The decoder of enrollments is exact but for misread texts. -/
theorem decodeHex_exact_iff (value : Text) :
    DecodesExactly (decodeHex value) True value ↔ ¬Misread value := by
  have exact_iff : DecodesExactly (decodeHex value) True value ↔
      ¬(Misread value ∧ True) := by
    apply decodesExactly_iff
    rw [Text.utf8_eq_nil_iff, and_true, not_and_or, not_not]
  rwa [and_true] at exact_iff

theorem decodeHex_eq_ok_iff {value : Text} {bytes : List UInt8} :
    decodeHex value = .ok bytes ↔
      value ≠ [] ∧ (Text.utf8 value).length % 2 = 0 ∧
        (∀ pair ∈ chunksExact2 (Text.utf8 value), NumeralPair pair) ∧
        bytes = (chunksExact2 (Text.utf8 value)).map fun pair =>
          UInt8.ofNat (pairValue pair) := by
  simp only [decodeHex]
  split
  next refused =>
      rw [Text.utf8_eq_nil_iff] at refused
      constructor
      · intro accepted
        cases accepted
      · rintro ⟨filled, even, _⟩
        rcases refused with empty | odd
        · exact absurd empty filled
        · exact absurd even odd
  next accepted =>
      rw [not_or, not_not, Text.utf8_eq_nil_iff] at accepted
      rw [decodePairs_eq_ok_iff]
      simp only [ne_eq, accepted, not_false_eq_true, true_and]

theorem encode_inj {first second : List UInt8} (filled : first ≠ [])
    (same : Hex.encode first = Hex.encode second) : first = second := by
  have decoded := Hex.decode_encode filled
  have others : second ≠ [] := by
    rintro rfl
    rw [same] at decoded
    cases decoded
  rw [same, Hex.decode_encode others] at decoded
  exact (Option.some.inj decoded).symm

theorem isDigit_of_mem_encode {bytes : List UInt8} {character : Char}
    (member : character ∈ (Hex.encode bytes).toList) :
    Text.isDigit 16 character = true := by
  rw [Hex.encode, String.toList_ofList] at member
  obtain ⟨byte, _, inside⟩ := List.mem_flatMap.mp member
  have bound := byte.toNat_lt
  have digit : ∀ value : Nat, value < 16 →
      Text.isDigit 16 (Nat.digitChar value) = true := by
    intro value small
    have every : ∀ value : Fin 16,
        Text.isDigit 16 (Nat.digitChar value) = true := by decide
    exact every ⟨value, small⟩
  rcases List.mem_pair.mp inside with rfl | rfl
  · exact digit _ (by omega)
  · exact digit _ (by omega)

theorem isDigit_of_toLower {character : Char}
    (digit : Text.isDigit 16 character.toLower = true) :
    Text.isDigit 16 character = true := by
  rcases Text.toLower_cases character with ⟨_, high, _⟩ | ⟨_, same⟩
  · have every : ∀ code : Fin 128,
        Text.isDigit 16 (Char.ofNat code).toLower = true →
          Text.isDigit 16 (Char.ofNat code) = true := by decide
    have found := every ⟨character.toNat, by omega⟩
    simp only [Char.ofNat_toNat] at found
    exact found digit
  · rwa [same] at digit

/-- A text of digits is not misread. -/
theorem not_misread_of_digits {value : Text}
    (digits : ∀ character ∈ value, Text.isDigit 16 character = true) :
    ¬Misread value := by
  intro misread
  obtain ⟨even, defect⟩ := misread
  obtain ⟨numerals, unsigned⟩ := (digits_iff_pairs even).mp digits
  rcases defect with ⟨front, pair, back, split, _, cut⟩ |
    ⟨_, pair, member, plus⟩
  · have numeral := numerals pair (by simp [split])
    rw [numeral.fromUtf8_eq] at cut
    cases cut
  · exact unsigned pair member plus

theorem length_utf8_encode (bytes : List UInt8) :
    (Text.utf8 (Hex.encode bytes).toList).length = 2 * bytes.length := by
  have ascii : ∀ character ∈ (Hex.encode bytes).toList,
      character.toNat < 128 := by
    intro character member
    have visible := Text.visible_of_isDigit (isDigit_of_mem_encode member)
    rw [Text.IsVisible] at visible
    omega
  rw [Text.utf8_of_ascii ascii, List.length_map, Hex.encode,
    String.toList_ofList, List.length_flatMap]
  induction bytes with
  | nil => rfl
  | cons byte rest induction =>
      simp only [List.map_cons, List.sum_cons, List.length_cons]
      rw [induction]
      · simp only [Hex.byteDigits, List.length_cons, List.length_nil]
        omega
      · intro character member
        apply ascii
        rw [Hex.encode, String.toList_ofList] at member ⊢
        rw [List.flatMap_cons]
        exact List.mem_append_right _ member

theorem decodeHex_encode {bytes : List UInt8} (filled : bytes ≠ []) :
    decodeHex (Hex.encode bytes).toList = .ok bytes := by
  have digits : ∀ character ∈ (Hex.encode bytes).toList,
      Text.isDigit 16 character = true := fun _ => isDigit_of_mem_encode
  have exact := (decodeHex_exact_iff _).mpr (not_misread_of_digits digits)
  have length := length_utf8_encode bytes
  have even : (Text.utf8 (Hex.encode bytes).toList).length % 2 = 0 := by
    omega
  have written : (Hex.encode bytes).toList ≠ [] := by
    intro empty
    rw [empty, Text.utf8_nil, List.length_nil] at length
    have positive := List.length_pos_iff.mpr filled
    omega
  obtain ⟨found, decoded⟩ := exact.accepts.mpr ⟨written, even, digits, trivial⟩
  have again := exact.canonical found decoded
  rw [Text.toAsciiLowercase, Hex.map_toLower_encode] at again
  rw [decoded, encode_inj filled (String.toList_inj.mp again.symm)]

theorem decodeHex_of_validate {acceptsServerName : String → Bool}
    {bundle normalized : EnrollmentBundle}
    (accepted : bundle.validateAndNormalize acceptsServerName =
      .ok normalized) :
    ∃ bytes, decodeHex bundle.credential.toList = .ok bytes ∧
      bytes.length = credentialBytes := by
  obtain ⟨_, _, accepted⟩ := bind_eq_ok accepted
  obtain ⟨_, _, accepted⟩ := bind_eq_ok accepted
  obtain ⟨_, _, accepted⟩ := bind_eq_ok accepted
  obtain ⟨_, _, accepted⟩ := bind_eq_ok accepted
  obtain ⟨_, _, accepted⟩ := bind_eq_ok accepted
  obtain ⟨_, _, accepted⟩ := bind_eq_ok accepted
  obtain ⟨_, credential, _⟩ := bind_eq_ok accepted
  rw [EnrollmentBundle.validateCredential] at credential
  split at credential
  next bytes decoded =>
      exact ⟨bytes, decoded, not_not.mp (refuse_eq_ok credential)⟩
  next => cases credential
  next => cases credential

/-- The credential of an accepted enrollment is in canonical form exactly when
it was not misread. -/
theorem canonical_credential_iff {acceptsServerName : String → Bool}
    {bundle normalized : EnrollmentBundle}
    (accepted : bundle.validateAndNormalize acceptsServerName =
      .ok normalized) :
    (∃ bytes, decodeHex normalized.credential.toList = .ok bytes ∧
        Hex.encode bytes = normalized.credential) ↔
      ¬Misread bundle.credential.toList := by
  obtain ⟨bytes, decoded, length⟩ := decodeHex_of_validate accepted
  obtain ⟨rfl, _⟩ := validateAndNormalize_eq_ok accepted
  have lowered : (makeAsciiLowercase bundle.credential).toList =
      Text.toAsciiLowercase bundle.credential.toList := by
    rw [makeAsciiLowercase, String.toList_ofList]
    rfl
  constructor
  · rintro ⟨found, _, written⟩ misread
    have digits : ∀ character ∈ bundle.credential.toList,
        Text.isDigit 16 character = true := by
      intro character member
      apply isDigit_of_toLower
      apply @isDigit_of_mem_encode found
      rw [written, lowered]
      exact List.mem_map_of_mem member
    exact not_misread_of_digits digits misread
  · intro read
    have exact := (decodeHex_exact_iff _).mpr read
    have written := exact.canonical bytes decoded
    rw [← lowered] at written
    have filled : bytes ≠ [] := by
      rintro rfl
      cases length
    exact ⟨bytes, by rw [← written, decodeHex_encode filled],
      String.toList_inj.mp written⟩

/-- Both decoders are exact for a text exactly when they do not misread it, and
the credential of an accepted enrollment is in canonical form exactly then. -/
theorem hex_decoding_exact_iff (value : Text) :
    (DecodesExactly (decodeHex value) True value ↔ ¬Misread value) ∧
    (DecodesExactly (decodeSecret value)
        ((Text.utf8 value).length / 2 ≤ Config.maxSecretBytes) value ↔
      ¬(Misread value ∧
        (Text.utf8 value).length / 2 ≤ Config.maxSecretBytes)) ∧
    ∀ (acceptsServerName : String → Bool)
      (bundle normalized : EnrollmentBundle),
      bundle.validateAndNormalize acceptsServerName = .ok normalized →
        ((∃ bytes, decodeHex normalized.credential.toList = .ok bytes ∧
            Hex.encode bytes = normalized.credential) ↔
          ¬Misread bundle.credential.toList) := by
  refine ⟨decodeHex_exact_iff value, decodeSecret_exact_iff value, ?_⟩
  intro acceptsServerName bundle normalized accepted
  exact canonical_credential_iff accepted

theorem sampleRelay_shown :
    Protocol.AddressText.isShown "203.0.113.10:4433".toList = true := by
  decide +kernel

/-- An enrollment with the given credential. -/
def sampleBundle (credential : String) : EnrollmentBundle where
  kind := enrollmentKind
  version := enrollmentVersion
  node := {
    id := "relay-2"
    name := "relay.example"
    relayAddress := ⟨"203.0.113.10:4433", sampleRelay_shown⟩
    serverName := "relay.example" }
  principalId := 2
  credential := credential
  trust := .system

theorem hex_decoding_exact_digits :
    DecodesExactly (decodeHex "0fA1".toList) True "0fA1".toList ∧
      DecodesExactly (decodeSecret "0fA1".toList)
        ((Text.utf8 "0fA1".toList).length / 2 ≤ Config.maxSecretBytes)
        "0fA1".toList ∧
      ∃ bytes, decodeHex (Hex.encode (List.replicate 32 1)).toList =
          .ok bytes ∧
        Hex.encode bytes = Hex.encode (List.replicate 32 1) := by
  have digits : ∀ character ∈ "0fA1".toList,
      Text.isDigit 16 character = true :=
    List.all_iff_forall_prop.mp (by decide)
  have read := not_misread_of_digits digits
  have accepted : (sampleBundle
      (Hex.encode (List.replicate 32 1))).validateAndNormalize (fun _ => true) =
        .ok (sampleBundle (Hex.encode (List.replicate 32 1))) := by rfl
  obtain ⟨enrollments, secrets, credentials⟩ :=
    hex_decoding_exact_iff "0fA1".toList
  refine ⟨enrollments.mpr read, secrets.mpr ?_, ?_⟩
  · intro misread
    exact read misread.1
  · apply (credentials _ _ _ accepted).mpr
    exact not_misread_of_digits fun _ => isDigit_of_mem_encode

/-- A sign is read as a digit, and a character that two pairs share ends the
decoder. -/
theorem hex_decoding_sign_and_cut :
    decodeHex "+F".toList = .ok [15] ∧ decodeSecret "+F".toList = .ok [15] ∧
      Hex.encode [15] = "0f" ∧
      decodeHex "aéb".toList = .panic ⟨"hexadecimal input is UTF-8"⟩ ∧
      decodeSecret "aéb".toList = .panic ⟨"hex input is UTF-8"⟩ ∧
      ¬(∀ value : Text, DecodesExactly (decodeHex value) True value) ∧
      ¬(∀ value : Text, DecodesExactly (decodeSecret value)
        ((Text.utf8 value).length / 2 ≤ Config.maxSecretBytes) value) := by
  have plus : decodeHex "+F".toList = .ok [15] := by rfl
  have secretPlus : decodeSecret "+F".toList = .ok [15] := by rfl
  have written : (Hex.encode [15]).toList ≠
      Text.toAsciiLowercase "+F".toList := by decide
  refine ⟨plus, secretPlus, by decide, by rfl, by rfl, ?_, ?_⟩
  · intro exact
    exact written ((exact _).canonical [15] plus)
  · intro exact
    exact written ((exact _).canonical [15] secretPlus)

/-! ## Documents -/

/-- The bytes of the trust of an enrollment in a document. -/
def trustBytes : EnrollmentTrust → Nat
  | .system => 17
  | .customCa certificatePem => 41 + Json.escapedBytes certificatePem

/-- The bytes of the document of an enrollment: the fixed ones, those of the
credential among them, and those of its texts with their escapes. -/
def documentBytes (node : EnrollmentNode) (principalId : UInt64)
    (trust : EnrollmentTrust) : Nat :=
  207 + Json.escapedBytes node.id + Json.escapedBytes node.name +
    Json.escapedBytes node.relayAddress.text +
    Json.escapedBytes node.serverName +
    (Nat.toDigits 10 principalId.toNat).length + trustBytes trust

theorem length_utf8_trust (trust : EnrollmentTrust) :
    (Text.utf8 (Json.write (.object
      (EnrollmentBundle.trustFields trust)))).length = trustBytes trust := by
  have mode : Json.escapedBytes "mode" = 4 := by decide
  have system : Json.escapedBytes "system" = 6 := by decide
  have custom : Json.escapedBytes "custom-ca" = 9 := by decide
  have certificate : Json.escapedBytes "certificate-pem" = 15 := by decide
  rw [Json.length_utf8_object]
  cases trust with
  | system =>
      rw [EnrollmentBundle.trustFields, Json.length_utf8_lastField,
        Json.length_utf8_string, mode, system, trustBytes]
  | customCa certificatePem =>
      rw [EnrollmentBundle.trustFields, Json.length_utf8_field,
        Json.length_utf8_lastField, Json.length_utf8_string,
        Json.length_utf8_string, mode, custom, certificate, trustBytes]
      omega

theorem length_utf8_node (node : EnrollmentNode) :
    (Text.utf8 (Json.write (.object [
      ("id", .string node.id),
      ("name", .string node.name),
      ("relay-address", .string node.relayAddress.text),
      ("server-name", .string node.serverName)]))).length =
      55 + Json.escapedBytes node.id + Json.escapedBytes node.name +
        Json.escapedBytes node.relayAddress.text +
        Json.escapedBytes node.serverName := by
  have id : Json.escapedBytes "id" = 2 := by decide
  have name : Json.escapedBytes "name" = 4 := by decide
  have relayAddress : Json.escapedBytes "relay-address" = 13 := by decide
  have serverName : Json.escapedBytes "server-name" = 11 := by decide
  simp only [Json.length_utf8_object, Json.length_utf8_field,
    Json.length_utf8_lastField, Json.length_utf8_string, id, name,
    relayAddress, serverName]
  omega

/-- The bytes of the document of an enrollment whose fixed parts are as they
have to be. -/
theorem length_utf8_toJson {bundle : EnrollmentBundle}
    (kind : bundle.kind = enrollmentKind)
    (version : bundle.version = enrollmentVersion)
    (credential : Json.escapedBytes bundle.credential = 2 * credentialBytes) :
    (Text.utf8 (Json.write bundle.toJson)).length =
      documentBytes bundle.node bundle.principalId bundle.trust := by
  have kindName : Json.escapedBytes "kind" = 4 := by decide
  have kindText : Json.escapedBytes enrollmentKind = 16 := by decide
  have versionName : Json.escapedBytes "version" = 7 := by decide
  have versionDigits :
      (Nat.toDigits 10 enrollmentVersion.toNat).length = 1 := by decide
  have nodeName : Json.escapedBytes "node" = 4 := by decide
  have principalName : Json.escapedBytes "principal-id" = 12 := by decide
  have credentialName : Json.escapedBytes "credential" = 10 := by decide
  have trustName : Json.escapedBytes "trust" = 5 := by decide
  rw [EnrollmentBundle.toJson, EnrollmentBundle.jsonFields, kind, version,
    Json.length_utf8_object, Json.length_utf8_field, Json.length_utf8_field,
    Json.length_utf8_field, Json.length_utf8_field, Json.length_utf8_field,
    Json.length_utf8_lastField, length_utf8_node, length_utf8_trust,
    Json.length_utf8_string, Json.length_utf8_string, Json.length_utf8_number,
    Json.length_utf8_number, credential, kindName, kindText, versionName,
    versionDigits, nodeName, principalName, credentialName, trustName,
    documentBytes, credentialBytes]
  omega

/-! ## Credentials in documents -/

theorem chunksExact2_pairBytes (pairs : List (UInt8 × UInt8)) :
    chunksExact2 (pairBytes pairs) = pairs := by
  induction pairs with
  | nil => rfl
  | cons pair rest induction =>
      rw [pairBytes, List.flatMap_cons, ← pairBytes]
      exact congrArg (pair :: ·) induction

theorem length_pairBytes (pairs : List (UInt8 × UInt8)) :
    (pairBytes pairs).length = 2 * pairs.length := by
  induction pairs with
  | nil => rfl
  | cons pair rest induction =>
      rw [pairBytes, List.flatMap_cons, ← pairBytes, List.length_append,
        induction]
      simp only [List.length_cons, List.length_nil]
      omega

/-- The accepted credentials are the texts of numerals. -/
theorem decodeHex_eq_ok_iff_pairs {value : Text} {bytes : List UInt8} :
    decodeHex value = .ok bytes ↔
      ∃ pairs : List (UInt8 × UInt8), pairs ≠ [] ∧
        (∀ pair ∈ pairs, NumeralPair pair) ∧
        value = (pairBytes pairs).map byteChar ∧
        bytes = pairs.map fun pair => UInt8.ofNat (pairValue pair) := by
  rw [decodeHex_eq_ok_iff]
  constructor
  · rintro ⟨filled, even, numerals, rfl⟩
    have whole := pairBytes_chunksExact2 even
    refine ⟨chunksExact2 (Text.utf8 value), ?_, numerals, ?_, rfl⟩
    · intro empty
      rw [empty] at whole
      exact filled ((Text.utf8_eq_nil_iff value).mp whole.symm)
    · rw [whole]
      apply eq_byteChars
      rw [← whole]
      exact ascii_of_numerals numerals
  · rintro ⟨pairs, filled, numerals, rfl, rfl⟩
    rw [utf8_byteChars (ascii_of_numerals numerals), length_pairBytes,
      chunksExact2_pairBytes]
    refine ⟨?_, by omega, numerals, rfl⟩
    intro empty
    have short := congrArg List.length empty
    rw [List.length_map, length_pairBytes, List.length_nil] at short
    have positive := List.length_pos_iff.mpr filled
    omega

/-- The byte of a character in lower case. -/
def lowerByte (byte : UInt8) : UInt8 :=
  UInt8.ofNat (byteChar byte).toLower.toNat

theorem byteChar_lowerByte {byte : UInt8} (ascii : byte.toNat < 128) :
    byteChar (lowerByte byte) = (byteChar byte).toLower := by
  have code := toNat_byteChar byte
  apply Char.toNat_inj.mp
  rw [toNat_byteChar, lowerByte, UInt8.toNat_ofNat']
  rcases Text.toLower_cases (byteChar byte) with ⟨_, _, moved⟩ | ⟨_, same⟩
  · omega
  · rw [same]
    omega

theorem isDigit_toLower {character : Char}
    (digit : Text.isDigit 16 character = true) :
    Text.isDigit 16 character.toLower = true := by
  have every : ∀ code : Fin 128, Text.isDigit 16 (Char.ofNat code) = true →
      Text.isDigit 16 (Char.ofNat code).toLower = true := by decide
  have visible := Text.visible_of_isDigit digit
  rw [Text.IsVisible] at visible
  have found := every ⟨character.toNat, by omega⟩
  simp only [Char.ofNat_toNat] at found
  exact found digit

theorem NumeralPair.lower {pair : UInt8 × UInt8} (numeral : NumeralPair pair) :
    NumeralPair (lowerByte pair.1, lowerByte pair.2) := by
  have first := byteChar_lowerByte (numeral.ascii pair.1 (by simp))
  have second := byteChar_lowerByte (numeral.ascii pair.2 (by simp))
  constructor
  · rcases numeral.first with hex | plus
    · left
      rw [isHexByte, first]
      exact isDigit_toLower hex
    · right
      rw [first, plus]
      decide
  · rw [isHexByte, second]
    exact isDigit_toLower numeral.second

/-- A credential in lower case is accepted as before. -/
theorem decodeHex_toAsciiLowercase {value : Text} {bytes : List UInt8}
    (decoded : decodeHex value = .ok bytes) :
    ∃ lowered, decodeHex (Text.toAsciiLowercase value) = .ok lowered ∧
      lowered.length = bytes.length := by
  obtain ⟨pairs, filled, numerals, rfl, rfl⟩ :=
    decodeHex_eq_ok_iff_pairs.mp decoded
  refine ⟨_, decodeHex_eq_ok_iff_pairs.mpr
    ⟨pairs.map (fun pair => (lowerByte pair.1, lowerByte pair.2)),
      ?_, ?_, ?_, rfl⟩, ?_⟩
  · rwa [ne_eq, List.map_eq_nil_iff]
  · intro pair member
    obtain ⟨original, inPairs, rfl⟩ := List.mem_map.mp member
    exact (numerals original inPairs).lower
  · have bytes : pairBytes (pairs.map fun pair =>
        (lowerByte pair.1, lowerByte pair.2)) =
          (pairBytes pairs).map lowerByte := by
      simp [pairBytes, List.flatMap_map, List.map_flatMap]
    rw [bytes, Text.toAsciiLowercase, List.map_map, List.map_map]
    apply List.map_congr_left
    intro byte member
    exact (byteChar_lowerByte (ascii_of_numerals numerals byte member)).symm
  · simp only [List.length_map]

theorem escapeChar_of_isDigit {character : Char}
    (digit : Text.isDigit 16 character = true) :
    Json.escapeChar character = [character] := by
  have visible := Text.visible_of_isDigit digit
  rw [Text.IsVisible] at visible
  apply Json.escapeChar_of_plain
  · omega
  · rintro rfl
    revert digit
    decide
  · rintro rfl
    revert digit
    decide

/-- Nothing of an accepted credential is escaped. -/
theorem escapedBytes_credential {value : Text} {bytes : List UInt8}
    (decoded : decodeHex value = .ok bytes) :
    Json.escapedBytes (String.ofList value) = 2 * bytes.length := by
  obtain ⟨pairs, filled, numerals, rfl, rfl⟩ :=
    decodeHex_eq_ok_iff_pairs.mp decoded
  have plain : ∀ character ∈ (pairBytes pairs).map byteChar,
      Json.escapeChar character = [character] := by
    intro character member
    obtain ⟨byte, inBytes, rfl⟩ := List.mem_map.mp member
    obtain ⟨pair, inPairs, inside⟩ := List.mem_flatMap.mp inBytes
    have numeral := numerals pair inPairs
    rcases List.mem_pair.mp inside with rfl | rfl
    · rcases numeral.first with hex | plus
      · exact escapeChar_of_isDigit hex
      · rw [plus]
        decide
    · exact escapeChar_of_isDigit numeral.second
  rw [Json.escapedBytes, String.toList_ofList, List.flatMap_congr plain,
    List.flatMap_singleton', utf8_byteChars (ascii_of_numerals numerals),
    length_pairBytes, List.length_map]

/-! ## Writing and reading documents -/

theorem toList_makeAsciiLowercase (text : String) :
    (makeAsciiLowercase text).toList = Text.toAsciiLowercase text.toList := by
  rw [makeAsciiLowercase, String.toList_ofList]
  rfl

section Documents

variable {acceptsServerName : String → Bool}
  {bundle normalized : EnrollmentBundle}

theorem validateCredential_eq_ok_iff {credential : String} :
    EnrollmentBundle.validateCredential credential = .ok () ↔
      ∃ bytes, decodeHex credential.toList = .ok bytes ∧
        bytes.length = credentialBytes := by
  rw [EnrollmentBundle.validateCredential]
  cases decodeHex credential.toList with
  | ok bytes => simp [refuse]
  | err error => simp
  | panic cause => simp

/-- A normal enrollment stays as it is. -/
theorem validateAndNormalize_normalized
    (accepted : bundle.validateAndNormalize acceptsServerName =
      .ok normalized) :
    normalized.validateAndNormalize acceptsServerName = .ok normalized := by
  obtain ⟨bytes, decoded, length⟩ := decodeHex_of_validate accepted
  obtain ⟨rfl, _⟩ := validateAndNormalize_eq_ok accepted
  obtain ⟨lowered, again, same⟩ := decodeHex_toAsciiLowercase decoded
  have before : EnrollmentBundle.validateCredential bundle.credential =
      .ok () :=
    validateCredential_eq_ok_iff.mpr ⟨bytes, decoded, length⟩
  have after : EnrollmentBundle.validateCredential
      (makeAsciiLowercase bundle.credential) = .ok () := by
    apply validateCredential_eq_ok_iff.mpr
    rw [toList_makeAsciiLowercase]
    exact ⟨lowered, again, same.trans length⟩
  have lower : makeAsciiLowercase (makeAsciiLowercase bundle.credential) =
      makeAsciiLowercase bundle.credential := by
    apply String.toList_inj.mp
    rw [toList_makeAsciiLowercase, toList_makeAsciiLowercase,
      Text.toAsciiLowercase_toAsciiLowercase]
  rw [EnrollmentBundle.validateAndNormalize] at accepted ⊢
  rw [before] at accepted
  rw [after, lower]
  exact accepted

/-- The document of a normal enrollment has the bytes that are computed. -/
theorem length_utf8_normalized
    (accepted : bundle.validateAndNormalize acceptsServerName =
      .ok normalized) :
    (Text.utf8 (Json.write normalized.toJson)).length =
      documentBytes bundle.node bundle.principalId bundle.trust := by
  obtain ⟨bytes, decoded, length⟩ := decodeHex_of_validate accepted
  obtain ⟨rfl, kind, version, _⟩ := validateAndNormalize_eq_ok accepted
  obtain ⟨lowered, again, same⟩ := decodeHex_toAsciiLowercase decoded
  have escaped := escapedBytes_credential again
  rw [same, length, ← toList_makeAsciiLowercase,
    String.ofList_toList] at escaped
  exact @length_utf8_toJson
    { bundle with credential := makeAsciiLowercase bundle.credential }
    kind version escaped

variable {Document : Type} {codec : EnrollmentCodec Document}

theorem toCanonicalJson_normalized
    (accepted : bundle.validateAndNormalize acceptsServerName =
      .ok normalized) :
    normalized.toCanonicalJson acceptsServerName codec.toJsonCodec =
      .ok (codec.encode normalized.toJson) := by
  rw [EnrollmentBundle.toCanonicalJson,
    validateAndNormalize_normalized accepted]
  rfl

/-- The document of a normal enrollment is read as that enrollment when it is
not too long, and not read at all otherwise. -/
theorem fromJson_encode
    (accepted : bundle.validateAndNormalize acceptsServerName =
      .ok normalized) :
    EnrollmentBundle.fromJson acceptsServerName codec
        (codec.encode normalized.toJson) =
      if codec.bytes (codec.encode normalized.toJson) ≤ maxEnrollmentBytes
      then .ok normalized
      else .error (.refused ⟨.limit, "enrollment exceeds 16 KiB"⟩) := by
  rw [EnrollmentBundle.fromJson, codec.readBundle_encode]
  split
  next fits =>
      rw [refuse, if_neg (Nat.not_lt.mpr fits)]
      exact validateAndNormalize_normalized accepted
  next long =>
      rw [refuse, if_pos (Nat.lt_of_not_le long)]
      rfl

/-- A document that was written is read back exactly when it is not too
long. -/
theorem fromJson_canonical_iff
    (counted : ∀ value, codec.bytes (codec.encode value) =
      (Text.utf8 (Json.write value)).length)
    (accepted : bundle.validateAndNormalize acceptsServerName =
      .ok normalized) :
    EnrollmentBundle.fromJson acceptsServerName codec
        (codec.encode normalized.toJson) = .ok normalized ↔
      documentBytes bundle.node bundle.principalId bundle.trust ≤
        maxEnrollmentBytes := by
  rw [fromJson_encode accepted, counted, length_utf8_normalized accepted]
  split
  next fits => simp [fits]
  next long => simp [long]

end Documents

/-- A new enrollment has a document, and the document of an enrollment is
imported as that enrollment, and written again as it was, exactly when it has
at most 16 KiB with its escapes. -/
theorem enrollment_documents_iff {Document : Type}
    (codec : EnrollmentCodec Document) (acceptsServerName : String → Bool)
    (counted : ∀ value, codec.bytes (codec.encode value) =
      (Text.utf8 (Json.write value)).length) :
    (∀ node principalId credential trust bundle,
      EnrollmentBundle.new acceptsServerName node principalId credential trust =
          .ok bundle →
        ∃ document,
          bundle.toCanonicalJson acceptsServerName codec.toJsonCodec =
            .ok document ∧
          (EnrollmentBundle.fromJson acceptsServerName codec document =
              .ok bundle ↔
            documentBytes node principalId trust ≤ maxEnrollmentBytes)) ∧
    ∀ source parsed bundle, codec.readBundle source = .ok parsed →
      EnrollmentBundle.fromJson acceptsServerName codec source = .ok bundle →
        ∃ document,
          bundle.toCanonicalJson acceptsServerName codec.toJsonCodec =
            .ok document ∧
          ((do
              let again ← EnrollmentBundle.fromJson acceptsServerName codec
                document
              again.toCanonicalJson acceptsServerName codec.toJsonCodec) =
              .ok document ↔
            documentBytes parsed.node parsed.principalId parsed.trust ≤
              maxEnrollmentBytes) := by
  constructor
  · intro node principalId credential trust bundle created
    rw [EnrollmentBundle.new] at created
    have readBack := fromJson_canonical_iff counted created
    exact ⟨_, toCanonicalJson_normalized created, readBack⟩
  · intro source parsed bundle read taken
    have accepted : parsed.validateAndNormalize acceptsServerName =
        .ok bundle := by
      obtain ⟨_, _, taken⟩ := bind_eq_ok taken
      rw [read] at taken
      exact taken
    have written := @toCanonicalJson_normalized _ _ _ Document codec accepted
    refine ⟨_, written, ?_⟩
    rw [← fromJson_canonical_iff counted accepted]
    constructor
    · intro again
      obtain ⟨found, isRead, _⟩ := bind_eq_ok again
      rw [fromJson_encode accepted] at isRead ⊢
      split at isRead
      next fits => rw [if_pos fits]
      next => cases isRead
    · intro isRead
      rw [isRead]
      exact written

theorem enrollment_document_of_sample :
    EnrollmentBundle.fromJson (fun _ => true) EnrollmentBundle.texts
        (Json.write (sampleBundle (Hex.encode (List.replicate 32 1))).toJson) =
      .ok (sampleBundle (Hex.encode (List.replicate 32 1))) := by
  have created : EnrollmentBundle.new (fun _ => true)
      (sampleBundle "").node 2 (List.replicate 32 1) .system =
        .ok (sampleBundle (Hex.encode (List.replicate 32 1))) := by rfl
  have short : documentBytes (sampleBundle "").node 2 .system ≤
      maxEnrollmentBytes := by decide
  obtain ⟨document, written, readBack⟩ :=
    (enrollment_documents_iff EnrollmentBundle.texts (fun _ => true)
      (fun _ => rfl)).1 _ _ _ _ _ created
  have same := @toCanonicalJson_normalized _ _ _ Text EnrollmentBundle.texts
    created
  rw [same] at written
  cases written
  exact readBack.mpr short

theorem utf8ByteSize_eq (text : String) :
    text.utf8ByteSize = (Text.utf8 text.toList).length := by
  conv_lhs => rw [← @String.ofList_toList text]
  rw [String.utf8ByteSize, String.toByteArray_ofList, List.utf8Encode,
    List.size_toByteArray, Text.utf8]

theorem length_utf8_lines (front : Text) (lines : Nat) :
    (Text.utf8 (front ++ List.replicate lines '\n')).length =
      (Text.utf8 front).length + lines := by
  rw [Json.length_utf8_append, Nat.add_left_cancel_iff]
  induction lines with
  | zero => rfl
  | succ lines induction =>
      rw [List.replicate_succ, Json.length_utf8_ascii (by decide), induction]

theorem length_utf8_escaped_lines (front : Text) (lines : Nat) :
    (Text.utf8 ((front ++ List.replicate lines '\n').flatMap
        Json.escapeChar)).length =
      (Text.utf8 (front.flatMap Json.escapeChar)).length + 2 * lines := by
  have line : (Text.utf8 (Json.escapeChar '\n')).length = 2 := by decide
  rw [List.flatMap_append, Json.length_utf8_append, Nat.add_left_cancel_iff]
  induction lines with
  | zero => rfl
  | succ lines induction =>
      rw [List.replicate_succ, List.flatMap_cons, Json.length_utf8_append, line,
        induction]
      omega

/-- A certificate that has only its first line and empty lines. -/
def blankCertificate (lines : Nat) : String :=
  String.ofList ("-----BEGIN CERTIFICATE-----".toList ++
    List.replicate lines '\n')

theorem toList_blankCertificate (lines : Nat) :
    (blankCertificate lines).toList =
      "-----BEGIN CERTIFICATE-----".toList ++ List.replicate lines '\n' :=
  String.toList_ofList

theorem utf8ByteSize_blankCertificate (lines : Nat) :
    (blankCertificate lines).utf8ByteSize = 27 + lines := by
  have header : (Text.utf8 "-----BEGIN CERTIFICATE-----".toList).length =
      27 := by decide +kernel
  rw [utf8ByteSize_eq, toList_blankCertificate, length_utf8_lines, header]

theorem escapedBytes_blankCertificate (lines : Nat) :
    Json.escapedBytes (blankCertificate lines) = 27 + 2 * lines := by
  have header : (Text.utf8 ("-----BEGIN CERTIFICATE-----".toList.flatMap
      Json.escapeChar)).length = 27 := by decide +kernel
  rw [Json.escapedBytes, toList_blankCertificate, length_utf8_escaped_lines,
    header]

theorem validateTrust_blankCertificate {lines : Nat}
    (few : lines ≤ 12000) :
    EnrollmentBundle.validateTrust (.customCa (blankCertificate lines)) =
      .ok () := by
  have size := utf8ByteSize_blankCertificate lines
  have filled : blankCertificate lines ≠ "" := by
    intro empty
    rw [empty, String.utf8ByteSize_empty] at size
    omega
  have small :
      ¬(blankCertificate lines).utf8ByteSize > maxCertificateBytes := by
    rw [size, maxCertificateBytes]
    omega
  have begins : occursIn "-----BEGIN CERTIFICATE-----"
      (blankCertificate lines) = true := by
    apply List.any_eq_true.mpr
    refine ⟨(blankCertificate lines).toList, ?_, ?_⟩
    · exact List.mem_tails _ _ |>.mpr List.suffix_rfl
    · rw [List.isPrefixOf_iff_prefix, toList_blankCertificate]
      exact List.prefix_append _ _
  rw [EnrollmentBundle.validateTrust, refuse, if_neg]
  simp only [filled, small, begins, not_or, Bool.true_eq_false,
    not_false_eq_true, and_self]

/-- A certificate of little more than 8 KiB has a document of more than
16 KiB, which cannot be imported. -/
theorem enrollment_document_too_long :
    ∃ bundle, EnrollmentBundle.new (fun _ => true) (sampleBundle "").node 2
        (List.replicate 32 1) (.customCa (blankCertificate 8200)) =
          .ok bundle ∧
      bundle.toCanonicalJson (fun _ => true) Json.texts =
        .ok (Json.write bundle.toJson) ∧
      EnrollmentBundle.fromJson (fun _ => true) EnrollmentBundle.texts
        (Json.write bundle.toJson) =
        .error (.refused ⟨.limit, "enrollment exceeds 16 KiB"⟩) := by
  have trusted : EnrollmentBundle.validateTrust
      (.customCa (blankCertificate 8200)) = .ok () :=
    validateTrust_blankCertificate (by omega)
  have created : EnrollmentBundle.new (fun _ => true) (sampleBundle "").node 2
      (List.replicate 32 1) (.customCa (blankCertificate 8200)) =
        .ok { sampleBundle (Hex.encode (List.replicate 32 1)) with
          trust := .customCa (blankCertificate 8200) } := by
    rw [EnrollmentBundle.new, EnrollmentBundle.validateAndNormalize, trusted]
    rfl
  have written := @toCanonicalJson_normalized _ _ _ Text
    EnrollmentBundle.texts created
  refine ⟨_, created, written, ?_⟩
  have long : ¬documentBytes (sampleBundle "").node 2
      (.customCa (blankCertificate 8200)) ≤ maxEnrollmentBytes := by
    rw [documentBytes, trustBytes, escapedBytes_blankCertificate,
      maxEnrollmentBytes]
    omega
  have bytes := length_utf8_normalized created
  have read := @fromJson_encode _ _ _ Text EnrollmentBundle.texts created
  rw [if_neg] at read
  · exact read
  · exact fun fits => long (bytes ▸ fits)

end Velum.Node
