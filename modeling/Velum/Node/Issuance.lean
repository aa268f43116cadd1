import Velum.Foundation.FilePath
import Velum.Foundation.HostFiles
import Velum.Node.Enrollment

/-!
# Issuance on the relay's files

What an issuance writes: the secret of the new credential, the configuration,
and the enrollment file.  Each operation carries a label, which nothing in the
program reads; the operations of an undo have labels of their own.
-/

namespace Velum.Node.Issuance

open Foundation

inductive ConfigStep where
  | createDirectory
  | write
  | restrict
  | activate
  deriving DecidableEq, Repr

inductive IssueStep where
  | readConfig
  | createCredentials
  | writeSecret
  | restrictSecret
  | config (step : ConfigStep)
  | createOutput
  | createEnrollment
  | writeEnrollment
  | rollback (step : ConfigStep)
  | removeSecret
  | removeEnrollment
  deriving DecidableEq, Repr

def IssueStep.undoes : IssueStep → Bool
  | .rollback _ => true
  | .removeSecret => true
  | .removeEnrollment => true
  | _ => false

/-- A step of the delivery, which comes after the configuration. -/
def IssueStep.delivers : IssueStep → Bool
  | .createOutput => true
  | .createEnrollment => true
  | .writeEnrollment => true
  | _ => false

/-- The configuration of a relay; `rest` is what an issuance copies. -/
structure Config (Rest : Type) where
  bind : String
  credentials : List CredentialConfig
  rest : Rest

/-- The texts of configurations.  They are written field by field, so what can
be written with one more credential can be written without it. -/
structure ConfigCodec (Rest : Type) where
  fromStr : String → Except String (Config Rest)
  toStringPretty : Config Rest → Except String String
  toStringPretty_append : ∀ config credential encoded,
    toStringPretty
        { config with credentials := config.credentials ++ [credential] } =
      .ok encoded →
    ∃ shorter, toStringPretty config = .ok shorter

/-- The template up to the address of the listener. -/
def templateFront : String :=
  "\n# Optional reverse-proxy cover service. It accepts plaintext HTTP/1.1 " ++
  "behind\n# an operator-owned TLS terminator; omit this section to keep it " ++
  "disabled.\n# [cover_service]\n# bind = \""

def templateBack : String :=
  "\"\n# upstream = \"cover.example.com:8080\"\n" ++
  "# request_head_timeout_secs = 5\n# upstream_timeout_secs = 5\n" ++
  "# max_connections = 256\n"

def coverServiceTemplate (bind : String) : String :=
  templateFront ++ bind ++ templateBack

/-- The text of a configuration file. -/
def written {Rest : Type} (config : Config Rest) (encoded : String) : String :=
  encoded ++ "\n" ++ coverServiceTemplate config.bind

abbrev Program := HostProgram IssueStep FilePath String

open HostProgram

def restrictPermissions (step : IssueStep) (path : FilePath) : Program Unit :=
  attempt step (.restrict path) fun error =>
    "cannot restrict permissions on " ++ path.display ++ ": " ++ error

section Config

variable {Rest : Type} (toml : ConfigCodec Rest)

def read (path : FilePath) : Program (Config Rest) := do
  let text ← HostProgram.read .readConfig path fun error =>
    "cannot read configuration " ++ path.display ++ ": " ++ error
  match toml.fromStr text with
  | .error error =>
      throw ("invalid configuration " ++ path.display ++ ": " ++ error)
  | .ok config => return config

def write (label : ConfigStep → IssueStep) (path : FilePath)
    (config : Config Rest) : Program Unit :=
  match path.parent with
  | none => throw "configuration path has no parent directory"
  | some parent => do
      attempt (label .createDirectory) (.createDirectory parent) fun error =>
        "cannot create configuration directory " ++ parent.display ++ ": " ++
          error
      match toml.toStringPretty config with
      | .error error => throw ("cannot encode configuration: " ++ error)
      | .ok encoded => do
          let temporary := path.withExtension "toml.tmp".toList
          attempt (label .write) (.write temporary (written config encoded))
            fun error =>
              "cannot write configuration " ++ temporary.display ++ ": " ++
                error
          restrictPermissions (label .restrict) temporary
          attempt (label .activate) (.rename temporary path) fun error =>
            "cannot activate configuration " ++ path.display ++ ": " ++ error

end Config

def writeSecret (path : FilePath) (secret : List UInt8) : Program Unit :=
  match path.parent with
  | none => throw "credential path has no parent directory"
  | some parent => do
      attempt .createCredentials (.createDirectory parent) fun error =>
        "cannot create credential directory " ++ parent.display ++ ": " ++
          error
      if ← look path then
        throw ("credential file " ++ path.display ++ " already exists")
      else do
        attempt .writeSecret (.write path (Hex.encode secret ++ "\n"))
          fun error =>
            "cannot write credential file " ++ path.display ++ ": " ++ error
        restrictPermissions .restrictSecret path

def writePrivateNew (path : FilePath) (contents : String) : Program Unit :=
  match path.parent with
  | none => throw "enrollment path has no parent directory"
  | some parent => do
      attempt .createOutput (.createDirectory parent) fun error =>
        "cannot create enrollment directory " ++ parent.display ++ ": " ++
          error
      attempt .createEnrollment (.createNew path "") fun error =>
        "cannot create enrollment file " ++ path.display ++ ": " ++ error
      tryCatch
        (attempt .writeEnrollment (.write path contents) fun error =>
          "cannot write enrollment file " ++ path.display ++ ": " ++ error)
        fun error => do
          discard .removeEnrollment path
          throw error

/-- The file of a new credential's secret. -/
def secretFile (configParent : FilePath) (clientName : String)
    (principalId : UInt64) : FilePath :=
  (configParent.join "credentials".toList).join
    (slug clientName ++ "-" ++ principalId.toNat.repr ++ ".hex").toList

section Issue

variable {Rest Document : Type} (toml : ConfigCodec Rest)
  (codec : EnrollmentCodec Document) (characters : Document → String)
  (acceptsServerName : String → Bool) (host : RelayHost Document)

/-- The code is on the terminal, or the enrollment is written to a file. -/
def deliver (delivery : Delivery) (output : FilePath) (canonical : Document) :
    Program Unit :=
  match delivery with
  | .qr => pure ()
  | .file =>
      writePrivateNew output
        (characters (deliveredText codec .file canonical))

/-- What follows a delivery that has failed with an error. -/
def undoDelivery (configPath : FilePath) (original : Config Rest)
    (secretPath : FilePath) (error : String) : Program Unit := do
  let rollback ← outcome (write toml .rollback configPath original)
  discard .removeSecret secretPath
  match rollback with
  | .ok _ => throw error
  | .error rollback =>
      throw (error ++ "; configuration rollback also failed: " ++ rollback)

/-- The writing of the secret and of the configuration, and the delivery. -/
def commitIssue (options : IssueOptions) (configPath output : FilePath)
    (original : Config Rest) (prepared : Prepared Document)
    (secretPath : FilePath) : Program Unit := do
  writeSecret secretPath prepared.secret
  let updated := { original with
    credentials := original.credentials ++ [{
      id := prepared.principalId
      name := some options.clientName
      secretFile := secretPath.display }] }
  tryCatch (write toml .config configPath updated) fun error => do
    discard .removeSecret secretPath
    throw error
  tryCatch (deliver codec characters options.delivery output
    prepared.canonical) (undoDelivery toml configPath original secretPath)

/-- `host` answers for what is read besides the configuration, and for the new
secret; its own writing is not used. -/
def issue (options : IssueOptions) (configPath output : FilePath) :
    Program Unit :=
  match validateClientName options.clientName with
  | .error error => throw error
  | .ok _ => do
      let original ← read toml configPath
      let host := { host with
        configParent := configPath.parent.map FilePath.display }
      match prepareIssue codec acceptsServerName host options
          original.credentials with
      | .error error => throw error
      | .ok prepared =>
          match configPath.parent with
          | none => throw "configuration path has no parent directory"
          | some configParent =>
              commitIssue toml codec characters options configPath output
                original prepared
                (secretFile configParent options.clientName
                  prepared.principalId)

end Issue

end Velum.Node.Issuance
