import Velum.Foundation.FilePath
import Velum.Foundation.HostFiles

/-!
# Activation of an ACME certificate pair

The certificate and the private key that Lego has produced are copied beside
their destinations, the files there are backed up, and then the copies are
renamed onto the destinations.  Each operation carries a label, which nothing
in the program reads.
-/

namespace Velum.Node.Acme

open Foundation

inductive PairHalf where
  | certificate
  | privateKey
  deriving DecidableEq, Repr

inductive AcmeStep where
  | readGenerated (half : PairHalf)
  | createDirectory (half : PairHalf)
  | copyStage (half : PairHalf)
  | restrictStage (half : PairHalf)
  | copyBackup (half : PairHalf)
  | restrictBackup (half : PairHalf)
  | replace (half : PairHalf)
  | reload
  | removeStage (half : PairHalf)
  | removeBackup (half : PairHalf)
  | restore (half : PairHalf)
  deriving DecidableEq, Repr

/-- A step that takes an earlier one back, or clears up after it. -/
def AcmeStep.undoes : AcmeStep → Bool
  | .removeStage _ => true
  | .removeBackup _ => true
  | .restore _ => true
  | _ => false

structure ListenerConfig where
  certificate : FilePath
  privateKey : FilePath

def ListenerConfig.path (listener : ListenerConfig) : PairHalf → FilePath
  | .certificate => listener.certificate
  | .privateKey => listener.privateKey

structure AcmeConfig where
  domains : List Text
  stateDir : FilePath

/-- The file that Lego writes for a domain. -/
def AcmeConfig.generated (acme : AcmeConfig) (domain : Text)
    (half : PairHalf) : FilePath :=
  (acme.stateDir.join "certificates".toList).join
    (domain ++ '.' :: match half with
      | .certificate => "crt".toList
      | .privateKey => "key".toList)

def temporaryPath (destination : FilePath) (label : Text) : FilePath :=
  destination.withExtension ("velum-acme-".toList ++ label)

def stagePath (destination : FilePath) : FilePath :=
  temporaryPath destination "stage".toList

def backupPath (destination : FilePath) : FilePath :=
  temporaryPath destination "backup".toList

abbrev Program (Contents : Type) :=
  HostProgram AcmeStep FilePath Contents

variable {Contents : Type}

open HostProgram

def restrictFile (step : AcmeStep) (path : FilePath) : Program Contents Unit :=
  attempt step (.restrict path) fun error =>
    "cannot secure certificate file " ++ path.display ++ ": " ++ error

def cleanupPath (step : AcmeStep) (path : FilePath) : Program Contents Unit :=
  discard step path

def cleanup (step : AcmeStep) : Option FilePath → Program Contents Unit
  | some path => cleanupPath step path
  | none => pure ()

def stagePrivateFile (half : PairHalf) (source destination : FilePath) :
    Program Contents FilePath :=
  match destination.parent with
  | none => throw "certificate destination has no parent directory"
  | some parent => do
      attempt (.createDirectory half) (.createDirectory parent) fun error =>
        "cannot create certificate directory " ++ parent.display ++ ": " ++
          error
      let temporary := stagePath destination
      if ← look temporary then
        throw ("ACME staging file " ++ temporary.display ++
          " already exists; resolve the previous activation first")
      else do
        attempt (.copyStage half) (.copy source temporary) fun error =>
          "cannot stage certificate " ++ destination.display ++ ": " ++ error
        restrictFile (.restrictStage half) temporary
        return temporary

def backupFile (half : PairHalf) (path : FilePath) :
    Program Contents (Option FilePath) := do
  if ← look path then do
    let backup := backupPath path
    if ← look backup then
      throw ("ACME backup file " ++ backup.display ++
        " already exists; resolve the previous activation first")
    else do
      attempt (.copyBackup half) (.copy path backup) fun error =>
        "cannot back up certificate " ++ path.display ++ ": " ++ error
      restrictFile (.restrictBackup half) backup
      return some backup
  else
    return none

def replaceFile (half : PairHalf) (staged destination : FilePath) :
    Program Contents Unit :=
  attempt (.replace half) (.rename staged destination) fun error =>
    "cannot activate certificate " ++ destination.display ++ ": " ++ error

def restoreFile (half : PairHalf) (destination : FilePath) :
    Option FilePath → Program Contents Unit
  | some backup =>
      attempt (.restore half) (.rename backup destination) fun error =>
        "cannot restore certificate " ++ destination.display ++ " from " ++
          backup.display ++ ": " ++ error
  | none => do
      if ← look destination then
        attempt (.restore half) (.remove destination) fun error =>
          "cannot remove certificate " ++ destination.display ++ ": " ++ error
      else
        return ()

structure ActivatedPair where
  certificate : FilePath
  privateKey : FilePath
  certificateBackup : Option FilePath
  privateKeyBackup : Option FilePath

namespace ActivatedPair

def commit (pair : ActivatedPair) : Program Contents Unit := do
  cleanup (.removeBackup .certificate) pair.certificateBackup
  cleanup (.removeBackup .privateKey) pair.privateKeyBackup

def rollback (pair : ActivatedPair) : Program Contents Unit := do
  let privateKey ←
    outcome (restoreFile .privateKey pair.privateKey pair.privateKeyBackup)
  let certificate ←
    outcome (restoreFile .certificate pair.certificate pair.certificateBackup)
  match privateKey, certificate with
  | .ok _, .ok _ => return ()
  | .error error, .ok _ => throw error
  | .ok _, .error error => throw error
  | .error privateKey, .error certificate =>
      throw ("private key rollback failed: " ++ privateKey ++
        "; certificate rollback failed: " ++ certificate)

end ActivatedPair

def activatePair (stagedCertificate stagedPrivateKey certificate
    privateKey : FilePath) : Program Contents ActivatedPair := do
  let certificateBackup ← backupFile .certificate certificate
  let privateKeyBackup ← tryCatch (backupFile .privateKey privateKey)
    fun error => do
      cleanup (.removeBackup .certificate) certificateBackup
      throw error
  tryCatch (replaceFile .certificate stagedCertificate certificate)
    fun error => do
      cleanup (.removeBackup .certificate) certificateBackup
      cleanup (.removeBackup .privateKey) privateKeyBackup
      throw error
  tryCatch (replaceFile .privateKey stagedPrivateKey privateKey)
    fun error => do
      let rollback ←
        outcome (restoreFile .certificate certificate certificateBackup)
      cleanup (.removeBackup .privateKey) privateKeyBackup
      match rollback with
      | .ok _ => throw error
      | .error rollbackError =>
          throw (error ++ "; additionally failed to restore certificate " ++
            certificate.display ++ ": " ++ rollbackError)
  return { certificate, privateKey, certificateBackup, privateKeyBackup }

/-- The service's reload, as one request that may fail. -/
def requestReload : Program Contents Unit :=
  attempt .reload .request id

/-- What is left to do with an activated pair. -/
def finish (reloadRequired : Bool) (activation : ActivatedPair) :
    Program Contents Unit :=
  if reloadRequired then do
    match ← outcome requestReload with
    | .ok _ => activation.commit
    | .error error =>
        match ← outcome activation.rollback with
        | .ok _ =>
            throw (error ++ "; restored the previous certificate pair")
        | .error rollbackError =>
            throw (error ++ "; additionally failed to restore the previous " ++
              "certificate pair: " ++ rollbackError)
  else activation.commit

/-- The pair of a domain is staged and activated. -/
def install (listener : ListenerConfig) (certificate privateKey : FilePath)
    (reloadRequired : Bool) : Program Contents Unit := do
  let stagedCertificate ←
    stagePrivateFile .certificate certificate listener.certificate
  let stagedPrivateKey ←
    tryCatch (stagePrivateFile .privateKey privateKey listener.privateKey)
      fun error => do
        cleanupPath (.removeStage .certificate) stagedCertificate
        throw error
  let activation ←
    tryCatch (activatePair stagedCertificate stagedPrivateKey
        listener.certificate listener.privateKey)
      fun error => do
        cleanupPath (.removeStage .certificate) stagedCertificate
        cleanupPath (.removeStage .privateKey) stagedPrivateKey
        throw error
  finish reloadRequired activation

/-- `checkPair` parses the two files and loads them as the pair of a server. -/
def activate (checkPair : Contents → Contents → Except String Unit)
    (listener : ListenerConfig) (acme : AcmeConfig) (reloadRequired : Bool) :
    Program Contents Unit :=
  if listener.certificate = listener.privateKey then
    throw "ACME requires distinct certificate and private-key paths"
  else
    match acme.domains.head? with
    | none => throw "ACME requires at least one domain"
    | some domain => do
        let certificate := acme.generated domain .certificate
        let privateKey := acme.generated domain .privateKey
        let chain ← read (.readGenerated .certificate) certificate fun error =>
          "cannot read certificate " ++ certificate.display ++ ": " ++ error
        let key ← read (.readGenerated .privateKey) privateKey fun error =>
          "cannot read private key " ++ privateKey.display ++ ": " ++ error
        match checkPair chain key with
        | .error error => throw error
        | .ok _ => install listener certificate privateKey reloadRequired

end Velum.Node.Acme
