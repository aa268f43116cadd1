import Velum.Foundation.Checked
import Velum.Foundation.OrderedMap
import Velum.Protocol.Datagram
import Mathlib.Data.Prod.Lex

/-!
# Server-side admission policy

Authentication of principals, exact authorisation of destinations, and the
in-memory accounting of sessions and flows.  A session is counted under its
principal and its lease; leases are numbered from a checked counter.
-/

namespace Velum.Server

open Foundation Protocol

structure PrincipalId where
  value : UInt64
  deriving DecidableEq, Repr

namespace PrincipalId

theorem value_toNat_injective :
    Function.Injective fun principal : PrincipalId =>
      principal.value.toNat := by
  intro left right equality
  cases left
  cases right
  exact congrArg PrincipalId.mk (UInt64.toNat_inj.mp equality)

instance : LinearOrder PrincipalId :=
  LinearOrder.lift' (fun principal : PrincipalId => principal.value.toNat)
    value_toNat_injective

end PrincipalId

inductive AuthenticationError where
  | invalidCredential
  | duplicateCredential
  | duplicatePrincipal
  | inconsistentCredentialLength
  deriving DecidableEq, Repr

structure PrincipalCredential where
  principal : PrincipalId
  secret : List UInt8
  nonempty : secret.isEmpty = false

def PrincipalCredential.new (principal : PrincipalId)
    (secret : List UInt8) :
    Except AuthenticationError PrincipalCredential :=
  if nonempty : secret.isEmpty = false then
    .ok { principal, secret, nonempty }
  else .error .invalidCredential

/-- Shared-secret authentication.  The comparison in constant time is
equality. -/
structure Authenticator where
  credentials : OrderedMap PrincipalId (List UInt8) := .empty
  secretLength : Option Nat := none

namespace Authenticator

/-- The loop of `new`. -/
def configure (configured : Authenticator) :
    List PrincipalCredential → Except AuthenticationError Authenticator
  | [] => .ok configured
  | credential :: rest =>
      if configured.secretLength.any (· ≠ credential.secret.length) then
        .error .inconsistentCredentialLength
      else if configured.credentials.entries.any
          (·.2 = credential.secret) then
        .error .duplicateCredential
      else if configured.credentials.contains credential.principal then
        .error .duplicatePrincipal
      else
        configure
          { credentials := configured.credentials.insert
              credential.principal credential.secret
            secretLength := some credential.secret.length } rest

def new (credentials : List PrincipalCredential) :
    Except AuthenticationError Authenticator :=
  configure {} credentials

def authenticate (authenticator : Authenticator) (secret : List UInt8) :
    Except AuthenticationError PrincipalId :=
  if authenticator.secretLength ≠ some secret.length then
    .error .invalidCredential
  else
    let authenticated := authenticator.credentials.entries.foldl
      (fun found entry => if entry.2 = secret then some entry.1 else found)
      none
    match authenticated with
    | none => .error .invalidCredential
    | some principal => .ok principal

end Authenticator

/-- Exact destination allowlist.  An empty policy denies every target. -/
structure DestinationPolicy where
  allowed : List SocketAddr := []

def DestinationPolicy.allows (policy : DestinationPolicy)
    (target : SocketAddr) : Bool :=
  target ∈ policy.allowed

structure PrincipalQuota where
  maxSessions : Nat
  maxFlowsPerSession : Nat
  deriving DecidableEq, Repr

inductive AdmissionError where
  | sessionQuotaExceeded
  | flowQuotaExceeded
  | unknownSession
  deriving DecidableEq, Repr

structure SessionLease where
  value : UInt64
  deriving DecidableEq, Repr

/-- A session is stored under its principal and its lease. -/
structure SessionKey where
  principal : PrincipalId
  lease : SessionLease
  deriving DecidableEq, Repr

namespace SessionKey

/-- The order of the pair, first by principal. -/
def rank (key : SessionKey) : Lex (Nat × Nat) :=
  toLex (key.principal.value.toNat, key.lease.value.toNat)

theorem rank_injective : Function.Injective rank := by
  intro left right equality
  obtain ⟨principal, lease⟩ := left
  obtain ⟨otherPrincipal, otherLease⟩ := right
  obtain ⟨first, second⟩ := Prod.mk.inj (toLex.injective equality)
  have samePrincipal : principal = otherPrincipal :=
    PrincipalId.value_toNat_injective first
  have sameLease : lease = otherLease :=
    congrArg SessionLease.mk (UInt64.toNat_inj.mp second)
  rw [samePrincipal, sameLease]

instance : LinearOrder SessionKey :=
  LinearOrder.lift' rank rank_injective

end SessionKey

structure SessionUsage where
  flows : Nat := 0
  deriving DecidableEq, Repr

/-- The only panic of the accounting: the lease counter is exhausted. -/
inductive Panic where
  | sessionLeaseExhausted
  deriving DecidableEq, Repr

/-- In-memory quota accounting for one server process. -/
structure AdmissionControl where
  quota : PrincipalQuota
  nextLease : UInt64 := 0
  sessions : OrderedMap SessionKey SessionUsage := .empty

namespace AdmissionControl

def new (quota : PrincipalQuota) : AdmissionControl :=
  { quota }

/-- How many sessions are stored under a principal. -/
def sessionCount (control : AdmissionControl) (principal : PrincipalId) :
    Nat :=
  control.sessions.entries.countP (·.1.principal = principal)

def openSession (control : AdmissionControl) (principal : PrincipalId) :
    Outcome Panic AdmissionError SessionLease × AdmissionControl :=
  if control.sessionCount principal ≥ control.quota.maxSessions then
    (.err .sessionQuotaExceeded, control)
  else
    match checkedAdd control.nextLease 1 with
    | none => (.panic .sessionLeaseExhausted, control)
    | some nextLease =>
        let lease : SessionLease := ⟨control.nextLease⟩
        (.ok lease, { control with
          nextLease
          sessions := control.sessions.insert ⟨principal, lease⟩ {} })

def openFlow (control : AdmissionControl) (principal : PrincipalId)
    (lease : SessionLease) : Except AdmissionError Unit × AdmissionControl :=
  match control.sessions.get? ⟨principal, lease⟩ with
  | none => (.error .unknownSession, control)
  | some usage =>
      if usage.flows ≥ control.quota.maxFlowsPerSession then
        (.error .flowQuotaExceeded, control)
      else
        (.ok (), { control with
          sessions := control.sessions.insert ⟨principal, lease⟩
            { flows := usage.flows + 1 } })

def closeFlow (control : AdmissionControl) (principal : PrincipalId)
    (lease : SessionLease) : Except AdmissionError Unit × AdmissionControl :=
  match control.sessions.get? ⟨principal, lease⟩ with
  | none => (.error .unknownSession, control)
  | some usage =>
      if usage.flows = 0 then (.error .unknownSession, control)
      else
        (.ok (), { control with
          sessions := control.sessions.insert ⟨principal, lease⟩
            { flows := usage.flows - 1 } })

def closeSession (control : AdmissionControl) (principal : PrincipalId)
    (lease : SessionLease) : Except AdmissionError Unit × AdmissionControl :=
  match control.sessions.get? ⟨principal, lease⟩ with
  | none => (.error .unknownSession, control)
  | some _ =>
      (.ok (), { control with
        sessions := control.sessions.erase ⟨principal, lease⟩ })

/-! ## What an operation that succeeds has done -/

theorem openSession_ok {control next : AdmissionControl}
    {principal : PrincipalId} {lease : SessionLease}
    (opened : control.openSession principal = (.ok lease, next)) :
    control.sessionCount principal < control.quota.maxSessions ∧
      lease.value = control.nextLease ∧
      next.nextLease.toNat = control.nextLease.toNat + 1 ∧
      next.quota = control.quota ∧
      next.sessions = control.sessions.insert ⟨principal, lease⟩ {} := by
  unfold openSession at opened
  split at opened
  · cases opened
  · rename_i below
    split at opened
    · cases opened
    · rename_i nextLease added
      cases opened
      exact ⟨Nat.not_le.mp below, rfl, checkedAdd_eq_some_iff.mp added, rfl,
        rfl⟩

theorem openFlow_ok {control next : AdmissionControl}
    {principal : PrincipalId} {lease : SessionLease}
    (opened : control.openFlow principal lease = (.ok (), next)) :
    ∃ usage, control.sessions.get? ⟨principal, lease⟩ = some usage ∧
      usage.flows < control.quota.maxFlowsPerSession ∧
      next = { control with
        sessions := control.sessions.insert ⟨principal, lease⟩
          { flows := usage.flows + 1 } } := by
  unfold openFlow at opened
  split at opened
  · cases opened
  · rename_i usage found
    split at opened
    · cases opened
    · rename_i below
      cases opened
      exact ⟨usage, found, Nat.not_le.mp below, rfl⟩

theorem closeFlow_of_get? {control : AdmissionControl}
    {principal : PrincipalId} {lease : SessionLease} {flows : Nat}
    (found : control.sessions.get? ⟨principal, lease⟩ =
      some { flows := flows + 1 }) :
    control.closeFlow principal lease = (.ok (), { control with
      sessions := control.sessions.insert ⟨principal, lease⟩
        { flows } }) := by
  unfold closeFlow
  rw [found]
  rfl

theorem closeSession_of_get? {control : AdmissionControl}
    {principal : PrincipalId} {lease : SessionLease} {usage : SessionUsage}
    (found : control.sessions.get? ⟨principal, lease⟩ = some usage) :
    control.closeSession principal lease = (.ok (), { control with
      sessions := control.sessions.erase ⟨principal, lease⟩ }) := by
  unfold closeSession
  rw [found]

/-! ## Only a new session draws a lease -/

theorem openFlow_frame (control : AdmissionControl)
    (principal : PrincipalId) (lease : SessionLease) :
    (control.openFlow principal lease).2.quota = control.quota ∧
      (control.openFlow principal lease).2.nextLease = control.nextLease := by
  unfold openFlow
  split
  · exact ⟨rfl, rfl⟩
  · split
    · exact ⟨rfl, rfl⟩
    · exact ⟨rfl, rfl⟩

theorem closeFlow_frame (control : AdmissionControl)
    (principal : PrincipalId) (lease : SessionLease) :
    (control.closeFlow principal lease).2.quota = control.quota ∧
      (control.closeFlow principal lease).2.nextLease =
        control.nextLease := by
  unfold closeFlow
  split
  · exact ⟨rfl, rfl⟩
  · split
    · exact ⟨rfl, rfl⟩
    · exact ⟨rfl, rfl⟩

theorem closeSession_frame (control : AdmissionControl)
    (principal : PrincipalId) (lease : SessionLease) :
    (control.closeSession principal lease).2.quota = control.quota ∧
      (control.closeSession principal lease).2.nextLease =
        control.nextLease := by
  unfold closeSession
  split
  · exact ⟨rfl, rfl⟩
  · exact ⟨rfl, rfl⟩

/-! ## An operation that fails changes nothing -/

theorem openSession_unchanged {control next : AdmissionControl}
    {principal : PrincipalId}
    {outcome : Outcome Panic AdmissionError SessionLease}
    (tried : control.openSession principal = (outcome, next))
    (failed : ∀ lease, outcome ≠ .ok lease) : next = control := by
  unfold openSession at tried
  split at tried
  · cases tried
    rfl
  · split at tried
    · cases tried
      rfl
    · cases tried
      exact absurd rfl (failed _)

theorem openFlow_unchanged {control next : AdmissionControl}
    {principal : PrincipalId} {lease : SessionLease} {error : AdmissionError}
    (tried : control.openFlow principal lease = (.error error, next)) :
    next = control := by
  unfold openFlow at tried
  split at tried
  · cases tried
    rfl
  · split at tried
    · cases tried
      rfl
    · cases tried

end AdmissionControl

end Velum.Server
