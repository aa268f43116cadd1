import Velum.Foundation.TransitionSystem
import Velum.Server.Ledger

/-!
# Admission of connections

Any number of connections share one accounting.  An operation takes the lock
of its connection and holds it to its end; inside it takes the lock of the
accounting for one section after the other.  The sections of operations on
different connections interleave.
-/

namespace Velum.Node

open Foundation Server

inductive RelayError where
  | invalidControl
  | authenticationRejected
  | destinationRejected
  | sessionQuotaRejected
  | flowQuotaRejected
  | connectFailed
  | transport
  deriving DecidableEq, Repr

/-- The part of the admission that does not change. -/
structure RelayAdmission where
  authenticator : Authenticator
  destinations : DestinationPolicy

/-- The principal and the lease, which are also the key of the accounting. -/
abbrev AdmittedSession := SessionKey

/-- The session has the lease. -/
def HasLease (session : Option AdmittedSession) (lease : SessionLease) :
    Prop :=
  ∃ held, session = some held ∧ held.lease = lease

/-- The error of `open_session` as the relay reports it. -/
def sessionError : AdmissionError → RelayError
  | .sessionQuotaExceeded => .sessionQuotaRejected
  | _ => .transport

/-- The error of `open_flow` as the relay reports it. -/
def flowError : AdmissionError → RelayError
  | .flowQuotaExceeded => .flowQuotaRejected
  | _ => .transport

/-- The operations on one connection.  A flow is a name for the caller that
reserves it. -/
inductive Call where
  | admitDatagram (credential : List UInt8)
  | reserveFlow (flow : Nat) (principal : PrincipalId)
  | releaseFlow (flow : Nat) (lease : SessionLease)
  | close
  deriving DecidableEq

inductive Result where
  | done
  | reserved (lease : SessionLease)
  | failed (error : RelayError)
  | panicked
  deriving DecidableEq, Repr

/-- The operation did not do what it was called for. -/
def Result.Failure : Result → Prop
  | .failed _ => True
  | .panicked => True
  | _ => False

/-- Where the operation is that holds the lock of a connection. -/
inductive Operation where
  | admitDatagram (credential : List UInt8) (principal : PrincipalId)
  | reserve (flow : Nat) (principal : PrincipalId)
  | openFlow (flow : Nat) (session : AdmittedSession) (created : Bool)
  | undo (flow : Nat) (session : AdmittedSession) (error : RelayError)
  | release (flow : Nat) (lease : SessionLease)
  | close
  | closeSession (session : AdmittedSession)
  | finish (call : Call) (result : Result)

/-- The accounting, what each connection is bound to, the operations in
progress, and the flows that were reserved and not yet released. -/
structure Admissions where
  quotas : AdmissionControl
  session : Nat → Option AdmittedSession := fun _ => none
  operation : Nat → Option Operation := fun _ => none
  reserved : Nat → List (Nat × SessionLease) := fun _ => []

/-- The reserved flows after an operation has returned. -/
def Call.settle : Call → Result → List (Nat × SessionLease) →
    List (Nat × SessionLease)
  | .reserveFlow flow _, .reserved lease, reserved => (flow, lease) :: reserved
  | .releaseFlow flow lease, .done, reserved => reserved.erase (flow, lease)
  | _, _, reserved => reserved

theorem Call.settle_of_failure {result : Result} (call : Call)
    (reserved : List (Nat × SessionLease)) (failure : result.Failure) :
    call.settle result reserved = reserved := by
  cases result with
  | done | reserved lease => cases failure
  | failed error | panicked => cases call <;> rfl

inductive Event where
  | began (connection : Nat) (call : Call)
  | opened (connection : Nat) (session : AdmittedSession)
  | progressed (connection : Nat)
  | returned (connection : Nat) (call : Call) (result : Result)
  deriving DecidableEq

def Event.connection : Event → Nat
  | .began connection _ => connection
  | .opened connection _ => connection
  | .progressed connection => connection
  | .returned connection _ _ => connection

namespace Admissions

def setOperation (state : Admissions) (connection : Nat)
    (operation : Option Operation) : Admissions :=
  { state with
    operation := Function.update state.operation connection operation }

def setSession (state : Admissions) (connection : Nat)
    (session : Option AdmittedSession) : Admissions :=
  { state with session := Function.update state.session connection session }

def setReserved (state : Admissions) (connection : Nat)
    (reserved : List (Nat × SessionLease)) : Admissions :=
  { state with
    reserved := Function.update state.reserved connection reserved }

@[simp] theorem operation_setOperation_self (state : Admissions)
    (connection : Nat) (operation : Option Operation) :
    (state.setOperation connection operation).operation connection =
      operation :=
  Function.update_self ..

@[simp] theorem session_setOperation (state : Admissions) (connection : Nat)
    (operation : Option Operation) :
    (state.setOperation connection operation).session = state.session := rfl

@[simp] theorem reserved_setOperation (state : Admissions) (connection : Nat)
    (operation : Option Operation) :
    (state.setOperation connection operation).reserved = state.reserved := rfl

@[simp] theorem session_setSession_self (state : Admissions)
    (connection : Nat) (session : Option AdmittedSession) :
    (state.setSession connection session).session connection = session :=
  Function.update_self ..

@[simp] theorem reserved_setReserved_self (state : Admissions)
    (connection : Nat) (reserved : List (Nat × SessionLease)) :
    (state.setReserved connection reserved).reserved connection = reserved :=
  Function.update_self ..

inductive Step (admission : RelayAdmission) :
    Admissions → Event → Admissions → Prop where
  -- admit_datagram
  | unauthenticated {state : Admissions} {connection : Nat}
      {credential : List UInt8} {error : AuthenticationError}
      (rejected : admission.authenticator.authenticate credential =
        .error error) :
      Step admission state
        (.returned connection (.admitDatagram credential)
          (.failed .authenticationRejected)) state
  | admitDatagram {state : Admissions} {connection : Nat}
      {credential : List UInt8} {principal : PrincipalId}
      (authenticated : admission.authenticator.authenticate credential =
        .ok principal)
      (unlocked : state.operation connection = none) :
      Step admission state (.began connection (.admitDatagram credential))
        (state.setOperation connection
          (some (.admitDatagram credential principal)))
  | admitForeign {state : Admissions} {connection : Nat}
      {credential : List UInt8} {principal : PrincipalId}
      {existing : AdmittedSession}
      (stage : state.operation connection =
        some (.admitDatagram credential principal))
      (bound : state.session connection = some existing)
      (foreign : existing.principal ≠ principal) :
      Step admission state (.progressed connection)
        (state.setOperation connection (some (.finish
          (.admitDatagram credential) (.failed .authenticationRejected))))
  | admitKnown {state : Admissions} {connection : Nat}
      {credential : List UInt8} {principal : PrincipalId}
      {existing : AdmittedSession}
      (stage : state.operation connection =
        some (.admitDatagram credential principal))
      (bound : state.session connection = some existing)
      (same : existing.principal = principal) :
      Step admission state (.progressed connection)
        (state.setOperation connection (some (.finish
          (.admitDatagram credential) .done)))
  | admitOpened {state : Admissions} {connection : Nat}
      {credential : List UInt8} {principal : PrincipalId}
      {lease : SessionLease} {quotas : AdmissionControl}
      (stage : state.operation connection =
        some (.admitDatagram credential principal))
      (unbound : state.session connection = none)
      (opened : state.quotas.openSession principal = (.ok lease, quotas)) :
      Step admission state (.opened connection ⟨principal, lease⟩)
        (({ state with quotas }.setSession connection
            (some ⟨principal, lease⟩)).setOperation connection
          (some (.finish (.admitDatagram credential) .done)))
  | admitRefused {state : Admissions} {connection : Nat}
      {credential : List UInt8} {principal : PrincipalId}
      {error : AdmissionError} {quotas : AdmissionControl}
      (stage : state.operation connection =
        some (.admitDatagram credential principal))
      (unbound : state.session connection = none)
      (refused : state.quotas.openSession principal = (.err error, quotas)) :
      Step admission state (.progressed connection)
        ({ state with quotas }.setOperation connection
          (some (.finish (.admitDatagram credential)
            (.failed (sessionError error)))))
  | admitPanicked {state : Admissions} {connection : Nat}
      {credential : List UInt8} {principal : PrincipalId} {cause : Panic}
      {quotas : AdmissionControl}
      (stage : state.operation connection =
        some (.admitDatagram credential principal))
      (unbound : state.session connection = none)
      (panicked : state.quotas.openSession principal =
        (.panic cause, quotas)) :
      Step admission state (.progressed connection)
        ({ state with quotas }.setOperation connection
          (some (.finish (.admitDatagram credential) .panicked)))
  -- reserve_flow
  | reserve {state : Admissions} {connection flow : Nat}
      {principal : PrincipalId}
      (unlocked : state.operation connection = none) :
      Step admission state (.began connection (.reserveFlow flow principal))
        (state.setOperation connection (some (.reserve flow principal)))
  | reserveForeign {state : Admissions} {connection flow : Nat}
      {principal : PrincipalId} {existing : AdmittedSession}
      (stage : state.operation connection = some (.reserve flow principal))
      (bound : state.session connection = some existing)
      (foreign : existing.principal ≠ principal) :
      Step admission state (.progressed connection)
        (state.setOperation connection (some (.finish
          (.reserveFlow flow principal) (.failed .authenticationRejected))))
  | reserveKnown {state : Admissions} {connection flow : Nat}
      {principal : PrincipalId} {existing : AdmittedSession}
      (stage : state.operation connection = some (.reserve flow principal))
      (bound : state.session connection = some existing)
      (same : existing.principal = principal) :
      Step admission state (.progressed connection)
        (state.setOperation connection
          (some (.openFlow flow ⟨principal, existing.lease⟩ false)))
  | reserveOpened {state : Admissions} {connection flow : Nat}
      {principal : PrincipalId} {lease : SessionLease}
      {quotas : AdmissionControl}
      (stage : state.operation connection = some (.reserve flow principal))
      (unbound : state.session connection = none)
      (opened : state.quotas.openSession principal = (.ok lease, quotas)) :
      Step admission state (.opened connection ⟨principal, lease⟩)
        (({ state with quotas }.setSession connection
            (some ⟨principal, lease⟩)).setOperation connection
          (some (.openFlow flow ⟨principal, lease⟩ true)))
  | reserveRefused {state : Admissions} {connection flow : Nat}
      {principal : PrincipalId} {error : AdmissionError}
      {quotas : AdmissionControl}
      (stage : state.operation connection = some (.reserve flow principal))
      (unbound : state.session connection = none)
      (refused : state.quotas.openSession principal = (.err error, quotas)) :
      Step admission state (.progressed connection)
        ({ state with quotas }.setOperation connection
          (some (.finish (.reserveFlow flow principal)
            (.failed (sessionError error)))))
  | reservePanicked {state : Admissions} {connection flow : Nat}
      {principal : PrincipalId} {cause : Panic} {quotas : AdmissionControl}
      (stage : state.operation connection = some (.reserve flow principal))
      (unbound : state.session connection = none)
      (panicked : state.quotas.openSession principal =
        (.panic cause, quotas)) :
      Step admission state (.progressed connection)
        ({ state with quotas }.setOperation connection
          (some (.finish (.reserveFlow flow principal) .panicked)))
  | flowOpened {state : Admissions} {connection flow : Nat}
      {session : AdmittedSession} {created : Bool}
      {quotas : AdmissionControl}
      (stage : state.operation connection =
        some (.openFlow flow session created))
      (opened : state.quotas.openFlow session.principal session.lease =
        (.ok (), quotas)) :
      Step admission state (.progressed connection)
        ({ state with quotas }.setOperation connection
          (some (.finish (.reserveFlow flow session.principal)
            (.reserved session.lease))))
  | flowRefused {state : Admissions} {connection flow : Nat}
      {session : AdmittedSession} {error : AdmissionError}
      {quotas : AdmissionControl}
      (stage : state.operation connection =
        some (.openFlow flow session false))
      (refused : state.quotas.openFlow session.principal session.lease =
        (.error error, quotas)) :
      Step admission state (.progressed connection)
        ({ state with quotas }.setOperation connection
          (some (.finish (.reserveFlow flow session.principal)
            (.failed (flowError error)))))
  -- A failed first flow must not leave a session quota consumed.
  | firstFlowRefused {state : Admissions} {connection flow : Nat}
      {session : AdmittedSession} {error : AdmissionError}
      {quotas : AdmissionControl}
      (stage : state.operation connection =
        some (.openFlow flow session true))
      (refused : state.quotas.openFlow session.principal session.lease =
        (.error error, quotas)) :
      Step admission state (.progressed connection)
        ({ state with quotas }.setOperation connection
          (some (.undo flow session (flowError error))))
  | undone {state : Admissions} {connection flow : Nat}
      {session : AdmittedSession} {error : RelayError}
      (stage : state.operation connection = some (.undo flow session error)) :
      Step admission state (.progressed connection)
        (({ state with quotas :=
              (state.quotas.closeSession session.principal session.lease).2
            }.setSession connection none).setOperation connection
          (some (.finish (.reserveFlow flow session.principal)
            (.failed error))))
  -- release_flow, for a reserved flow or with a lease that is not the
  -- session's any more
  | release {state : Admissions} {connection flow : Nat}
      {lease : SessionLease}
      (unlocked : state.operation connection = none)
      (reserved : (flow, lease) ∈ state.reserved connection ∨
        ¬HasLease (state.session connection) lease) :
      Step admission state (.began connection (.releaseFlow flow lease))
        (state.setOperation connection (some (.release flow lease)))
  | released {state : Admissions} {connection flow : Nat}
      {session : AdmittedSession}
      (stage : state.operation connection =
        some (.release flow session.lease))
      (bound : state.session connection = some session) :
      Step admission state (.progressed connection)
        ({ state with quotas :=
            (state.quotas.closeFlow session.principal session.lease).2
          }.setOperation connection
          (some (.finish (.releaseFlow flow session.lease) .done)))
  | releaseStale {state : Admissions} {connection flow : Nat}
      {lease : SessionLease}
      (stage : state.operation connection = some (.release flow lease))
      (stale : ¬HasLease (state.session connection) lease) :
      Step admission state (.progressed connection)
        (state.setOperation connection
          (some (.finish (.releaseFlow flow lease) .done)))
  -- close, after the flows were released
  | close {state : Admissions} {connection : Nat}
      (unlocked : state.operation connection = none)
      (drained : state.reserved connection = []) :
      Step admission state (.began connection .close)
        (state.setOperation connection (some .close))
  | closeTaken {state : Admissions} {connection : Nat}
      {session : AdmittedSession}
      (stage : state.operation connection = some .close)
      (bound : state.session connection = some session) :
      Step admission state (.progressed connection)
        ((state.setSession connection none).setOperation connection
          (some (.closeSession session)))
  | closeUnbound {state : Admissions} {connection : Nat}
      (stage : state.operation connection = some .close)
      (unbound : state.session connection = none) :
      Step admission state (.progressed connection)
        (state.setOperation connection (some (.finish .close .done)))
  | closed {state : Admissions} {connection : Nat}
      {session : AdmittedSession}
      (stage : state.operation connection = some (.closeSession session)) :
      Step admission state (.progressed connection)
        ({ state with quotas :=
            (state.quotas.closeSession session.principal session.lease).2
          }.setOperation connection (some (.finish .close .done)))
  | returned {state : Admissions} {connection : Nat} {call : Call}
      {result : Result}
      (stage : state.operation connection = some (.finish call result)) :
      Step admission state (.returned connection call result)
        ((state.setReserved connection
            (call.settle result (state.reserved connection))).setOperation
          connection none)

end Admissions

end Velum.Node
