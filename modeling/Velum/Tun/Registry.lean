import Velum.Runtime.Datagrams
import Velum.Tun.Packets

/-!
# Flows of one tunnel installation

The registry holds a lease for each admitted flow, with the runtime generation
it was admitted in.  The runtime is shared and moves on while the registry
works, so every read of it and every awaited answer is an argument.
-/

namespace Velum.Tun

open Foundation Protocol Velum.Runtime

/-- Limits held by one installed interface. -/
structure TunAdapterLimits where
  maxTcpFlows : UInt64 := 256
  maxUdpAssociations : UInt64 := 256
  deriving DecidableEq, Repr

namespace TunAdapterLimits

def validate (limits : TunAdapterLimits) :
    Except TunAdapterConfigError TunAdapterLimits :=
  if limits.maxTcpFlows = 0 then .error .tcpFlowLimit
  else if limits.maxUdpAssociations = 0 then .error .udpAssociationLimit
  else .ok limits

theorem eq_of_validate {limits valid : TunAdapterLimits}
    (validated : limits.validate = .ok valid) : valid = limits := by
  unfold validate at validated
  split at validated
  · cases validated
  · split at validated
    · cases validated
    · exact (Except.ok.inj validated).symm

def limitFor (limits : TunAdapterLimits) : FlowProtocol → UInt64
  | .tcp => limits.maxTcpFlows
  | .udp => limits.maxUdpAssociations

end TunAdapterLimits

inductive FlowAdmissionError where
  | notOnline
  | tcpFlowLimit
  | udpAssociationLimit
  deriving DecidableEq, Repr

def FlowAdmissionError.limitOf : FlowProtocol → FlowAdmissionError
  | .tcp => .tcpFlowLimit
  | .udp => .udpAssociationLimit

structure FlowLease where
  generation : UInt64
  deriving DecidableEq, Repr

inductive UdpForwardError where
  | packet (error : PacketError)
  | admission (error : FlowAdmissionError)
  | association (error : UdpAssociationError)
  | runtime (error : RuntimeError)
  deriving DecidableEq, Repr

inductive UdpReceiveError where
  | runtime (error : RuntimeError)
  | association (error : UdpAssociationError)
  | staleFlow
  | encode (error : PacketEncodeError)
  deriving DecidableEq, Repr

inductive TcpRelayError where
  | notTcp
  | admission (error : FlowAdmissionError)
  | runtime (error : RuntimeError)
  | client (error : ClientError)
  | staleFlow
  deriving DecidableEq, Repr

/-- One reliable relay stream bound to an admitted flow. -/
structure TunTcpRelay (Stream : Type) where
  flow : FlowKey
  generation : UInt64
  stream : Stream

/-- The two reads of `current_generation`. -/
structure Reads where
  snapshot : RuntimeSnapshot
  online : RuntimeSnapshot
  deriving DecidableEq, Repr

/-- What a call with one awaited operation sees of the runtime: the reads of
its admission, the answer, and the read behind the answer. -/
structure Awaited (Value : Type) where
  reads : Reads
  answer : Except RuntimeError Value
  after : RuntimeSnapshot

structure TunFlowRegistry where
  limits : TunAdapterLimits
  flows : OrderedMap FlowKey FlowLease

namespace TunFlowRegistry

def new (limits : TunAdapterLimits) :
    Except TunAdapterConfigError TunFlowRegistry :=
  match limits.validate with
  | .error failure => .error failure
  | .ok limits => .ok ⟨limits, .empty⟩

theorem eq_of_new {limits : TunAdapterLimits} {registry : TunFlowRegistry}
    (created : new limits = .ok registry) : registry = ⟨limits, .empty⟩ := by
  unfold new at created
  split at created
  next => cases created
  next valid validated =>
      obtain rfl := TunAdapterLimits.eq_of_validate validated
      exact (Except.ok.inj created).symm

def currentGeneration (reads : Reads) : Except FlowAdmissionError UInt64 :=
  if reads.online.isGenerationOnline reads.snapshot.generation then
    .ok reads.snapshot.generation
  else .error .notOnline

/-- The leases of a protocol. -/
def used (registry : TunFlowRegistry) (protocol : FlowProtocol) : Nat :=
  (registry.flows.entries.filter (·.1.protocol = protocol)).length

def admitNew (registry : TunFlowRegistry) (key : FlowKey)
    (generation : UInt64) :
    Except FlowAdmissionError UInt64 × TunFlowRegistry :=
  if (registry.limits.limitFor key.protocol).toNat ≤
      registry.used key.protocol then (.error (.limitOf key.protocol), registry)
  else
    (.ok generation,
      { registry with flows := registry.flows.insert key ⟨generation⟩ })

/-- Admits a captured flow for the currently online runtime generation. -/
def admitFlow (registry : TunFlowRegistry) (reads : Reads) (key : FlowKey) :
    Except FlowAdmissionError UInt64 × TunFlowRegistry :=
  match currentGeneration reads with
  | .error failure => (.error failure, registry)
  | .ok generation =>
      match registry.flows.get? key with
      | some lease =>
          if lease.generation = generation then (.ok generation, registry)
          else
            admitNew { registry with flows := registry.flows.erase key } key
              generation
      | none => registry.admitNew key generation

/-- Whether a previously admitted flow may still exchange bytes. -/
def isActive (registry : TunFlowRegistry) (now : RuntimeSnapshot)
    (key : FlowKey) (generation : UInt64) : Bool :=
  now.isGenerationOnline generation &&
    (registry.flows.get? key).any (·.generation = generation)

/-- Releases one platform flow and its bounded admission slot. -/
def release (registry : TunFlowRegistry) (key : FlowKey) :
    Bool × TunFlowRegistry :=
  ((registry.flows.get? key).isSome,
    { registry with flows := registry.flows.erase key })

/-- Invalidates all leases after replacement, disconnect, or reconnect. -/
def clear (registry : TunFlowRegistry) : TunFlowRegistry :=
  { registry with flows := .empty }

/-- Opens one reliable relay stream for an admitted flow. -/
def openTcp {Stream : Type} (registry : TunFlowRegistry) (flow : FlowKey)
    (awaited : Awaited Stream) :
    Except TcpRelayError (TunTcpRelay Stream) × TunFlowRegistry :=
  if flow.protocol ≠ .tcp then (.error .notTcp, registry)
  else
    match registry.admitFlow awaited.reads flow with
    | (.error failure, admitted) => (.error (.admission failure), admitted)
    | (.ok generation, admitted) =>
        match awaited.answer with
        | .error failure => (.error (.runtime failure), admitted)
        | .ok stream =>
            if !admitted.isActive awaited.after flow generation then
              (.error .staleFlow, admitted)
            else (.ok ⟨flow, generation, stream⟩, admitted)

/-- Sends one captured payload through the active datagram path. -/
def forwardUdp (registry : TunFlowRegistry) (views : PacketViews)
    (frame : List UInt8) (associations : UdpAssociationTable)
    (awaited : Awaited Unit) :
    Outcome SessionFault UdpForwardError UInt64 × TunFlowRegistry ×
      UdpAssociationTable :=
  match views.classifyIpv4Packet frame with
  | .error failure => (.err (.packet failure), registry, associations)
  | .ok flow =>
      match views.udpPayload frame with
      | .error failure => (.err (.packet failure), registry, associations)
      | .ok _ =>
          match registry.admitFlow awaited.reads flow with
          | (.error failure, admitted) =>
              (.err (.admission failure), admitted, associations)
          | (.ok generation, admitted) =>
              match associations.sessionFor flow with
              | (.panic fault, associated) =>
                  (.panic fault, admitted, associated)
              | (.err failure, associated) =>
                  (.err (.association failure), admitted, associated)
              | (.ok _, associated) =>
                  match awaited.answer with
                  | .error failure =>
                      (.err (.runtime failure), admitted, associated)
                  | .ok () =>
                      if !admitted.isActive awaited.after flow generation then
                        (.err (.admission .notOnline), admitted, associated)
                      else (.ok generation, admitted, associated)

/-- Receives one relay datagram and encodes it for the original flow. -/
def receiveUdp (registry : TunFlowRegistry) (views : PacketViews)
    (associations : UdpAssociationTable) (mtu : Nat)
    (response : Except RuntimeError ClientDatagram)
    (snapshot online : RuntimeSnapshot) :
    Except UdpReceiveError (List UInt8) :=
  match response with
  | .error failure => .error (.runtime failure)
  | .ok response =>
      match associations.flowForResponse response.sessionId
          response.source with
      | .error failure => .error (.association failure)
      | .ok flow =>
          if !registry.isActive online flow snapshot.generation then
            .error .staleFlow
          else
            match views.encodeUdpResponse flow response.payload mtu with
            | .error failure => .error (.encode failure)
            | .ok frame => .ok frame

/-! ## Admission -/

/-- The registry without the lease of one flow. -/
def without (registry : TunFlowRegistry) (key : FlowKey) : TunFlowRegistry :=
  { registry with flows := registry.flows.erase key }

/-- The registry with a lease of one flow. -/
def lease (registry : TunFlowRegistry) (key : FlowKey)
    (generation : UInt64) : TunFlowRegistry :=
  { registry with flows := registry.flows.insert key ⟨generation⟩ }

/-- The slots that other flows of the same protocol hold. -/
def others (registry : TunFlowRegistry) (key : FlowKey) : Nat :=
  (registry.without key).used key.protocol

def limit (registry : TunFlowRegistry) (key : FlowKey) : Nat :=
  (registry.limits.limitFor key.protocol).toNat

theorem without_of_absent {registry : TunFlowRegistry} {key : FlowKey}
    (absent : registry.flows.get? key = none) :
    registry.without key = registry := by
  rw [without, OrderedMap.erase_eq_self absent]

theorem admitNew_without (registry : TunFlowRegistry) (key : FlowKey)
    (generation : UInt64) :
    (registry.without key).admitNew key generation =
      if registry.limit key ≤ registry.others key then
        (.error (.limitOf key.protocol), registry.without key)
      else (.ok generation, registry.lease key generation) := by
  simp only [admitNew, lease, limit, others, without,
    OrderedMap.insert_erase]
  rfl

/-- Everything an admission can do. -/
theorem admitFlow_cases (registry : TunFlowRegistry) (reads : Reads)
    (key : FlowKey) :
    (currentGeneration reads = .error .notOnline ∧
      registry.admitFlow reads key = (.error .notOnline, registry)) ∨
    ∃ generation, currentGeneration reads = .ok generation ∧
      ((registry.flows.get? key = some ⟨generation⟩ ∧
        registry.admitFlow reads key = (.ok generation, registry)) ∨
      (registry.flows.get? key ≠ some ⟨generation⟩ ∧
        registry.limit key ≤ registry.others key ∧
        registry.admitFlow reads key =
          (.error (.limitOf key.protocol), registry.without key)) ∨
      (registry.flows.get? key ≠ some ⟨generation⟩ ∧
        registry.others key < registry.limit key ∧
        registry.admitFlow reads key =
          (.ok generation, registry.lease key generation))) := by
  cases current : currentGeneration reads with
  | error failure =>
      refine .inl ⟨?_, ?_⟩
      all_goals
        have offline := current
        unfold currentGeneration at offline
        split at offline <;> cases offline
      · rfl
      · simp only [admitFlow, current]
  | ok generation =>
      refine .inr ⟨generation, rfl, ?_⟩
      have fresh : registry.flows.get? key ≠ some ⟨generation⟩ →
          registry.admitFlow reads key =
            (registry.without key).admitNew key generation := by
        intro other
        cases stored : registry.flows.get? key with
        | none =>
            rw [without_of_absent stored]
            simp only [admitFlow, current, stored]
        | some old =>
            have different : old.generation ≠ generation := by
              rintro rfl
              exact other stored
            simp only [admitFlow, current, stored, if_neg different]
            rfl
      by_cases leased : registry.flows.get? key = some ⟨generation⟩
      · refine .inl ⟨leased, ?_⟩
        simp only [admitFlow, current, leased, if_true]
      · rw [admitNew_without] at fresh
        by_cases full : registry.limit key ≤ registry.others key
        · rw [if_pos full] at fresh
          exact .inr (.inl ⟨leased, full, fresh leased⟩)
        · rw [if_neg full] at fresh
          exact .inr (.inr ⟨leased, Nat.lt_of_not_le full, fresh leased⟩)

end TunFlowRegistry

end Velum.Tun
