import Velum.Routing.Policy
import Velum.Tun.Associations
import Velum.Tun.FakeDnsTable

/-!
# Decisions on captured flows

The engine gives out fake addresses and decides where captured flows go.  A
flow to a fake address is restored through the mapping of that address; where
there is none, its destination passes as it is.
-/

namespace Velum.Tun

open Foundation Protocol Velum.Routing

/-- One policy decision after fake-IP restoration. -/
structure TunRouteDecision where
  action : RoutingAction
  destination : SocketAddr
  domain : Option Text
  deriving DecidableEq

structure TunPolicyEngine where
  policy : RoutingPolicy
  dns : FakeDnsTable

namespace TunPolicyEngine

def new (generation : UInt64) (policy : RoutingPolicy) (dnsCapacity : Nat) :
    Except FakeDnsError TunPolicyEngine :=
  match FakeDnsTable.new generation dnsCapacity with
  | .error failure => .error failure
  | .ok dns => .ok ⟨policy, dns⟩

def allocateDns (engine : TunPolicyEngine) (generation : UInt64)
    (domain : Text) (real : IpAddr) (ttl now : Nat) :
    Except FakeDnsError IpAddr × TunPolicyEngine :=
  let (fake, dns) := engine.dns.allocate generation domain real ttl now
  (fake, { engine with dns })

/-- The destination and the domain of a flow. -/
def restored (flow : FlowKey) : Option FakeDnsMapping →
    SocketAddr × Option Text
  | none => (flow.destination, none)
  | some mapping =>
      (.new mapping.realAddress flow.destination.port, some mapping.domain)

def decide (engine : TunPolicyEngine) (generation : UInt64) (flow : FlowKey)
    (now : Nat) : Except FakeDnsError TunRouteDecision × TunPolicyEngine :=
  match engine.dns.resolve generation flow.destination.ip now with
  | (.error failure, dns) => (.error failure, { engine with dns })
  | (.ok mapping, dns) =>
      let (destination, domain) := restored flow mapping
      let action := engine.policy.decide
        ⟨domain, destination.ip, destination.port⟩
      (.ok ⟨action, destination, domain⟩, { engine with dns })

def replaceGeneration (engine : TunPolicyEngine) (generation : UInt64)
    (policy : RoutingPolicy) : TunPolicyEngine where
  policy := policy
  dns := engine.dns.replaceGeneration generation

/-! ## Runs of an engine -/

inductive Call where
  | allocateDns (generation : UInt64) (domain : Text) (real : IpAddr)
      (ttl now : Nat)
  | decide (generation : UInt64) (flow : FlowKey) (now : Nat)
  | replaceGeneration (generation : UInt64) (policy : RoutingPolicy)

def perform (engine : TunPolicyEngine) : Call → TunPolicyEngine
  | .allocateDns generation domain real ttl now =>
      (engine.allocateDns generation domain real ttl now).2
  | .decide generation flow now => (engine.decide generation flow now).2
  | .replaceGeneration generation policy =>
      engine.replaceGeneration generation policy

def performAll (engine : TunPolicyEngine) (calls : List Call) :
    TunPolicyEngine :=
  calls.foldl perform engine

/-- What a call does to the table of fake addresses. -/
def Call.onDns : Call → FakeDnsTable.Call
  | .allocateDns generation domain real ttl now =>
      .allocate generation domain real ttl now
  | .decide generation flow now =>
      .resolve generation flow.destination.ip now
  | .replaceGeneration generation _ => .replaceGeneration generation

theorem dns_perform (engine : TunPolicyEngine) (call : Call) :
    (engine.perform call).dns = engine.dns.perform call.onDns := by
  cases call with
  | allocateDns => rfl
  | decide generation flow now =>
      simp only [perform, decide, Call.onDns, FakeDnsTable.perform]
      split
      next same => rw [same]
      next same => rw [same]
  | replaceGeneration => rfl

theorem dns_performAll (engine : TunPolicyEngine) (calls : List Call) :
    (engine.performAll calls).dns =
      engine.dns.performAll (calls.map Call.onDns) := by
  induction calls generalizing engine with
  | nil => rfl
  | cons call calls induction =>
      exact (induction (engine.perform call)).trans (by
        rw [dns_perform]
        rfl)

/-- The fake addresses that some calls returned, with what they record. -/
def issued (engine : TunPolicyEngine) (calls : List Call) :
    List (IpAddr × FakeDnsTable.Identity) :=
  engine.dns.allocations (calls.map Call.onDns)

/-- A flow to a fake address is refused, or restored to the recorded address
where that is not a fake one. -/
def Contained (log : List (IpAddr × FakeDnsTable.Identity))
    (flow : FlowKey) : Except FakeDnsError TunRouteDecision → Prop
  | .error _ => True
  | .ok decision =>
      (FakeDnsTable.recorded log flow.destination.ip).map
          FakeDnsTable.Identity.realAddress = some decision.destination.ip ∧
        decision.destination.ip ∉ log.map Prod.fst

/-- The mapping of a destination is live, and its answer is not a fake
address. -/
def Restorable (log : List (IpAddr × FakeDnsTable.Identity))
    (table : FakeDnsTable) (flow : FlowKey) (now : Nat) : Prop :=
  ∃ mapping, table.byAddress.get? flow.destination.ip = some mapping ∧
    now < mapping.expiresAt ∧ mapping.realAddress ∉ log.map Prod.fst

theorem ip_new (address : IpAddr) (port : UInt16) :
    (SocketAddr.new address port).ip = address := by
  cases address <;> rfl

/-- A decision is contained when the generation is refused or the address can
be restored. -/
theorem contained_decide_iff {engine : TunPolicyEngine}
    {log : List (IpAddr × FakeDnsTable.Identity)}
    (remembers : FakeDnsTable.Remembers log engine.dns)
    {current : UInt64} {flow : FlowKey} {now : Nat}
    (fake : flow.destination.ip ∈ log.map Prod.fst) :
    Contained log flow (engine.decide current flow now).1 ↔
      current ≠ engine.dns.generation ∨
        Restorable log engine.dns flow now := by
  by_cases same : current = engine.dns.generation
  · rw [or_iff_right (not_not.mpr same)]
    cases found : (engine.dns.removeExpired now).byAddress.get?
        flow.destination.ip with
    | none =>
        have resolved : engine.dns.resolve current flow.destination.ip now =
            (.ok none, engine.dns.removeExpired now) := by
          simp [FakeDnsTable.resolve, same, found]
        refine iff_of_false ?_ ?_
        · rw [decide, resolved]
          exact fun contained => contained.2 fake
        · rintro ⟨mapping, stored, live, _⟩
          have kept := FakeDnsTable.get?_removeExpired_iff.mpr ⟨stored, live⟩
          rw [found] at kept
          cases kept
    | some mapping =>
        obtain ⟨stored, live⟩ :=
          FakeDnsTable.get?_removeExpired_iff.mp found
        have resolved : engine.dns.resolve current flow.destination.ip now =
            (.ok (some mapping), engine.dns.removeExpired now) := by
          simp [FakeDnsTable.resolve, same, found]
        have record := remembers _ mapping stored
        rw [decide, resolved]
        simp only [Contained, restored, ip_new, record, Option.map_some]
        constructor
        · rintro ⟨_, outside⟩
          exact ⟨mapping, stored, live, outside⟩
        · rintro ⟨other, otherStored, _, outside⟩
          rw [stored] at otherStored
          obtain rfl := Option.some.inj otherStored
          exact ⟨rfl, outside⟩
  · refine iff_of_true ?_ (.inl same)
    have refused : engine.dns.resolve current flow.destination.ip now =
        (.error .generationMismatch, engine.dns) := by
      simp [FakeDnsTable.resolve, same]
    rw [decide, refused]
    trivial

/-- Over any calls, a flow to an address that was given out is restored or
refused, exactly when its generation is refused or its mapping is live with an
answer that is not a fake address. -/
theorem fake_addresses_contained_iff (generation : UInt64)
    (policy : RoutingPolicy) (dnsCapacity : Nat) (fresh : TunPolicyEngine)
    (created : new generation policy dnsCapacity = .ok fresh)
    (calls : List Call) (current : UInt64) (flow : FlowKey) (now : Nat)
    (fake : flow.destination.ip ∈ (fresh.issued calls).map Prod.fst) :
    Contained (fresh.issued calls) flow
        ((fresh.performAll calls).decide current flow now).1 ↔
      current ≠ (fresh.performAll calls).dns.generation ∨
        Restorable (fresh.issued calls) (fresh.performAll calls).dns flow
          now := by
  have table : FakeDnsTable.new generation dnsCapacity = .ok fresh.dns := by
    rw [new] at created
    split at created
    next => cases created
    next dns opened =>
        cases created
        exact opened
  apply contained_decide_iff _ fake
  rw [dns_performAll]
  apply FakeDnsTable.remembers_performAll (FakeDnsTable.sound_new table)
  rw [FakeDnsTable.eq_of_new table]

theorem matchIsLast_nil : MatchIsLast [] := by
  decide

/-- Everything goes through the relay. -/
def proxyAll : RoutingPolicy :=
  ⟨[], matchIsLast_nil⟩

/-- One name is resolved at the start, for ten units of time. -/
def oneLookup : List Call :=
  [.allocateDns 7 ['a'] FakeDnsTable.realAddress 10 0]

def smallEngine : TunPolicyEngine :=
  ⟨proxyAll, ⟨7, 1, .empty, [], firstIpv4, firstIpv6⟩⟩

/-- A flow to the first address of the pool. -/
def fakeFlow : FlowKey where
  protocol := .tcp
  source := .v4 (10 ::ᵥ 0 ::ᵥ 0 ::ᵥ 2 ::ᵥ .nil) 50000
  destination := .new (ipv4Address firstIpv4) 443

theorem fakeFlow_issued :
    fakeFlow.destination.ip ∈ (smallEngine.issued oneLookup).map Prod.fst := by
  decide +kernel

theorem fake_addresses_contained_live :
    Contained (smallEngine.issued oneLookup) fakeFlow
      ((smallEngine.performAll oneLookup).decide 7 fakeFlow 9).1 := by
  refine (fake_addresses_contained_iff 7 proxyAll 1 smallEngine rfl oneLookup 7
    fakeFlow 9 fakeFlow_issued).mpr (.inr ?_)
  refine ⟨⟨['a'], FakeDnsTable.realAddress, ipv4Address firstIpv4, 7, 10⟩, ?_⟩
  decide +kernel

/-- When the mapping has expired, the fake address itself is the destination
of the decision. -/
theorem expired_fake_address_leaves :
    ((smallEngine.performAll oneLookup).decide 7 fakeFlow 10).1 =
        .ok ⟨.proxy, fakeFlow.destination, none⟩ ∧
      ¬∀ (generation : UInt64) (policy : RoutingPolicy) (dnsCapacity : Nat)
        (fresh : TunPolicyEngine) (calls : List Call) (current : UInt64)
        (flow : FlowKey) (now : Nat),
        new generation policy dnsCapacity = .ok fresh →
        flow.destination.ip ∈ (fresh.issued calls).map Prod.fst →
        Contained (fresh.issued calls) flow
          ((fresh.performAll calls).decide current flow now).1 := by
  have decided : ((smallEngine.performAll oneLookup).decide 7 fakeFlow 10).1 =
      .ok ⟨.proxy, fakeFlow.destination, none⟩ := by
    decide +kernel
  refine ⟨decided, ?_⟩
  intro contained
  have leaves := contained 7 proxyAll 1 smallEngine oneLookup 7 fakeFlow 10 rfl
    fakeFlow_issued
  rw [decided] at leaves
  exact leaves.2 fakeFlow_issued

end TunPolicyEngine

end Velum.Tun
