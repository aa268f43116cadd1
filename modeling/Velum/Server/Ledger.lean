import Velum.Server.Admission
import Mathlib.Logic.Function.Basic

/-!
# Who holds the sessions of the accounting

A ledger says which session each holder has and how many flows are open in
it.  The accounting matches a ledger when it stores exactly the sessions that
are held, with their numbers of flows, and no lease is held twice.  Each
operation of the accounting is then one update of the ledger.
-/

namespace Velum.Server

open Foundation

variable {Holder : Type}

abbrev Ledger (Holder : Type) := Holder → Option (SessionKey × Nat)

structure Matches (control : AdmissionControl) (ledger : Ledger Holder) :
    Prop where
  stored : ∀ key usage, control.sessions.get? key = some usage ↔
    ∃ holder, ledger holder = some (key, usage.flows)
  apart : ∀ first second one other oneFlows otherFlows,
    ledger first = some (one, oneFlows) →
    ledger second = some (other, otherFlows) →
    one.lease = other.lease → first = second
  below : ∀ holder key flows, ledger holder = some (key, flows) →
    key.lease.value.toNat < control.nextLease.toNat
  sessions : ∀ principal,
    control.sessionCount principal ≤ control.quota.maxSessions
  flows : ∀ holder key flows, ledger holder = some (key, flows) →
    flows ≤ control.quota.maxFlowsPerSession

theorem matches_new (quota : PrincipalQuota) :
    Matches (AdmissionControl.new quota) (fun _ : Holder => none) where
  stored := by
    intro key usage
    constructor
    · intro found
      cases found
    · intro held
      obtain ⟨_, impossible⟩ := held
      cases impossible
  apart := nofun
  below := nofun
  sessions _ := Nat.zero_le _
  flows := nofun

variable {control next : AdmissionControl} {ledger : Ledger Holder}
  {holder : Holder} {key : SessionKey}

theorem Matches.get?_of_held {flows : Nat}
    (sound : Matches control ledger)
    (held : ledger holder = some (key, flows)) :
    control.sessions.get? key = some { flows } :=
  (sound.stored key { flows }).mpr ⟨holder, held⟩

/-- Replacing the usage of a stored session leaves the number of sessions of
every principal. -/
theorem sessionCount_insert {usage : SessionUsage} (replaced : SessionUsage)
    (found : control.sessions.get? key = some usage)
    (principal : PrincipalId) :
    AdmissionControl.sessionCount { control with
      sessions := control.sessions.insert key replaced } principal =
        control.sessionCount principal := by
  unfold AdmissionControl.sessionCount
  rw [(OrderedMap.insert_perm control.sessions key replaced).countP_eq,
    (OrderedMap.erase_perm found).countP_eq, List.countP_cons,
    List.countP_cons]

theorem sessionCount_erase (principal : PrincipalId) :
    AdmissionControl.sessionCount { control with
      sessions := control.sessions.erase key } principal ≤
        control.sessionCount principal :=
  List.filter_sublist.countP_le

/-- No other holder has the lease of the key. -/
def Alone (ledger : Ledger Holder) (holder : Holder) (key : SessionKey) :
    Prop :=
  ∀ other, other ≠ holder → ∀ otherKey flows,
    ledger other = some (otherKey, flows) → otherKey.lease ≠ key.lease

theorem Matches.alone_of_held {flows : Nat} (sound : Matches control ledger)
    (held : ledger holder = some (key, flows)) : Alone ledger holder key := by
  intro other different otherKey otherFlows present same
  exact different (sound.apart other holder otherKey key otherFlows flows
    present held same)

theorem Matches.alone_of_next (sound : Matches control ledger)
    (next : key.lease.value = control.nextLease) :
    Alone ledger holder key := by
  intro other _ otherKey flows present same
  have below := sound.below other otherKey flows present
  rw [same, next] at below
  exact Nat.lt_irrefl _ below

theorem key_of_held {flows : Nat}
    (held : ledger holder = some (key, flows)) (other : SessionKey)
    (count : Nat) (again : ledger holder = some (other, count)) :
    other = key := by
  rw [held] at again
  cases again
  rfl

/-- What the other holders have is what is stored beside the key. -/
theorem Matches.others_iff (sound : Matches control ledger)
    (own : ∀ held flows, ledger holder = some (held, flows) → held = key)
    (alone : Alone ledger holder key) {stored : SessionKey}
    {usage : SessionUsage} :
    (∃ other, other ≠ holder ∧ ledger other = some (stored, usage.flows)) ↔
      stored ≠ key ∧ control.sessions.get? stored = some usage := by
  rw [sound.stored]
  constructor
  · intro present
    obtain ⟨other, different, held⟩ := present
    refine ⟨?_, other, held⟩
    intro same
    exact alone other different stored usage.flows held
      (congrArg SessionKey.lease same)
  · intro present
    obtain ⟨different, other, held⟩ := present
    refine ⟨other, ?_, held⟩
    intro same
    rw [same] at held
    exact different (own stored usage.flows held)

variable [DecidableEq Holder]

/-- One holder gets another entry. -/
theorem matches_update {entry : Option (SessionKey × Nat)}
    (sound : Matches control ledger)
    (leases : control.nextLease.toNat ≤ next.nextLease.toNat)
    (quota : next.quota = control.quota)
    (stored : ∀ stored usage, next.sessions.get? stored = some usage ↔
      entry = some (stored, usage.flows) ∨
        ∃ other, other ≠ holder ∧ ledger other = some (stored, usage.flows))
    (known : ∀ key flows, entry = some (key, flows) →
      key.lease.value.toNat < next.nextLease.toNat ∧
        flows ≤ control.quota.maxFlowsPerSession ∧ Alone ledger holder key)
    (sessions : ∀ principal,
      next.sessionCount principal ≤ control.quota.maxSessions) :
    Matches next (Function.update ledger holder entry) where
  stored := by
    intro key usage
    rw [stored]
    constructor
    · intro present
      rcases present with own | ⟨other, different, held⟩
      · refine ⟨holder, ?_⟩
        rw [Function.update_self]
        exact own
      · refine ⟨other, ?_⟩
        rw [Function.update_of_ne different]
        exact held
    · intro present
      obtain ⟨other, held⟩ := present
      by_cases same : other = holder
      · rw [same, Function.update_self] at held
        exact .inl held
      · rw [Function.update_of_ne same] at held
        exact .inr ⟨other, same, held⟩
  apart := by
    intro first second one other oneFlows otherFlows here there same
    by_cases firstOwn : first = holder
    · by_cases secondOwn : second = holder
      · rw [firstOwn, secondOwn]
      · rw [firstOwn, Function.update_self] at here
        rw [Function.update_of_ne secondOwn] at there
        exact absurd same.symm
          ((known one oneFlows here).2.2 second secondOwn _ _ there)
    · rw [Function.update_of_ne firstOwn] at here
      by_cases secondOwn : second = holder
      · rw [secondOwn, Function.update_self] at there
        exact absurd same
          ((known other otherFlows there).2.2 first firstOwn _ _ here)
      · rw [Function.update_of_ne secondOwn] at there
        exact sound.apart first second one other oneFlows otherFlows here
          there same
  below := by
    intro other key flows present
    by_cases same : other = holder
    · rw [same, Function.update_self] at present
      exact (known key flows present).1
    · rw [Function.update_of_ne same] at present
      exact Nat.lt_of_lt_of_le (sound.below other key flows present) leases
  sessions := by
    rw [quota]
    exact sessions
  flows := by
    rw [quota]
    intro other key flows present
    by_cases same : other = holder
    · rw [same, Function.update_self] at present
      exact (known key flows present).2.1
    · rw [Function.update_of_ne same] at present
      exact sound.flows other key flows present

/-- A new session for a holder that has none. -/
theorem matches_openSession {principal : PrincipalId}
    {lease : SessionLease} (sound : Matches control ledger)
    (free : ledger holder = none)
    (opened : control.openSession principal = (.ok lease, next)) :
    Matches next
      (Function.update ledger holder (some (⟨principal, lease⟩, 0))) := by
  obtain ⟨room, drawn, counted, quota, inserted⟩ :=
    AdmissionControl.openSession_ok opened
  have alone : Alone ledger holder ⟨principal, lease⟩ :=
    sound.alone_of_next drawn
  have own : ∀ held flows, ledger holder = some (held, flows) →
      held = ⟨principal, lease⟩ := by
    rw [free]
    exact nofun
  have absent : control.sessions.get? ⟨principal, lease⟩ = none := by
    apply Option.eq_none_iff_forall_ne_some.mpr
    intro usage found
    obtain ⟨other, held⟩ := (sound.stored _ usage).mp found
    have below := sound.below other _ _ held
    rw [show lease.value = control.nextLease from drawn] at below
    exact Nat.lt_irrefl _ below
  apply matches_update sound
  · omega
  · exact quota
  · intro stored usage
    rw [inserted, OrderedMap.get?_insert_eq_some_iff,
      sound.others_iff own alone]
    obtain ⟨flows⟩ := usage
    simp [eq_comm]
  · intro key flows made
    cases made
    refine ⟨?_, Nat.zero_le _, alone⟩
    rw [show lease.value = control.nextLease from drawn, counted]
    exact Nat.lt_succ_self _
  · intro other
    have grown : next.sessionCount other = control.sessionCount other +
        if principal = other then 1 else 0 := by
      unfold AdmissionControl.sessionCount
      rw [inserted, (OrderedMap.insert_perm _ _ _).countP_eq,
        List.countP_cons, OrderedMap.erase_of_get?_eq_none absent]
      simp
    rw [grown]
    split
    · rename_i same
      rw [← same]
      exact room
    · exact sound.sessions other

/-- A holder whose flows change in number. -/
theorem matches_insert {flows changed : Nat} (sound : Matches control ledger)
    (held : ledger holder = some (key, flows))
    (bounded : changed ≤ control.quota.maxFlowsPerSession) :
    Matches { control with
        sessions := control.sessions.insert key { flows := changed } }
      (Function.update ledger holder (some (key, changed))) := by
  have alone := sound.alone_of_held held
  have own := key_of_held held
  apply matches_update sound
  · exact Nat.le_refl _
  · rfl
  · intro stored usage
    rw [OrderedMap.get?_insert_eq_some_iff, sound.others_iff own alone]
    obtain ⟨flows⟩ := usage
    simp [eq_comm]
  · intro made count same
    cases same
    exact ⟨sound.below holder key flows held, bounded, alone⟩
  · intro principal
    rw [sessionCount_insert _ (sound.get?_of_held held)]
    exact sound.sessions principal

theorem matches_openFlow {flows : Nat} (sound : Matches control ledger)
    (held : ledger holder = some (key, flows))
    (opened : control.openFlow key.principal key.lease = (.ok (), next)) :
    Matches next
      (Function.update ledger holder (some (key, flows + 1))) := by
  obtain ⟨usage, found, room, rfl⟩ := AdmissionControl.openFlow_ok opened
  have stored := sound.get?_of_held held
  rw [show control.sessions.get? key = some usage from found] at stored
  cases stored
  exact matches_insert sound held room

theorem matches_closeFlow {flows : Nat} (sound : Matches control ledger)
    (held : ledger holder = some (key, flows + 1)) :
    Matches (control.closeFlow key.principal key.lease).2
      (Function.update ledger holder (some (key, flows))) := by
  have stored := sound.get?_of_held held
  rw [AdmissionControl.closeFlow_of_get? stored]
  have bounded := sound.flows holder key (flows + 1) held
  exact matches_insert sound held (Nat.le_of_succ_le bounded)

/-- A holder gives its session back. -/
theorem matches_closeSession {flows : Nat} (sound : Matches control ledger)
    (held : ledger holder = some (key, flows)) :
    Matches (control.closeSession key.principal key.lease).2
      (Function.update ledger holder none) := by
  have stored := sound.get?_of_held held
  rw [AdmissionControl.closeSession_of_get? stored]
  have alone := sound.alone_of_held held
  have own := key_of_held held
  apply matches_update sound
  · exact Nat.le_refl _
  · rfl
  · intro other usage
    rw [OrderedMap.get?_erase_eq_some_iff, sound.others_iff own alone]
    simp
  · exact nofun
  · intro principal
    exact (sessionCount_erase principal).trans (sound.sessions principal)

end Velum.Server
