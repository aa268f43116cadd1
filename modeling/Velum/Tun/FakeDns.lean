import Velum.Foundation.OrderedMap
import Velum.Foundation.Text
import Velum.Foundation.TransitionSystem
import Velum.Protocol.AddressOrder

/-!
# Fake addresses for domain names

The table of one active generation: each allocation keeps the domain that was
asked for and its real answer under a fake address.  The hash map is listed in
the order of its keys, on which no result depends: at most one mapping has the
domain and the answer that a renewal looks for.  Instants and durations are
numbers.
-/

namespace Velum.Tun

open Foundation Protocol

structure FakeDnsMapping where
  domain : Text
  realAddress : IpAddr
  fakeAddress : IpAddr
  generation : UInt64
  expiresAt : Nat
  deriving DecidableEq

inductive FakeDnsError where
  | zeroCapacity
  | emptyDomain
  | generationMismatch
  | addressSpaceExhausted
  deriving DecidableEq, Repr

structure FakeDnsTable where
  generation : UInt64
  capacity : Nat
  byAddress : OrderedMap IpAddr FakeDnsMapping
  insertionOrder : List IpAddr
  nextIpv4 : Nat
  nextIpv6 : Nat

/-- 198.18.0.1 and 198.19.255.254. -/
def firstIpv4 : Nat := ofBigEndian [198, 18, 0, 1]
def lastIpv4 : Nat := ofBigEndian [198, 19, 255, 254]

/-- fd00:19::1. -/
def firstIpv6 : Nat := 0xfd00 * 2 ^ 112 + 0x19 * 2 ^ 96 + 1

def ipv4Address (value : Nat) : IpAddr :=
  .v4 ⟨bigEndian 4 value, length_bigEndian 4 value⟩

def ipv6Address (value : Nat) : IpAddr :=
  .v6 ⟨bigEndian 16 value, length_bigEndian 16 value⟩

def normalizeDomain (domain : Text) : Except FakeDnsError Text :=
  let domain := Text.toAsciiLowercase
    ((Text.trim domain).rdropWhile (· == '.'))
  if domain = [] ∨ 253 < (Text.utf8 domain).length then .error .emptyDomain
  else .ok domain

theorem normalizeDomain_eq_ok {asked name : Text}
    (normalized : normalizeDomain asked = .ok name) :
    name = Text.toAsciiLowercase ((Text.trim asked).rdropWhile (· == '.')) ∧
      (Text.utf8 name).length ≤ 253 := by
  simp only [normalizeDomain] at normalized
  split at normalized
  next => cases normalized
  next refused =>
      simp only [not_or, Nat.not_lt] at refused
      obtain rfl := Except.ok.inj normalized
      exact ⟨rfl, refused.2⟩

/-- A stored name does not start with whitespace.  Whitespace before its
final dots stays at its end. -/
theorem solid_head_of_normalizeDomain {asked name : Text} {character : Char}
    (normalized : normalizeDomain asked = .ok name)
    (first : name.head? = some character) :
    Text.isWhitespace character = false := by
  rw [(normalizeDomain_eq_ok normalized).1, Text.toAsciiLowercase,
    List.head?_map, Option.map_eq_some_iff] at first
  obtain ⟨original, found, rfl⟩ := first
  obtain ⟨dots, same⟩ := List.rdropWhile_prefix (· == '.') (Text.trim asked)
  obtain ⟨rest, spelled⟩ := List.head?_eq_some_iff.mp found
  rw [Text.isWhitespace_toLower]
  apply @Text.head?_trimMatches _ asked
  rw [← Text.trim, ← same, spelled]
  rfl

namespace FakeDnsTable

def new (generation : UInt64) (capacity : Nat) :
    Except FakeDnsError FakeDnsTable :=
  if capacity = 0 then .error .zeroCapacity
  else .ok ⟨generation, capacity, .empty, [], firstIpv4, firstIpv6⟩

def mappings (table : FakeDnsTable) : List FakeDnsMapping :=
  table.byAddress.entries.map Prod.snd

def removeExpired (table : FakeDnsTable) (now : Nat) : FakeDnsTable :=
  let kept := table.byAddress.retain fun _ mapping => now < mapping.expiresAt
  { table with
    byAddress := kept
    insertionOrder := table.insertionOrder.filter kept.contains }

/-- Advances the cursor of the family and returns its address. -/
def candidate (table : FakeDnsTable) :
    IpAddr → Except FakeDnsError (IpAddr × FakeDnsTable)
  | .v4 _ =>
      if table.nextIpv4 + 1 < 2 ^ 32 then
        let next := table.nextIpv4 + 1
        .ok (ipv4Address table.nextIpv4,
          { table with
            nextIpv4 := if lastIpv4 < next then firstIpv4 else next })
      else .error .addressSpaceExhausted
  | .v6 _ =>
      if table.nextIpv6 + 1 < 2 ^ 128 then
        .ok (ipv6Address table.nextIpv6,
          { table with nextIpv6 := table.nextIpv6 + 1 })
      else .error .addressSpaceExhausted

/-- Tries the given number of candidates. -/
def nextAddress (real : IpAddr) :
    Nat → FakeDnsTable → Except FakeDnsError IpAddr × FakeDnsTable
  | 0, table => (.error .addressSpaceExhausted, table)
  | tries + 1, table =>
      match candidate table real with
      | .error failure => (.error failure, table)
      | .ok (address, advanced) =>
          if advanced.byAddress.contains address then
            nextAddress real tries advanced
          else (.ok address, advanced)

/-- Evicts the oldest mappings while the table is full. -/
def evict (table : FakeDnsTable) : List IpAddr → FakeDnsTable
  | [] => { table with insertionOrder := [] }
  | oldest :: order =>
      if table.capacity ≤ table.byAddress.size then
        evict { table with byAddress := table.byAddress.erase oldest } order
      else { table with insertionOrder := oldest :: order }

/-- Renews the mapping of a domain and its answer, where there is one. -/
def renew (table : FakeDnsTable) (domain : Text) (real : IpAddr)
    (expiresAt : Nat) : Option (IpAddr × FakeDnsTable) :=
  (table.byAddress.entries.find? fun entry =>
    entry.2.domain = domain && entry.2.realAddress = real).map
      fun existing => (existing.2.fakeAddress,
        { table with
          byAddress := table.byAddress.insert existing.1
            { existing.2 with expiresAt := expiresAt } })

/-- Stores a fresh mapping, after evictions where the table is full. -/
def insertMapping (table : FakeDnsTable) (domain : Text) (real : IpAddr)
    (expiresAt : Nat) : Except FakeDnsError IpAddr × FakeDnsTable :=
  let evicted := table.evict table.insertionOrder
  match nextAddress real (evicted.capacity + 1) evicted with
  | (.error failure, advanced) => (.error failure, advanced)
  | (.ok fake, advanced) =>
      (.ok fake,
        { advanced with
          insertionOrder := advanced.insertionOrder ++ [fake]
          byAddress := advanced.byAddress.insert fake
            ⟨domain, real, fake, table.generation, expiresAt⟩ })

def allocate (table : FakeDnsTable) (generation : UInt64) (domain : Text)
    (real : IpAddr) (ttl now : Nat) :
    Except FakeDnsError IpAddr × FakeDnsTable :=
  if generation ≠ table.generation then (.error .generationMismatch, table)
  else
    match normalizeDomain domain with
    | .error failure => (.error failure, table)
    | .ok domain =>
        let live := table.removeExpired now
        match live.renew domain real (now + ttl) with
        | some (fake, renewed) => (.ok fake, renewed)
        | none => live.insertMapping domain real (now + ttl)

def resolve (table : FakeDnsTable) (generation : UInt64) (fake : IpAddr)
    (now : Nat) : Except FakeDnsError (Option FakeDnsMapping) × FakeDnsTable :=
  if generation ≠ table.generation then (.error .generationMismatch, table)
  else
    let live := table.removeExpired now
    (.ok (live.byAddress.get? fake), live)

def replaceGeneration (table : FakeDnsTable) (generation : UInt64) :
    FakeDnsTable :=
  { table with
    generation := generation
    byAddress := .empty
    insertionOrder := [] }

/-! ## Runs of a table -/

inductive Call where
  | allocate (generation : UInt64) (domain : Text) (real : IpAddr)
      (ttl now : Nat)
  | resolve (generation : UInt64) (fake : IpAddr) (now : Nat)
  | replaceGeneration (generation : UInt64)

def perform (table : FakeDnsTable) : Call → FakeDnsTable
  | .allocate generation domain real ttl now =>
      (table.allocate generation domain real ttl now).2
  | .resolve generation fake now => (table.resolve generation fake now).2
  | .replaceGeneration generation => table.replaceGeneration generation

def Step (before : FakeDnsTable) (call : Call) (after : FakeDnsTable) : Prop :=
  after = before.perform call

/-! ## What the calls do -/

theorem mem_mappings_iff {table : FakeDnsTable} {mapping : FakeDnsMapping} :
    mapping ∈ table.mappings ↔
      ∃ address, table.byAddress.get? address = some mapping := by
  rw [mappings, List.mem_map]
  constructor
  · rintro ⟨⟨address, _⟩, member, rfl⟩
    exact ⟨address, OrderedMap.get?_eq_some_iff.mpr member⟩
  · rintro ⟨address, found⟩
    exact ⟨_, OrderedMap.get?_eq_some_iff.mp found, rfl⟩

theorem get?_removeExpired_iff {table : FakeDnsTable} {now : Nat}
    {address : IpAddr} {mapping : FakeDnsMapping} :
    (table.removeExpired now).byAddress.get? address = some mapping ↔
      table.byAddress.get? address = some mapping ∧
        now < mapping.expiresAt := by
  rw [removeExpired, OrderedMap.get?_retain_eq_some_iff, decide_eq_true_iff]

/-- A renewal finds the domain and the answer under some address and stores
the new end of the mapping there. -/
theorem renew_eq_some {table renewed : FakeDnsTable} {domain : Text}
    {real fake : IpAddr} {expiresAt : Nat}
    (found : table.renew domain real expiresAt = some (fake, renewed)) :
    ∃ address mapping, table.byAddress.get? address = some mapping ∧
      mapping.domain = domain ∧ mapping.realAddress = real ∧
      fake = mapping.fakeAddress ∧
      renewed = { table with
        byAddress := table.byAddress.insert address
          { mapping with expiresAt := expiresAt } } := by
  obtain ⟨⟨address, mapping⟩, first, same⟩ := Option.map_eq_some_iff.mp found
  obtain ⟨rfl, rfl⟩ := Prod.mk.inj same
  have passes := List.find?_some first
  simp only [Bool.and_eq_true, decide_eq_true_eq] at passes
  exact ⟨address, mapping,
    OrderedMap.get?_eq_some_iff.mpr (List.mem_of_find?_eq_some first),
    passes.1, passes.2, rfl, rfl⟩

theorem renew_eq_none {table : FakeDnsTable} {domain : Text} {real : IpAddr}
    {expiresAt : Nat} (absent : table.renew domain real expiresAt = none)
    {address : IpAddr} {mapping : FakeDnsMapping}
    (stored : table.byAddress.get? address = some mapping) :
    ¬(mapping.domain = domain ∧ mapping.realAddress = real) := by
  rw [renew, Option.map_eq_none_iff, List.find?_eq_none] at absent
  have rejected := absent _ (OrderedMap.get?_eq_some_iff.mp stored)
  simpa using rejected

/-- The search for an address moves the cursors alone. -/
theorem nextAddress_state (real : IpAddr) (tries : Nat)
    (table : FakeDnsTable) :
    ∃ nextIpv4 nextIpv6, (nextAddress real tries table).2 =
      { table with nextIpv4 := nextIpv4, nextIpv6 := nextIpv6 } := by
  induction tries generalizing table with
  | zero => exact ⟨_, _, rfl⟩
  | succ tries induction =>
      have moved : ∀ {address : IpAddr} {advanced : FakeDnsTable},
          candidate table real = .ok (address, advanced) →
          ∃ nextIpv4 nextIpv6, advanced =
            { table with nextIpv4 := nextIpv4, nextIpv6 := nextIpv6 } := by
        intro address advanced moves
        cases real with
        | v4 octets =>
            simp only [candidate] at moves
            split at moves
            · cases moves
              exact ⟨_, _, rfl⟩
            · cases moves
        | v6 octets =>
            simp only [candidate] at moves
            split at moves
            · cases moves
              exact ⟨_, _, rfl⟩
            · cases moves
      simp only [nextAddress]
      split
      next => exact ⟨_, _, rfl⟩
      next address advanced moves =>
          obtain ⟨nextIpv4, nextIpv6, rfl⟩ := moved moves
          split
          · obtain ⟨_, _, same⟩ := induction
              { table with nextIpv4 := nextIpv4, nextIpv6 := nextIpv6 }
            exact ⟨_, _, same⟩
          · exact ⟨_, _, rfl⟩

/-- Eviction takes mappings and a front part of the order away. -/
theorem evict_state (order : List IpAddr) (table : FakeDnsTable) :
    ∃ byAddress kept, table.evict order =
        { table with byAddress := byAddress, insertionOrder := kept } ∧
      ∀ address mapping, byAddress.get? address = some mapping →
        table.byAddress.get? address = some mapping := by
  induction order generalizing table with
  | nil => exact ⟨_, _, rfl, fun _ _ found => found⟩
  | cons oldest order induction =>
      simp only [evict]
      split
      · obtain ⟨byAddress, kept, same, sub⟩ := induction
          { table with byAddress := table.byAddress.erase oldest }
        refine ⟨byAddress, kept, same, ?_⟩
        intro address mapping found
        exact (OrderedMap.get?_erase_eq_some_iff.mp
          (sub address mapping found)).2
      · exact ⟨_, _, rfl, fun _ _ found => found⟩

/-! ## Stored domains -/

/-- Every domain of the table is a normal form. -/
def DomainsNormal (table : FakeDnsTable) : Prop :=
  ∀ mapping ∈ table.mappings, ∃ asked,
    normalizeDomain asked = .ok mapping.domain

namespace DomainsNormal

variable {table : FakeDnsTable}

/-- A table without mappings of its own keeps what it takes from another. -/
theorem of_get? {other : FakeDnsTable} (normal : table.DomainsNormal)
    (taken : ∀ address mapping,
      other.byAddress.get? address = some mapping →
        table.byAddress.get? address = some mapping) :
    other.DomainsNormal := by
  intro mapping member
  obtain ⟨address, found⟩ := mem_mappings_iff.mp member
  exact normal mapping (mem_mappings_iff.mpr ⟨address, taken _ _ found⟩)

theorem removeExpired (normal : table.DomainsNormal) (now : Nat) :
    (table.removeExpired now).DomainsNormal :=
  normal.of_get? fun _ _ found => (get?_removeExpired_iff.mp found).1

/-- Storing a mapping with a normal form keeps the others. -/
theorem insert (normal : table.DomainsNormal) {stored : FakeDnsTable}
    {address : IpAddr} (mapping : FakeDnsMapping) {asked : Text}
    (normalized : normalizeDomain asked = .ok mapping.domain)
    (same : stored.byAddress = table.byAddress.insert address mapping) :
    stored.DomainsNormal := by
  intro found member
  obtain ⟨other, stored⟩ := mem_mappings_iff.mp member
  rw [same] at stored
  rcases OrderedMap.get?_insert_eq_some_iff.mp stored with
    ⟨_, rfl⟩ | ⟨_, before⟩
  · exact ⟨asked, normalized⟩
  · exact normal found (mem_mappings_iff.mpr ⟨other, before⟩)

theorem renew (normal : table.DomainsNormal) {renewed : FakeDnsTable}
    {domain : Text} {real fake : IpAddr} {expiresAt : Nat}
    (found : table.renew domain real expiresAt = some (fake, renewed)) :
    renewed.DomainsNormal := by
  obtain ⟨address, mapping, stored, _, _, _, rfl⟩ := renew_eq_some found
  obtain ⟨asked, normalized⟩ :=
    normal mapping (mem_mappings_iff.mpr ⟨address, stored⟩)
  exact normal.insert { mapping with expiresAt := expiresAt } normalized rfl

theorem insertMapping (normal : table.DomainsNormal) {asked domain : Text}
    (normalized : normalizeDomain asked = .ok domain) (real : IpAddr)
    (expiresAt : Nat) :
    (table.insertMapping domain real expiresAt).2.DomainsNormal := by
  obtain ⟨byAddress, kept, evicted, sub⟩ :=
    evict_state table.insertionOrder table
  have rest : ({ table with
      byAddress := byAddress
      insertionOrder := kept } : FakeDnsTable).DomainsNormal :=
    normal.of_get? sub
  obtain ⟨nextIpv4, nextIpv6, moved⟩ := nextAddress_state real
    (table.capacity + 1)
    { table with byAddress := byAddress, insertionOrder := kept }
  simp only [FakeDnsTable.insertMapping, evicted]
  split
  next failure advanced ends =>
      simp only [ends] at moved
      rw [moved]
      exact rest
  next fake advanced ends =>
      simp only [ends] at moved
      rw [moved]
      exact rest.insert ⟨domain, real, fake, table.generation, expiresAt⟩
        normalized rfl

theorem allocate (normal : table.DomainsNormal) (generation : UInt64)
    (domain : Text) (real : IpAddr) (ttl now : Nat) :
    (table.allocate generation domain real ttl now).2.DomainsNormal := by
  simp only [FakeDnsTable.allocate]
  split
  · exact normal
  · split
    next => exact normal
    next stored normalized =>
        have live := normal.removeExpired now
        split
        next fake renewed found => exact live.renew found
        next => exact live.insertMapping normalized real (now + ttl)

theorem perform (normal : table.DomainsNormal) (call : Call) :
    (table.perform call).DomainsNormal := by
  cases call with
  | allocate generation domain real ttl now =>
      exact normal.allocate generation domain real ttl now
  | resolve generation fake now =>
      simp only [FakeDnsTable.perform, FakeDnsTable.resolve]
      split
      · exact normal
      · exact normal.removeExpired now
  | replaceGeneration generation =>
      intro mapping member
      cases member

end DomainsNormal

/-- Over any calls on a new table, every stored domain is a normal form. -/
theorem domainsNormal_of_reachable {generation : UInt64} {capacity : Nat}
    {fresh table : FakeDnsTable} (created : new generation capacity = .ok fresh)
    (reached : Reachable Step fresh table) : table.DomainsNormal := by
  refine Reachable.invariant ?_ ?_ reached
  · rw [new] at created
    split at created
    · cases created
    · cases created
      intro mapping member
      cases member
  · rintro before call after normal rfl
    exact normal.perform call

end FakeDnsTable

end Velum.Tun
