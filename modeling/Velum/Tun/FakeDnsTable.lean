import Velum.Foundation.Cursor
import Velum.Tun.FakeDns

/-!
# The table of fake addresses over whole runs

The map, the eviction queue, and the two cursors are written separately.  The
invariant ties them together: the queue lists the keys of the map once each,
and every key is the fake address of its own mapping.  A fresh IPv4 address is
always found, since the cursor visits more addresses than are mapped.
-/

namespace Velum.Tun

open Foundation Protocol

def SameFamily : IpAddr → IpAddr → Prop
  | .v4 _, .v4 _ => True
  | .v6 _, .v6 _ => True
  | _, _ => False

/-- A fake IPv4 address lies between 198.18.0.1 and 198.19.255.254. -/
def InPool : IpAddr → Prop
  | .v4 octets => firstIpv4 ≤ ofBigEndian octets.toList ∧
      ofBigEndian octets.toList ≤ lastIpv4
  | .v6 _ => True

namespace FakeDnsTable

/-- The IPv4 cursor stays in its range. -/
def CursorIn (value : Nat) : Prop :=
  firstIpv4 ≤ value ∧ value ≤ lastIpv4

theorem firstIpv4_le_lastIpv4 : firstIpv4 ≤ lastIpv4 := by
  decide

theorem lastIpv4_lt : lastIpv4 + 1 < 2 ^ 32 := by
  decide

theorem CursorIn.following {value : Nat} (inside : CursorIn value) :
    CursorIn (following firstIpv4 lastIpv4 value) :=
  ⟨Cursor.first_le_following inside.1,
    Cursor.following_le_last firstIpv4_le_lastIpv4⟩

theorem ofBigEndian_ipv4 {value : Nat} (inside : CursorIn value) :
    ofBigEndian (bigEndian 4 value) = value := by
  apply ofBigEndian_bigEndian
  have below := lastIpv4_lt
  have last := inside.2
  omega

theorem inPool_ipv4Address {value : Nat} (inside : CursorIn value) :
    InPool (ipv4Address value) := by
  have number : ofBigEndian
      (List.Vector.toList ⟨bigEndian 4 value, length_bigEndian 4 value⟩) =
        value := ofBigEndian_ipv4 inside
  simp only [ipv4Address, InPool, number]
  exact inside

/-- The state of a table whose cursors have moved. -/
def moved (table : FakeDnsTable) (nextIpv4 nextIpv6 : Nat) : FakeDnsTable :=
  { table with nextIpv4 := nextIpv4, nextIpv6 := nextIpv6 }

theorem candidate_v4 {table : FakeDnsTable} (inside : CursorIn table.nextIpv4)
    (octets : List.Vector UInt8 4) :
    candidate table (.v4 octets) = .ok (ipv4Address table.nextIpv4,
      table.moved (following firstIpv4 lastIpv4 table.nextIpv4)
        table.nextIpv6) := by
  have last := inside.2
  have below := lastIpv4_lt
  rw [candidate, if_pos (by omega)]
  rfl

theorem candidate_v6 (table : FakeDnsTable)
    (octets : List.Vector UInt8 16) :
    candidate table (.v6 octets) = .error .addressSpaceExhausted ∨
      candidate table (.v6 octets) = .ok (ipv6Address table.nextIpv6,
        table.moved table.nextIpv4 (table.nextIpv6 + 1)) := by
  rw [candidate]
  split
  · exact .inr rfl
  · exact .inl rfl

/-- What the search for an address can do. -/
theorem nextAddress_spec (real : IpAddr) (tries : Nat) {table : FakeDnsTable}
    (inside : CursorIn table.nextIpv4) :
    ∃ nextIpv4 nextIpv6, CursorIn nextIpv4 ∧
      (nextAddress real tries table).2 = table.moved nextIpv4 nextIpv6 ∧
      ∀ fake, (nextAddress real tries table).1 = .ok fake →
        table.byAddress.get? fake = none ∧ SameFamily real fake ∧
          InPool fake := by
  induction tries generalizing table with
  | zero => exact ⟨_, _, inside, rfl, fun _ found => by cases found⟩
  | succ tries induction =>
      have goesOn : ∀ (address : IpAddr) (nextIpv4 nextIpv6 : Nat),
          CursorIn nextIpv4 → SameFamily real address → InPool address →
          candidate table real =
            .ok (address, table.moved nextIpv4 nextIpv6) →
          ∃ nextIpv4 nextIpv6, CursorIn nextIpv4 ∧
            (nextAddress real (tries + 1) table).2 =
              table.moved nextIpv4 nextIpv6 ∧
            ∀ fake, (nextAddress real (tries + 1) table).1 = .ok fake →
              table.byAddress.get? fake = none ∧ SameFamily real fake ∧
                InPool fake := by
        intro address nextIpv4 nextIpv6 cursor family pool moves
        simp only [nextAddress, moves]
        split
        · obtain ⟨laterIpv4, laterIpv6, later, same, free⟩ :=
            @induction (table.moved nextIpv4 nextIpv6) cursor
          exact ⟨laterIpv4, laterIpv6, later, same, free⟩
        next free =>
            refine ⟨nextIpv4, nextIpv6, cursor, rfl, ?_⟩
            intro fake found
            cases found
            rw [OrderedMap.contains, Option.isSome_iff_ne_none,
              not_not] at free
            exact ⟨free, family, pool⟩
      cases real with
      | v4 octets =>
          exact goesOn _ _ _ inside.following (by trivial)
            (inPool_ipv4Address inside) (candidate_v4 inside octets)
      | v6 octets =>
          rcases candidate_v6 table octets with moves | moves
          · simp only [nextAddress, moves]
            exact ⟨_, _, inside, rfl, fun _ found => by cases found⟩
          · exact goesOn _ _ _ inside (by trivial) (by trivial) moves

/-! ## The invariant -/

structure Sound (table : FakeDnsTable) : Prop where
  positive : 0 < table.capacity
  cursor : CursorIn table.nextIpv4
  nodup : table.insertionOrder.Nodup
  listed : ∀ address, address ∈ table.insertionOrder ↔
    (table.byAddress.get? address).isSome
  bounded : table.byAddress.size ≤ table.capacity
  own : ∀ address mapping, table.byAddress.get? address = some mapping →
    mapping.fakeAddress = address ∧ mapping.generation = table.generation
  family : ∀ address mapping, table.byAddress.get? address = some mapping →
    SameFamily mapping.realAddress address ∧ InPool address
  distinct : ∀ address other mapping another,
    table.byAddress.get? address = some mapping →
    table.byAddress.get? other = some another →
    mapping.domain = another.domain →
    mapping.realAddress = another.realAddress → address = other

theorem eq_of_new {generation : UInt64} {capacity : Nat}
    {table : FakeDnsTable} (created : new generation capacity = .ok table) :
    table = ⟨generation, capacity, .empty, [], firstIpv4, firstIpv6⟩ := by
  rw [new] at created
  split at created
  · cases created
  · exact (Except.ok.inj created).symm

theorem sound_new {generation : UInt64} {capacity : Nat}
    {table : FakeDnsTable} (created : new generation capacity = .ok table) :
    table.Sound := by
  rw [new] at created
  split at created
  next => cases created
  next positive =>
      cases created
      exact
        { positive := Nat.pos_of_ne_zero positive
          cursor := ⟨le_rfl, firstIpv4_le_lastIpv4⟩
          nodup := .nil
          listed := fun _ => iff_of_false List.not_mem_nil (by simp)
          bounded := Nat.zero_le _
          own := fun _ _ found => by cases found
          family := fun _ _ found => by cases found
          distinct := fun _ _ _ _ found => by cases found }

/-- A table that lost some mappings, with the order of the others. -/
structure Sublisted (table other : FakeDnsTable) : Prop where
  capacity : other.capacity = table.capacity
  generation : other.generation = table.generation
  cursor : CursorIn other.nextIpv4
  taken : ∀ address mapping, other.byAddress.get? address = some mapping →
    table.byAddress.get? address = some mapping
  fewer : other.byAddress.size ≤ table.byAddress.size

namespace Sound

variable {table : FakeDnsTable}

theorem sublisted (sound : table.Sound) {other : FakeDnsTable}
    (sub : table.Sublisted other) (nodup : other.insertionOrder.Nodup)
    (listed : ∀ address, address ∈ other.insertionOrder ↔
      (other.byAddress.get? address).isSome) : other.Sound where
  positive := by
    rw [sub.capacity]
    exact sound.positive
  cursor := sub.cursor
  nodup := nodup
  listed := listed
  bounded := by
    rw [sub.capacity]
    exact sub.fewer.trans sound.bounded
  own := by
    intro address mapping found
    rw [sub.generation]
    exact sound.own address mapping (sub.taken address mapping found)
  family := fun address mapping found =>
    sound.family address mapping (sub.taken address mapping found)
  distinct := fun address other mapping another first second =>
    sound.distinct address other mapping another (sub.taken _ _ first)
      (sub.taken _ _ second)

theorem removeExpired (sound : table.Sound) (now : Nat) :
    (table.removeExpired now).Sound := by
  refine sound.sublisted ?_ (sound.nodup.filter _) ?_
  · exact
      { capacity := rfl
        generation := rfl
        cursor := sound.cursor
        taken := fun _ _ found => (get?_removeExpired_iff.mp found).1
        fewer := List.length_filter_le _ _ }
  · intro address
    rw [FakeDnsTable.removeExpired, List.mem_filter, OrderedMap.contains]
    refine ⟨And.right, fun kept => ⟨?_, kept⟩⟩
    obtain ⟨mapping, found⟩ := Option.isSome_iff_exists.mp kept
    rw [sound.listed, (OrderedMap.get?_retain_eq_some_iff.mp found).1]
    rfl

/-- Without its oldest mapping the table lists the others. -/
theorem dropOldest {order : List IpAddr} {oldest : IpAddr}
    (sound : ({ table with insertionOrder := oldest :: order } :
      FakeDnsTable).Sound) :
    ({ table with
      byAddress := table.byAddress.erase oldest
      insertionOrder := order } : FakeDnsTable).Sound := by
  obtain ⟨fresh, nodup⟩ := List.nodup_cons.mp sound.nodup
  refine sound.sublisted ?_ nodup ?_
  · exact
      { capacity := rfl
        generation := rfl
        cursor := sound.cursor
        taken := fun _ _ found =>
          (OrderedMap.get?_erase_eq_some_iff.mp found).2
        fewer := List.length_filter_le _ _ }
  · intro address
    have before := sound.listed address
    simp only [List.mem_cons] at before
    by_cases same : address = oldest
    · subst same
      simp only [OrderedMap.get?_erase_self]
      exact iff_of_false fresh Bool.false_ne_true
    · simp only [OrderedMap.get?_erase_of_ne _ same, ← before, same,
        false_or]

/-- Eviction makes room for one mapping. -/
theorem evict_order {order : List IpAddr}
    (sound : ({ table with insertionOrder := order } :
      FakeDnsTable).Sound) :
    (table.evict order).Sound ∧
      (table.evict order).byAddress.size < (table.evict order).capacity := by
  induction order generalizing table with
  | nil =>
      refine ⟨sound, ?_⟩
      have empty : table.byAddress.entries = [] := by
        rw [List.eq_nil_iff_forall_not_mem]
        rintro ⟨address, mapping⟩ member
        have stored := OrderedMap.get?_eq_some_iff.mpr member
        have listed := (sound.listed address).mpr
        simp only [stored, Option.isSome_some, List.not_mem_nil] at listed
        exact listed trivial
      simp only [evict, OrderedMap.size, empty]
      exact sound.positive
  | cons oldest order induction =>
      simp only [evict]
      split
      · exact @induction
          { table with byAddress := table.byAddress.erase oldest }
          sound.dropOldest
      next room => exact ⟨sound, Nat.lt_of_not_le room⟩

theorem evict (sound : table.Sound) :
    (table.evict table.insertionOrder).Sound ∧
      (table.evict table.insertionOrder).byAddress.size < table.capacity := by
  obtain ⟨kept, room⟩ := @evict_order table table.insertionOrder sound
  obtain ⟨byAddress, order, same, _⟩ :=
    evict_state table.insertionOrder table
  rw [same] at room ⊢
  rw [same] at kept
  exact ⟨kept, room⟩

/-- A renewal changes the end of one mapping alone. -/
theorem renew (sound : table.Sound) {address : IpAddr}
    {mapping : FakeDnsMapping}
    (stored : table.byAddress.get? address = some mapping)
    (expiresAt : Nat) :
    ({ table with
      byAddress := table.byAddress.insert address
        { mapping with expiresAt := expiresAt } } : FakeDnsTable).Sound := by
  -- Up to its end, every mapping is one of the table before.
  have before : ∀ other another,
      (table.byAddress.insert address
        { mapping with expiresAt := expiresAt }).get? other = some another →
      ∃ old, table.byAddress.get? other = some old ∧
        another.domain = old.domain ∧
        another.realAddress = old.realAddress ∧
        another.fakeAddress = old.fakeAddress ∧
        another.generation = old.generation := by
    intro other another found
    rcases OrderedMap.get?_insert_eq_some_iff.mp found with
      ⟨rfl, rfl⟩ | ⟨_, kept⟩
    · exact ⟨mapping, stored, rfl, rfl, rfl, rfl⟩
    · exact ⟨another, kept, rfl, rfl, rfl, rfl⟩
  constructor
  · exact sound.positive
  · exact sound.cursor
  · exact sound.nodup
  · intro other
    rw [sound.listed]
    by_cases same : other = address
    · subst same
      simp [stored]
    · rw [OrderedMap.get?_insert_of_ne _ _ same]
  · have counted := OrderedMap.length_filter_insert table.byAddress address
      { mapping with expiresAt := expiresAt } fun _ => true
    have present := OrderedMap.length_filter_of_get? stored fun _ => true
    simp only [List.filter_true, if_true] at counted present
    have bounded := sound.bounded
    simp only [OrderedMap.size] at bounded ⊢
    omega
  · intro other another found
    obtain ⟨old, kept, _, _, fake, generation⟩ := before other another found
    rw [fake, generation]
    exact sound.own other old kept
  · intro other another found
    obtain ⟨old, kept, _, real, _, _⟩ := before other another found
    rw [real]
    exact sound.family other old kept
  · intro first second one two firstFound secondFound sameDomain sameReal
    obtain ⟨oldOne, keptOne, domainOne, realOne, _, _⟩ :=
      before first one firstFound
    obtain ⟨oldTwo, keptTwo, domainTwo, realTwo, _, _⟩ :=
      before second two secondFound
    exact sound.distinct first second oldOne oldTwo keptOne keptTwo
      (domainOne.symm.trans (sameDomain.trans domainTwo))
      (realOne.symm.trans (sameReal.trans realTwo))

theorem moved (sound : table.Sound) {nextIpv4 : Nat}
    (inside : CursorIn nextIpv4) (nextIpv6 : Nat) :
    (table.moved nextIpv4 nextIpv6).Sound :=
  { sound with cursor := inside }

end Sound

/-- A fresh mapping behind the others. -/
def stored (table : FakeDnsTable) (mapping : FakeDnsMapping) : FakeDnsTable :=
  { table with
    insertionOrder := table.insertionOrder ++ [mapping.fakeAddress]
    byAddress := table.byAddress.insert mapping.fakeAddress mapping }

/-- A mapping whose address, domain, and answer are new can be stored where
there is room. -/
theorem Sound.stored {table : FakeDnsTable} (sound : table.Sound)
    {mapping : FakeDnsMapping}
    (room : table.byAddress.size < table.capacity)
    (free : table.byAddress.get? mapping.fakeAddress = none)
    (generation : mapping.generation = table.generation)
    (family : SameFamily mapping.realAddress mapping.fakeAddress)
    (pool : InPool mapping.fakeAddress)
    (fresh : ∀ address old, table.byAddress.get? address = some old →
      ¬(old.domain = mapping.domain ∧
        old.realAddress = mapping.realAddress)) :
    (table.stored mapping).Sound := by
  have unlisted : mapping.fakeAddress ∉ table.insertionOrder := by
    rw [sound.listed, free]
    exact Bool.false_ne_true
  constructor
  · exact sound.positive
  · exact sound.cursor
  · exact List.nodup_append.mpr ⟨sound.nodup, List.nodup_singleton _, by
      intro left member right last same
      rw [List.mem_singleton.mp last] at same
      rw [same] at member
      exact unlisted member⟩
  · intro address
    simp only [FakeDnsTable.stored, List.mem_append, List.mem_singleton]
    rw [sound.listed]
    by_cases same : address = mapping.fakeAddress
    · rw [same, OrderedMap.get?_insert_self]
      exact iff_of_true (.inr rfl) rfl
    · rw [OrderedMap.get?_insert_of_ne _ _ same]
      exact or_iff_left same
  · simp only [FakeDnsTable.stored]
    rw [OrderedMap.size_insert_of_absent free]
    exact room
  · intro address another found
    rcases OrderedMap.get?_insert_eq_some_iff.mp found with
      ⟨rfl, rfl⟩ | ⟨_, kept⟩
    · exact ⟨rfl, generation⟩
    · exact sound.own address another kept
  · intro address another found
    rcases OrderedMap.get?_insert_eq_some_iff.mp found with
      ⟨rfl, rfl⟩ | ⟨_, kept⟩
    · exact ⟨family, pool⟩
    · exact sound.family address another kept
  · intro first second one two firstFound secondFound sameDomain sameReal
    rcases OrderedMap.get?_insert_eq_some_iff.mp firstFound with
      ⟨firstNew, rfl⟩ | ⟨_, firstKept⟩
    · rcases OrderedMap.get?_insert_eq_some_iff.mp secondFound with
        ⟨secondNew, _⟩ | ⟨_, secondKept⟩
      · rw [firstNew, secondNew]
      · exact absurd ⟨sameDomain.symm, sameReal.symm⟩
          (fresh second two secondKept)
    · rcases OrderedMap.get?_insert_eq_some_iff.mp secondFound with
        ⟨_, rfl⟩ | ⟨_, secondKept⟩
      · exact absurd ⟨sameDomain, sameReal⟩ (fresh first one firstKept)
      · exact sound.distinct first second one two firstKept secondKept
          sameDomain sameReal

/-! ## What an allocation can do -/

/-- The table after expiry and eviction, with its cursors moved on. -/
def vacated (table : FakeDnsTable) (nextIpv4 nextIpv6 : Nat) : FakeDnsTable :=
  (table.evict table.insertionOrder).moved nextIpv4 nextIpv6

theorem evict_fields (table : FakeDnsTable) (order : List IpAddr) :
    (table.evict order).capacity = table.capacity ∧
      (table.evict order).generation = table.generation ∧
      (table.evict order).nextIpv4 = table.nextIpv4 := by
  obtain ⟨byAddress, kept, same, _⟩ := evict_state order table
  rw [same]
  exact ⟨rfl, rfl, rfl⟩

namespace Sound

variable {table : FakeDnsTable}

theorem insertMapping_cases (sound : table.Sound) (domain : Text)
    (real : IpAddr) (expiresAt : Nat) :
    ∃ nextIpv4 nextIpv6, CursorIn nextIpv4 ∧
      ((∃ failure, table.insertMapping domain real expiresAt =
        (.error failure, table.vacated nextIpv4 nextIpv6)) ∨
      ∃ fake, table.insertMapping domain real expiresAt =
          (.ok fake, (table.vacated nextIpv4 nextIpv6).stored
            ⟨domain, real, fake, table.generation, expiresAt⟩) ∧
        (table.evict table.insertionOrder).byAddress.get? fake = none ∧
        SameFamily real fake ∧ InPool fake) := by
  obtain ⟨kept, room⟩ := sound.evict
  obtain ⟨nextIpv4, nextIpv6, inside, state, found⟩ := nextAddress_spec real
    ((table.evict table.insertionOrder).capacity + 1) kept.cursor
  refine ⟨nextIpv4, nextIpv6, inside, ?_⟩
  simp only [insertMapping]
  split
  next failure advanced ends =>
      rw [ends] at state
      refine .inl ⟨failure, ?_⟩
      rw [show advanced = _ from state]
      rfl
  next fake advanced ends =>
      rw [ends] at state found
      refine .inr ⟨fake, ?_, found fake rfl⟩
      rw [show advanced = _ from state]
      rfl

theorem insertMapping (sound : table.Sound) {domain : Text} {real : IpAddr}
    (fresh : ∀ address old, table.byAddress.get? address = some old →
      ¬(old.domain = domain ∧ old.realAddress = real)) (expiresAt : Nat) :
    (table.insertMapping domain real expiresAt).2.Sound := by
  obtain ⟨kept, room⟩ := sound.evict
  obtain ⟨capacity, generation, _⟩ :=
    table.evict_fields table.insertionOrder
  obtain ⟨byAddress, order, same, sub⟩ :=
    evict_state table.insertionOrder table
  obtain ⟨nextIpv4, nextIpv6, inside, ⟨failure, ends⟩ |
    ⟨fake, ends, free, family, pool⟩⟩ :=
    sound.insertMapping_cases domain real expiresAt
  · rw [ends]
    exact kept.moved inside nextIpv6
  · rw [ends]
    refine (kept.moved inside nextIpv6).stored ?_ free generation.symm family
      pool ?_
    · simp only [FakeDnsTable.moved, capacity]
      exact room
    · intro address old found
      apply fresh address old
      apply sub address old
      rw [same] at found
      exact found

/-- An allocation is refused, renews a live mapping of the domain and its
answer, or stores a mapping of its own. -/
theorem allocate_cases (table : FakeDnsTable) (generation : UInt64)
    (asked : Text) (real : IpAddr) (ttl now : Nat) :
    (∃ failure, table.allocate generation asked real ttl now =
        (.error failure, table) ∧
      (generation ≠ table.generation ∨
        normalizeDomain asked = .error failure)) ∨
    ∃ domain, generation = table.generation ∧
      normalizeDomain asked = .ok domain ∧
      ((∃ address mapping,
        (table.removeExpired now).byAddress.get? address = some mapping ∧
        mapping.domain = domain ∧ mapping.realAddress = real ∧
        table.allocate generation asked real ttl now =
          (.ok mapping.fakeAddress, { table.removeExpired now with
            byAddress := (table.removeExpired now).byAddress.insert address
              { mapping with expiresAt := now + ttl } })) ∨
      ((∀ address old,
        (table.removeExpired now).byAddress.get? address = some old →
          ¬(old.domain = domain ∧ old.realAddress = real)) ∧
        table.allocate generation asked real ttl now =
          (table.removeExpired now).insertMapping domain real
            (now + ttl))) := by
  by_cases current : generation = table.generation
  · cases normalized : normalizeDomain asked with
    | error failure =>
        refine .inl ⟨failure, ?_, .inr rfl⟩
        simp only [FakeDnsTable.allocate, normalized]
        rw [if_neg (not_not.mpr current)]
    | ok domain =>
        refine .inr ⟨domain, current, rfl, ?_⟩
        simp only [FakeDnsTable.allocate, normalized]
        rw [if_neg (not_not.mpr current)]
        cases renewal : (table.removeExpired now).renew domain real
            (now + ttl) with
        | some result =>
            obtain ⟨fake, renewed⟩ := result
            obtain ⟨address, mapping, found, isDomain, isReal, rfl, rfl⟩ :=
              renew_eq_some renewal
            exact .inl ⟨address, mapping, found, isDomain, isReal, rfl⟩
        | none =>
            exact .inr ⟨fun address old found => renew_eq_none renewal found,
              rfl⟩
  · refine .inl ⟨.generationMismatch, ?_, .inl current⟩
    simp only [FakeDnsTable.allocate]
    rw [if_pos current]

theorem allocate (sound : table.Sound) (generation : UInt64) (asked : Text)
    (real : IpAddr) (ttl now : Nat) :
    (table.allocate generation asked real ttl now).2.Sound := by
  have live := sound.removeExpired now
  rcases allocate_cases table generation asked real ttl now with
    ⟨failure, same, _⟩ | ⟨domain, _, _, ⟨address, mapping, found, _, _, same⟩ |
      ⟨fresh, same⟩⟩
  · rw [same]
    exact sound
  · rw [same]
    exact live.renew found (now + ttl)
  · rw [same]
    exact live.insertMapping fresh (now + ttl)

theorem perform (sound : table.Sound) (call : Call) :
    (table.perform call).Sound := by
  cases call with
  | allocate generation asked real ttl now =>
      exact sound.allocate generation asked real ttl now
  | resolve generation fake now =>
      simp only [FakeDnsTable.perform, resolve]
      split
      · exact sound
      · exact sound.removeExpired now
  | replaceGeneration generation =>
      exact
        { positive := sound.positive
          cursor := sound.cursor
          nodup := .nil
          listed := fun _ => iff_of_false List.not_mem_nil (by
            simp [FakeDnsTable.perform, replaceGeneration])
          bounded := Nat.zero_le _
          own := fun _ _ found => by cases found
          family := fun _ _ found => by cases found
          distinct := fun _ _ _ _ found => by cases found }

end Sound

theorem sound_of_reachable {generation : UInt64} {capacity : Nat}
    {fresh table : FakeDnsTable} (created : new generation capacity = .ok fresh)
    (reached : Reachable Step fresh table) : table.Sound := by
  refine Reachable.invariant (sound_new created) ?_ reached
  rintro before call after sound rfl
  exact sound.perform call

/-! ## What allocations record -/

/-- What an allocation records about its address. -/
structure Identity where
  domain : Text
  realAddress : IpAddr
  generation : UInt64
  deriving DecidableEq

def identityOf (mapping : FakeDnsMapping) : Identity :=
  ⟨mapping.domain, mapping.realAddress, mapping.generation⟩

/-- The address that a call allocates, with what it records. -/
def allocated (table : FakeDnsTable) : Call → Option (IpAddr × Identity)
  | .allocate generation asked real ttl now =>
      match (table.allocate generation asked real ttl now).1,
          normalizeDomain asked with
      | .ok fake, .ok domain => some (fake, ⟨domain, real, generation⟩)
      | _, _ => none
  | _ => none

def performAll (table : FakeDnsTable) (calls : List Call) : FakeDnsTable :=
  calls.foldl perform table

/-- The allocations of some calls, oldest first. -/
def allocations : FakeDnsTable → List Call → List (IpAddr × Identity)
  | _, [] => []
  | table, call :: calls =>
      (table.allocated call).toList ++ allocations (table.perform call) calls

/-- What the last allocation of an address recorded. -/
def recorded (log : List (IpAddr × Identity)) (address : IpAddr) :
    Option Identity :=
  (log.reverse.find? (·.1 = address)).map Prod.snd

theorem recorded_snoc (log : List (IpAddr × Identity))
    (entry : IpAddr × Identity) (address : IpAddr) :
    recorded (log ++ [entry]) address =
      if entry.1 = address then some entry.2 else recorded log address := by
  rw [recorded, List.reverse_append, List.reverse_singleton,
    List.singleton_append, List.find?_cons]
  by_cases same : entry.1 = address
  · simp [same]
  · simp [same, recorded]

theorem performAll_snoc (table : FakeDnsTable) (calls : List Call)
    (call : Call) :
    table.performAll (calls ++ [call]) =
      (table.performAll calls).perform call := by
  simp [performAll]

theorem allocations_snoc (table : FakeDnsTable) (calls : List Call)
    (call : Call) :
    table.allocations (calls ++ [call]) =
      table.allocations calls ++
        ((table.performAll calls).allocated call).toList := by
  induction calls generalizing table with
  | nil => simp [allocations, performAll]
  | cons first calls induction =>
      rw [List.cons_append, allocations, allocations, induction,
        List.append_assoc]
      rfl

theorem reachable_performAll (table : FakeDnsTable) (calls : List Call) :
    Reachable Step table (table.performAll calls) := by
  induction calls using List.reverseRecOn with
  | nil => exact ⟨[], .nil⟩
  | append_singleton calls call induction =>
      rw [performAll_snoc]
      exact induction.snoc rfl

/-- Every mapping is what the last allocation of its address recorded. -/
def Remembers (log : List (IpAddr × Identity)) (table : FakeDnsTable) :
    Prop :=
  ∀ address mapping, table.byAddress.get? address = some mapping →
    recorded log address = some (identityOf mapping)

namespace Remembers

variable {log : List (IpAddr × Identity)} {table : FakeDnsTable}

theorem of_get? {other : FakeDnsTable} (remembers : Remembers log table)
    (taken : ∀ address mapping,
      other.byAddress.get? address = some mapping →
        table.byAddress.get? address = some mapping) :
    Remembers log other :=
  fun address mapping found =>
    remembers address mapping (taken address mapping found)

theorem removeExpired (remembers : Remembers log table) (now : Nat) :
    Remembers log (table.removeExpired now) :=
  remembers.of_get? fun _ _ found => (get?_removeExpired_iff.mp found).1

/-- Storing a mapping records its identity for its address. -/
theorem insert {other : FakeDnsTable} (remembers : Remembers log table)
    {address : IpAddr} {mapping : FakeDnsMapping}
    (same : other.byAddress = table.byAddress.insert address mapping) :
    Remembers (log ++ [(address, identityOf mapping)]) other := by
  intro looked found stored
  rw [recorded_snoc]
  rw [same] at stored
  rcases OrderedMap.get?_insert_eq_some_iff.mp stored with
    ⟨rfl, rfl⟩ | ⟨different, kept⟩
  · exact if_pos rfl
  · rw [if_neg (Ne.symm different)]
    exact remembers looked found kept

theorem perform (remembers : Remembers log table) (sound : table.Sound)
    (call : Call) :
    Remembers (log ++ (table.allocated call).toList) (table.perform call) := by
  cases call with
  | resolve generation fake now =>
      simp only [allocated, Option.toList_none, List.append_nil,
        FakeDnsTable.perform, resolve]
      split
      · exact remembers
      · exact remembers.removeExpired now
  | replaceGeneration generation =>
      intro address mapping found
      cases found
  | allocate generation asked real ttl now =>
      have live := remembers.removeExpired now
      have liveSound := sound.removeExpired now
      simp only [allocated, FakeDnsTable.perform]
      rcases Sound.allocate_cases table generation asked real ttl now with
        ⟨failure, same, _⟩ | ⟨domain, current, normalized,
          ⟨address, mapping, found, rfl, rfl, same⟩ | ⟨_, same⟩⟩
      · rw [same]
        simp only [Option.toList_none, List.append_nil]
        exact remembers
      · obtain ⟨own, isCurrent⟩ := liveSound.own address mapping found
        have identity : (⟨mapping.domain, mapping.realAddress, generation⟩ :
            Identity) =
              identityOf { mapping with expiresAt := now + ttl } := by
          rw [current, identityOf, isCurrent]
          rfl
        rw [same, normalized]
        simp only [Option.toList_some, identity, own]
        exact live.insert rfl
      · obtain ⟨nextIpv4, nextIpv6, _, ⟨failure, ends⟩ | ⟨fake, ends, _⟩⟩ :=
          liveSound.insertMapping_cases domain real (now + ttl)
        all_goals
          obtain ⟨byAddress, order, evicted, sub⟩ := evict_state
            (table.removeExpired now).insertionOrder (table.removeExpired now)
          have rest : Remembers log
              ((table.removeExpired now).vacated nextIpv4 nextIpv6) := by
            apply live.of_get?
            rw [vacated, evicted]
            exact sub
          rw [same, ends]
        · simp only [Option.toList_none, List.append_nil]
          exact rest
        · rw [normalized, current]
          exact @insert log _ _ rest fake
            ⟨domain, real, fake, table.generation, now + ttl⟩ rfl

end Remembers

theorem remembers_performAll {table : FakeDnsTable} (sound : table.Sound)
    (empty : table.byAddress = .empty) (calls : List Call) :
    Remembers (table.allocations calls) (table.performAll calls) := by
  induction calls using List.reverseRecOn with
  | nil =>
      intro address mapping found
      rw [performAll, List.foldl_nil, empty] at found
      cases found
  | append_singleton calls call induction =>
      rw [allocations_snoc, performAll_snoc]
      have reached := table.reachable_performAll calls
      have later : (table.performAll calls).Sound := by
        refine Reachable.invariant sound ?_ reached
        rintro before call after sound rfl
        exact sound.perform call
      exact induction.perform later call

/-! ## Resolving -/

theorem resolve_eq_some_iff {table : FakeDnsTable} {current : UInt64}
    {address : IpAddr} {now : Nat} {mapping : FakeDnsMapping} :
    (table.resolve current address now).1 = .ok (some mapping) ↔
      current = table.generation ∧
        table.byAddress.get? address = some mapping ∧
        now < mapping.expiresAt := by
  rw [resolve]
  split
  next other =>
      refine iff_of_false ?_ fun all => other all.1
      intro same
      cases same
  next same =>
      rw [ne_eq, not_not] at same
      rw [Except.ok.injEq, get?_removeExpired_iff]
      exact (and_iff_right same).symm

/-- What was allocated resolves until its end, with what was asked for. -/
theorem Sound.resolve_allocate {table : FakeDnsTable} (sound : table.Sound)
    {current : UInt64} {asked : Text} {real fake : IpAddr} {ttl now : Nat}
    (allocated : (table.allocate current asked real ttl now).1 = .ok fake)
    {later : Nat} (before : later < now + ttl) :
    ∃ mapping, ((table.allocate current asked real ttl now).2.resolve current
        fake later).1 = .ok (some mapping) ∧
      normalizeDomain asked = .ok mapping.domain ∧
      mapping.realAddress = real := by
  have live := sound.removeExpired now
  rcases Sound.allocate_cases table current asked real ttl now with
    ⟨failure, same, _⟩ | ⟨domain, rfl, normalized,
      ⟨address, mapping, found, rfl, rfl, same⟩ | ⟨_, same⟩⟩
  · rw [same] at allocated
    cases allocated
  · obtain ⟨own, _⟩ := live.own address mapping found
    rw [same] at allocated ⊢
    cases allocated
    refine ⟨{ mapping with expiresAt := now + ttl }, ?_, normalized, rfl⟩
    rw [resolve_eq_some_iff, own]
    exact ⟨rfl, OrderedMap.get?_insert_self _ _ _, before⟩
  · obtain ⟨nextIpv4, nextIpv6, _, ⟨failure, ends⟩ | ⟨fresh, ends, _⟩⟩ :=
      live.insertMapping_cases domain real (now + ttl)
    · rw [same, ends] at allocated
      cases allocated
    · rw [same, ends] at allocated ⊢
      cases allocated
      refine ⟨⟨domain, real, fake, table.generation, now + ttl⟩, ?_,
        normalized, rfl⟩
      rw [resolve_eq_some_iff]
      refine ⟨?_, OrderedMap.get?_insert_self _ _ _, before⟩
      exact ((table.removeExpired now).evict_fields _).2.1.symm

/-- Over any calls on a new table the invariant holds, and resolving an
address gives what its last allocation recorded. -/
theorem fake_dns_invariant (generation : UInt64) (capacity : Nat)
    (fresh : FakeDnsTable) (created : new generation capacity = .ok fresh)
    (calls : List Call) :
    (fresh.performAll calls).Sound ∧
    (∀ (current : UInt64) (address : IpAddr) (now : Nat)
      (mapping : FakeDnsMapping),
      ((fresh.performAll calls).resolve current address now).1 =
          .ok (some mapping) →
        mapping.fakeAddress = address ∧ mapping.generation = current ∧
          now < mapping.expiresAt ∧
          recorded (fresh.allocations calls) address =
            some (identityOf mapping)) ∧
    ∀ (current : UInt64) (asked : Text) (real fake : IpAddr)
      (ttl now later : Nat),
      ((fresh.performAll calls).allocate current asked real ttl now).1 =
          .ok fake → later < now + ttl →
        ∃ mapping,
          (((fresh.performAll calls).allocate current asked real ttl
            now).2.resolve current fake later).1 = .ok (some mapping) ∧
          normalizeDomain asked = .ok mapping.domain ∧
          mapping.realAddress = real := by
  have start := sound_new created
  have sound := sound_of_reachable created (fresh.reachable_performAll calls)
  have empty : fresh.byAddress = .empty := by rw [eq_of_new created]
  refine ⟨sound, ?_, ?_⟩
  · intro current address now mapping resolved
    obtain ⟨rfl, found, live⟩ := resolve_eq_some_iff.mp resolved
    obtain ⟨own, isCurrent⟩ := sound.own address mapping found
    exact ⟨own, isCurrent, live,
      remembers_performAll start empty calls address mapping found⟩
  · intro current asked real fake ttl now later allocated before
    exact sound.resolve_allocate allocated before

def realAddress : IpAddr :=
  .v4 (1 ::ᵥ 1 ::ᵥ 1 ::ᵥ 1 ::ᵥ .nil)

/-- Two names on a table of one mapping; the second evicts the first. -/
def twoAllocations : List Call :=
  [.allocate 7 ['a'] realAddress 10 0, .allocate 7 ['B', '.'] realAddress 10 0]

theorem fake_dns_invariant_after_eviction :
    ∃ mapping, (((⟨7, 1, .empty, [], firstIpv4, firstIpv6⟩ :
        FakeDnsTable).performAll twoAllocations).resolve 7
          (ipv4Address (firstIpv4 + 1)) 9).1 = .ok (some mapping) ∧
      recorded ((⟨7, 1, .empty, [], firstIpv4, firstIpv6⟩ :
        FakeDnsTable).allocations twoAllocations)
          (ipv4Address (firstIpv4 + 1)) = some (identityOf mapping) := by
  refine ⟨⟨['b'], realAddress, ipv4Address (firstIpv4 + 1), 7, 10⟩,
    by decide +kernel, ?_⟩
  have invariant := fake_dns_invariant 7 1 _ rfl twoAllocations
  exact (invariant.2.1 7 (ipv4Address (firstIpv4 + 1)) 9
    ⟨['b'], realAddress, ipv4Address (firstIpv4 + 1), 7, 10⟩
    (by decide +kernel)).2.2.2

end FakeDnsTable

end Velum.Tun
