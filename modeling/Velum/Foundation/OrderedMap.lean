import Mathlib.Algebra.BigOperators.Group.List.Basic
import Mathlib.Algebra.Order.Ring.Nat
import Mathlib.Data.List.Perm.Basic

/-!
# Finite maps in key order

The map is the list of its entries in strictly increasing key order, which is
the order in which an ordered tree map iterates.  The order is part of the
type, so two maps with the same lookups are iterated in the same way.

Weighted totals over the entries follow from two permutations: inserting puts
one entry in front of the map without that key, and erasing a present key
takes its entry out.
-/

namespace Foundation

structure OrderedMap (Key Value : Type) [LinearOrder Key] where
  entries : List (Key × Value)
  sorted : entries.Pairwise fun left right => left.1 < right.1

namespace OrderedMap

variable {Key Value : Type} [LinearOrder Key]

def empty : OrderedMap Key Value :=
  ⟨[], .nil⟩

def get? (map : OrderedMap Key Value) (key : Key) : Option Value :=
  (map.entries.find? fun entry => entry.1 = key).map Prod.snd

def contains (map : OrderedMap Key Value) (key : Key) : Bool :=
  (map.get? key).isSome

def size (map : OrderedMap Key Value) : Nat :=
  map.entries.length

/-- Inserts or replaces the value of `key`, keeping the key order. -/
def insert (map : OrderedMap Key Value) (key : Key) (value : Value) :
    OrderedMap Key Value where
  entries :=
    map.entries.filter (fun entry => entry.1 < key) ++
      (key, value) :: map.entries.filter (fun entry => key < entry.1)
  sorted := by
    refine List.pairwise_append.mpr ⟨map.sorted.filter _, ?_, ?_⟩
    · refine List.pairwise_cons.mpr ⟨?_, map.sorted.filter _⟩
      intro entry member
      simpa using (List.mem_filter.mp member).2
    · intro left leftMember right rightMember
      have below : left.1 < key := by
        simpa using (List.mem_filter.mp leftMember).2
      rcases List.mem_cons.mp rightMember with rfl | above
      · exact below
      · have keyBelow : key < right.1 := by
          simpa using (List.mem_filter.mp above).2
        exact below.trans keyBelow

def erase (map : OrderedMap Key Value) (key : Key) :
    OrderedMap Key Value where
  entries := map.entries.filter (fun entry => entry.1 ≠ key)
  sorted := map.sorted.filter _

/-- Keeps the entries that pass a test. -/
def retain (map : OrderedMap Key Value) (keep : Key → Value → Bool) :
    OrderedMap Key Value where
  entries := map.entries.filter (fun entry => keep entry.1 entry.2)
  sorted := map.sorted.filter _

/-- Sum of a natural-number weight over the stored values. -/
def total (map : OrderedMap Key Value) (weight : Value → Nat) : Nat :=
  (map.entries.map fun entry => weight entry.2).sum

private theorem find_eq_some_iff {entries : List (Key × Value)}
    (sorted : entries.Pairwise fun left right => left.1 < right.1)
    {key : Key} {value : Value} :
    (entries.find? fun entry => entry.1 = key).map Prod.snd = some value ↔
      (key, value) ∈ entries := by
  induction entries with
  | nil => simp
  | cons head tail induction =>
      obtain ⟨headBelow, tailSorted⟩ := List.pairwise_cons.mp sorted
      by_cases same : head.1 = key
      · -- A later entry with this key would lie strictly above itself.
        have absent : (key, value) ∉ tail := by
          intro member
          have below := headBelow _ member
          rw [same] at below
          exact lt_irrefl key below
        subst same
        simp [absent, Prod.ext_iff, eq_comm]
      · have different : (key, value) ≠ head := by
          intro equality
          exact same (by rw [← equality])
        simpa [List.find?_cons, same, different] using induction tailSorted

theorem get?_eq_some_iff {map : OrderedMap Key Value} {key : Key}
    {value : Value} :
    map.get? key = some value ↔ (key, value) ∈ map.entries :=
  find_eq_some_iff map.sorted

theorem get?_eq_none_iff {map : OrderedMap Key Value} {key : Key} :
    map.get? key = none ↔ ∀ entry ∈ map.entries, entry.1 ≠ key := by
  simp [get?, List.find?_eq_none]

@[simp] theorem get?_empty (key : Key) :
    (empty : OrderedMap Key Value).get? key = none := rfl

/-- A search finds the entry with the least key. -/
theorem le_of_find? {map : OrderedMap Key Value}
    {test : Key × Value → Bool} {found other : Key × Value}
    (first : map.entries.find? test = some found)
    (member : other ∈ map.entries) (passes : test other = true) :
    found.1 ≤ other.1 := by
  obtain ⟨_, front, back, shape, failed⟩ :=
    List.find?_eq_some_iff_append.mp first
  have sorted := map.sorted
  rw [shape] at member sorted
  rcases List.mem_append.mp member with early | late
  · have rejected := failed other early
    rw [passes] at rejected
    cases rejected
  · rcases List.mem_cons.mp late with rfl | later
    · exact le_rfl
    · obtain ⟨_, backSorted, _⟩ := List.pairwise_append.mp sorted
      exact ((List.pairwise_cons.mp backSorted).1 other later).le

theorem mem_insert_iff {map : OrderedMap Key Value} {key : Key}
    {value : Value} {entry : Key × Value} :
    entry ∈ (map.insert key value).entries ↔
      entry = (key, value) ∨ (entry ∈ map.entries ∧ entry.1 ≠ key) := by
  simp only [insert, List.mem_append, List.mem_filter, List.mem_cons,
    decide_eq_true_eq, ne_iff_lt_or_gt]
  tauto

theorem mem_erase_iff {map : OrderedMap Key Value} {key : Key}
    {entry : Key × Value} :
    entry ∈ (map.erase key).entries ↔
      entry ∈ map.entries ∧ entry.1 ≠ key := by
  simp [erase]

@[simp] theorem get?_insert_self (map : OrderedMap Key Value) (key : Key)
    (value : Value) : (map.insert key value).get? key = some value := by
  rw [get?_eq_some_iff, mem_insert_iff]
  exact .inl rfl

@[simp] theorem get?_erase_self (map : OrderedMap Key Value) (key : Key) :
    (map.erase key).get? key = none := by
  rw [get?_eq_none_iff]
  intro entry member
  exact (mem_erase_iff.mp member).2

theorem get?_erase_of_ne (map : OrderedMap Key Value) {key other : Key}
    (different : other ≠ key) :
    (map.erase key).get? other = map.get? other := by
  apply Option.ext
  intro found
  rw [get?_eq_some_iff, get?_eq_some_iff, mem_erase_iff]
  simp [different]

/-- A lookup in an updated map finds the new value or an untouched entry. -/
theorem get?_insert_eq_some_iff {map : OrderedMap Key Value}
    {key other : Key} {value found : Value} :
    (map.insert key value).get? other = some found ↔
      (other = key ∧ found = value) ∨
        (other ≠ key ∧ map.get? other = some found) := by
  rw [get?_eq_some_iff, get?_eq_some_iff, mem_insert_iff]
  simp only [Prod.ext_iff]
  tauto

theorem get?_erase_eq_some_iff {map : OrderedMap Key Value}
    {key other : Key} {found : Value} :
    (map.erase key).get? other = some found ↔
      other ≠ key ∧ map.get? other = some found := by
  rw [get?_eq_some_iff, get?_eq_some_iff, mem_erase_iff]
  tauto

theorem get?_retain_eq_some_iff {map : OrderedMap Key Value}
    {keep : Key → Value → Bool} {key : Key} {found : Value} :
    (map.retain keep).get? key = some found ↔
      map.get? key = some found ∧ keep key found = true := by
  rw [get?_eq_some_iff, get?_eq_some_iff]
  exact List.mem_filter

/-- Maps with the same lookups are equal. -/
theorem ext_get? {first second : OrderedMap Key Value}
    (same : ∀ key, first.get? key = second.get? key) : first = second := by
  have nodup : ∀ map : OrderedMap Key Value, map.entries.Nodup := by
    intro map
    apply map.sorted.imp
    intro left right below equal
    rw [equal] at below
    exact lt_irrefl _ below
  have members : ∀ entry, entry ∈ first.entries ↔ entry ∈ second.entries := by
    intro entry
    rw [← get?_eq_some_iff, ← get?_eq_some_iff, same]
  have perm := (List.perm_ext_iff_of_nodup (nodup first) (nodup second)).mpr
    members
  have entries : first.entries = second.entries := by
    apply perm.eq_of_pairwise _ first.sorted second.sorted
    intro left right _ _ below above
    exact absurd above (lt_asymm below)
  cases first
  cases second
  cases entries
  rfl

/-- Storing a value that is already there changes nothing. -/
theorem insert_of_get? {map : OrderedMap Key Value} {key : Key}
    {value : Value} (found : map.get? key = some value) :
    map.insert key value = map := by
  apply ext_get?
  intro other
  apply Option.ext
  intro stored
  rw [get?_insert_eq_some_iff]
  constructor
  · rintro (⟨rfl, rfl⟩ | ⟨_, untouched⟩)
    · exact found
    · exact untouched
  · intro looked
    by_cases isKey : other = key
    · left
      rw [isKey, found] at looked
      exact ⟨isKey, (Option.some.inj looked).symm⟩
    · exact .inr ⟨isKey, looked⟩

theorem get?_insert_of_ne (map : OrderedMap Key Value) {key other : Key}
    (value : Value) (different : other ≠ key) :
    (map.insert key value).get? other = map.get? other := by
  apply Option.ext
  intro found
  rw [get?_insert_eq_some_iff]
  simp [different]

theorem erase_of_get?_eq_none {map : OrderedMap Key Value} {key : Key}
    (absent : map.get? key = none) :
    (map.erase key).entries = map.entries := by
  rw [get?_eq_none_iff] at absent
  simpa [erase, List.filter_eq_self] using absent

theorem erase_eq_self {map : OrderedMap Key Value} {key : Key}
    (absent : map.get? key = none) : map.erase key = map := by
  apply ext_get?
  intro other
  by_cases isKey : other = key
  · rw [isKey, get?_erase_self, absent]
  · exact get?_erase_of_ne map isKey

@[simp] theorem insert_erase (map : OrderedMap Key Value) (key : Key)
    (value : Value) :
    (map.erase key).insert key value = map.insert key value := by
  apply ext_get?
  intro other
  by_cases isKey : other = key
  · rw [isKey, get?_insert_self, get?_insert_self]
  · rw [get?_insert_of_ne _ value isKey, get?_insert_of_ne _ value isKey,
      get?_erase_of_ne map isKey]

/-- Inserting puts the new entry in front of the map without its key. -/
theorem insert_perm (map : OrderedMap Key Value) (key : Key)
    (value : Value) :
    (map.insert key value).entries.Perm
      ((key, value) :: (map.erase key).entries) := by
  have parted : (map.entries.filter (fun entry => entry.1 < key) ++
      map.entries.filter (fun entry => key < entry.1)).Perm
        (map.erase key).entries := by
    have cut := List.filter_append_perm (fun entry => decide (entry.1 < key))
      (map.erase key).entries
    have lower : (map.erase key).entries.filter (fun entry => entry.1 < key) =
        map.entries.filter (fun entry => entry.1 < key) := by
      rw [erase, List.filter_filter]
      apply List.filter_congr
      intro entry _
      by_cases below : entry.1 < key
      · simp [below, below.ne]
      · simp [below]
    have upper : (map.erase key).entries.filter
          (fun entry => !decide (entry.1 < key)) =
        map.entries.filter (fun entry => key < entry.1) := by
      rw [erase, List.filter_filter]
      apply List.filter_congr
      intro entry _
      by_cases above : key < entry.1
      · simp [above, above.ne', above.le]
      · by_cases same : entry.1 = key
        · simp [same]
        · simp [above, same, lt_of_le_of_ne (not_lt.mp above) same]
    rwa [lower, upper] at cut
  exact List.perm_middle.trans (parted.cons _)

/-- Counting the entries that pass a test, after an insertion. -/
theorem length_filter_insert (map : OrderedMap Key Value) (key : Key)
    (value : Value) (test : Key × Value → Bool) :
    ((map.insert key value).entries.filter test).length =
      (if test (key, value) then 1 else 0) +
        ((map.erase key).entries.filter test).length := by
  rw [((map.insert_perm key value).filter test).length_eq, List.filter_cons]
  split
  · exact Nat.add_comm _ _
  · exact (Nat.zero_add _).symm

theorem length_filter_erase_le (map : OrderedMap Key Value) (key : Key)
    (test : Key × Value → Bool) :
    ((map.erase key).entries.filter test).length ≤
      (map.entries.filter test).length :=
  (List.filter_sublist.filter test).length_le

/-- Erasing a key outside a test leaves what passes it. -/
theorem filter_erase (map : OrderedMap Key Value) (key : Key)
    (test : Key × Value → Bool)
    (outside : ∀ entry ∈ map.entries, entry.1 = key → test entry = false) :
    (map.erase key).entries.filter test = map.entries.filter test := by
  rw [erase, List.filter_filter]
  apply List.filter_congr
  intro entry member
  by_cases isKey : entry.1 = key
  · simp [outside entry member isKey]
  · simp [isKey]

/-- A present entry can be taken out of the map. -/
theorem erase_perm {map : OrderedMap Key Value} {key : Key} {value : Value}
    (present : map.get? key = some value) :
    map.entries.Perm ((key, value) :: (map.erase key).entries) := by
  have member := get?_eq_some_iff.mp present
  obtain ⟨front, back, shape⟩ := List.append_of_mem member
  have sorted := map.sorted
  rw [shape] at sorted
  obtain ⟨_, backSorted, across⟩ := List.pairwise_append.mp sorted
  obtain ⟨above, _⟩ := List.pairwise_cons.mp backSorted
  have frontKept : front.filter (fun entry => entry.1 ≠ key) = front := by
    rw [List.filter_eq_self]
    intro entry entryMember
    have below : entry.1 < key :=
      across entry entryMember (key, value) (by simp)
    simpa using below.ne
  have backKept : back.filter (fun entry => entry.1 ≠ key) = back := by
    rw [List.filter_eq_self]
    intro entry entryMember
    have below : key < entry.1 := above entry entryMember
    simpa using below.ne'
  have erased : (map.erase key).entries = front ++ back := by
    change map.entries.filter (fun entry => entry.1 ≠ key) = front ++ back
    rw [shape, List.filter_append, List.filter_cons, frontKept,
      backKept]
    simp
  rw [erased, shape]
  exact List.perm_middle

/-- Counting the entries that pass a test, with a present entry apart. -/
theorem length_filter_of_get? {map : OrderedMap Key Value} {key : Key}
    {value : Value} (present : map.get? key = some value)
    (test : Key × Value → Bool) :
    (map.entries.filter test).length =
      (if test (key, value) then 1 else 0) +
        ((map.erase key).entries.filter test).length := by
  rw [((erase_perm present).filter test).length_eq, List.filter_cons]
  split
  · exact Nat.add_comm _ _
  · exact (Nat.zero_add _).symm

theorem total_insert (map : OrderedMap Key Value) (key : Key)
    (value : Value) (weight : Value → Nat) :
    (map.insert key value).total weight =
      weight value + (map.erase key).total weight := by
  have summed := ((map.insert_perm key value).map
    fun entry => weight entry.2).sum_eq
  simpa [total] using summed

theorem total_eq_of_get? {map : OrderedMap Key Value} {key : Key}
    {value : Value} (present : map.get? key = some value)
    (weight : Value → Nat) :
    map.total weight = weight value + (map.erase key).total weight := by
  have summed := ((erase_perm present).map fun entry => weight entry.2).sum_eq
  simpa [total] using summed

theorem total_insert_of_absent {map : OrderedMap Key Value} {key : Key}
    (absent : map.get? key = none) (value : Value) (weight : Value → Nat) :
    (map.insert key value).total weight =
      weight value + map.total weight := by
  rw [total_insert]
  simp only [total, erase_of_get?_eq_none absent]

@[simp] theorem total_empty (weight : Value → Nat) :
    (empty : OrderedMap Key Value).total weight = 0 := rfl

theorem total_congr {map : OrderedMap Key Value} {weight other : Value → Nat}
    (same : ∀ key value, map.get? key = some value →
      weight value = other value) : map.total weight = map.total other := by
  rw [total, total]
  congr 1
  apply List.map_congr_left
  intro entry member
  exact same entry.1 entry.2 (get?_eq_some_iff.mpr member)

/-- The entries that pass a test and those that do not make up the total. -/
theorem total_retain_add (map : OrderedMap Key Value)
    (keep : Key → Value → Bool) (weight : Value → Nat) :
    map.total weight = (map.retain keep).total weight +
      (map.retain fun key value => !keep key value).total weight := by
  simp only [total, retain]
  induction map.entries with
  | nil => rfl
  | cons entry rest induction =>
      cases kept : keep entry.1 entry.2 with
      | true =>
          simp only [List.filter_cons, kept, Bool.not_true, if_true,
            Bool.false_eq_true, if_false, List.map_cons, List.sum_cons]
          omega
      | false =>
          simp only [List.filter_cons, kept, Bool.not_false, if_true,
            Bool.false_eq_true, if_false, List.map_cons, List.sum_cons]
          omega

/-- The size is the total of the constant weight one. -/
theorem size_eq_total (map : OrderedMap Key Value) :
    map.size = map.total fun _ => 1 := by
  simp [size, total]

@[simp] theorem size_empty : (empty : OrderedMap Key Value).size = 0 := rfl

theorem size_insert_of_absent {map : OrderedMap Key Value} {key : Key}
    (absent : map.get? key = none) (value : Value) :
    (map.insert key value).size = map.size + 1 := by
  rw [size_eq_total, size_eq_total, total_insert_of_absent absent,
    Nat.add_comm]

theorem weight_le_total {map : OrderedMap Key Value} {key : Key}
    {value : Value} (present : map.get? key = some value)
    (weight : Value → Nat) : weight value ≤ map.total weight := by
  rw [total_eq_of_get? present]
  exact Nat.le_add_right _ _

end OrderedMap

end Foundation
