import Velum.Runtime.NodePool

/-!
# References to nodes

A node is referred to by its id or by its alias, and the reserved reference
`PROXY` stands for the default node.  Ids and aliases are checked for
duplicates separately, so an alias may be the id of another node.
-/

namespace Velum.Runtime

open Foundation

variable {Configuration : Type}

/-- The texts that the engine interface accepts, by their length in bytes. -/
def acceptsText (value : String) : Bool :=
  !value.isEmpty && decide (value.utf8ByteSize ≤ 128)

/-- The entry whose snapshot the engine interface copies for a reference.  The
entries are searched in the order of their ids. -/
def PoolState.nodeSnapshot (state : PoolState Configuration)
    (reference : String) : Option (NodeEntry Configuration) :=
  if acceptsText reference then
    (state.nodes.entries.find? fun entry =>
      entry.1 = reference ∨ entry.2.nodeAlias = reference).map Prod.snd
  else none

/-- The entry of a node. -/
def PoolState.Holds (state : PoolState Configuration)
    (node : ResolvedNode Configuration) (entry : NodeEntry Configuration) :
    Prop :=
  state.nodes.get? node.id = some entry ∧
    entry.nodeAlias = node.nodeAlias ∧
    entry.configuration = node.configuration

def PoolState.Resolves (state : PoolState Configuration)
    (reference : String) (node : ResolvedNode Configuration) : Prop :=
  ∃ entry, state.select reference = .ok entry ∧ state.Holds node entry

/-- Every reference resolves to its node.  The interface that copies snapshots
takes ids and aliases only. -/
structure PoolState.ResolvesAll (state : PoolState Configuration)
    (nodes : List (ResolvedNode Configuration)) (defaultNode : String) :
    Prop where
  ids : ∀ node ∈ nodes, state.Resolves node.id node
  aliases : ∀ node ∈ nodes, state.Resolves node.nodeAlias node
  default : ∃ node ∈ nodes,
    (node.id = defaultNode ∨ node.nodeAlias = defaultNode) ∧
      state.Resolves defaultNode node ∧ state.Resolves "PROXY" node
  snapshots : ∀ reference, reference ≠ "PROXY" → acceptsText reference →
    state.nodeSnapshot reference = (state.select reference).toOption

/-- No alias is the id of another node, and only the default node may have the
reserved name. -/
structure NamesApart (nodes : List (ResolvedNode Configuration))
    (defaultNode : String) : Prop where
  apart : ∀ first ∈ nodes, ∀ second ∈ nodes,
    first.nodeAlias = second.id → first.id = second.id
  reserved : ∀ node ∈ nodes, node.id = "PROXY" ∨ node.nodeAlias = "PROXY" →
    node.id = defaultNode ∨ node.nodeAlias = defaultNode

/-! ## What is prepared -/

/-- The maps hold exactly the nodes that have been added. -/
structure Prepared (nodes : List (ResolvedNode Configuration))
    (aliases : OrderedMap String String)
    (entries : OrderedMap String (NodeEntry Configuration)) : Prop where
  idsUnique : ∀ first ∈ nodes, ∀ second ∈ nodes, first.id = second.id →
    first.nodeAlias = second.nodeAlias ∧
      first.configuration = second.configuration
  aliasesUnique : ∀ first ∈ nodes, ∀ second ∈ nodes,
    first.nodeAlias = second.nodeAlias → first.id = second.id
  entryOf : ∀ node ∈ nodes, ∃ entry, entries.get? node.id = some entry ∧
    entry.nodeAlias = node.nodeAlias ∧
    entry.configuration = node.configuration
  nodeOf : ∀ id entry, entries.get? id = some entry → ∃ node ∈ nodes,
    node.id = id ∧ entry.nodeAlias = node.nodeAlias
  aliasOf : ∀ reference id, aliases.get? reference = some id ↔
    ∃ node ∈ nodes, node.nodeAlias = reference ∧ node.id = id

theorem prepared_nil : Prepared ([] : List (ResolvedNode Configuration))
    .empty .empty := by
  constructor
  · simp
  · simp
  · simp
  · intro id entry found
    cases found
  · simp

theorem Prepared.snoc {done : List (ResolvedNode Configuration)}
    {aliases : OrderedMap String String}
    {entries : OrderedMap String (NodeEntry Configuration)}
    {node : ResolvedNode Configuration} {address : Nat}
    (prepared : Prepared done aliases entries)
    (newId : ∀ earlier ∈ done, earlier.id ≠ node.id)
    (newAlias : aliases.get? node.nodeAlias = none) :
    Prepared (done ++ [node]) (aliases.insert node.nodeAlias node.id)
      (entries.insert node.id
        { address, nodeAlias := node.nodeAlias
          configuration := node.configuration }) := by
  have otherAlias : ∀ earlier ∈ done,
      earlier.nodeAlias ≠ node.nodeAlias := by
    intro earlier member same
    have found := (prepared.aliasOf node.nodeAlias earlier.id).mpr
      ⟨earlier, member, same, rfl⟩
    rw [newAlias] at found
    cases found
  constructor
  · intro first firstMember second secondMember same
    rcases List.mem_append.mp firstMember with firstDone | firstNew
    · rcases List.mem_append.mp secondMember with secondDone | secondNew
      · exact prepared.idsUnique first firstDone second secondDone same
      · rw [List.mem_singleton.mp secondNew] at same
        exact absurd same (newId first firstDone)
    · rw [List.mem_singleton.mp firstNew] at same ⊢
      rcases List.mem_append.mp secondMember with secondDone | secondNew
      · exact absurd same.symm (newId second secondDone)
      · rw [List.mem_singleton.mp secondNew]
        exact ⟨rfl, rfl⟩
  · intro first firstMember second secondMember same
    rcases List.mem_append.mp firstMember with firstDone | firstNew
    · rcases List.mem_append.mp secondMember with secondDone | secondNew
      · exact prepared.aliasesUnique first firstDone second secondDone same
      · rw [List.mem_singleton.mp secondNew] at same
        exact absurd same (otherAlias first firstDone)
    · rw [List.mem_singleton.mp firstNew] at same ⊢
      rcases List.mem_append.mp secondMember with secondDone | secondNew
      · exact absurd same.symm (otherAlias second secondDone)
      · rw [List.mem_singleton.mp secondNew]
  · intro added member
    rcases List.mem_append.mp member with earlier | new
    · obtain ⟨entry, found, alike⟩ := prepared.entryOf added earlier
      refine ⟨entry, ?_, alike⟩
      exact OrderedMap.get?_insert_eq_some_iff.mpr
        (.inr ⟨newId added earlier, found⟩)
    · rw [List.mem_singleton.mp new]
      exact ⟨_, OrderedMap.get?_insert_self _ _ _, rfl, rfl⟩
  · intro id entry found
    rcases OrderedMap.get?_insert_eq_some_iff.mp found with
      ⟨rfl, rfl⟩ | ⟨_, earlier⟩
    · exact ⟨node, by simp, rfl, rfl⟩
    · obtain ⟨before, member, named, alike⟩ := prepared.nodeOf id entry earlier
      exact ⟨before, List.mem_append_left _ member, named, alike⟩
  · intro reference id
    rw [OrderedMap.get?_insert_eq_some_iff, prepared.aliasOf]
    constructor
    · rintro (⟨rfl, rfl⟩ | ⟨_, earlier, member, named, identified⟩)
      · exact ⟨node, by simp, rfl, rfl⟩
      · exact ⟨earlier, List.mem_append_left _ member, named, identified⟩
    · rintro ⟨added, member, named, identified⟩
      rcases List.mem_append.mp member with earlier | new
      · refine .inr ⟨?_, added, earlier, named, identified⟩
        rw [← named]
        exact otherAlias added earlier
      · rw [List.mem_singleton.mp new] at named identified
        exact .inl ⟨named.symm, identified.symm⟩

theorem prepared_of_prepareNodes {nodes : List (ResolvedNode Configuration)}
    {done : List (ResolvedNode Configuration)} {ids : List String}
    {aliases lastAliases : OrderedMap String String}
    {entries lastEntries : OrderedMap String (NodeEntry Configuration)}
    {address next : Nat} (prepared : Prepared done aliases entries)
    (known : ∀ earlier ∈ done, earlier.id ∈ ids)
    (made : PoolState.prepareNodes ids aliases entries address nodes =
      .ok (lastAliases, lastEntries, next)) :
    Prepared (done ++ nodes) lastAliases lastEntries := by
  induction nodes generalizing done ids aliases entries address with
  | nil =>
      cases made
      rw [List.append_nil]
      exact prepared
  | cons node rest induction =>
      unfold PoolState.prepareNodes at made
      split at made
      · cases made
      · rename_i accepted
        simp only [not_or] at accepted
        obtain ⟨_, _, newId, newAlias⟩ := accepted
        have absent : aliases.get? node.nodeAlias = none := by
          simpa [OrderedMap.contains] using newAlias
        have fresh : ∀ earlier ∈ done, earlier.id ≠ node.id := by
          intro earlier member same
          apply newId
          rw [← same]
          exact known earlier member
        have later := induction (prepared.snoc fresh absent) ?_ made
        · rw [List.append_assoc] at later
          exact later
        · intro earlier member
          rcases List.mem_append.mp member with before | new
          · exact List.mem_cons_of_mem _ (known earlier before)
          · rw [List.mem_singleton.mp new]
            exact List.mem_cons_self

/-- What `prepare` returns. -/
theorem prepared_of_prepare {nodes : List (ResolvedNode Configuration)}
    {defaultNode : String} {address next : Nat}
    {state : PoolState Configuration}
    (made : PoolState.prepare address nodes defaultNode =
      .ok (state, next)) :
    Prepared nodes state.aliases state.nodes ∧
      ∃ node ∈ nodes, node.id = state.defaultNode ∧
        (node.id = defaultNode ∨ node.nodeAlias = defaultNode ∧
          state.nodes.get? defaultNode = none) := by
  unfold PoolState.prepare at made
  split at made
  · cases made
  · split at made
    · cases made
    · rename_i aliases entries last listed
      have prepared := prepared_of_prepareNodes prepared_nil (by simp) listed
      rw [List.nil_append] at prepared
      split at made
      · rename_i present
        cases made
        refine ⟨prepared, ?_⟩
        obtain ⟨entry, found⟩ := Option.isSome_iff_exists.mp present
        obtain ⟨node, member, named, _⟩ := prepared.nodeOf _ _ found
        exact ⟨node, member, named, .inl named⟩
      · rename_i absent
        have missing : entries.get? defaultNode = none := by
          simpa [OrderedMap.contains] using absent
        split at made
        · cases made
        · rename_i resolved found
          cases made
          obtain ⟨node, member, named, identified⟩ :=
            (prepared.aliasOf _ _).mp found
          exact ⟨prepared, node, member, identified, .inr ⟨named, missing⟩⟩

/-! ## Selection -/

section Selection

variable {state : PoolState Configuration} {reference : String}
  {entry : NodeEntry Configuration}

theorem select_proxy (found : state.nodes.get? state.defaultNode =
    some entry) : state.select "PROXY" = .ok entry := by
  unfold PoolState.select
  rw [if_pos rfl]
  simp only [Option.bind_some, found]

theorem select_id (free : reference ≠ "PROXY")
    (found : state.nodes.get? reference = some entry) :
    state.select reference = .ok entry := by
  have present : state.nodes.contains reference = true := by
    simp [OrderedMap.contains, found]
  unfold PoolState.select
  rw [if_neg free, if_pos present]
  simp only [Option.bind_some, found]

theorem select_alias {id : String} (free : reference ≠ "PROXY")
    (absent : state.nodes.get? reference = none)
    (named : state.aliases.get? reference = some id)
    (found : state.nodes.get? id = some entry) :
    state.select reference = .ok entry := by
  have missing : ¬ state.nodes.contains reference = true := by
    simp [OrderedMap.contains, absent]
  unfold PoolState.select
  rw [if_neg free, if_neg missing, named]
  simp only [Option.bind_some, found]

theorem select_unknown (free : reference ≠ "PROXY")
    (absent : state.nodes.get? reference = none)
    (unnamed : state.aliases.get? reference = none) :
    state.select reference = .error .unknownNode := by
  have missing : ¬ state.nodes.contains reference = true := by
    simp [OrderedMap.contains, absent]
  unfold PoolState.select
  rw [if_neg free, if_neg missing, unnamed]
  rfl

end Selection

section Agreement

variable {nodes : List (ResolvedNode Configuration)} {defaultNode : String}
  {state : PoolState Configuration} {reference : String}
  {node first second : ResolvedNode Configuration}

theorem Prepared.holds
    (prepared : Prepared nodes state.aliases state.nodes)
    (member : node ∈ nodes) : ∃ entry, state.Holds node entry := by
  obtain ⟨entry, found, alike⟩ := prepared.entryOf node member
  exact ⟨entry, found, alike⟩

/-- Nodes with one id have one entry. -/
theorem Prepared.resolves_of_id
    (prepared : Prepared nodes state.aliases state.nodes)
    (firstMember : first ∈ nodes) (secondMember : second ∈ nodes)
    (same : first.id = second.id) (resolved : state.Resolves reference first) :
    state.Resolves reference second := by
  obtain ⟨entry, selected, found, named, configured⟩ := resolved
  obtain ⟨sameAlias, sameConfiguration⟩ :=
    prepared.idsUnique first firstMember second secondMember same
  refine ⟨entry, selected, ?_, named.trans sameAlias,
    configured.trans sameConfiguration⟩
  rw [← same]
  exact found

/-- A reference does not resolve to two nodes. -/
theorem Prepared.id_of_resolves
    (prepared : Prepared nodes state.aliases state.nodes)
    (firstMember : first ∈ nodes) (secondMember : second ∈ nodes)
    (firstResolved : state.Resolves reference first)
    (secondResolved : state.Resolves reference second) :
    first.id = second.id := by
  obtain ⟨entry, selected, _, firstNamed, _⟩ := firstResolved
  obtain ⟨other, selectedToo, _, secondNamed, _⟩ := secondResolved
  rw [selected] at selectedToo
  cases selectedToo
  exact prepared.aliasesUnique first firstMember second secondMember
    (firstNamed.symm.trans secondNamed)

theorem namesApart_of_resolvesAll
    (prepared : Prepared nodes state.aliases state.nodes)
    (resolves : state.ResolvesAll nodes defaultNode) :
    NamesApart nodes defaultNode := by
  constructor
  · intro first firstMember second secondMember collision
    apply prepared.id_of_resolves firstMember secondMember
    · exact resolves.aliases first firstMember
    · rw [collision]
      exact resolves.ids second secondMember
  · intro node member reserved
    have resolved : state.Resolves "PROXY" node := by
      rcases reserved with identified | named
      · rw [← identified]
        exact resolves.ids node member
      · rw [← named]
        exact resolves.aliases node member
    obtain ⟨chosen, chosenMember, designated, _, proxied⟩ := resolves.default
    have same := prepared.id_of_resolves member chosenMember resolved proxied
    have sameAlias := (prepared.idsUnique node member chosen chosenMember
      same).1
    rw [same, sameAlias]
    exact designated

/-- The names of the default node are those of one node only. -/
theorem NamesApart.id_of_designated (apart : NamesApart nodes defaultNode)
    (prepared : Prepared nodes state.aliases state.nodes)
    (firstMember : first ∈ nodes) (secondMember : second ∈ nodes)
    (firstNamed : first.id = defaultNode ∨ first.nodeAlias = defaultNode)
    (secondNamed : second.id = defaultNode ∨
      second.nodeAlias = defaultNode) : first.id = second.id := by
  rcases firstNamed with firstId | firstAlias
  · rcases secondNamed with secondId | secondAlias
    · exact firstId.trans secondId.symm
    · exact (apart.apart second secondMember first firstMember
        (secondAlias.trans firstId.symm)).symm
  · rcases secondNamed with secondId | secondAlias
    · exact apart.apart first firstMember second secondMember
        (firstAlias.trans secondId.symm)
    · exact prepared.aliasesUnique first firstMember second secondMember
        (firstAlias.trans secondAlias.symm)

theorem resolves_id (prepared : Prepared nodes state.aliases state.nodes)
    (member : node ∈ nodes) (free : node.id ≠ "PROXY") :
    state.Resolves node.id node := by
  obtain ⟨entry, held⟩ := prepared.holds member
  exact ⟨entry, select_id free held.1, held⟩

theorem resolves_alias (prepared : Prepared nodes state.aliases state.nodes)
    (apart : ∀ other ∈ nodes, node.nodeAlias = other.id →
      node.id = other.id)
    (member : node ∈ nodes) (free : node.nodeAlias ≠ "PROXY") :
    state.Resolves node.nodeAlias node := by
  obtain ⟨entry, held⟩ := prepared.holds member
  refine ⟨entry, ?_, held⟩
  cases found : state.nodes.get? node.nodeAlias with
  | some other =>
      -- A node whose id is this alias is the node itself.
      obtain ⟨owner, ownerMember, named, _⟩ := prepared.nodeOf _ _ found
      have same := apart owner ownerMember named.symm
      apply select_id free
      rw [← named, ← same]
      exact held.1
  | none =>
      have listed := (prepared.aliasOf node.nodeAlias node.id).mpr
        ⟨node, member, rfl, rfl⟩
      exact select_alias free found listed held.1

theorem resolves_proxy (prepared : Prepared nodes state.aliases state.nodes)
    (member : node ∈ nodes) (chosen : node.id = state.defaultNode) :
    state.Resolves "PROXY" node := by
  obtain ⟨entry, held⟩ := prepared.holds member
  refine ⟨entry, select_proxy ?_, held⟩
  rw [← chosen]
  exact held.1

theorem nodeSnapshot_eq_select
    (prepared : Prepared nodes state.aliases state.nodes)
    (ids : ∀ node ∈ nodes, state.Resolves node.id node)
    (aliases : ∀ node ∈ nodes, state.Resolves node.nodeAlias node)
    (free : reference ≠ "PROXY") (accepted : acceptsText reference) :
    state.nodeSnapshot reference = (state.select reference).toOption := by
  unfold PoolState.nodeSnapshot
  rw [if_pos accepted]
  cases found : state.nodes.entries.find? fun entry =>
      entry.1 = reference ∨ entry.2.nodeAlias = reference with
  | none =>
      have unmatched := List.find?_eq_none.mp found
      have absent : state.nodes.get? reference = none := by
        apply OrderedMap.get?_eq_none_iff.mpr
        intro entry listed same
        exact unmatched entry listed (by simp [same])
      have unnamed : state.aliases.get? reference = none := by
        apply Option.eq_none_iff_forall_ne_some.mpr
        intro id named
        obtain ⟨node, member, called, _⟩ := (prepared.aliasOf _ _).mp named
        obtain ⟨entry, held, same, _⟩ := prepared.holds member
        have listed := OrderedMap.get?_eq_some_iff.mp held
        exact unmatched _ listed (by simp [same, called])
      rw [select_unknown free absent unnamed]
      rfl
  | some pair =>
      obtain ⟨id, entry⟩ := pair
      have listed := OrderedMap.get?_eq_some_iff.mpr
        (List.mem_of_find?_eq_some found)
      obtain ⟨node, member, rfl, sameAlias⟩ := prepared.nodeOf _ _ listed
      have resolved : state.Resolves reference node := by
        have matched := List.find?_some found
        rcases of_decide_eq_true matched with identified | named
        · rw [← identified]
          exact ids node member
        · rw [← named]
          change state.Resolves entry.nodeAlias node
          rw [sameAlias]
          exact aliases node member
      obtain ⟨other, selected, held, _⟩ := resolved
      rw [listed] at held
      cases held
      rw [selected]
      rfl

theorem resolvesAll_of_namesApart {chosen : ResolvedNode Configuration}
    (prepared : Prepared nodes state.aliases state.nodes)
    (chosenMember : chosen ∈ nodes) (chosenId : chosen.id = state.defaultNode)
    (named : chosen.id = defaultNode ∨ chosen.nodeAlias = defaultNode)
    (apart : NamesApart nodes defaultNode) :
    state.ResolvesAll nodes defaultNode := by
  have proxied := resolves_proxy prepared chosenMember chosenId
  -- The reserved name belongs to the default node, if to any.
  have reserved (node : ResolvedNode Configuration) (member : node ∈ nodes)
      (taken : node.id = "PROXY" ∨ node.nodeAlias = "PROXY") :
      state.Resolves "PROXY" node := by
    have same := apart.id_of_designated prepared chosenMember member named
      (apart.reserved node member taken)
    exact prepared.resolves_of_id chosenMember member same proxied
  have ids (node : ResolvedNode Configuration) (member : node ∈ nodes) :
      state.Resolves node.id node := by
    by_cases taken : node.id = "PROXY"
    · rw [taken]
      exact reserved node member (.inl taken)
    · exact resolves_id prepared member taken
  have aliases (node : ResolvedNode Configuration) (member : node ∈ nodes) :
      state.Resolves node.nodeAlias node := by
    by_cases taken : node.nodeAlias = "PROXY"
    · rw [taken]
      exact reserved node member (.inr taken)
    · exact resolves_alias prepared (apart.apart node member) member taken
  refine ⟨ids, aliases, ⟨chosen, chosenMember, named, ?_, proxied⟩, ?_⟩
  · rcases named with identified | called
    · rw [← identified]
      exact ids chosen chosenMember
    · rw [← called]
      exact aliases chosen chosenMember
  · intro reference free accepted
    exact nodeSnapshot_eq_select prepared ids aliases free accepted

end Agreement

/-- Of every list of nodes that is activated, the references resolve to their
nodes if and only if the names are apart. -/
theorem resolvesAll_iff_namesApart
    {nodes : List (ResolvedNode Configuration)} {defaultNode : String}
    {address next : Nat} {generation : UInt64}
    {state : PoolState Configuration}
    (made : PoolState.prepare address nodes defaultNode =
      .ok (state, next)) :
    PoolState.ResolvesAll { state with generation } nodes defaultNode ↔
      NamesApart nodes defaultNode := by
  obtain ⟨prepared, chosen, member, chosenId, designated⟩ :=
    prepared_of_prepare made
  have named : chosen.id = defaultNode ∨ chosen.nodeAlias = defaultNode :=
    designated.imp_right And.left
  constructor
  · intro resolves
    exact @namesApart_of_resolvesAll _ _ _ { state with generation } prepared
      resolves
  · intro apart
    exact resolvesAll_of_namesApart prepared member chosenId named apart

/-- The snapshot for the default reference is that of the default node, unless
the reference is an id and an earlier node has it as its alias. -/
theorem nodeSnapshot_default {nodes : List (ResolvedNode Configuration)}
    {defaultNode : String} {address next : Nat}
    {state : PoolState Configuration} {entry : NodeEntry Configuration}
    (made : PoolState.prepare address nodes defaultNode = .ok (state, next))
    (accepted : acceptsText defaultNode)
    (unhidden : ∀ first ∈ nodes, ∀ second ∈ nodes,
      first.nodeAlias = defaultNode → second.id = defaultNode →
        second.id ≤ first.id)
    (chosen : state.nodes.get? state.defaultNode = some entry) :
    state.nodeSnapshot defaultNode = some entry := by
  obtain ⟨prepared, node, member, nodeId, named⟩ := prepared_of_prepare made
  have listed := OrderedMap.get?_eq_some_iff.mp chosen
  obtain ⟨own, held, ownAlias, _⟩ := prepared.holds member
  rw [nodeId, chosen] at held
  cases held
  have matched : state.defaultNode = defaultNode ∨
      entry.nodeAlias = defaultNode := by
    rcases named with identified | ⟨called, _⟩
    · exact .inl (nodeId.symm.trans identified)
    · exact .inr (ownAlias.trans called)
  unfold PoolState.nodeSnapshot
  rw [if_pos accepted]
  cases found : state.nodes.entries.find? fun entry =>
      entry.1 = defaultNode ∨ entry.2.nodeAlias = defaultNode with
  | none =>
      have unmatched := List.find?_eq_none.mp found _ listed
      exact absurd (decide_eq_true matched) unmatched
  | some pair =>
      obtain ⟨id, other⟩ := pair
      have stored := OrderedMap.get?_eq_some_iff.mpr
        (List.mem_of_find?_eq_some found)
      obtain ⟨owner, ownerMember, rfl, ownerAlias⟩ := prepared.nodeOf _ _ stored
      have passed := List.find?_some found
      have hit : owner.id = defaultNode ∨ other.nodeAlias = defaultNode :=
        of_decide_eq_true passed
      have same : owner.id = state.defaultNode := by
        rcases named with identified | ⟨called, unidentified⟩
        · -- The reference is an id: the first match has no later one.
          have least : owner.id ≤ state.defaultNode :=
            OrderedMap.le_of_find? found listed (decide_eq_true matched)
          rcases hit with direct | aliased
          · rw [← nodeId, identified, direct]
          · have most := unhidden owner ownerMember node member
              (ownerAlias.symm.trans aliased) identified
            rw [← nodeId] at least ⊢
            exact le_antisymm least most
        · rcases hit with direct | aliased
          · rw [direct, unidentified] at stored
            cases stored
          · rw [← nodeId]
            exact prepared.aliasesUnique owner ownerMember node member
              ((ownerAlias.symm.trans aliased).trans called.symm)
      rw [same, chosen] at stored
      cases stored
      rfl

/-- Where the names are apart, the references of an activated list resolve to
their nodes. -/
theorem activated_references_resolve
    {nodes : List (ResolvedNode Configuration)} {defaultNode : String}
    {address next : Nat} {generation : UInt64}
    {state : PoolState Configuration}
    (made : PoolState.prepare address nodes defaultNode = .ok (state, next))
    (apart : NamesApart nodes defaultNode) :
    PoolState.ResolvesAll { state with generation } nodes defaultNode :=
  (resolvesAll_iff_namesApart made).mpr apart

/-- The two nodes of a profile whose names are apart. -/
def twoNodes : List (ResolvedNode Unit) :=
  [⟨"one", "primary", ()⟩, ⟨"two", "backup", ()⟩]

/-- The alias of the first node is the id of the second one. -/
def collidingNodes : List (ResolvedNode Unit) :=
  [⟨"one", "two", ()⟩, ⟨"two", "backup", ()⟩]

theorem twoNodes_resolve : ∃ state next,
    PoolState.prepare 0 twoNodes "primary" = .ok (state, next) ∧
      PoolState.ResolvesAll { state with generation := 1 } twoNodes
        "primary" := by
  have made : ∃ state next,
      PoolState.prepare 0 twoNodes "primary" = .ok (state, next) :=
    ⟨_, _, rfl⟩
  obtain ⟨state, next, made⟩ := made
  refine ⟨state, next, made, activated_references_resolve made ?_⟩
  constructor
  · decide
  · decide

/-- The alias `two` selects the second node, and its snapshot is that of the
first.  The interface for snapshots does not know the reserved reference. -/
theorem references_disagree :
    (∃ state next,
      PoolState.prepare 0 collidingNodes "two" = .ok (state, next) ∧
      state.select "two" = .ok ⟨1, "backup", ()⟩ ∧
      state.nodeSnapshot "two" = some ⟨0, "two", ()⟩) ∧
    ∃ state next, PoolState.prepare 0 twoNodes "primary" =
        .ok (state, next) ∧
      state.select "PROXY" = .ok ⟨0, "primary", ()⟩ ∧
      state.nodeSnapshot "PROXY" = none :=
  ⟨⟨_, _, rfl, rfl, rfl⟩, ⟨_, _, rfl, rfl, rfl⟩⟩

end Velum.Runtime
