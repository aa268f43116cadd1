import Velum.Profile.ClientProfile

/-!
# Normal profiles

The references that validation collects stand for the nodes that have them as
id or alias.  A second validation finds ids only, which stand for themselves,
and the compiled policy decides what the rules of the profile say.
-/

namespace Velum.Profile

open Foundation Protocol Routing
open Node (ProfileError invalid refuse validateIdentifier isBlank)

/-! ## References -/

/-- The node has the reference as its id or alias. -/
def NodeConfig.Named (node : NodeConfig) (reference : String) : Prop :=
  node.id = reference ∨ node.nodeAlias = some reference

instance (node : NodeConfig) (reference : String) :
    Decidable (node.Named reference) :=
  inferInstanceAs (Decidable (_ ∨ _))

/-- The id that a reference stands for. -/
def ClientProfile.resolve (profile : ClientProfile) (reference : String) :
    Option String :=
  (profile.nodes.find? fun node => node.Named reference).map NodeConfig.id

/-- The references are those of the nodes, each with the id of its node. -/
def Covers (nodes : List NodeConfig) (references : References) : Prop :=
  ∀ reference id, references.lookup reference = some id ↔
    ∃ node ∈ nodes, node.Named reference ∧ node.id = id

theorem insertReference_eq_ok {references inserted : References}
    {reference id : String}
    (accepted : insertReference references reference id = .ok inserted) :
    references.lookup reference = none ∧
      ∀ other, inserted.lookup other =
        if other = reference then some id else references.lookup other := by
  rw [insertReference] at accepted
  split at accepted
  next => cases accepted
  next fresh =>
      cases accepted
      refine ⟨Option.not_isSome_iff_eq_none.mp fresh, ?_⟩
      intro other
      rw [List.lookup_cons]
      by_cases same : other = reference
      · simp [same]
      · simp [same, beq_false_of_ne same]

/-- What the references of one node are after its round. -/
theorem lookup_of_checkNode {met checked : References × List String}
    {node : NodeConfig} (accepted : checkNode met node = .ok checked) :
    (∀ reference, node.Named reference → met.1.lookup reference = none) ∧
      ∀ reference, checked.1.lookup reference =
        if node.Named reference then some node.id
        else met.1.lookup reference := by
  obtain ⟨_, _, accepted⟩ := bind_eq_ok accepted
  obtain ⟨_, _, accepted⟩ := bind_eq_ok accepted
  obtain ⟨withId, insertedId, accepted⟩ := bind_eq_ok accepted
  obtain ⟨withAlias, insertedAlias, accepted⟩ := bind_eq_ok accepted
  obtain ⟨_, _, accepted⟩ := bind_eq_ok accepted
  cases accepted
  obtain ⟨freshId, lookupId⟩ := insertReference_eq_ok insertedId
  rw [insertAlias] at insertedAlias
  cases isAlias : node.nodeAlias with
  | none =>
      rw [isAlias] at insertedAlias
      cases insertedAlias
      constructor
      · rintro reference (rfl | named)
        · exact freshId
        · rw [isAlias] at named
          cases named
      · intro reference
        rw [lookupId]
        simp only [NodeConfig.Named, isAlias, reduceCtorEq, or_false,
          eq_comm]
  | some nodeAlias =>
      rw [isAlias] at insertedAlias
      obtain ⟨_, _, insertedAlias⟩ := bind_eq_ok insertedAlias
      obtain ⟨freshAlias, lookupAlias⟩ := insertReference_eq_ok insertedAlias
      rw [lookupId] at freshAlias
      split at freshAlias
      next => cases freshAlias
      next different =>
          constructor
          · rintro reference (rfl | named)
            · exact freshId
            · rw [isAlias] at named
              cases named
              exact freshAlias
          · intro reference
            rw [lookupAlias, lookupId]
            by_cases second : reference = nodeAlias
            · simp [NodeConfig.Named, isAlias, second]
            · simp [NodeConfig.Named, isAlias, second, Ne.symm second,
                eq_comm]

theorem covers_of_checkNode {nodes : List NodeConfig}
    {met checked : References × List String} {node : NodeConfig}
    (covers : Covers nodes met.1)
    (accepted : checkNode met node = .ok checked) :
    Covers (nodes ++ [node]) checked.1 := by
  obtain ⟨fresh, found⟩ := lookup_of_checkNode accepted
  intro reference id
  rw [found]
  constructor
  · intro looked
    split at looked
    next named =>
        cases looked
        exact ⟨node, by simp, named, rfl⟩
    next =>
        obtain ⟨other, member, named, rfl⟩ := (covers reference id).mp looked
        exact ⟨other, List.mem_append_left _ member, named, rfl⟩
  · rintro ⟨other, member, named, rfl⟩
    rcases List.mem_append.mp member with earlier | last
    · have looked := (covers reference other.id).mpr
        ⟨other, earlier, named, rfl⟩
      split
      next taken =>
          rw [fresh reference taken] at looked
          cases looked
      next => exact looked
    · cases List.mem_singleton.mp last
      rw [if_pos named]

/-- The loop over the nodes collects the references of all of them. -/
theorem covers_of_foldlM {nodes rest : List NodeConfig}
    {met checked : References × List String} (covers : Covers nodes met.1)
    (accepted : rest.foldlM checkNode met = .ok checked) :
    Covers (nodes ++ rest) checked.1 := by
  induction rest generalizing nodes met with
  | nil =>
      cases accepted
      rwa [List.append_nil]
  | cons node rest induction =>
      rw [List.foldlM_cons] at accepted
      obtain ⟨next, first, accepted⟩ := bind_eq_ok accepted
      have whole := induction (covers_of_checkNode covers first) accepted
      rwa [List.append_assoc, List.singleton_append] at whole

theorem covers_nodes {nodes : List NodeConfig}
    {checked : References × List String}
    (accepted : nodes.foldlM checkNode ([], []) = .ok checked) :
    Covers nodes checked.1 := by
  have start : Covers [] ([], ([] : List String)).1 := by
    intro reference id
    simp
  have whole := covers_of_foldlM start accepted
  rwa [List.nil_append] at whole

namespace Covers

variable {nodes : List NodeConfig} {references : References}

theorem resolveNode_eq_ok_iff (covers : Covers nodes references)
    {reference id : String} :
    resolveNode references reference = .ok id ↔
      ∃ node ∈ nodes, node.Named reference ∧ node.id = id := by
  rw [← covers, resolveNode]
  cases references.lookup reference with
  | none => simp
  | some found => simp

/-- An id stands for itself. -/
theorem resolveNode_id (covers : Covers nodes references) {node : NodeConfig}
    (member : node ∈ nodes) : resolveNode references node.id = .ok node.id :=
  covers.resolveNode_eq_ok_iff.mpr ⟨node, member, .inl rfl, rfl⟩

end Covers

/-- What a reference stands for is found in the nodes alone. -/
theorem resolve_of_resolveNode {profile : ClientProfile}
    {references : References} (covers : Covers profile.nodes references)
    {reference id : String}
    (resolved : resolveNode references reference = .ok id) :
    profile.resolve reference = some id := by
  obtain ⟨node, member, named, rfl⟩ :=
    covers.resolveNode_eq_ok_iff.mp resolved
  rw [ClientProfile.resolve]
  cases found : profile.nodes.find? fun node => node.Named reference with
  | none =>
      have absent := List.find?_eq_none.mp found node member
      simp only [decide_eq_true_eq] at absent
      exact absurd named absent
  | some first =>
      have isNamed := List.find?_some found
      have again := covers.resolveNode_eq_ok_iff.mpr
        ⟨first, List.mem_of_find?_eq_some found,
          of_decide_eq_true isNamed, rfl⟩
      rw [resolved] at again
      exact congrArg some (Except.ok.inj again).symm

/-! ## Rules -/

/-- An action whose target is an id of the nodes. -/
def ActionConfig.Known (nodes : List NodeConfig) (action : ActionConfig) :
    Prop :=
  ∀ target, action = .node target → ∃ node ∈ nodes, node.id = target

/-- The action of a rule with its reference resolved. -/
def ClientProfile.resolvedAction (profile : ClientProfile) :
    ActionConfig → ActionConfig
  | .node target => .node ((profile.resolve target).getD target)
  | action => action

section Rules

variable {profile : ClientProfile} {references : References}

theorem resolveAction_eq_ok (covers : Covers profile.nodes references)
    {action resolved : ActionConfig}
    (accepted : resolveAction references action = .ok resolved) :
    resolved = profile.resolvedAction action ∧
      resolved.Known profile.nodes := by
  cases action with
  | node target =>
      obtain ⟨id, found, accepted⟩ := bind_eq_ok accepted
      cases accepted
      obtain ⟨node, member, _, isId⟩ := covers.resolveNode_eq_ok_iff.mp found
      constructor
      · rw [ClientProfile.resolvedAction, resolve_of_resolveNode covers found]
        rfl
      · intro other same
        cases same
        exact ⟨node, member, isId⟩
  | direct =>
      cases accepted
      exact ⟨rfl, fun _ same => by cases same⟩
  | reject =>
      cases accepted
      exact ⟨rfl, fun _ same => by cases same⟩
  | proxy =>
      cases accepted
      exact ⟨rfl, fun _ same => by cases same⟩

/-- An action with an id is resolved to itself. -/
theorem resolveAction_of_known (covers : Covers profile.nodes references)
    {action : ActionConfig} (known : action.Known profile.nodes) :
    resolveAction references action = .ok action := by
  cases action with
  | node target =>
      obtain ⟨node, member, rfl⟩ := known target rfl
      exact bind_of_eq_ok (covers.resolveNode_id member)
  | direct => rfl
  | reject => rfl
  | proxy => rfl

theorem compile_eq_ok_iff {rule : RuleConfig} {compiled : RoutingRule} :
    rule.compile = .ok compiled ↔
      rule.matcher.compile = .ok compiled.matcher ∧
        compiled.action = rule.action.compile := by
  obtain ⟨matcher, action⟩ := compiled
  rw [RuleConfig.compile]
  cases rule.matcher.compile with
  | error error =>
      constructor
      · intro accepted
        cases accepted
      · rintro ⟨accepted, _⟩
        cases accepted
  | ok found =>
      constructor
      · intro accepted
        cases accepted
        exact ⟨rfl, rfl⟩
      · rintro ⟨accepted, isAction⟩
        cases accepted
        cases isAction
        rfl

/-- What a rule becomes. -/
theorem normalizeRule_eq_ok (covers : Covers profile.nodes references)
    {rule normal : RuleConfig}
    (accepted : normalizeRule references rule = .ok normal) :
    (∃ compiled, rule.compile = .ok compiled) ∧
      normal = { rule with action := profile.resolvedAction rule.action } ∧
      normal.action.Known profile.nodes := by
  obtain ⟨compiled, isCompiled, accepted⟩ := bind_eq_ok accepted
  obtain ⟨action, resolved, accepted⟩ := bind_eq_ok accepted
  cases accepted
  obtain ⟨rfl, known⟩ := resolveAction_eq_ok covers resolved
  exact ⟨⟨compiled, isCompiled⟩, rfl, known⟩

/-- A rule with a known action stays as it is. -/
theorem normalizeRule_of_known (covers : Covers profile.nodes references)
    {rule : RuleConfig} {compiled : RoutingRule}
    (isCompiled : rule.compile = .ok compiled)
    (known : rule.action.Known profile.nodes) :
    normalizeRule references rule = .ok rule := by
  refine (bind_of_eq_ok isCompiled).trans ?_
  exact bind_of_eq_ok (resolveAction_of_known covers known)

theorem normalizeRule_normal (covers : Covers profile.nodes references)
    {rule normal : RuleConfig}
    (accepted : normalizeRule references rule = .ok normal) :
    normalizeRule references normal = .ok normal := by
  obtain ⟨⟨compiled, isCompiled⟩, rfl, known⟩ :=
    normalizeRule_eq_ok covers accepted
  have matcher := (compile_eq_ok_iff.mp isCompiled).1
  have again : ({ rule with action := profile.resolvedAction rule.action } :
      RuleConfig).compile = .ok ⟨compiled.matcher,
        (profile.resolvedAction rule.action).compile⟩ :=
    compile_eq_ok_iff.mpr ⟨matcher, rfl⟩
  exact normalizeRule_of_known covers again known

end Rules

/-! ## Profiles -/

/-- What a validation has found in a profile. -/
structure Validated (profile normal : ClientProfile)
    (references : References) : Prop where
  covers : Covers profile.nodes references
  nodes : normal.nodes = profile.nodes
  defaultNode : resolveNode references profile.profile.defaultNode =
    .ok normal.profile.defaultNode
  rules : List.Forall₂ (fun rule changed =>
    normalizeRule references rule = .ok changed)
    profile.routing.rules normal.routing.rules
  matchLast : matchIsMisplaced normal.routing.rules = false
  again : normal.validateAndNormalize = .ok normal

theorem validated_of_eq_ok {profile normal : ClientProfile}
    (accepted : profile.validateAndNormalize = .ok normal) :
    ∃ references, Validated profile normal references := by
  obtain ⟨_, version, accepted⟩ := bind_eq_ok accepted
  obtain ⟨_, id, accepted⟩ := bind_eq_ok accepted
  obtain ⟨_, name, accepted⟩ := bind_eq_ok accepted
  obtain ⟨_, someNodes, accepted⟩ := bind_eq_ok accepted
  obtain ⟨_, fewRules, accepted⟩ := bind_eq_ok accepted
  obtain ⟨⟨references, ids⟩, checked, accepted⟩ := bind_eq_ok accepted
  obtain ⟨defaultNode, isDefault, accepted⟩ := bind_eq_ok accepted
  obtain ⟨rules, normalized, accepted⟩ := bind_eq_ok accepted
  obtain ⟨_, matchLast, accepted⟩ := bind_eq_ok accepted
  obtain ⟨_, mtu, accepted⟩ := bind_eq_ok accepted
  obtain ⟨_, families, accepted⟩ := bind_eq_ok accepted
  obtain ⟨_, dns, accepted⟩ := bind_eq_ok accepted
  cases accepted
  have covers := covers_nodes checked
  have related := mapM_eq_ok_iff.mp normalized
  refine ⟨references, covers, rfl, isDefault, related,
    Bool.not_eq_true _ ▸ Node.refuse_eq_ok matchLast, ?_⟩
  have same : rules.mapM (normalizeRule references) = .ok rules := by
    apply mapM_eq_ok_iff.mpr
    apply List.forall₂_same.mpr
    intro rule member
    obtain ⟨original, _, isNormal⟩ := exists_item_of_mem related member
    exact normalizeRule_normal covers isNormal
  have stays : resolveNode references defaultNode = .ok defaultNode := by
    obtain ⟨node, member, _, rfl⟩ := covers.resolveNode_eq_ok_iff.mp isDefault
    exact covers.resolveNode_id member
  have fewer : Node.refuse (rules.length > maxRules)
      (⟨.limit, "profile exceeds 10000 routing rules"⟩ : ProfileError) =
        .ok () := by
    rw [← related.length_eq]
    exact fewRules
  refine (bind_of_eq_ok version).trans ?_
  refine (bind_of_eq_ok id).trans ?_
  refine (bind_of_eq_ok name).trans ?_
  refine (bind_of_eq_ok someNodes).trans ?_
  refine (bind_of_eq_ok fewer).trans ?_
  refine (bind_of_eq_ok checked).trans ?_
  refine (bind_of_eq_ok stays).trans ?_
  refine (bind_of_eq_ok same).trans ?_
  refine (bind_of_eq_ok matchLast).trans ?_
  refine (bind_of_eq_ok mtu).trans ?_
  refine (bind_of_eq_ok families).trans ?_
  exact bind_of_eq_ok dns

/-! ## Policies -/

/-- The check of the profile finds what the check of the policy would. -/
theorem ne_matchAll_of_not_misplaced {rules : List RuleConfig}
    (placed : matchIsMisplaced rules = false) :
    ∀ rule ∈ rules.dropLast, rule.matcher ≠ .matchAll := by
  rw [matchIsMisplaced] at placed
  induction rules with
  | nil => simp
  | cons rule rest induction =>
      cases rest with
      | nil => simp
      | cons next rest =>
          rw [List.findIdx?_cons] at placed
          split at placed
          next => simp at placed
          next other =>
              rw [List.dropLast_cons_cons, List.forall_mem_cons]
              refine ⟨by simpa using other, ?_⟩
              apply induction
              rw [Option.any_map] at placed
              simpa [Function.comp_def] using placed

theorem matchAll_of_compile {matcher : MatchConfig}
    (compiled : matcher.compile = .ok .matchAll) : matcher = .matchAll := by
  cases matcher with
  | domain value =>
      obtain ⟨_, _, compiled⟩ := bind_eq_ok compiled
      cases compiled
  | domainSuffix value =>
      obtain ⟨_, _, compiled⟩ := bind_eq_ok compiled
      cases compiled
  | ipCidr value =>
      obtain ⟨_, _, compiled⟩ := bind_eq_ok compiled
      cases compiled
  | dstPort value =>
      obtain ⟨_, _, compiled⟩ := bind_eq_ok compiled
      cases compiled
  | matchAll => rfl

theorem matchIsLast_of_compile {rules : List RuleConfig}
    {compiled : List RoutingRule} (placed : matchIsMisplaced rules = false)
    (isCompiled : List.Forall₂ (fun rule compiled =>
      rule.compile = .ok compiled) rules compiled) :
    MatchIsLast compiled := by
  intro result member isMatch
  have fronts := List.forall₂_take (rules.length - 1) isCompiled
  rw [← List.dropLast_eq_take, isCompiled.length_eq,
    ← List.dropLast_eq_take] at fronts
  obtain ⟨rule, inRules, isRule⟩ := exists_item_of_mem fronts member
  have matcher := (compile_eq_ok_iff.mp isRule).1
  rw [isMatch] at matcher
  exact ne_matchAll_of_not_misplaced placed rule inRules
    (matchAll_of_compile matcher)

/-- The rule of the policy that stands for a rule of the profile. -/
def ClientProfile.Compiles (profile : ClientProfile) (rule : RuleConfig)
    (compiled : RoutingRule) : Prop :=
  rule.matcher.compile = .ok compiled.matcher ∧
    compiled.action = (profile.resolvedAction rule.action).compile

theorem Validated.exists_compiled {profile normal : ClientProfile}
    {references : References} (valid : Validated profile normal references) :
    ∃ compiled, List.Forall₂ (fun rule compiled =>
        rule.compile = .ok compiled) normal.routing.rules compiled ∧
      List.Forall₂ profile.Compiles profile.routing.rules compiled := by
  have related := valid.rules
  generalize profile.routing.rules = rules at related
  generalize normal.routing.rules = changed at related
  induction related with
  | nil => exact ⟨[], .nil, .nil⟩
  | @cons rule normal rules changed first _ induction =>
      obtain ⟨compiled, later, originals⟩ := induction
      obtain ⟨⟨found, isCompiled⟩, rfl, _⟩ :=
        normalizeRule_eq_ok valid.covers first
      have matcher := (compile_eq_ok_iff.mp isCompiled).1
      refine ⟨⟨found.matcher, (profile.resolvedAction rule.action).compile⟩ ::
        compiled, .cons ?_ later, .cons ⟨matcher, rfl⟩ originals⟩
      exact compile_eq_ok_iff.mpr ⟨matcher, rfl⟩

theorem routingPolicy_eq_ok {profile normal : ClientProfile}
    (accepted : profile.validateAndNormalize = .ok normal)
    {compiled : List RoutingRule}
    (isCompiled : List.Forall₂ (fun rule compiled =>
      rule.compile = .ok compiled) normal.routing.rules compiled)
    (last : MatchIsLast compiled) :
    profile.routingPolicy = .ok ⟨compiled, last⟩ := by
  refine (bind_of_eq_ok accepted).trans ?_
  refine (bind_of_eq_ok (mapM_eq_ok_iff.mpr isCompiled)).trans ?_
  rw [RoutingPolicy.new_eq_ok_iff.mpr (show
    (⟨compiled, last⟩ : RoutingPolicy).rules = compiled from rfl)]
  rfl

/-- The rule matches the context. -/
def RuleConfig.matchesContext (rule : RuleConfig) (context : RouteContext) :
    Bool :=
  match rule.matcher.compile with
  | .ok matcher =>
      matcher.matchesContext context (RoutingPolicy.knownDomain context)
  | .error _ => false

/-- The first rule that matches, with its reference resolved; a flow that no
rule matches is proxied. -/
def ClientProfile.decision (profile : ClientProfile) (context : RouteContext) :
    ActionConfig :=
  ((profile.routing.rules.find? fun rule =>
    rule.matchesContext context).map fun rule =>
      profile.resolvedAction rule.action).getD .proxy

theorem decide_eq_decision {profile : ClientProfile} {policy : RoutingPolicy}
    (compiled : List.Forall₂ profile.Compiles profile.routing.rules
      policy.rules) (context : RouteContext) :
    policy.decide context = (profile.decision context).compile := by
  have first := map_find?_of_forall₂ compiled
    (show ∀ rule compiled, profile.Compiles rule compiled →
      rule.matchesContext context = compiled.matcher.matchesContext context
        (RoutingPolicy.knownDomain context) from by
      rintro rule compiled ⟨matcher, _⟩
      rw [RuleConfig.matchesContext, matcher])
    (show ∀ rule compiled, profile.Compiles rule compiled →
      (profile.resolvedAction rule.action).compile = compiled.action from by
      rintro rule compiled ⟨_, action⟩
      exact action.symm)
  rw [RoutingPolicy.decide, ← first, ClientProfile.decision]
  cases profile.routing.rules.find? fun rule =>
      rule.matchesContext context with
  | none => rfl
  | some rule => rfl

theorem Validated.known_decision {profile normal : ClientProfile}
    {references : References} (valid : Validated profile normal references)
    (context : RouteContext) :
    (profile.decision context).Known profile.nodes := by
  rw [ClientProfile.decision]
  cases found : profile.routing.rules.find? fun rule =>
      rule.matchesContext context with
  | none =>
      intro target same
      cases same
  | some rule =>
      obtain ⟨changed, _, isChanged⟩ := exists_item_of_mem valid.rules.flip
        (List.mem_of_find?_eq_some found)
      obtain ⟨_, rfl, known⟩ := normalizeRule_eq_ok valid.covers isChanged
      exact known

/-- A profile that was validated is normal, its references are ids of its
nodes, and its policy decides what its rules say. -/
theorem profile_normalization {profile normal : ClientProfile}
    (accepted : profile.validateAndNormalize = .ok normal) :
    normal.validateAndNormalize = .ok normal ∧
    normal.nodes = profile.nodes ∧
    (∃ node ∈ normal.nodes, node.id = normal.profile.defaultNode) ∧
    (∀ rule ∈ normal.routing.rules, rule.action.Known normal.nodes) ∧
    ∃ policy, profile.routingPolicy = .ok policy ∧
      normal.routingPolicy = .ok policy ∧
      List.Forall₂ profile.Compiles profile.routing.rules policy.rules ∧
      ∀ context,
        policy.decide context = (profile.decision context).compile ∧
        (profile.decision context).Known profile.nodes := by
  obtain ⟨references, valid⟩ := validated_of_eq_ok accepted
  obtain ⟨compiled, isCompiled, originals⟩ := valid.exists_compiled
  have last := matchIsLast_of_compile valid.matchLast isCompiled
  refine ⟨valid.again, valid.nodes, ?_, ?_, ⟨compiled, last⟩,
    routingPolicy_eq_ok accepted isCompiled last,
    routingPolicy_eq_ok valid.again isCompiled last, originals, ?_⟩
  · obtain ⟨node, member, _, isDefault⟩ :=
      valid.covers.resolveNode_eq_ok_iff.mp valid.defaultNode
    rw [valid.nodes]
    exact ⟨node, member, isDefault⟩
  · intro rule member
    obtain ⟨original, _, isNormal⟩ := exists_item_of_mem valid.rules member
    rw [valid.nodes]
    exact (normalizeRule_eq_ok valid.covers isNormal).2.2
  · intro context
    exact ⟨decide_eq_decision originals context,
      valid.known_decision context⟩

/-- A profile that refers to its node by the alias, or by the id. -/
def sampleProfile (reference : String) : ClientProfile where
  version := 1
  profile := { id := "home", name := "Home", defaultNode := reference }
  nodes := [{
    id := "node-sg"
    nodeAlias := some "sg"
    relayAddress := .v4 ⟨[203, 0, 113, 10], rfl⟩ 4433
    serverName := "relay.example"
    credentialRef := ⟨"secret://velum/node-sg", by decide⟩
    trust := .system }]
  traffic := {
    preferredAdapter := .tun
    systemProxy := { port := 1080, bypass := [] }
    tun := {
      mtu := 1500
      ipv4 := ⟨.v4 ⟨[10, 0, 0, 2], rfl⟩, 24, by decide⟩
      ipv6 := ⟨.v6 ⟨List.replicate 16 0, rfl⟩, 64, by decide⟩
      dns := [.v4 ⟨[10, 0, 0, 53], rfl⟩] } }
  routing := {
    mode := .rule
    rules := [
      ⟨.domainSuffix "Example.com.", .node reference⟩,
      ⟨.matchAll, .direct⟩] }

theorem profile_normalization_alias :
    (sampleProfile "node-sg").validateAndNormalize =
        .ok (sampleProfile "node-sg") ∧
      ∃ policy, (sampleProfile "sg").routingPolicy = .ok policy ∧
        policy.decide ⟨some "www.example.com".toList,
          .v4 ⟨[192, 0, 2, 1], rfl⟩, 443⟩ = .node "node-sg".toList := by
  have accepted : (sampleProfile "sg").validateAndNormalize =
      .ok (sampleProfile "node-sg") := by rfl
  obtain ⟨again, _, _, _, policy, compiled, _, _, decided⟩ :=
    profile_normalization accepted
  refine ⟨again, policy, compiled, ?_⟩
  rw [(decided _).1]
  rfl

end Velum.Profile
