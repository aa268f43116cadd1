import Velum.Proxy.Target
import Velum.Routing.Decisions
import Velum.Tun.FakeDns

/-!
# Host names and domain rules

A host name reaches a policy from the local proxy or from the fake DNS table,
each of which has its own idea of a valid name.  A name is routed by the
domain rules exactly when its labels are those of the routing normaliser;
underscores and outer hyphens pass both gates and hide the name from every
domain rule.
-/

namespace Velum.Routing

open Foundation Protocol

/-! ## Rules as the constructors build them -/

/-- A matcher made by the public constructors, which normalise domains. -/
inductive RuleMatcher.Built : RuleMatcher → Prop where
  | domain {value : Text} {matcher : RuleMatcher}
      (made : RuleMatcher.ofDomain value = .ok matcher) : Built matcher
  | domainSuffix {value : Text} {matcher : RuleMatcher}
      (made : RuleMatcher.ofDomainSuffix value = .ok matcher) : Built matcher
  | ipCidr (cidr : IpCidr) : Built (.ipCidr cidr)
  | destinationPort (range : PortRange) : Built (.destinationPort range)
  | matchAll : Built .matchAll

def RoutingPolicy.Built (policy : RoutingPolicy) : Prop :=
  ∀ rule ∈ policy.rules, rule.matcher.Built

theorem RuleMatcher.built_of_parseMatcher {kind value : Text}
    {matcher : RuleMatcher} (parsed : parseMatcher kind value = .ok matcher) :
    matcher.Built := by
  rw [parseMatcher] at parsed
  split at parsed
  · exact .domain parsed
  · split at parsed
    · exact .domainSuffix parsed
    · split at parsed
      · obtain ⟨cidr, _, parsed⟩ := bind_eq_ok parsed
        cases parsed
        exact .ipCidr cidr
      · split at parsed
        · obtain ⟨range, _, parsed⟩ := bind_eq_ok parsed
          cases parsed
          exact .destinationPort range
        · cases parsed

theorem RoutingRule.built_of_fromStr {source : Text} {rule : RoutingRule}
    (parsed : RoutingRule.fromStr source = .ok rule) : rule.matcher.Built := by
  obtain ⟨_, fields⟩ := RoutingRule.fromStr_eq_ok_iff.mp parsed
  rcases ruleOfFields_eq_ok_iff.mp fields with
    ⟨kind, value, action, _, matched, _⟩ | ⟨action, _, isMatch, _⟩
  · exact RuleMatcher.built_of_parseMatcher matched
  · rw [isMatch]
    exact .matchAll

/-- Parsing a policy goes through the constructors. -/
theorem RoutingPolicy.built_of_fromStr {source : Text} {policy : RoutingPolicy}
    (parsed : RoutingPolicy.fromStr source = .ok policy) : policy.Built := by
  intro rule member
  obtain ⟨line, _, read⟩ := exists_item_of_mem
    (RoutingPolicy.fromStr_eq_ok_iff.mp parsed) member
  exact RoutingRule.built_of_fromStr read

theorem RuleMatcher.normalName_of_domain {value : Text}
    (built : (RuleMatcher.domain value).Built) : NormalName value := by
  cases built with
  | domain made =>
      obtain ⟨name, normalized, same⟩ := bind_eq_ok made
      cases same
      exact (normalizeDomain_eq_ok_iff.mp normalized).1
  | domainSuffix made =>
      obtain ⟨name, _, same⟩ := bind_eq_ok made
      cases same

theorem RuleMatcher.normalName_of_domainSuffix {value : Text}
    (built : (RuleMatcher.domainSuffix value).Built) : NormalName value := by
  cases built with
  | domain made =>
      obtain ⟨name, _, same⟩ := bind_eq_ok made
      cases same
  | domainSuffix made =>
      obtain ⟨name, normalized, same⟩ := bind_eq_ok made
      cases same
      exact (normalizeDomain_eq_ok_iff.mp normalized).1

/-! ## What a domain rule is meant to cover -/

/-- The labels of a name, up to letter case. -/
def foldedLabels (name : Text) : List Text :=
  (labels name).map Text.toAsciiLowercase

/-- A domain rule covers a name by its labels, whatever its spelling; the
other rules as they match. -/
def RuleMatcher.Covers (matcher : RuleMatcher) (context : RouteContext) :
    Prop :=
  match matcher with
  | .domain value => ∃ name, context.domain = some name ∧
      foldedLabels value = foldedLabels name
  | .domainSuffix value => ∃ name, context.domain = some name ∧
      foldedLabels value <:+ foldedLabels name
  | other => other.matchesContext context none = true

def RuleMatcher.IsDomainRule : RuleMatcher → Prop
  | .domain _ => True
  | .domainSuffix _ => True
  | _ => False

/-- Names that reach a policy. -/
inductive AcceptedHost (host : Text) : Prop where
  | proxy (valid : Proxy.validateHostname host = .ok ())
  | fakeDns {generation : UInt64} {capacity : Nat}
      {fresh table : Tun.FakeDnsTable} {mapping : Tun.FakeDnsMapping}
      (created : Tun.FakeDnsTable.new generation capacity = .ok fresh)
      (reached : Reachable Tun.FakeDnsTable.Step fresh table)
      (member : mapping ∈ table.mappings) (stored : mapping.domain = host)

/-- The first rule that covers the name decides, where it is a domain rule. -/
def DomainRulesApply (host : Text) : Prop :=
  ∀ (policy : RoutingPolicy) (destination : IpAddr) (port : UInt16)
    (before : List RoutingRule) (rule : RoutingRule)
    (after : List RoutingRule),
    policy.Built → policy.rules = before ++ rule :: after →
    rule.matcher.IsDomainRule →
    rule.matcher.Covers ⟨some host, destination, port⟩ →
    (∀ earlier ∈ before,
      ¬earlier.matcher.Covers ⟨some host, destination, port⟩) →
    policy.decide ⟨some host, destination, port⟩ = rule.action

/-- Some policy tells the name from an unknown one. -/
def DomainKnown (host : Text) : Prop :=
  ∃ (policy : RoutingPolicy) (destination : IpAddr) (port : UInt16),
    policy.Built ∧ policy.decide ⟨some host, destination, port⟩ ≠
      policy.decide ⟨none, destination, port⟩

/-- Without surrounding whitespace and final dots, every label is a good
one: not empty, at most 63 bytes, letters, digits and inner hyphens. -/
def RoutableName (host : Text) : Prop :=
  ∀ label ∈ labels (trimDots (Text.trim host)), isBadLabel label = false

instance (host : Text) : Decidable (RoutableName host) :=
  inferInstanceAs (Decidable (∀ label ∈ labels (trimDots (Text.trim host)), _))

/-! ## Accepted names -/

theorem AcceptedHost.bounded {host : Text} (accepted : AcceptedHost host) :
    (Text.utf8 host).length ≤ 253 := by
  cases accepted with
  | proxy valid =>
      rw [Proxy.validateHostname] at valid
      split at valid
      next => cases valid
      next refused =>
          simp only [not_or, Nat.not_lt] at refused
          exact refused.2.1
  | fakeDns created reached member stored =>
      obtain ⟨asked, normalized⟩ :=
        Tun.FakeDnsTable.domainsNormal_of_reachable created reached _ member
      rw [stored] at normalized
      exact (Tun.normalizeDomain_eq_ok normalized).2

theorem AcceptedHost.solid_head {host : Text} (accepted : AcceptedHost host)
    {character : Char} (first : host.head? = some character) :
    Text.isWhitespace character = false := by
  cases accepted with
  | proxy valid =>
      exact (Proxy.visible_of_isHostChar (Proxy.isHostChar_of_validateHostname
        valid character (List.mem_of_mem_head? first))).isWhitespace
  | fakeDns created reached member stored =>
      obtain ⟨asked, normalized⟩ :=
        Tun.FakeDnsTable.domainsNormal_of_reachable created reached _ member
      rw [stored] at normalized
      exact Tun.solid_head_of_normalizeDomain normalized first

/-- The routing normaliser knows exactly the routable names. -/
theorem AcceptedHost.normalizes_iff {host : Text}
    (accepted : AcceptedHost host) :
    (∃ name, normalizeDomain host = .ok name) ↔ RoutableName host := by
  constructor
  · rintro ⟨name, normalized⟩ label member
    obtain ⟨normal, rfl⟩ := normalizeDomain_eq_ok_iff.mp normalized
    rw [← isBadLabel_toAsciiLowercase]
    apply normal.labels
    rw [labels_toAsciiLowercase]
    exact List.mem_map_of_mem member
  · intro routable
    refine ⟨Text.toAsciiLowercase (trimDots (Text.trim host)),
      normalizeDomain_eq_ok_iff.mpr ⟨⟨?_, ?_, ?_⟩, rfl⟩⟩
    · exact Text.toAsciiLowercase_toAsciiLowercase _
    · rw [Text.length_utf8_toAsciiLowercase]
      have part : (trimDots (Text.trim host)).Sublist host :=
        (List.rdropWhile_prefix _ _).sublist.trans
          (Text.trimMatches_sublist _ host)
      exact Nat.le_trans (Text.length_utf8_le_of_sublist part)
        accepted.bounded
    · intro label member
      rw [labels_toAsciiLowercase] at member
      obtain ⟨original, inLabels, rfl⟩ := List.mem_map.mp member
      rw [isBadLabel_toAsciiLowercase]
      exact routable original inLabels

/-! ## Rules on a known name -/

theorem foldedLabels_eq (name : Text) :
    foldedLabels name = labels (Text.toAsciiLowercase name) :=
  (labels_toAsciiLowercase name).symm

/-- Against a name in lower case, the rules match what they are meant to
cover. -/
theorem RuleMatcher.Built.matches_iff_covers {matcher : RuleMatcher}
    (built : matcher.Built) (host : Text) (destination : IpAddr)
    (port : UInt16) :
    matcher.matchesContext ⟨some host, destination, port⟩
        (some (Text.toAsciiLowercase host)) = true ↔
      matcher.Covers ⟨some host, destination, port⟩ := by
  cases matcher with
  | domain value =>
      have normal := RuleMatcher.normalName_of_domain built
      simp only [RuleMatcher.Covers, RuleMatcher.matchesContext,
        Option.any_some, decide_eq_true_eq, Option.some.injEq,
        exists_eq_left', foldedLabels_eq, normal.lower, labels_inj]
      exact eq_comm
  | domainSuffix value =>
      have normal := RuleMatcher.normalName_of_domainSuffix built
      rw [domainSuffix_matches_iff]
      simp only [RuleMatcher.Covers, Option.some.injEq, exists_eq_left',
        foldedLabels_eq, normal.lower]
  | ipCidr cidr => exact Iff.rfl
  | destinationPort range => exact Iff.rfl
  | matchAll => exact Iff.rfl

/-- A rule that covers a name shares its last label with it, which leaves
nothing to trim. -/
theorem AcceptedHost.normalizes_to_lower {host : Text}
    (accepted : AcceptedHost host) {tail : Text} (normal : NormalName tail)
    (ends : labels tail <:+ labels (Text.toAsciiLowercase host))
    (routable : RoutableName host) :
    normalizeDomain host = .ok (Text.toAsciiLowercase host) := by
  have last : ∀ character, host.getLast? = some character →
      isLabelChar character = true := by
    intro character found
    have lowered : (Text.toAsciiLowercase host).getLast? =
        some character.toLower := by
      rw [Text.toAsciiLowercase, List.getLast?_map, found]
      rfl
    rw [← isLabelChar_toLower]
    apply isLabelChar_of_getLast? normal.labels
    rcases (Text.splitOn_suffix_iff '.' tail _).mp ends with
      same | ⟨front, same⟩
    · rw [← same]
      exact lowered
    · rw [same] at lowered
      obtain ⟨first, rest, spelled⟩ :=
        List.exists_cons_of_ne_nil normal.ne_nil
      rw [spelled] at lowered ⊢
      simpa [List.getLast?_append, List.getLast?_cons_cons] using lowered
  have trimmed : trimDots (Text.trim host) = host :=
    trim_of_solid_ends (fun _ => accepted.solid_head) last
  obtain ⟨name, normalized⟩ := accepted.normalizes_iff.mpr routable
  obtain ⟨_, rfl⟩ := normalizeDomain_eq_ok_iff.mp normalized
  rw [normalized, trimmed]

theorem IsDomainRule.ends {matcher : RuleMatcher} {host : Text}
    {destination : IpAddr} {port : UInt16}
    (domainRule : matcher.IsDomainRule) (built : matcher.Built)
    (covers : matcher.Covers ⟨some host, destination, port⟩) :
    ∃ tail, NormalName tail ∧
      labels tail <:+ labels (Text.toAsciiLowercase host) := by
  cases matcher with
  | domain value =>
      have normal := RuleMatcher.normalName_of_domain built
      obtain ⟨name, same, equal⟩ := covers
      cases same
      refine ⟨value, normal, ?_⟩
      rw [foldedLabels_eq, foldedLabels_eq, normal.lower] at equal
      exact equal ▸ List.suffix_refl _
  | domainSuffix value =>
      have normal := RuleMatcher.normalName_of_domainSuffix built
      obtain ⟨name, same, ends⟩ := covers
      cases same
      refine ⟨value, normal, ?_⟩
      rwa [foldedLabels_eq, foldedLabels_eq, normal.lower] at ends
  | ipCidr cidr => cases domainRule
  | destinationPort range => cases domainRule
  | matchAll => cases domainRule

theorem AcceptedHost.domainRulesApply {host : Text}
    (accepted : AcceptedHost host) (routable : RoutableName host) :
    DomainRulesApply host := by
  intro policy destination port before rule after built spelled domainRule
    covers skipped
  have ruleBuilt := built rule (by simp [spelled])
  obtain ⟨tail, normal, ends⟩ := IsDomainRule.ends domainRule ruleBuilt covers
  have known : RoutingPolicy.knownDomain ⟨some host, destination, port⟩ =
      some (Text.toAsciiLowercase host) := by
    simp [RoutingPolicy.knownDomain,
      accepted.normalizes_to_lower normal ends routable, Except.toOption]
  apply RoutingPolicy.decide_of_first spelled
  · intro earlier member
    have earlierBuilt := built earlier (by simp [spelled, member])
    rw [known, ← Bool.not_eq_true, earlierBuilt.matches_iff_covers]
    exact skipped earlier member
  · rw [known, ruleBuilt.matches_iff_covers]
    exact covers

/-! ## Known names -/

/-- A policy with one exact rule. -/
def exactPolicy (name : Text) : RoutingPolicy :=
  ⟨[⟨.domain name, .reject⟩], by intro rule member; cases member⟩

/-- Only the normal form of the domain takes part in a match. -/
theorem RuleMatcher.matchesContext_congr (matcher : RuleMatcher)
    (first second known : Option Text) (destination : IpAddr)
    (port : UInt16) :
    matcher.matchesContext ⟨first, destination, port⟩ known =
      matcher.matchesContext ⟨second, destination, port⟩ known := by
  cases matcher <;> rfl

theorem domainKnown_iff (host : Text) :
    DomainKnown host ↔ ∃ name, normalizeDomain host = .ok name := by
  constructor
  · rintro ⟨policy, destination, port, _, differ⟩
    cases normalized : normalizeDomain host with
    | ok name => exact ⟨name, rfl⟩
    | error failure =>
        exfalso
        apply differ
        have unknown : RoutingPolicy.knownDomain
            ⟨some host, destination, port⟩ =
              RoutingPolicy.knownDomain ⟨none, destination, port⟩ := by
          simp [RoutingPolicy.knownDomain, normalized, Except.toOption]
        simp only [RoutingPolicy.decide, unknown]
        simp only [RuleMatcher.matchesContext_congr _ (some host) none]
  · rintro ⟨name, normalized⟩
    have destination : IpAddr := .v4 ⟨[0, 0, 0, 0], rfl⟩
    have known : RoutingPolicy.knownDomain ⟨some host, destination, 0⟩ =
        some name := by
      simp [RoutingPolicy.knownDomain, normalized, Except.toOption]
    refine ⟨exactPolicy name, destination, 0, ?_, ?_⟩
    · intro rule member
      obtain rfl := List.mem_singleton.mp member
      exact .domain (bind_of_eq_ok normalized)
    · have rejected : (exactPolicy name).decide ⟨some host, destination, 0⟩ =
          .reject := by
        simp [RoutingPolicy.decide, known, exactPolicy,
          RuleMatcher.matchesContext]
      have passed : (exactPolicy name).decide ⟨none, destination, 0⟩ =
          .proxy := by
        simp [RoutingPolicy.decide, RoutingPolicy.knownDomain, exactPolicy,
          RuleMatcher.matchesContext]
      rw [rejected, passed]
      simp

/-- The domain rules apply to an accepted name, and the name is known, exactly
when its labels are routable. -/
theorem domain_rules_bind_iff {host : Text} (accepted : AcceptedHost host) :
    DomainRulesApply host ∧ DomainKnown host ↔ RoutableName host := by
  constructor
  · rintro ⟨_, known⟩
    exact accepted.normalizes_iff.mp ((domainKnown_iff host).mp known)
  · intro routable
    exact ⟨accepted.domainRulesApply routable,
      (domainKnown_iff host).mpr (accepted.normalizes_iff.mpr routable)⟩

def plainHost : Text := "Api.example.com".toList

theorem domain_rules_bind_plain :
    DomainRulesApply plainHost ∧ DomainKnown plainHost :=
  (domain_rules_bind_iff (.proxy rfl)).mpr (by decide)

def serviceHost : Text := "_sip.example.com".toList

def rejectingRule : RoutingRule :=
  ⟨.domainSuffix "example.com".toList, .reject⟩

def rejectingPolicy : RoutingPolicy :=
  ⟨[rejectingRule], by intro rule member; cases member⟩

def serviceContext : RouteContext :=
  ⟨some serviceHost, .v4 ⟨[192, 0, 2, 1], rfl⟩, 443⟩

theorem service_host_escapes :
    Proxy.validateHostname serviceHost = .ok () ∧
      RoutingPolicy.fromStr "DOMAIN-SUFFIX,example.com,REJECT".toList =
        .ok rejectingPolicy ∧
      rejectingRule.matcher.Covers serviceContext ∧
      rejectingPolicy.decide serviceContext = .proxy := by
  refine ⟨rfl, rfl, ⟨serviceHost, rfl, ?_⟩, rfl⟩
  decide

end Velum.Routing
