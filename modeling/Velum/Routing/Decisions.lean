import Velum.Routing.Cidr
import Velum.Routing.Domains

/-!
# What a routing policy decides

`Applies` says what each matcher is for: equal names, last labels, the first
bits of an address, ports.  The matchers compute it, and the first rule that
applies decides.
-/

namespace Velum.Routing

open Foundation Protocol

/-- What a matcher asks of a context. -/
def RuleMatcher.Applies (matcher : RuleMatcher) (context : RouteContext) :
    Prop :=
  match matcher with
  | .domain expected => RoutingPolicy.knownDomain context = some expected
  | .domainSuffix suffix => ∃ name,
      RoutingPolicy.knownDomain context = some name ∧
        labels suffix <:+ labels name
  | .ipCidr cidr => cidr.Covers context.destination
  | .destinationPort range =>
      range.start ≤ context.destinationPort ∧
        context.destinationPort ≤ range.stop
  | .matchAll => True

theorem RuleMatcher.matchesContext_iff_applies (matcher : RuleMatcher)
    (context : RouteContext) :
    matcher.matchesContext context (RoutingPolicy.knownDomain context) =
      true ↔ matcher.Applies context := by
  cases matcher with
  | domain expected =>
      cases known : RoutingPolicy.knownDomain context <;>
        simp [matchesContext, Applies, known]
  | domainSuffix suffix =>
      cases known : RoutingPolicy.knownDomain context with
      | none => simp [matchesContext, Applies, known]
      | some name =>
          rw [domainSuffix_matches_iff]
          simp [Applies, known]
  | ipCidr cidr => exact cidr.contains_iff context.destination
  | destinationPort range =>
      simp [matchesContext, Applies, PortRange.contains]
  | matchAll => simp [matchesContext, Applies]

namespace RoutingPolicy

/-- The first of the rules that matches decides. -/
theorem decide_of_first {policy : RoutingPolicy} {context : RouteContext}
    {before after : List RoutingRule} {rule : RoutingRule}
    (spelled : policy.rules = before ++ rule :: after)
    (skipped : ∀ earlier ∈ before, earlier.matcher.matchesContext context
      (knownDomain context) = false)
    (found : rule.matcher.matchesContext context (knownDomain context) = true) :
    policy.decide context = rule.action := by
  have none : before.find? (fun earlier =>
      earlier.matcher.matchesContext context (knownDomain context)) = none := by
    rw [List.find?_eq_none]
    intro earlier member
    simp [skipped earlier member]
  have here : (rule :: after).find? (fun earlier =>
      earlier.matcher.matchesContext context (knownDomain context)) =
        some rule := List.find?_cons_of_pos found
  rw [RoutingPolicy.decide, spelled, List.find?_append, none, here]
  rfl

/-- Without a rule that matches, a flow goes through the relay. -/
theorem decide_of_none {policy : RoutingPolicy} {context : RouteContext}
    (skipped : ∀ rule ∈ policy.rules, rule.matcher.matchesContext context
      (knownDomain context) = false) :
    policy.decide context = .proxy := by
  have none : policy.rules.find? (fun rule =>
      rule.matcher.matchesContext context (knownDomain context)) = none := by
    rw [List.find?_eq_none]
    intro rule member
    simp [skipped rule member]
  rw [RoutingPolicy.decide, none]
  rfl

/-- A rule is the first one that matches. -/
def FirstMatch (policy : RoutingPolicy) (context : RouteContext)
    (rule : RoutingRule) : Prop :=
  ∃ before after, policy.rules = before ++ rule :: after ∧
    (∀ earlier ∈ before, earlier.matcher.matchesContext context
      (knownDomain context) = false) ∧
    rule.matcher.matchesContext context (knownDomain context) = true

theorem exists_firstMatch_or_none (policy : RoutingPolicy)
    (context : RouteContext) :
    (∃ rule, policy.FirstMatch context rule) ∨
      ∀ rule ∈ policy.rules, rule.matcher.matchesContext context
        (knownDomain context) = false := by
  cases search : policy.rules.find? (fun rule =>
      rule.matcher.matchesContext context (knownDomain context)) with
  | none =>
      right
      intro rule member
      simpa using List.find?_eq_none.mp search rule member
  | some rule =>
      left
      obtain ⟨found, before, after, spelled, skipped⟩ :=
        List.find?_eq_some_iff_append.mp search
      refine ⟨rule, before, after, spelled, ?_, found⟩
      intro earlier member
      simpa using skipped earlier member

/-- The decision is the action of the first rule whose question the context
answers. -/
theorem decide_eq_iff_applies (policy : RoutingPolicy)
    (context : RouteContext) (action : RoutingAction) :
    policy.decide context = action ↔
      (∃ before rule after, policy.rules = before ++ rule :: after ∧
        (∀ earlier ∈ before, ¬earlier.matcher.Applies context) ∧
        rule.matcher.Applies context ∧ rule.action = action) ∨
      ((∀ rule ∈ policy.rules, ¬rule.matcher.Applies context) ∧
        action = .proxy) := by
  simp only [← RuleMatcher.matchesContext_iff_applies, Bool.not_eq_true]
  constructor
  · rintro rfl
    rcases policy.exists_firstMatch_or_none context with
      ⟨rule, before, after, spelled, skipped, found⟩ | skipped
    · exact .inl ⟨before, rule, after, spelled, skipped, found,
        (decide_of_first spelled skipped found).symm⟩
    · exact .inr ⟨skipped, decide_of_none skipped⟩
  · rintro (⟨before, rule, after, spelled, skipped, found, rfl⟩ |
      ⟨skipped, rfl⟩)
    · exact decide_of_first spelled skipped found
    · exact decide_of_none skipped

end RoutingPolicy

/-! ## Suffix rules on normal forms -/

theorem normalizeDomain_idempotent {value name : Text}
    (normalized : normalizeDomain value = .ok name) :
    normalizeDomain name = .ok name :=
  (normalizeDomain_eq_ok_iff.mp normalized).1.normalizeDomain

theorem ofDomainSuffix_of_normalized {value name : Text}
    (normalized : normalizeDomain value = .ok name) :
    RuleMatcher.ofDomainSuffix value = .ok (.domainSuffix name) :=
  bind_of_eq_ok normalized

theorem knownDomain_of_normalized {context : RouteContext}
    {value name : Text} (given : context.domain = some value)
    (normalized : normalizeDomain value = .ok name) :
    RoutingPolicy.knownDomain context = some name := by
  rw [RoutingPolicy.knownDomain, given, Option.bind_some, normalized]
  rfl

/-- A suffix rule matches by whole labels, the normal form is its own normal
form, and the first rule that matches decides, or the relay where none does. -/
theorem suffix_rules_labelwise :
    (∀ (first second name other : Text) (context : RouteContext),
      normalizeDomain first = .ok name → normalizeDomain second = .ok other →
      context.domain = some second →
      ∃ matcher, RuleMatcher.ofDomainSuffix first = .ok matcher ∧
        (matcher.matchesContext context
            (RoutingPolicy.knownDomain context) = true ↔
          labels name <:+ labels other)) ∧
      (∀ value name, normalizeDomain value = .ok name →
        normalizeDomain name = .ok name) ∧
      ∀ (policy : RoutingPolicy) (context : RouteContext),
        (∃ rule, policy.FirstMatch context rule ∧
          policy.decide context = rule.action) ∨
        ((∀ rule ∈ policy.rules, rule.matcher.matchesContext context
            (RoutingPolicy.knownDomain context) = false) ∧
          policy.decide context = .proxy) := by
  refine ⟨?_, fun _ _ => normalizeDomain_idempotent, ?_⟩
  · intro first second name other context normal otherNormal given
    refine ⟨_, ofDomainSuffix_of_normalized normal, ?_⟩
    rw [knownDomain_of_normalized given otherNormal]
    exact domainSuffix_matches_iff name other context
  · intro policy context
    rcases policy.exists_firstMatch_or_none context with
      ⟨rule, first⟩ | skipped
    · obtain ⟨before, after, spelled, passed, found⟩ := first
      exact .inl ⟨rule, ⟨before, after, spelled, passed, found⟩,
        RoutingPolicy.decide_of_first spelled passed found⟩
    · exact .inr ⟨skipped, RoutingPolicy.decide_of_none skipped⟩

def labelContext (host : Text) : RouteContext :=
  ⟨some host, .v4 ⟨[203, 0, 113, 1], rfl⟩, 443⟩

/-- A suffix that ends inside a label does not match. -/
theorem suffix_rules_labelwise_inside :
    ∃ matcher, RuleMatcher.ofDomainSuffix " Example.COM.".toList =
        .ok matcher ∧
      matcher.matchesContext (labelContext "notexample.com".toList)
        (RoutingPolicy.knownDomain
          (labelContext "notexample.com".toList)) = false := by
  obtain ⟨matcher, made, matches_⟩ := suffix_rules_labelwise.1
    " Example.COM.".toList "notexample.com".toList "example.com".toList
    "notexample.com".toList (labelContext "notexample.com".toList)
    (by decide) (by decide) rfl
  refine ⟨matcher, made, ?_⟩
  rw [Bool.eq_false_iff, Ne, matches_]
  decide

end Velum.Routing
