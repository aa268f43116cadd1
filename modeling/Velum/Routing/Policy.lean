import Velum.Foundation.Checked
import Velum.Protocol.AddressText

/-!
# Client routing policies

Rules in textual form, a policy of rules of which the first match wins, and
the normal form of domain names that rules and contexts are compared in.
-/

namespace Velum.Routing

open Foundation Protocol

structure RoutingError where
  message : String
  deriving DecidableEq, Repr

inductive RoutingAction where
  | direct
  | reject
  | proxy
  | node (id : Text)
  deriving DecidableEq, Repr

/-- What is known when a flow is routed. -/
structure RouteContext where
  domain : Option Text
  destination : IpAddr
  destinationPort : UInt16
  deriving DecidableEq

/-! ## Domain names -/

def labels (domain : Text) : List Text :=
  domain.splitOn '.'

def isLabelChar (character : Char) : Bool :=
  character.isAlphanum || character == '-'

def isBadLabel (label : Text) : Bool :=
  label = [] || decide (63 < (Text.utf8 label).length) ||
    label.head? = some '-' || label.getLast? = some '-' ||
    !label.all isLabelChar

def trimDots (text : Text) : Text :=
  text.rdropWhile (· == '.')

def normalizeDomain (value : Text) : Except RoutingError Text :=
  let value := Text.toAsciiLowercase (trimDots (Text.trim value))
  if value = [] ∨ 253 < (Text.utf8 value).length ∨
      (labels value).any isBadLabel then
    .error ⟨"routing rule domain is invalid"⟩
  else .ok value

/-! ## Networks and ports -/

/-- Inclusive destination port range. -/
structure PortRange where
  start : UInt16
  stop : UInt16
  nonzero : start ≠ 0
  ordered : start ≤ stop
  deriving DecidableEq

namespace PortRange

def new (start stop : UInt16) : Except RoutingError PortRange :=
  if valid : start ≠ 0 ∧ start ≤ stop then
    .ok ⟨start, stop, valid.1, valid.2⟩
  else .error ⟨"destination port range is invalid"⟩

def contains (range : PortRange) (port : UInt16) : Bool :=
  range.start ≤ port && port ≤ range.stop

def parsePort (text : Text) : Except RoutingError UInt16 :=
  match Text.parseUnsigned 65536 text with
  | some port => .ok (UInt16.ofNat port)
  | none => .error ⟨"destination port is invalid"⟩

def fromStr (source : Text) : Except RoutingError PortRange := do
  let source := Text.trim source
  let ends := (Text.splitOnce '-' source).getD (source, source)
  let start ← parsePort ends.1
  let stop ← parsePort ends.2
  new start stop

end PortRange

/-- The mask of a prefix in words of a given width.  A shift by the whole
width leaves nothing. -/
def prefixMask (width prefixLength : Nat) : Nat :=
  let shift := width - min prefixLength width
  if shift < width then ((2 ^ width - 1) <<< shift) % 2 ^ width else 0

/-- An address with the bits after the prefix cleared. -/
def maskAddress (prefixLength : Nat) : IpAddr → IpAddr
  | .v4 octets =>
      .v4 ⟨bigEndian 4 (ofBigEndian octets.toList &&&
        prefixMask 32 prefixLength), length_bigEndian 4 _⟩
  | .v6 octets =>
      .v6 ⟨bigEndian 16 (ofBigEndian octets.toList &&&
        prefixMask 128 prefixLength), length_bigEndian 16 _⟩

def addressWidth : IpAddr → Nat
  | .v4 _ => 32
  | .v6 _ => 128

/-- A network without host bits, with a prefix length of its family. -/
structure IpCidr where
  network : IpAddr
  prefixLength : UInt8
  fits : prefixLength.toNat ≤ addressWidth network
  masked : maskAddress prefixLength.toNat network = network
  deriving DecidableEq

namespace IpCidr

def new (network : IpAddr) (prefixLength : UInt8) :
    Except RoutingError IpCidr :=
  if fits : prefixLength.toNat ≤ addressWidth network then
    if masked : maskAddress prefixLength.toNat network = network then
      .ok ⟨network, prefixLength, fits, masked⟩
    else .error ⟨"CIDR network has host bits set"⟩
  else .error ⟨"CIDR prefix length is out of range"⟩

def contains (cidr : IpCidr) (address : IpAddr) : Bool :=
  addressWidth cidr.network = addressWidth address &&
    maskAddress cidr.prefixLength.toNat address = cidr.network

def fromStr (source : Text) : Except RoutingError IpCidr :=
  match Text.splitOnce '/' (Text.trim source) with
  | none => .error ⟨"CIDR requires an address and prefix length"⟩
  | some (network, prefixText) =>
      match AddressText.parseIpAddr network with
      | none => .error ⟨"CIDR address is invalid"⟩
      | some network =>
          match Text.parseUnsigned 256 prefixText with
          | none => .error ⟨"CIDR prefix length is invalid"⟩
          | some prefixLength => new network (UInt8.ofNat prefixLength)

end IpCidr

/-! ## Rules -/

inductive RuleMatcher where
  | domain (value : Text)
  | domainSuffix (value : Text)
  | ipCidr (cidr : IpCidr)
  | destinationPort (range : PortRange)
  | matchAll
  deriving DecidableEq

/-- The text before a suffix. -/
def stripSuffix (suffix text : Text) : Option Text :=
  if suffix <:+ text then some (text.take (text.length - suffix.length))
  else none

namespace RuleMatcher

/-- The constructor of an exact domain rule. -/
def ofDomain (value : Text) : Except RoutingError RuleMatcher := do
  return .domain (← normalizeDomain value)

def ofDomainSuffix (value : Text) : Except RoutingError RuleMatcher := do
  return .domainSuffix (← normalizeDomain value)

def matchesContext (matcher : RuleMatcher) (context : RouteContext)
    (domain : Option Text) : Bool :=
  match matcher with
  | .domain expected => domain.any (· = expected)
  | .domainSuffix suffix =>
      domain.any fun actual =>
        actual = suffix ||
          (stripSuffix suffix actual).any fun front =>
            front.getLast? = some '.'
  | .ipCidr cidr => cidr.contains context.destination
  | .destinationPort range => range.contains context.destinationPort
  | .matchAll => true

end RuleMatcher

structure RoutingRule where
  matcher : RuleMatcher
  action : RoutingAction
  deriving DecidableEq

def parseAction (value : Text) : Except RoutingError RoutingAction :=
  if value = "DIRECT".toList then .ok .direct
  else if value = "PROXY".toList then .ok .proxy
  else if value = "REJECT".toList then .ok .reject
  else if "NODE:".toList <+: value ∧ value.drop 5 ≠ [] then
    .ok (.node (value.drop 5))
  else .error ⟨"unknown routing action"⟩

/-- The matcher of a rule with a value. -/
def parseMatcher (kind value : Text) : Except RoutingError RuleMatcher :=
  if kind = "DOMAIN".toList then RuleMatcher.ofDomain value
  else if kind = "DOMAIN-SUFFIX".toList then RuleMatcher.ofDomainSuffix value
  else if kind = "IP-CIDR".toList then do
    return .ipCidr (← IpCidr.fromStr value)
  else if kind = "DST-PORT".toList then do
    return .destinationPort (← PortRange.fromStr value)
  else .error ⟨"invalid routing rule"⟩

/-- The fields of a rule, its kind first. -/
def ruleFields (source : Text) : List Text :=
  (source.splitOn ',').map Text.trim

def ruleOfFields : List Text → Except RoutingError RoutingRule
  | [kind, value, action] => do
      let matcher ← parseMatcher kind value
      let action ← parseAction action
      return ⟨matcher, action⟩
  | [kind, action] =>
      if kind = "MATCH".toList then do
        let action ← parseAction action
        return ⟨.matchAll, action⟩
      else .error ⟨"invalid routing rule"⟩
  | _ => .error ⟨"invalid routing rule"⟩

def RoutingRule.fromStr (source : Text) : Except RoutingError RoutingRule :=
  if (ruleFields source).any (· = []) then
    .error ⟨"routing rule fields must not be empty"⟩
  else ruleOfFields (ruleFields source)

theorem ruleOfFields_eq_ok_iff {fields : List Text} {rule : RoutingRule} :
    ruleOfFields fields = .ok rule ↔
      (∃ kind value action, fields = [kind, value, action] ∧
        parseMatcher kind value = .ok rule.matcher ∧
        parseAction action = .ok rule.action) ∨
      (∃ action, fields = ["MATCH".toList, action] ∧
        rule.matcher = .matchAll ∧ parseAction action = .ok rule.action) := by
  constructor
  · intro accepted
    rw [ruleOfFields.eq_def] at accepted
    split at accepted
    next kind value action =>
        obtain ⟨matcher, matched, accepted⟩ := bind_eq_ok accepted
        obtain ⟨selected, acted, accepted⟩ := bind_eq_ok accepted
        cases accepted
        exact .inl ⟨kind, value, action, rfl, matched, acted⟩
    next kind action =>
        split at accepted
        next isMatch =>
            obtain ⟨selected, acted, accepted⟩ := bind_eq_ok accepted
            cases accepted
            exact .inr ⟨action, by rw [isMatch], rfl, acted⟩
        next => cases accepted
    next => cases accepted
  · obtain ⟨matcher, selected⟩ := rule
    rintro (⟨kind, value, action, rfl, matched, acted⟩ |
      ⟨action, rfl, rfl, acted⟩)
    · refine (bind_of_eq_ok matched).trans ?_
      exact bind_of_eq_ok acted
    · rw [ruleOfFields, if_pos rfl]
      exact bind_of_eq_ok acted

theorem RoutingRule.fromStr_eq_ok_iff {source : Text} {rule : RoutingRule} :
    RoutingRule.fromStr source = .ok rule ↔
      [] ∉ ruleFields source ∧ ruleOfFields (ruleFields source) = .ok rule := by
  have blank : (ruleFields source).any (· = []) = true ↔
      [] ∈ ruleFields source := by simp
  rw [RoutingRule.fromStr]
  split
  next empty => simp [blank.mp empty]
  next filled => simp [mt blank.mpr filled]

/-! ## Policies -/

/-- Every rule that matches everything is the last one. -/
def MatchIsLast (rules : List RoutingRule) : Prop :=
  ∀ rule ∈ rules.dropLast, rule.matcher ≠ .matchAll

instance (rules : List RoutingRule) : Decidable (MatchIsLast rules) :=
  inferInstanceAs (Decidable (∀ rule ∈ rules.dropLast, _))

/-- A policy of which the first matching rule wins. -/
structure RoutingPolicy where
  rules : List RoutingRule
  matchLast : MatchIsLast rules
  deriving DecidableEq

namespace RoutingPolicy

def new (rules : List RoutingRule) : Except RoutingError RoutingPolicy :=
  if last : MatchIsLast rules then .ok ⟨rules, last⟩
  else .error ⟨"MATCH must be the final routing rule"⟩

def knownDomain (context : RouteContext) : Option Text :=
  context.domain.bind fun value => (normalizeDomain value).toOption

def decide (policy : RoutingPolicy) (context : RouteContext) :
    RoutingAction :=
  ((policy.rules.find? fun rule =>
    rule.matcher.matchesContext context (knownDomain context)).map
      RoutingRule.action).getD .proxy

def stripCarriageReturn (line : Text) : Text :=
  if line.getLast? = some '\r' then line.dropLast else line

/-- Lines end in a line feed, with or without a carriage return before it; the
last line need not end at all, and an empty one is not a line. -/
def lines (source : Text) : List Text :=
  let parts := source.splitOn '\n'
  parts.dropLast.map stripCarriageReturn ++
    parts.getLast?.toList.filter (· ≠ [])

/-- The lines that are not blank, trimmed, with their numbers. -/
def numberedLines (source : Text) : List (Text × Nat) :=
  ((lines source).zipIdx 1).filterMap fun (line, number) =>
    if Text.trim line = [] then none else some (Text.trim line, number)

def parseLine (line : Text × Nat) : Except RoutingError RoutingRule :=
  match RoutingRule.fromStr line.1 with
  | .ok rule => .ok rule
  | .error failure =>
      .error ⟨"invalid rule on line " ++ line.2.repr ++ ": " ++
        failure.message⟩

def fromStr (source : Text) : Except RoutingError RoutingPolicy := do
  let rules ← (numberedLines source).mapM parseLine
  new rules

theorem new_eq_ok_iff {rules : List RoutingRule} {policy : RoutingPolicy} :
    new rules = .ok policy ↔ policy.rules = rules := by
  rw [new]
  split
  next last =>
      constructor
      · intro made
        cases made
        rfl
      · intro same
        obtain ⟨kept, proof⟩ := policy
        cases same
        rfl
  next last =>
      constructor
      · intro made
        cases made
      · rintro rfl
        exact absurd policy.matchLast last

theorem parseLine_eq_ok_iff {line : Text × Nat} {rule : RoutingRule} :
    parseLine line = .ok rule ↔ RoutingRule.fromStr line.1 = .ok rule := by
  rw [parseLine]
  split
  next found same => rw [same]
  next failure same => simp [same]

theorem fromStr_eq_ok_iff {source : Text} {policy : RoutingPolicy} :
    fromStr source = .ok policy ↔
      List.Forall₂ (fun line rule => RoutingRule.fromStr line.1 = .ok rule)
        (numberedLines source) policy.rules := by
  simp only [← parseLine_eq_ok_iff]
  rw [← mapM_eq_ok_iff, fromStr]
  constructor
  · intro parsed
    obtain ⟨rules, read, made⟩ := bind_eq_ok parsed
    rw [new_eq_ok_iff.mp made, read]
  · intro read
    exact (bind_of_eq_ok read).trans (new_eq_ok_iff.mpr rfl)

end RoutingPolicy

end Velum.Routing
