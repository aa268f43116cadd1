import Velum.Node.Enrollment
import Velum.Routing.Policy

/-!
# Client profiles

A profile names its nodes by ids and aliases, which share one namespace.  Its
validation replaces every reference by the id of the node, and its rules are
compiled into a routing policy.
-/

namespace Velum.Profile

open Foundation Protocol Routing
open Node (ProfileError invalid refuse validateIdentifier isBlank)

def profileVersion : UInt16 := 1
def maxNodes : Nat := 128
def maxRules : Nat := 10000

/-! ## Data -/

structure ProfileMetadata where
  id : String
  name : String
  defaultNode : String
  deriving DecidableEq

def isSegment (segment : Text) : Bool :=
  segment ≠ [] && segment ≠ ['.'] && segment ≠ ['.', '.'] &&
    segment.all fun character =>
      character.isAlphanum || character == '-' || character == '_' ||
        character == '.'

def isSecretRef (value : String) : Bool :=
  "secret://velum/".toList.isPrefixOf value.toList &&
    decide (value.utf8ByteSize ≤ 512) &&
    ((value.toList.drop 15).splitOn '/').all isSegment

/-- Opaque reference into platform secure storage. -/
structure SecretRef where
  text : String
  parsed : isSecretRef text = true
  deriving DecidableEq

inductive TrustConfig where
  | system
  | customCa (caRef : SecretRef)
  deriving DecidableEq

structure NodeConfig where
  id : String
  nodeAlias : Option String
  relayAddress : SocketAddr
  serverName : String
  credentialRef : SecretRef
  trust : TrustConfig
  deriving DecidableEq

inductive PreferredAdapter where
  | systemProxy
  | tun
  deriving DecidableEq

structure SystemProxyConfig where
  port : UInt16
  bypass : List String
  deriving DecidableEq

/-- Interface address and prefix; host bits are retained. -/
@[ext] structure InterfaceAddress where
  address : IpAddr
  prefixLength : UInt8
  fits : prefixLength.toNat ≤ addressWidth address

instance : DecidableEq InterfaceAddress := fun _ _ =>
  decidable_of_iff _ InterfaceAddress.ext_iff.symm

structure TunConfig where
  mtu : UInt16
  ipv4 : InterfaceAddress
  ipv6 : InterfaceAddress
  dns : List IpAddr
  deriving DecidableEq

structure TrafficConfig where
  preferredAdapter : PreferredAdapter
  systemProxy : SystemProxyConfig
  tun : TunConfig
  deriving DecidableEq

inductive RoutingMode where
  | rule
  deriving DecidableEq

inductive MatchConfig where
  | domain (value : String)
  | domainSuffix (value : String)
  | ipCidr (value : String)
  | dstPort (value : String)
  | matchAll
  deriving DecidableEq

inductive ActionConfig where
  | direct
  | reject
  | proxy
  | node (target : String)
  deriving DecidableEq

structure RuleConfig where
  matcher : MatchConfig
  action : ActionConfig
  deriving DecidableEq

structure RoutingConfig where
  mode : RoutingMode
  rules : List RuleConfig
  deriving DecidableEq

structure ClientProfile where
  version : UInt16
  profile : ProfileMetadata
  nodes : List NodeConfig
  traffic : TrafficConfig
  routing : RoutingConfig
  deriving DecidableEq

/-! ## Rules -/

def MatchConfig.compile : MatchConfig → Except RoutingError RuleMatcher
  | .domain value => RuleMatcher.ofDomain value.toList
  | .domainSuffix value => RuleMatcher.ofDomainSuffix value.toList
  | .ipCidr value => return .ipCidr (← IpCidr.fromStr value.toList)
  | .dstPort value => return .destinationPort (← PortRange.fromStr value.toList)
  | .matchAll => return .matchAll

def ActionConfig.compile : ActionConfig → RoutingAction
  | .direct => .direct
  | .reject => .reject
  | .proxy => .proxy
  | .node target => .node target.toList

/-- The error of a profile that reports an error of its rules. -/
def routingFailure (error : RoutingError) : ProfileError :=
  invalid error.message

def RuleConfig.compile (rule : RuleConfig) :
    Except ProfileError RoutingRule := do
  let matcher ← rule.matcher.compile.mapError routingFailure
  return ⟨matcher, rule.action.compile⟩

/-! ## References -/

/-- The ids that references stand for. -/
abbrev References := List (String × String)

def insertReference (references : References) (reference id : String) :
    Except ProfileError References :=
  if (references.lookup reference).isSome then
    .error (invalid "duplicate node id or alias")
  else .ok ((reference, id) :: references)

def resolveNode (references : References) (reference : String) :
    Except ProfileError String :=
  match references.lookup reference with
  | some id => .ok id
  | none => .error (invalid "node reference does not exist")

def validateServerName (value : String) : Except ProfileError Unit :=
  if (AddressText.parseIpAddr value.toList).isSome then .ok ()
  else
    match RuleMatcher.ofDomain value.toList with
    | .ok _ => .ok ()
    | .error _ => .error (invalid "server name is invalid")

def insertAlias (references : References) (node : NodeConfig) :
    Except ProfileError References :=
  match node.nodeAlias with
  | none => .ok references
  | some nodeAlias => do
      validateIdentifier nodeAlias "node alias"
      insertReference references nodeAlias node.id

/-- One round of the loop over the nodes, with the references and the ids that
were met before. -/
def checkNode (met : References × List String) (node : NodeConfig) :
    Except ProfileError (References × List String) := do
  validateIdentifier node.id "node id"
  refuse (node.id ∈ met.2) (invalid "duplicate node id")
  let references ← insertReference met.1 node.id node.id
  let references ← insertAlias references node
  validateServerName node.serverName
  return (references, node.id :: met.2)

def resolveAction (references : References) :
    ActionConfig → Except ProfileError ActionConfig
  | .node target => return .node (← resolveNode references target)
  | action => .ok action

def normalizeRule (references : References) (rule : RuleConfig) :
    Except ProfileError RuleConfig := do
  let _ ← rule.compile
  let action ← resolveAction references rule.action
  return { rule with action }

/-- The first rule that matches everything is not the last rule. -/
def matchIsMisplaced (rules : List RuleConfig) : Bool :=
  (rules.findIdx? (·.matcher = .matchAll)).any (· + 1 ≠ rules.length)

namespace ClientProfile

def validateAndNormalize (profile : ClientProfile) :
    Except ProfileError ClientProfile := do
  refuse (profile.version ≠ profileVersion)
    ⟨.unsupportedVersion, "unsupported profile version"⟩
  validateIdentifier profile.profile.id "profile id"
  refuse (isBlank profile.profile.name ∨
      profile.profile.name.utf8ByteSize > 128)
    (invalid "profile name is invalid")
  refuse (profile.nodes = [] ∨ profile.nodes.length > maxNodes)
    ⟨.limit, "profile must contain 1 to 128 nodes"⟩
  refuse (profile.routing.rules.length > maxRules)
    ⟨.limit, "profile exceeds 10000 routing rules"⟩
  let (references, _) ← profile.nodes.foldlM checkNode ([], [])
  let defaultNode ← resolveNode references profile.profile.defaultNode
  let rules ← profile.routing.rules.mapM (normalizeRule references)
  refuse (matchIsMisplaced rules)
    (invalid "MATCH must be the final routing rule")
  let tun := profile.traffic.tun
  refuse (¬(576 ≤ tun.mtu ∧ tun.mtu ≤ 9000))
    (invalid "TUN MTU is out of range")
  refuse (addressWidth tun.ipv4.address ≠ 32 ∨
      addressWidth tun.ipv6.address ≠ 128)
    (invalid "TUN ipv4 and ipv6 networks use the wrong address family")
  refuse (tun.dns = []) (invalid "TUN DNS list must not be empty")
  return { profile with
    profile := { profile.profile with defaultNode }
    routing := { profile.routing with rules } }

/-- The rules compiled into the shared policy. -/
def routingPolicy (profile : ClientProfile) :
    Except ProfileError RoutingPolicy := do
  let normalized ← profile.validateAndNormalize
  let rules ← normalized.routing.rules.mapM RuleConfig.compile
  (RoutingPolicy.new rules).mapError routingFailure

end ClientProfile

end Velum.Profile
