import Velum.Foundation.Checked
import Velum.Foundation.TextParser

/-!
# Routing rules of the application

The rules as the user interface edits, shows and serialises them.  The native
policy parses the serialised text on its own.

Texts are lists of code points; their length counts UTF-16 code units.  The
platform's lower case is a parameter of which only its effect on ASCII is
known.
-/

namespace Velum.Client

open Foundation

structure FormatException where
  message : String
  source : Option Text
  deriving DecidableEq

/-- `String.toLowerCase` of the platform. -/
structure ToLowerCase where
  apply : Text → Text
  ascii : ∀ text : Text, (∀ character ∈ text, character.toNat < 128) →
    apply text = Text.toAsciiLowercase text

/-- `String.trim` also drops the byte order mark. -/
def isDartWhitespace (character : Char) : Bool :=
  Text.isWhitespace character || character.toNat == 0xFEFF

def dartTrim (text : Text) : Text :=
  Text.trimMatches isDartWhitespace text

/-! ## Domains -/

/-- The characters of `[a-z0-9-]`. -/
def isDomainChar (character : Char) : Bool :=
  character.isLower || character.isDigit || character == '-'

def isInvalidLabel (label : Text) : Bool :=
  label = [] || decide (63 < Text.utf16Length label) ||
    label.head? = some '-' || label.getLast? = some '-' ||
    !(label ≠ [] && label.all isDomainChar)

/-- The text without one final dot. -/
def withoutFinalDot (text : Text) : Text :=
  if text.getLast? = some '.' then text.dropLast else text

def normalizeDomain (lower : ToLowerCase) (value source : Text) :
    Except FormatException Text :=
  let domain := withoutFinalDot (lower.apply value)
  if domain = [] ∨ 253 < Text.utf16Length domain ∨ ['.', '.'] <:+: domain ∨
      (domain.splitOn '.').any isInvalidLabel then
    .error ⟨"Invalid domain: " ++ String.ofList value, some source⟩
  else .ok domain

def requestDomain (lower : ToLowerCase) (value : Option Text) : Option Text :=
  value.bind fun value =>
    (normalizeDomain lower (dartTrim value) value).toOption

/-! ## IPv4 networks -/

/-- `^(0|[1-9][0-9]{0,more})$` -/
def isNumeral (more : Nat) (text : Text) : Bool :=
  text = ['0'] ||
    (text ≠ [] && text.all Char.isDigit && text.head? ≠ some '0' &&
      decide (text.length ≤ more + 1))

def parseOctet (value source octet : Text) : Except FormatException Nat :=
  if isNumeral 2 octet = false ∨ 255 < Text.numberOf 10 octet then
    .error ⟨"Invalid IPv4 address: " ++ String.ofList value, some source⟩
  else .ok (Text.numberOf 10 octet)

def parseIpv4 (value source : Text) : Except FormatException Nat := do
  let octets := value.splitOn '.'
  if octets.length = 4 then
    let numbers ← octets.mapM (parseOctet value source)
    return numbers.foldl (fun address number => address <<< 8 ||| number) 0
  else
    throw ⟨"Invalid IPv4 address: " ++ String.ofList value, some source⟩

def tryParseIpv4 (value : Option Text) : Option Nat :=
  value.bind fun value => (parseIpv4 (dartTrim value) value).toOption

def decimal (number : Nat) : Text :=
  Nat.toDigits 10 number

def serializeIpv4 (address : Nat) : Text :=
  ['.'].intercalate
    [decimal (address >>> 24 &&& 0xff), decimal (address >>> 16 &&& 0xff),
      decimal (address >>> 8 &&& 0xff), decimal (address &&& 0xff)]

structure Ipv4Network where
  address : Nat
  prefixLength : Nat
  mask : Nat
  deriving DecidableEq, Repr

namespace Ipv4Network

def maskOf (prefixLength : Nat) : Nat :=
  if prefixLength = 0 then 0
  else (0xffffffff <<< (32 - prefixLength)) &&& 0xffffffff

def parse (value source : Text) : Except FormatException Ipv4Network :=
  match value.splitOn '/' with
  | [network, prefixText] =>
      if isNumeral 1 prefixText = false ∨
          32 < Text.numberOf 10 prefixText then
        .error ⟨"Invalid IPv4 CIDR: " ++ String.ofList value, some source⟩
      else do
        let prefixLength := Text.numberOf 10 prefixText
        let address ← parseIpv4 network source
        if address &&& maskOf prefixLength = address then
          return ⟨address, prefixLength, maskOf prefixLength⟩
        else
          throw ⟨"IPv4 CIDR has host bits set: " ++ String.ofList value,
            some source⟩
  | _ => .error ⟨"Invalid IPv4 CIDR: " ++ String.ofList value, some source⟩

def contains (network : Ipv4Network) (candidate : Nat) : Bool :=
  candidate &&& network.mask = network.address

def serialize (network : Ipv4Network) : Text :=
  serializeIpv4 network.address ++ '/' :: decimal network.prefixLength

end Ipv4Network

/-! ## Rules -/

inductive RoutingRuleType where
  | domain
  | domainSuffix
  | ipCidr
  | matchAll
  deriving DecidableEq, Repr

inductive RoutingAction where
  | direct
  | proxy
  | reject
  deriving DecidableEq, Repr

structure RoutingRequest where
  domain : Option Text
  ipAddress : Option Text
  deriving DecidableEq

structure RoutingRule where
  type : RoutingRuleType
  value : Option Text
  action : RoutingAction
  network : Option Ipv4Network
  deriving DecidableEq

def parseType (field source : Text) :
    Except FormatException RoutingRuleType :=
  if field = "DOMAIN".toList then .ok .domain
  else if field = "DOMAIN-SUFFIX".toList then .ok .domainSuffix
  else if field = "IP-CIDR".toList then .ok .ipCidr
  else if field = "MATCH".toList then .ok .matchAll
  else .error ⟨"Unknown routing rule type: " ++ String.ofList field,
    some source⟩

def parseAction (field source : Text) : Except FormatException RoutingAction :=
  if field = "DIRECT".toList then .ok .direct
  else if field = "PROXY".toList then .ok .proxy
  else if field = "REJECT".toList then .ok .reject
  else .error ⟨"Unknown routing action: " ++ String.ofList field, some source⟩

def RoutingRuleType.name : RoutingRuleType → Text
  | .domain => "DOMAIN".toList
  | .domainSuffix => "DOMAIN-SUFFIX".toList
  | .ipCidr => "IP-CIDR".toList
  | .matchAll => "MATCH".toList

def RoutingAction.name : RoutingAction → Text
  | .direct => "DIRECT".toList
  | .proxy => "PROXY".toList
  | .reject => "REJECT".toList

def RoutingRuleType.expectedFields : RoutingRuleType → Nat
  | .matchAll => 2
  | _ => 3

namespace RoutingRule

/-- The rule of a type with a value. -/
def ofValue (lower : ToLowerCase) (type : RoutingRuleType)
    (action : RoutingAction) (value source : Text) :
    Except FormatException RoutingRule :=
  match type with
  | .domain | .domainSuffix => do
      let domain ← normalizeDomain lower value source
      return ⟨type, some domain, action, none⟩
  | .ipCidr => do
      let network ← Ipv4Network.parse value source
      return ⟨type, some network.serialize, action, some network⟩
  | .matchAll => .ok ⟨type, none, action, none⟩

def ofFields (lower : ToLowerCase) (fields : List Text) (source : Text) :
    Except FormatException RoutingRule := do
  let first := fields.headD []
  let type ← parseType first source
  if fields.length = type.expectedFields then
    let action ← parseAction (fields.getLastD []) source
    ofValue lower type action (fields.getD 1 []) source
  else
    throw ⟨String.ofList first ++ " requires " ++ type.expectedFields.repr ++
      " fields.", some source⟩

def parse (lower : ToLowerCase) (source : Text) :
    Except FormatException RoutingRule :=
  let fields := (source.splitOn ',').map dartTrim
  if fields.any (· = []) then
    .error ⟨"Routing rule fields cannot be empty.", some source⟩
  else ofFields lower fields source

def matchesRequest (lower : ToLowerCase) (rule : RoutingRule)
    (request : RoutingRequest) : Bool :=
  match rule.type with
  | .domain =>
      (requestDomain lower request.domain).any (some · = rule.value)
  | .domainSuffix =>
      (requestDomain lower request.domain).any fun domain =>
        some domain = rule.value || '.' :: rule.value.getD [] <:+ domain
  | .ipCidr =>
      (tryParseIpv4 request.ipAddress).any fun address =>
        rule.network.any (·.contains address)
  | .matchAll => true

def serialize (rule : RoutingRule) : Text :=
  match rule.value with
  | none => rule.type.name ++ ',' :: rule.action.name
  | some value => rule.type.name ++ ',' :: (value ++ ',' :: rule.action.name)

end RoutingRule

/-! ## Rule sets -/

/-- Rules of which only the last one may match everything. -/
structure RoutingRuleSet where
  rules : List RoutingRule
  matchLast : ∀ rule ∈ rules.dropLast, rule.type ≠ .matchAll
  deriving DecidableEq

namespace RoutingRuleSet

def new (rules : List RoutingRule) : Except FormatException RoutingRuleSet :=
  if last : ∀ rule ∈ rules.dropLast, rule.type ≠ .matchAll then
    .ok ⟨rules, last⟩
  else .error ⟨"MATCH must be the final routing rule.", none⟩

/-- The lines that are not blank, trimmed, with their numbers. -/
def numberedLines (source : Text) : List (Text × Nat) :=
  ((source.splitOn '\n').zipIdx 1).filterMap fun (line, number) =>
    if dartTrim line = [] then none else some (dartTrim line, number)

def parseLine (lower : ToLowerCase) (line : Text × Nat) :
    Except FormatException RoutingRule :=
  match RoutingRule.parse lower line.1 with
  | .ok rule => .ok rule
  | .error failure =>
      .error ⟨"Invalid routing rule on line " ++ line.2.repr ++ ": " ++
        failure.message, failure.source⟩

def parse (lower : ToLowerCase) (source : Text) :
    Except FormatException RoutingRuleSet := do
  let rules ← (numberedLines source).mapM (parseLine lower)
  new rules

/-- The action of the first rule that matches. -/
def selectAction (lower : ToLowerCase) (ruleSet : RoutingRuleSet)
    (request : RoutingRequest) : Option RoutingAction :=
  (ruleSet.rules.find? fun rule => rule.matchesRequest lower request).map
    RoutingRule.action

def serialize (ruleSet : RoutingRuleSet) : Text :=
  ['\n'].intercalate (ruleSet.rules.map RoutingRule.serialize)

end RoutingRuleSet

end Velum.Client
