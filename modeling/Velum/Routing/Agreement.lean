import Velum.Client.RoutingRoundTrip

/-!
# Two readings of one rule set

The native policy parses what the application serialises.  Each parsed rule
of the application has a native rule that is read from its text, and the two
match the same requests as long as both sides know the same domain.  They do
so except where a domain ends in several dots: the application drops one of
them and the native policy all.
-/

namespace Velum.Routing

open Foundation Protocol

/-! ## Addresses -/

theorem length_ipv4Octets (address : Nat) :
    (bigEndian 4 address).length = 4 :=
  length_bigEndian 4 address

def ipv4Octets (address : Nat) : List.Vector UInt8 4 :=
  ⟨bigEndian 4 address, length_ipv4Octets address⟩

theorem bigEndian_octetAt (address : Nat) :
    bigEndian 4 address = [3, 2, 1, 0].map fun index =>
      UInt8.ofNat (Client.octetAt address index) := by
  have same : ∀ index : Nat, UInt8.ofNat (address / 256 ^ index) =
      UInt8.ofNat (Client.octetAt address index) := by
    intro index
    apply UInt8.toNat_inj.mp
    rw [UInt8.toNat_ofNat', UInt8.toNat_ofNat', Client.octetAt]
    omega
  have three := same 3
  have two := same 2
  have one := same 1
  have zero := same 0
  simp only [bigEndian, List.nil_append, List.cons_append, List.map_cons,
    List.map_nil, ← three, ← two, ← one, ← zero, Nat.div_div_eq_div_mul]
  simp

theorem readOctet_first {number : Nat} (small : number < 256) {rest : Text}
    (ends : ∀ character, rest.head? = some character →
      Text.isDigit 10 character = false) :
    AddressText.readOctet 0 (Client.decimal number ++ rest) =
      some (UInt8.ofNat number, rest) := by
  have read := TextParser.readNumber_toDigits small
    (show number < 10 ^ 3 by omega) (by decide) ends
  exact TextParser.bind_eq_of_some
    ((TextParser.readSeparator_first '.' _ _).trans read)

theorem readOctet_later {number : Nat} (small : number < 256) {rest : Text}
    (ends : ∀ character, rest.head? = some character →
      Text.isDigit 10 character = false) {index : Nat} (later : 0 < index) :
    AddressText.readOctet index ('.' :: (Client.decimal number ++ rest)) =
      some (UInt8.ofNat number, rest) := by
  have read := TextParser.readNumber_toDigits small
    (show number < 10 ^ 3 by omega) (by decide) ends
  exact TextParser.bind_eq_of_some
    ((TextParser.readSeparator_later '.' later _ _).trans read)

/-- A dotted address is read to its end. -/
theorem readIpv4Addr_serializeIpv4 (address : Nat) :
    AddressText.readIpv4Addr (Client.serializeIpv4 address) =
      some (ipv4Octets address, []) := by
  have small := Client.octetAt_lt address
  have dot : ∀ rest : Text, ∀ character, ('.' :: rest).head? = some character →
      Text.isDigit 10 character = false := by
    intro rest character first
    cases first
    decide
  have spelled : Client.serializeIpv4 address =
      Client.decimal (Client.octetAt address 3) ++
        ('.' :: (Client.decimal (Client.octetAt address 2) ++
          ('.' :: (Client.decimal (Client.octetAt address 1) ++
            ('.' :: (Client.decimal (Client.octetAt address 0) ++ [])))))) := by
    rw [Client.serializeIpv4_eq]
    simp [List.intercalate_cons_cons]
  rw [spelled, AddressText.readIpv4Addr,
    TextParser.bind_eq_of_some (readOctet_first (small 3) (dot _)),
    TextParser.bind_eq_of_some (readOctet_later (small 2) (dot _) (by decide)),
    TextParser.bind_eq_of_some (readOctet_later (small 1) (dot _) (by decide)),
    TextParser.bind_eq_of_some
      (readOctet_later (small 0) (by simp) (by decide))]
  have octets : ipv4Octets address = ⟨[3, 2, 1, 0].map fun index =>
      UInt8.ofNat (Client.octetAt address index), rfl⟩ :=
    Subtype.ext (bigEndian_octetAt address)
  rw [octets]
  rfl

theorem parseIpAddr_serializeIpv4 (address : Nat) :
    AddressText.parseIpAddr (Client.serializeIpv4 address) =
      some (.v4 (ipv4Octets address)) := by
  have read : AddressText.readIpAddr (Client.serializeIpv4 address) =
      some (.v4 (ipv4Octets address), []) :=
    TextParser.orElse_eq_of_some
      (TextParser.map_eq_of_some (readIpv4Addr_serializeIpv4 address))
  simp only [AddressText.parseIpAddr, TextParser.parseWith, read]

/-! ## Networks -/

theorem prefixMask_eq_maskOf {prefixLength : Nat} (short : prefixLength ≤ 32) :
    prefixMask 32 prefixLength = Client.Ipv4Network.maskOf prefixLength := by
  have ones : (0xffffffff : Nat) = 2 ^ 32 - 1 := rfl
  simp only [prefixMask, Client.Ipv4Network.maskOf, Nat.min_eq_left short]
  by_cases zero : prefixLength = 0
  · simp [zero]
  · rw [if_pos (by omega), if_neg zero, ones, Nat.and_two_pow_sub_one_eq_mod]

theorem ofBigEndian_ipv4Octets {address : Nat} (fits : address < 2 ^ 32) :
    ofBigEndian (ipv4Octets address).toList = address :=
  ofBigEndian_bigEndian 4 address fits

theorem ofBigEndian_octets_lt (octets : List.Vector UInt8 4) :
    ofBigEndian octets.toList < 2 ^ 32 := by
  have bound := ofBigEndian_lt octets.toList
  rw [octets.toList_length] at bound
  exact bound

theorem ipv4Octets_inj {first second : Nat} (one : first < 2 ^ 32)
    (two : second < 2 ^ 32) :
    ipv4Octets first = ipv4Octets second ↔ first = second := by
  constructor
  · intro same
    rw [← ofBigEndian_ipv4Octets one, same, ofBigEndian_ipv4Octets two]
  · intro same
    rw [same]

theorem maskAddress_v4 (prefixLength : Nat) (octets : List.Vector UInt8 4) :
    maskAddress prefixLength (.v4 octets) = .v4 (ipv4Octets
      (ofBigEndian octets.toList &&& prefixMask 32 prefixLength)) :=
  rfl

/-- A network and the native network that is read from its text. -/
structure SameNetwork (network : Client.Ipv4Network) (cidr : IpCidr) :
    Prop where
  address : cidr.network = .v4 (ipv4Octets network.address)
  prefixLength : cidr.prefixLength.toNat = network.prefixLength

theorem exists_sameNetwork {network : Client.Ipv4Network}
    (valid : network.Valid) :
    ∃ cidr, IpCidr.fromStr network.serialize = .ok cidr ∧
      SameNetwork network cidr := by
  have short := valid.prefixLength
  have byte : (UInt8.ofNat network.prefixLength).toNat =
      network.prefixLength := by
    rw [UInt8.toNat_ofNat']
    omega
  have masked : maskAddress (UInt8.ofNat network.prefixLength).toNat
      (.v4 (ipv4Octets network.address)) =
        .v4 (ipv4Octets network.address) := by
    rw [byte, maskAddress_v4, ofBigEndian_ipv4Octets valid.address,
      prefixMask_eq_maskOf short, ← valid.mask, valid.masked]
  have fits : (UInt8.ofNat network.prefixLength).toNat ≤
      addressWidth (.v4 (ipv4Octets network.address)) := by
    rw [byte]
    exact short
  refine ⟨⟨.v4 (ipv4Octets network.address),
    UInt8.ofNat network.prefixLength, fits, masked⟩, ?_, rfl, byte⟩
  have trimmed : Text.trim network.serialize = network.serialize :=
    Client.trimMatches_of_visible (fun _ => Text.isWhitespace_of_codes)
      (Client.fieldText_network network).visible
  have parts : Text.splitOnce '/' network.serialize =
      some (Client.serializeIpv4 network.address,
        Client.decimal network.prefixLength) :=
    Text.splitOnce_of_not_mem
      (Client.slash_not_mem_serializeIpv4 network.address) _
  have number : Text.parseUnsigned 256 (Client.decimal network.prefixLength) =
      some network.prefixLength := Text.parseUnsigned_toDigits (by omega)
  simp only [IpCidr.fromStr, trimmed, parts, parseIpAddr_serializeIpv4, number,
    IpCidr.new, dif_pos fits, dif_pos masked]

theorem SameNetwork.contains_eq {network : Client.Ipv4Network}
    {cidr : IpCidr} (same : SameNetwork network cidr)
    (valid : network.Valid) (octets : List.Vector UInt8 4) :
    cidr.contains (.v4 octets) =
      network.contains (ofBigEndian octets.toList) := by
  have bound : ofBigEndian octets.toList &&& network.mask < 2 ^ 32 :=
    Nat.lt_of_le_of_lt Nat.and_le_left (ofBigEndian_octets_lt octets)
  rw [IpCidr.contains, Client.Ipv4Network.contains, same.address,
    same.prefixLength, maskAddress_v4, prefixMask_eq_maskOf valid.prefixLength,
    ← valid.mask]
  simp [addressWidth, ipv4Octets_inj bound valid.address]

/-! ## Rules -/

/-- The native name of an action. -/
def toNative : Client.RoutingAction → RoutingAction
  | .direct => .direct
  | .proxy => .proxy
  | .reject => .reject

/-- A rule and the native rule that is read from its text. -/
inductive SameRule : Client.RoutingRule → RoutingRule → Prop where
  | domain {name : Text} (normal : NormalName name)
      (action : Client.RoutingAction) :
      SameRule ⟨.domain, some name, action, none⟩
        ⟨.domain name, toNative action⟩
  | domainSuffix {name : Text} (normal : NormalName name)
      (action : Client.RoutingAction) :
      SameRule ⟨.domainSuffix, some name, action, none⟩
        ⟨.domainSuffix name, toNative action⟩
  | ipCidr {network : Client.Ipv4Network} {cidr : IpCidr}
      (valid : network.Valid) (same : SameNetwork network cidr)
      (action : Client.RoutingAction) :
      SameRule ⟨.ipCidr, some network.serialize, action, some network⟩
        ⟨.ipCidr cidr, toNative action⟩
  | matchAll (action : Client.RoutingAction) :
      SameRule ⟨.matchAll, none, action, none⟩ ⟨.matchAll, toNative action⟩

theorem SameRule.action_eq {rule : Client.RoutingRule} {native : RoutingRule}
    (same : SameRule rule native) : native.action = toNative rule.action := by
  cases same <;> rfl

theorem SameRule.matchAll_iff {rule : Client.RoutingRule}
    {native : RoutingRule} (same : SameRule rule native) :
    rule.type = .matchAll ↔ native.matcher = .matchAll := by
  cases same <;> simp

theorem trim_fieldText {text : Text} (field : Client.FieldText text) :
    Text.trim text = text :=
  Client.trimMatches_of_visible (fun _ => Text.isWhitespace_of_codes)
    field.visible

theorem parseAction_toNative (action : Client.RoutingAction) :
    parseAction action.name = .ok (toNative action) := by
  cases action <;> rfl

/-- The text of a rule with a value has the three fields it was made of. -/
theorem ruleFields_valued (type : Client.RoutingRuleType)
    (action : Client.RoutingAction) {value : Text}
    (field : Client.FieldText value) :
    ruleFields (type.name ++ ',' :: (value ++ ',' :: action.name)) =
      [type.name, value, action.name] := by
  have one := Client.fieldText_typeName type
  have three := Client.fieldText_actionName action
  rw [ruleFields, Client.splitOn_fields one field three]
  simp only [List.map_cons, List.map_nil, trim_fieldText one,
    trim_fieldText field, trim_fieldText three]

theorem fromStr_valued {type : Client.RoutingRuleType}
    (action : Client.RoutingAction) {value : Text}
    (field : Client.FieldText value) {matcher : RuleMatcher}
    (matched : parseMatcher type.name value = .ok matcher) :
    RoutingRule.fromStr
        (type.name ++ ',' :: (value ++ ',' :: action.name)) =
      .ok ⟨matcher, toNative action⟩ := by
  have one := (Client.fieldText_typeName type).nonempty
  have three := (Client.fieldText_actionName action).nonempty
  rw [RoutingRule.fromStr_eq_ok_iff, ruleFields_valued type action field]
  refine ⟨by simp [one.symm, field.nonempty.symm, three.symm], ?_⟩
  exact ruleOfFields_eq_ok_iff.mpr (.inl ⟨_, _, _, rfl, matched,
    parseAction_toNative action⟩)

theorem fromStr_matchAll (action : Client.RoutingAction) :
    RoutingRule.fromStr
        (Client.RoutingRuleType.matchAll.name ++ ',' :: action.name) =
      .ok ⟨.matchAll, toNative action⟩ := by
  cases action <;> rfl

/-- The native parser reads every rule that the application serialises. -/
theorem exists_sameRule {rule : Client.RoutingRule} (parsed : rule.Parsed) :
    ∃ native, RoutingRule.fromStr rule.serialize = .ok native ∧
      SameRule rule native := by
  cases parsed with
  | domain normal action =>
      have matched : parseMatcher Client.RoutingRuleType.domain.name _ =
          .ok (.domain _) := bind_of_eq_ok normal.normalizeDomain
      exact ⟨_, fromStr_valued action (Client.fieldText_of_normalName normal)
        matched, .domain normal action⟩
  | domainSuffix normal action =>
      have matched : parseMatcher Client.RoutingRuleType.domainSuffix.name _ =
          .ok (.domainSuffix _) := bind_of_eq_ok normal.normalizeDomain
      exact ⟨_, fromStr_valued action (Client.fieldText_of_normalName normal)
        matched, .domainSuffix normal action⟩
  | ipCidr valid action =>
      obtain ⟨cidr, read, same⟩ := exists_sameNetwork valid
      have matched : parseMatcher Client.RoutingRuleType.ipCidr.name _ =
          .ok (.ipCidr cidr) := bind_of_eq_ok read
      exact ⟨_, fromStr_valued action (Client.fieldText_network _) matched,
        .ipCidr valid same action⟩
  | matchAll action =>
      exact ⟨_, fromStr_matchAll action, .matchAll action⟩

/-! ## Rule sets -/

/-- Lines of visible text are the lines between line feeds. -/
theorem lines_of_join {lines : List Text}
    (good : ∀ line ∈ lines, Client.LineText line) :
    RoutingPolicy.lines (['\n'].intercalate lines) = lines := by
  by_cases none : lines = []
  · subst none
    rfl
  · have parts : (['\n'].intercalate lines).splitOn '\n' = lines :=
      List.splitOn_intercalate '\n'
        (fun line member => (good line member).plain) none
    have kept : ∀ line ∈ lines.dropLast,
        RoutingPolicy.stripCarriageReturn line = line := by
      intro line member
      rw [RoutingPolicy.stripCarriageReturn, if_neg]
      intro last
      have codes := (good line (List.mem_of_mem_dropLast member)).visible _
        (List.mem_of_getLast? last)
      revert codes
      decide
    have filled : lines.getLast none ≠ [] :=
      (good _ (List.getLast_mem none)).nonempty
    simp only [RoutingPolicy.lines, parts, Text.map_eq_self_iff.mpr kept,
      List.getLast?_eq_some_getLast none, Option.toList_some]
    rw [List.filter_cons_of_pos (by simpa using filled), List.filter_nil,
      List.dropLast_append_getLast]

theorem numberedLines_serialize {ruleSet : Client.RoutingRuleSet}
    (parsed : ∀ rule ∈ ruleSet.rules, rule.Parsed) :
    (RoutingPolicy.numberedLines ruleSet.serialize).map Prod.fst =
      ruleSet.rules.map Client.RoutingRule.serialize := by
  have good : ∀ line ∈ ruleSet.rules.map Client.RoutingRule.serialize,
      Client.LineText line := by
    intro line member
    obtain ⟨rule, inRules, rfl⟩ := List.mem_map.mp member
    exact (parsed rule inRules).line
  have trimmed : ∀ line ∈ ruleSet.rules.map Client.RoutingRule.serialize,
      Text.trim line = line := by
    intro line member
    exact Client.trimMatches_of_visible (fun _ => Text.isWhitespace_of_codes)
      (good line member).visible
  have numbered := Text.map_fst_numbered Text.trim
    (RoutingPolicy.lines ruleSet.serialize) 1
  rw [RoutingPolicy.numberedLines, numbered, Client.RoutingRuleSet.serialize,
    lines_of_join good, Text.map_eq_self_iff.mpr trimmed, List.filter_eq_self]
  intro line member
  simpa using (good line member).nonempty

theorem fromStr_serialize_iff {ruleSet : Client.RoutingRuleSet}
    (parsed : ∀ rule ∈ ruleSet.rules, rule.Parsed) {policy : RoutingPolicy} :
    RoutingPolicy.fromStr ruleSet.serialize = .ok policy ↔
      List.Forall₂ (fun rule native =>
        RoutingRule.fromStr rule.serialize = .ok native)
          ruleSet.rules policy.rules := by
  have lines := numberedLines_serialize parsed
  rw [RoutingPolicy.fromStr_eq_ok_iff, ← List.forall₂_map_left_iff
    (R := fun (text : Text) native => RoutingRule.fromStr text = .ok native)
    (f := Prod.fst), lines, List.forall₂_map_left_iff]

theorem matchIsLast_of_sameRules {rules : List Client.RoutingRule}
    {natives : List RoutingRule} (same : List.Forall₂ SameRule rules natives)
    (last : ∀ rule ∈ rules.dropLast, rule.type ≠ .matchAll) :
    MatchIsLast natives := by
  induction same with
  | nil => simp [MatchIsLast]
  | @cons rule native rules natives first rest induction =>
      cases rest with
      | nil => simp [MatchIsLast]
      | cons second others =>
          simp only [List.dropLast_cons_cons, List.forall_mem_cons] at last
          rw [MatchIsLast, List.dropLast_cons_cons, List.forall_mem_cons]
          exact ⟨mt first.matchAll_iff.mpr last.1, induction last.2⟩

theorem exists_sameRules {rules : List Client.RoutingRule}
    (parsed : ∀ rule ∈ rules, rule.Parsed) :
    ∃ natives, List.Forall₂ (fun rule native =>
        RoutingRule.fromStr rule.serialize = .ok native) rules natives ∧
      List.Forall₂ SameRule rules natives := by
  induction rules with
  | nil => exact ⟨[], .nil, .nil⟩
  | cons rule rules induction =>
      rw [List.forall_mem_cons] at parsed
      obtain ⟨native, read, same⟩ := exists_sameRule parsed.1
      obtain ⟨natives, reads, sames⟩ := induction parsed.2
      exact ⟨native :: natives, .cons read reads, .cons same sames⟩

/-- The native policy of a parsed rule set has its rules in their order. -/
theorem exists_sameRules_policy {ruleSet : Client.RoutingRuleSet}
    (parsed : ∀ rule ∈ ruleSet.rules, rule.Parsed) :
    ∃ policy, RoutingPolicy.fromStr ruleSet.serialize = .ok policy ∧
      List.Forall₂ SameRule ruleSet.rules policy.rules := by
  obtain ⟨natives, reads, sames⟩ := exists_sameRules parsed
  have last := matchIsLast_of_sameRules sames ruleSet.matchLast
  exact ⟨⟨natives, last⟩, (fromStr_serialize_iff parsed).mpr reads, sames⟩

/-! ## Requests -/

theorem tryParseIpv4_octets (octets : List.Vector UInt8 4) :
    Client.tryParseIpv4
        (some (Client.serializeIpv4 (ofBigEndian octets.toList))) =
      some (ofBigEndian octets.toList) := by
  have trimmed : Client.dartTrim
      (Client.serializeIpv4 (ofBigEndian octets.toList)) =
        Client.serializeIpv4 (ofBigEndian octets.toList) := by
    apply Client.dartTrim_of_visible
    intro character member
    rcases Client.char_of_mem_serializeIpv4 member with digit | rfl
    · have codes := (Text.isDigit_iff _).mp digit
      omega
    · decide
  simp only [Client.tryParseIpv4, Option.bind_some, trimmed,
    Client.parseIpv4_serializeIpv4 (ofBigEndian_octets_lt octets)]
  rfl

/-- A rule and its native reading match the same requests when both sides
know the same domain. -/
theorem SameRule.matches_eq {rule : Client.RoutingRule} {native : RoutingRule}
    (same : SameRule rule native) (lower : Client.ToLowerCase)
    {domain : Option Text} {octets : List.Vector UInt8 4} {port : UInt16}
    (known : Client.requestDomain lower domain =
      RoutingPolicy.knownDomain ⟨domain, .v4 octets, port⟩) :
    rule.matchesRequest lower ⟨domain,
        some (Client.serializeIpv4 (ofBigEndian octets.toList))⟩ =
      native.matcher.matchesContext ⟨domain, .v4 octets, port⟩
        (RoutingPolicy.knownDomain ⟨domain, .v4 octets, port⟩) := by
  cases same with
  | domain normal action =>
      simp [Client.RoutingRule.matchesRequest, RuleMatcher.matchesContext,
        known]
  | @domainSuffix name normal action =>
      have dotted : ∀ actual : Text, '.' :: name <:+ actual ↔
          ∃ front, actual = front ++ '.' :: name := by
        intro actual
        simp only [List.suffix_iff_exists_append_eq, eq_comm]
      simp only [Client.RoutingRule.matchesRequest, RuleMatcher.matchesContext,
        known, Option.getD_some]
      congr 1
      funext actual
      rw [Bool.eq_iff_iff, Bool.or_eq_true, Bool.or_eq_true,
        stripSuffix_any_dot_iff, decide_eq_true_eq, decide_eq_true_eq,
        decide_eq_true_eq, dotted, Option.some_inj]
  | ipCidr valid same action =>
      simp only [Client.RoutingRule.matchesRequest, RuleMatcher.matchesContext,
        tryParseIpv4_octets, Option.any_some, same.contains_eq valid]
  | matchAll action => rfl

theorem decide_eq_of_known {rules : List Client.RoutingRule}
    {policy : RoutingPolicy} (same : List.Forall₂ SameRule rules policy.rules)
    (lower : Client.ToLowerCase) {domain : Option Text}
    {octets : List.Vector UInt8 4} {port : UInt16}
    (known : Client.requestDomain lower domain =
      RoutingPolicy.knownDomain ⟨domain, .v4 octets, port⟩) :
    (((rules.find? fun rule => rule.matchesRequest lower ⟨domain,
        some (Client.serializeIpv4 (ofBigEndian octets.toList))⟩).map
          Client.RoutingRule.action).map toNative).getD .proxy =
      policy.decide ⟨domain, .v4 octets, port⟩ := by
  rw [Option.map_map, RoutingPolicy.decide]
  congr 1
  apply map_find?_of_forall₂ same
  · intro rule native alike
    exact alike.matches_eq lower known
  · intro rule native alike
    exact alike.action_eq.symm

/-! ## Domains of requests -/

def IsAscii (text : Text) : Prop :=
  ∀ character ∈ text, character.toNat < 128

instance (text : Text) : Decidable (IsAscii text) :=
  List.decidableBAll (fun character : Char => character.toNat < 128) text

theorem IsAscii.dartTrim_eq {text : Text} (ascii : IsAscii text) :
    Client.dartTrim text = Text.trim text := by
  apply Text.trimMatches_congr
  intro character member
  have small := ascii character member
  have mark : character.toNat ≠ 0xFEFF := by omega
  simp [Client.isDartWhitespace, mark]

theorem withoutFinalDot_toAsciiLowercase (text : Text) :
    Client.withoutFinalDot (Text.toAsciiLowercase text) =
      Text.toAsciiLowercase (Client.withoutFinalDot text) := by
  have dotted : (Text.toAsciiLowercase text).getLast? = some '.' ↔
      text.getLast? = some '.' := by
    rw [Text.toAsciiLowercase, List.getLast?_map]
    cases text.getLast? with
    | none => simp
    | some character =>
        have same : character.toLower = '.' ↔ character = '.' :=
          Text.toLower_eq_iff (by decide)
        simp [same]
  rw [Client.withoutFinalDot, Client.withoutFinalDot]
  by_cases last : text.getLast? = some '.'
  · rw [if_pos last, if_pos (dotted.mpr last), Text.toAsciiLowercase,
      Text.toAsciiLowercase, List.map_dropLast]
  · rw [if_neg last, if_neg (mt dotted.mp last)]

/-- Dropping one final dot drops all of them unless there are two. -/
theorem trimDots_eq_withoutFinalDot {text : Text}
    (single : ¬['.', '.'] <:+ text) :
    trimDots text = Client.withoutFinalDot text := by
  rcases List.eq_nil_or_concat text with rfl | ⟨front, character, rfl⟩
  · rfl
  · rw [List.concat_eq_append] at single ⊢
    rw [trimDots, Client.withoutFinalDot, List.rdropWhile_concat]
    by_cases dot : character = '.'
    · subst dot
      rw [if_pos (by rfl), if_pos (by simp), List.dropLast_concat,
        List.rdropWhile_eq_self_iff]
      intro nonempty last
      apply single
      obtain ⟨earlier, spelled⟩ := List.getLast?_eq_some_iff.mp
        (List.getLast?_eq_some_getLast nonempty)
      rw [beq_iff_eq.mp last] at spelled
      exact ⟨earlier, by rw [spelled]; simp⟩
    · rw [if_neg (by simpa using dot), if_neg (by simpa using dot)]

theorem not_normalName_of_dots {text : Text} (dots : ['.', '.'] <:+ text) :
    ¬NormalName (Text.toAsciiLowercase (Client.withoutFinalDot text)) := by
  intro normal
  obtain ⟨front, rfl⟩ := dots
  have last : (Text.toAsciiLowercase (Client.withoutFinalDot
      (front ++ ['.', '.']))).getLast? = some '.' := by
    have cut : Client.withoutFinalDot (front ++ ['.', '.']) =
        front ++ ['.'] := by
      rw [Client.withoutFinalDot, if_pos (by simp),
        List.dropLast_append_of_ne_nil (by simp)]
      rfl
    rw [cut, Text.toAsciiLowercase, List.map_append]
    simp
  have label := isLabelChar_of_getLast? normal.labels last
  revert label
  decide

theorem toOption_eq_some_iff {Failure Value : Type}
    {result : Except Failure Value} {value : Value} :
    result.toOption = some value ↔ result = .ok value := by
  cases result <;> simp [Except.toOption]

theorem requestDomain_eq_some_iff {lower : Client.ToLowerCase} {value : Text}
    (ascii : IsAscii value) {name : Text} :
    Client.requestDomain lower (some value) = some name ↔
      NormalName name ∧ name = Text.toAsciiLowercase
        (Client.withoutFinalDot (Text.trim value)) := by
  have trimmed : IsAscii (Text.trim value) := by
    intro character member
    exact ascii character ((Text.trimMatches_sublist _ value).subset member)
  rw [Client.requestDomain, Option.bind_some, toOption_eq_some_iff,
    Client.normalizeDomain_eq_ok_iff, ascii.dartTrim_eq,
    lower.ascii _ trimmed, withoutFinalDot_toAsciiLowercase]

theorem knownDomain_eq_some_iff {value name : Text} {destination : IpAddr}
    {port : UInt16} :
    RoutingPolicy.knownDomain ⟨some value, destination, port⟩ = some name ↔
      NormalName name ∧
        name = Text.toAsciiLowercase (trimDots (Text.trim value)) := by
  rw [RoutingPolicy.knownDomain, Option.bind_some, toOption_eq_some_iff,
    normalizeDomain_eq_ok_iff]

/-- Without the whitespace around it the text ends in two dots, and without
all its final dots it is a name. -/
structure DoublyDotted (value : Text) : Prop where
  dots : ['.', '.'] <:+ Text.trim value
  name : NormalName (Text.toAsciiLowercase (trimDots (Text.trim value)))

theorem requestDomain_eq_knownDomain (lower : Client.ToLowerCase)
    {value : Text} (ascii : IsAscii value) (single : ¬DoublyDotted value)
    (destination : IpAddr) (port : UInt16) :
    Client.requestDomain lower (some value) =
      RoutingPolicy.knownDomain ⟨some value, destination, port⟩ := by
  apply Option.ext
  intro name
  rw [requestDomain_eq_some_iff ascii, knownDomain_eq_some_iff]
  by_cases dots : ['.', '.'] <:+ Text.trim value
  · constructor
    · rintro ⟨normal, rfl⟩
      exact absurd normal (not_normalName_of_dots dots)
    · rintro ⟨normal, rfl⟩
      exact absurd ⟨dots, normal⟩ single
  · rw [trimDots_eq_withoutFinalDot dots]

theorem DoublyDotted.requestDomain_eq_none {value : Text}
    (doubled : DoublyDotted value) (ascii : IsAscii value)
    (lower : Client.ToLowerCase) :
    Client.requestDomain lower (some value) = none := by
  apply Option.eq_none_iff_forall_ne_some.mpr
  intro name known
  obtain ⟨normal, rfl⟩ := (requestDomain_eq_some_iff ascii).mp known
  exact not_normalName_of_dots doubled.dots normal

/-! ## Agreement -/

/-- The two sides route a destination alike under every rule set. -/
def Agree (lower : Client.ToLowerCase) (domain : Option Text)
    (octets : List.Vector UInt8 4) (port : UInt16) : Prop :=
  ∀ (source : Text) (ruleSet : Client.RoutingRuleSet) (policy : RoutingPolicy),
    Client.RoutingRuleSet.parse lower source = .ok ruleSet →
    RoutingPolicy.fromStr ruleSet.serialize = .ok policy →
    ((ruleSet.selectAction lower ⟨domain,
        some (Client.serializeIpv4 (ofBigEndian octets.toList))⟩).map
          toNative).getD .proxy =
      policy.decide ⟨domain, .v4 octets, port⟩

theorem sameRules_of_fromStr {ruleSet : Client.RoutingRuleSet}
    (parsed : ∀ rule ∈ ruleSet.rules, rule.Parsed) {policy : RoutingPolicy}
    (read : RoutingPolicy.fromStr ruleSet.serialize = .ok policy) :
    List.Forall₂ SameRule ruleSet.rules policy.rules := by
  obtain ⟨found, again, sames⟩ := exists_sameRules_policy parsed
  rw [read] at again
  obtain rfl := Except.ok.inj again
  exact sames

theorem agree_of_known {lower : Client.ToLowerCase} {domain : Option Text}
    {octets : List.Vector UInt8 4} {port : UInt16}
    (known : Client.requestDomain lower domain =
      RoutingPolicy.knownDomain ⟨domain, .v4 octets, port⟩) :
    Agree lower domain octets port := by
  intro source ruleSet policy parsed read
  have sames := sameRules_of_fromStr
    (Client.RoutingRuleSet.parsed_of_parse parsed) read
  exact decide_eq_of_known sames lower known

/-- The rule set that rejects one name. -/
def rejectingRuleSet (name : Text) : Client.RoutingRuleSet :=
  ⟨[⟨.domain, some name, .reject, none⟩], by intro rule member; cases member⟩

theorem DoublyDotted.not_agree {value : Text} (doubled : DoublyDotted value)
    (ascii : IsAscii value) (lower : Client.ToLowerCase)
    (octets : List.Vector UInt8 4) (port : UInt16) :
    ¬Agree lower (some value) octets port := by
  intro agree
  have parsed : ∀ rule ∈ (rejectingRuleSet (Text.toAsciiLowercase
      (trimDots (Text.trim value)))).rules, rule.Parsed := by
    intro rule member
    obtain rfl := List.mem_singleton.mp member
    exact .domain doubled.name .reject
  obtain ⟨policy, read, sames⟩ := exists_sameRules_policy parsed
  have same := agree _ _ policy
    (Client.RoutingRuleSet.parse_serialize parsed lower) read
  have unknown := doubled.requestDomain_eq_none ascii lower
  have known : RoutingPolicy.knownDomain ⟨some value, .v4 octets, port⟩ =
      some (Text.toAsciiLowercase (trimDots (Text.trim value))) :=
    knownDomain_eq_some_iff.mpr ⟨doubled.name, rfl⟩
  obtain ⟨rules, last⟩ := policy
  cases sames with
  | cons first rest =>
      cases rest
      cases first
      simp [Client.RoutingRuleSet.selectAction, rejectingRuleSet,
        Client.RoutingRule.matchesRequest, unknown, RoutingPolicy.decide,
        known, RuleMatcher.matchesContext, toNative] at same

/-- Serialised rule sets are read by both sides, and both sides route alike
exactly when the domain does not end in several dots. -/
theorem routing_agrees_iff (lower : Client.ToLowerCase) :
    (∀ (source : Text) (ruleSet : Client.RoutingRuleSet),
      Client.RoutingRuleSet.parse lower source = .ok ruleSet →
        (∃ policy, RoutingPolicy.fromStr ruleSet.serialize = .ok policy) ∧
        ∃ again, Client.RoutingRuleSet.parse lower ruleSet.serialize =
          .ok again ∧ again.serialize = ruleSet.serialize) ∧
    ∀ (domain : Option Text) (octets : List.Vector UInt8 4) (port : UInt16),
      (∀ value ∈ domain, IsAscii value) →
        (Agree lower domain octets port ↔
          ∀ value ∈ domain, ¬DoublyDotted value) := by
  constructor
  · intro source ruleSet parsed
    have rules := Client.RoutingRuleSet.parsed_of_parse parsed
    obtain ⟨policy, read, _⟩ := exists_sameRules_policy rules
    exact ⟨⟨policy, read⟩, ruleSet,
      Client.RoutingRuleSet.parse_serialize rules lower, rfl⟩
  · intro domain octets port ascii
    constructor
    · intro agree value member doubled
      obtain rfl := Option.mem_def.mp member
      exact doubled.not_agree (ascii value rfl) lower octets port agree
    · intro single
      apply agree_of_known
      cases domain with
      | none => rfl
      | some value =>
          exact requestDomain_eq_knownDomain lower (ascii value rfl)
            (single value rfl) _ port

def asciiLowerCase : Client.ToLowerCase :=
  ⟨Text.toAsciiLowercase, fun _ _ => rfl⟩

def localOctets : List.Vector UInt8 4 :=
  ⟨[10, 0, 0, 1], rfl⟩

theorem routing_agrees_final_dot :
    Agree asciiLowerCase (some "A.Example.".toList) localOctets 443 :=
  ((routing_agrees_iff asciiLowerCase).2 _ _ _
    (by simp only [Option.mem_some_iff, forall_eq']; decide)).mpr (by
      intro value member doubled
      cases member
      have dots := doubled.dots
      revert dots
      decide)

/-- The application shows a request for `a..` as proxied; the native policy
rejects it. -/
theorem routing_differs_at_two_dots :
    ¬∀ (source : Text) (ruleSet : Client.RoutingRuleSet)
      (policy : RoutingPolicy) (domain : Option Text)
      (octets : List.Vector UInt8 4) (port : UInt16),
      (∀ value ∈ domain, IsAscii value) →
      Client.RoutingRuleSet.parse asciiLowerCase source = .ok ruleSet →
      RoutingPolicy.fromStr ruleSet.serialize = .ok policy →
      ((ruleSet.selectAction asciiLowerCase ⟨domain,
          some (Client.serializeIpv4 (ofBigEndian octets.toList))⟩).map
            toNative).getD .proxy =
        policy.decide ⟨domain, .v4 octets, port⟩ := by
  intro agree
  have parsed : Client.RoutingRuleSet.parse asciiLowerCase
      "DOMAIN,a,REJECT".toList = .ok (rejectingRuleSet ['a']) := by rfl
  have read : RoutingPolicy.fromStr (rejectingRuleSet ['a']).serialize =
      .ok ⟨[⟨.domain ['a'], .reject⟩], by decide⟩ := by rfl
  have same := agree _ _ _ (some "a..".toList) localOctets 443
    (by simp only [Option.mem_some_iff, forall_eq']; decide) parsed read
  revert same
  decide

end Velum.Routing
