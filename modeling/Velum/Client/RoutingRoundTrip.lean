import Velum.Client.RoutingRule
import Velum.Routing.Domains

/-!
# Serialised rules read back

What a parsed rule can look like, and that its serialised text is parsed to
the rule again.  Every field of such a text consists of visible characters
other than the comma, so that neither trimming nor splitting changes it.
-/

namespace Velum.Client

open Foundation
open Velum.Routing (NormalName labels isLabelChar isBadLabel labels_inj
  labels_toAsciiLowercase isLabelChar_of_mem)

/-! ## Domains -/

theorem isDomainChar_iff (character : Char) :
    isDomainChar character = true ↔
      isLabelChar character = true ∧ character.toLower = character := by
  have hyphen : character = '-' ↔ character.toNat = 45 :=
    Char.toNat_inj.symm
  simp only [isDomainChar, isLabelChar, Bool.or_eq_true, beq_iff_eq,
    Text.isAlphanum_iff, Text.isLower_iff, Text.isDigit_iff, hyphen]
  rcases Text.toLower_cases character with ⟨low, high, moved⟩ | ⟨other, same⟩
  · have changed : character.toLower ≠ character := by
      intro unchanged
      rw [unchanged] at moved
      omega
    simp only [changed, and_false, iff_false]
    omega
  · simp only [same, and_true]
    omega

theorem code_of_isLabelChar {character : Char}
    (label : isLabelChar character = true) :
    45 ≤ character.toNat ∧ character.toNat ≤ 122 := by
  simp only [isLabelChar, Bool.or_eq_true, beq_iff_eq] at label
  rcases label with alphanumeric | rfl
  · have codes := Text.codes_of_isAlphanum alphanumeric
    omega
  · decide

/-- On ASCII the two lengths are the same. -/
theorem utf16Length_eq {text : Text}
    (ascii : ∀ character ∈ text, character.toNat < 128) :
    Text.utf16Length text = (Text.utf8 text).length := by
  induction text with
  | nil => rfl
  | cons character rest induction =>
      have small := ascii character List.mem_cons_self
      have single : character.utf8Size = 1 := by
        rw [← String.length_utf8EncodeChar]
        have bound : character.toNat ≤ 127 := by omega
        simp [String.utf8EncodeChar, bound]
      have later := induction fun other member =>
        ascii other (List.mem_cons_of_mem _ member)
      rw [Text.length_utf8] at later ⊢
      rw [Text.utf16Length] at later ⊢
      simp only [List.map_cons, List.sum_cons, later, single]
      rw [if_pos (by omega)]

/-- A label passes here when it passes in the native policy and is in lower
case. -/
theorem isInvalidLabel_eq_false_iff (label : Text) :
    isInvalidLabel label = false ↔
      isBadLabel label = false ∧ Text.toAsciiLowercase label = label := by
  have lowered : Text.toAsciiLowercase label = label ↔
      ∀ character ∈ label, character.toLower = character := by
    rw [Text.toAsciiLowercase]
    exact Text.map_eq_self_iff
  have same : (∀ character ∈ label, isLabelChar character = true) →
      Text.utf16Length label = (Text.utf8 label).length := by
    intro every
    apply utf16Length_eq
    intro character member
    have codes := code_of_isLabelChar (every character member)
    omega
  rw [lowered]
  simp only [isInvalidLabel, isBadLabel, Bool.or_eq_false_iff,
    decide_eq_false_iff_not, Bool.not_eq_false', Bool.and_eq_true,
    decide_eq_true_eq, List.all_eq_true, isDomainChar_iff]
  constructor
  · rintro ⟨⟨⟨⟨nonempty, short⟩, first⟩, last⟩, _, every⟩
    have chars := fun character member => (every character member).1
    rw [same chars] at short
    exact ⟨⟨⟨⟨⟨nonempty, short⟩, first⟩, last⟩, chars⟩,
      fun character member => (every character member).2⟩
  · rintro ⟨⟨⟨⟨⟨nonempty, short⟩, first⟩, last⟩, chars⟩, lower⟩
    rw [← same chars] at short
    exact ⟨⟨⟨⟨nonempty, short⟩, first⟩, last⟩, nonempty,
      fun character member => ⟨chars character member, lower character member⟩⟩

theorem ascii_of_normalName {name : Text} (normal : NormalName name) :
    ∀ character ∈ name, 45 ≤ character.toNat ∧ character.toNat ≤ 122 := by
  intro character member
  by_cases dot : character = '.'
  · subst dot
    decide
  · exact code_of_isLabelChar (isLabelChar_of_mem normal.labels member dot)

/-- Two dots in a row leave an empty label. -/
theorem nil_mem_labels_of_dots {name : Text} (dots : ['.', '.'] <:+: name) :
    [] ∈ labels name := by
  obtain ⟨before, after, rfl⟩ := dots
  have cut : before ++ ['.', '.'] ++ after =
      before ++ '.' :: ([] ++ '.' :: after) := by simp
  rw [labels, cut, List.splitOn_append_cons_self,
    List.splitOn_append_cons_self]
  simp

/-- The normaliser produces the names of the native policy. -/
theorem normalizeDomain_eq_ok_iff {lower : ToLowerCase}
    {value source name : Text} :
    normalizeDomain lower value source = .ok name ↔
      NormalName name ∧ name = withoutFinalDot (lower.apply value) := by
  simp only [normalizeDomain]
  constructor
  · intro accepted
    split at accepted
    next => cases accepted
    next refused =>
        obtain rfl := Except.ok.inj accepted
        simp only [not_or, Nat.not_lt, List.any_eq_true, not_exists, not_and,
          Bool.not_eq_true, isInvalidLabel_eq_false_iff] at refused
        obtain ⟨_, short, _, good⟩ := refused
        refine ⟨⟨?_, ?_, fun label member => (good label member).1⟩, rfl⟩
        · rw [← labels_inj, labels_toAsciiLowercase]
          exact Text.map_eq_self_iff.mpr fun label member =>
            (good label member).2
        · rw [← utf16Length_eq]
          · exact short
          · intro character member
            by_cases dot : character = '.'
            · subst dot
              decide
            · have codes := code_of_isLabelChar (isLabelChar_of_mem
                (fun label member => (good label member).1) member dot)
              omega
  · rintro ⟨normal, rfl⟩
    rw [if_neg]
    rintro (empty | long | dots | invalid)
    · exact normal.ne_nil empty
    · rw [utf16Length_eq] at long
      · exact absurd normal.bounded (Nat.not_le.mpr long)
      · intro character member
        have codes := ascii_of_normalName normal character member
        omega
    · cases normal.labels [] (nil_mem_labels_of_dots dots)
    · obtain ⟨label, member, bad⟩ := List.any_eq_true.mp invalid
      have lowered : Text.toAsciiLowercase label = label := by
        have whole := labels_toAsciiLowercase
          (withoutFinalDot (lower.apply value))
        rw [normal.lower] at whole
        exact Text.map_eq_self_iff.mp whole.symm label member
      rw [(isInvalidLabel_eq_false_iff label).mpr
        ⟨normal.labels label member, lowered⟩] at bad
      cases bad

/-! ## Addresses and networks -/

theorem isNumeral_decimal {number more : Nat}
    (short : number < 10 ^ (more + 1)) :
    isNumeral more (decimal number) = true := by
  by_cases zero : number = 0
  · subst zero
    simp [isNumeral, decimal]
  · have leading : (Nat.toDigits 10 number).head? ≠ some '0' := by
      intro found
      exact zero (Text.eq_zero_of_head?_toDigits found)
    have digits : (Nat.toDigits 10 number).all Char.isDigit = true := by
      rw [List.all_eq_true]
      intro digit member
      exact Nat.isDigit_of_mem_toDigits (by decide) (by decide) member
    have length : (Nat.toDigits 10 number).length ≤ more + 1 :=
      (Nat.length_toDigits_le_iff (by decide) (by omega)).mpr short
    simp [isNumeral, decimal, leading, digits, length]

theorem parseOctet_decimal {number : Nat} (small : number < 256)
    (value source : Text) :
    parseOctet value source (decimal number) = .ok number := by
  have numeral : isNumeral 2 (decimal number) = true :=
    isNumeral_decimal (by omega)
  have read : Text.numberOf 10 (decimal number) = number :=
    Text.numberOf_toDigits number
  simp [parseOctet, numeral, read]
  omega

theorem parseOctet_lt {value source octet : Text} {number : Nat}
    (parsed : parseOctet value source octet = .ok number) : number < 256 := by
  rw [parseOctet] at parsed
  split at parsed
  next => cases parsed
  next accepted =>
      obtain rfl := Except.ok.inj parsed
      simp only [not_or, Nat.not_lt] at accepted
      omega

/-- One more octet at the end of an address. -/
theorem shiftLeft_or_octet {address number : Nat} (small : number < 256) :
    address <<< 8 ||| number = address * 256 + number := by
  have bits : number < 2 ^ 8 := small
  rw [← Nat.shiftLeft_add_eq_or_of_lt bits, Nat.shiftLeft_eq]

def octetAt (address index : Nat) : Nat :=
  address / 256 ^ index % 256

theorem serializeIpv4_eq (address : Nat) :
    serializeIpv4 address = ['.'].intercalate
      ([3, 2, 1, 0].map fun index => decimal (octetAt address index)) := by
  have octet : ∀ index : Nat, address >>> (8 * index) &&& 0xff =
      octetAt address index := by
    intro index
    have mask : (0xff : Nat) = 2 ^ 8 - 1 := rfl
    rw [mask, Nat.and_two_pow_sub_one_eq_mod, Nat.shiftRight_eq_div_pow,
      pow_mul]
    rfl
  have three := octet 3
  have two := octet 2
  have one := octet 1
  have zero := octet 0
  simp only [Nat.mul_zero, Nat.shiftRight_zero, Nat.reduceMul]
    at three two one zero
  simp only [serializeIpv4, three, two, one, zero, List.map_cons, List.map_nil]

theorem octetAt_lt (address index : Nat) : octetAt address index < 256 :=
  Nat.mod_lt _ (by decide)

/-- The characters of a decimal numeral are digits. -/
theorem isDigit_of_mem_decimal {number : Nat} {character : Char}
    (member : character ∈ decimal number) : character.isDigit = true :=
  Nat.isDigit_of_mem_toDigits (by decide) (by decide) member

theorem splitOn_serializeIpv4 (address : Nat) :
    (serializeIpv4 address).splitOn '.' =
      [3, 2, 1, 0].map fun index => decimal (octetAt address index) := by
  rw [serializeIpv4_eq]
  apply List.splitOn_intercalate
  · intro part member dot
    obtain ⟨index, _, rfl⟩ := List.mem_map.mp member
    cases isDigit_of_mem_decimal dot
  · simp

theorem parseIpv4_serializeIpv4 {address : Nat} (fits : address < 2 ^ 32)
    (source : Text) :
    parseIpv4 (serializeIpv4 address) source = .ok address := by
  have small := octetAt_lt address
  have numbers : ([3, 2, 1, 0].map fun index =>
      decimal (octetAt address index)).mapM
        (parseOctet (serializeIpv4 address) source) =
      .ok ([3, 2, 1, 0].map (octetAt address)) := by
    rw [mapM_eq_ok_iff, List.forall₂_map_left_iff, List.forall₂_map_right_iff,
      List.forall₂_same]
    intro index _
    exact parseOctet_decimal (small index) _ _
  have value : ([3, 2, 1, 0].map (octetAt address)).foldl
      (fun address number => address <<< 8 ||| number) 0 = address := by
    simp only [List.map_cons, List.map_nil, List.foldl_cons, List.foldl_nil,
      shiftLeft_or_octet (small _)]
    simp only [octetAt]
    omega
  simp only [parseIpv4, splitOn_serializeIpv4]
  rw [if_pos (by simp), bind_of_eq_ok numbers, value]
  rfl

theorem parseIpv4_lt {value source : Text} {address : Nat}
    (parsed : parseIpv4 value source = .ok address) : address < 2 ^ 32 := by
  simp only [parseIpv4] at parsed
  split at parsed
  next four =>
      obtain ⟨numbers, read, same⟩ := bind_eq_ok parsed
      cases same
      have related := mapM_eq_ok_iff.mp read
      have length := related.length_eq
      rw [four] at length
      have small : ∀ number ∈ numbers, number < 256 := by
        intro number member
        obtain ⟨octet, _, parsedOctet⟩ := exists_item_of_mem related member
        exact parseOctet_lt parsedOctet
      obtain ⟨first, second, third, fourth, rfl⟩ :=
        List.length_eq_four.mp length.symm
      simp only [List.mem_cons, List.not_mem_nil, or_false,
        forall_eq_or_imp, forall_eq] at small
      obtain ⟨one, two, three, four⟩ := small
      simp only [List.foldl_cons, List.foldl_nil, shiftLeft_or_octet, one,
        two, three, four]
      omega
  next => cases parsed

/-- A network as the parser leaves it. -/
structure Ipv4Network.Valid (network : Ipv4Network) : Prop where
  address : network.address < 2 ^ 32
  prefixLength : network.prefixLength ≤ 32
  mask : network.mask = Ipv4Network.maskOf network.prefixLength
  masked : network.address &&& network.mask = network.address

theorem Ipv4Network.valid_of_parse {value source : Text}
    {network : Ipv4Network}
    (parsed : Ipv4Network.parse value source = .ok network) :
    network.Valid := by
  rw [Ipv4Network.parse] at parsed
  split at parsed
  next text prefixText _ =>
      split at parsed
      next => cases parsed
      next accepted =>
          simp only [not_or, Nat.not_lt] at accepted
          obtain ⟨address, read, parsed⟩ := bind_eq_ok parsed
          split at parsed
          next masked =>
              cases parsed
              exact ⟨parseIpv4_lt read, accepted.2, rfl, masked⟩
          next => cases parsed
  next => cases parsed

/-- Digits and dots. -/
theorem char_of_mem_serializeIpv4 {address : Nat} {character : Char}
    (member : character ∈ serializeIpv4 address) :
    character.isDigit = true ∨ character = '.' := by
  by_cases dot : character = '.'
  · exact .inr dot
  · obtain ⟨part, inParts, found⟩ := Text.exists_part_of_mem dot member
    rw [splitOn_serializeIpv4] at inParts
    obtain ⟨index, _, rfl⟩ := List.mem_map.mp inParts
    exact .inl (isDigit_of_mem_decimal found)

theorem slash_not_mem_serializeIpv4 (address : Nat) :
    '/' ∉ serializeIpv4 address := by
  intro member
  rcases char_of_mem_serializeIpv4 member with digit | dot
  · cases digit
  · cases dot

theorem slash_not_mem_decimal (number : Nat) : '/' ∉ decimal number := by
  intro member
  cases isDigit_of_mem_decimal member

theorem Ipv4Network.parse_serialize {network : Ipv4Network}
    (valid : network.Valid) (source : Text) :
    Ipv4Network.parse network.serialize source = .ok network := by
  obtain ⟨address, prefixLength, mask⟩ := network
  obtain ⟨fits, short, same, masked⟩ := valid
  simp only at fits short same masked
  subst same
  have parts : (Ipv4Network.serialize ⟨address, prefixLength,
      Ipv4Network.maskOf prefixLength⟩).splitOn '/' =
        [serializeIpv4 address, decimal prefixLength] := by
    rw [Ipv4Network.serialize, List.splitOn_append_cons_self_of_not_mem
      (slash_not_mem_serializeIpv4 address),
      List.splitOn_eq_singleton (slash_not_mem_decimal prefixLength)]
  have numeral : isNumeral 1 (decimal prefixLength) = true :=
    isNumeral_decimal (by omega)
  have read : Text.numberOf 10 (decimal prefixLength) = prefixLength :=
    Text.numberOf_toDigits prefixLength
  rw [Ipv4Network.parse, parts]
  simp only [numeral, read, Bool.true_eq_false, Nat.not_lt.mpr short,
    or_self, if_false]
  rw [bind_of_eq_ok (parseIpv4_serializeIpv4 fits source), if_pos masked]
  rfl

/-! ## Fields -/

/-- A field of a serialised rule: visible, and without commas. -/
structure FieldText (text : Text) : Prop where
  nonempty : text ≠ []
  visible : ∀ character ∈ text, 33 ≤ character.toNat ∧ character.toNat ≤ 126
  plain : ',' ∉ text

theorem isDartWhitespace_of_visible {character : Char}
    (low : 33 ≤ character.toNat) (high : character.toNat ≤ 126) :
    isDartWhitespace character = false := by
  have mark : character.toNat ≠ 0xFEFF := by omega
  simp [isDartWhitespace, Text.isWhitespace_of_codes low high, mark]

/-- Visible text is not changed by trimming. -/
theorem trimMatches_of_visible {drops : Char → Bool} {text : Text}
    (keeps : ∀ character : Char, 33 ≤ character.toNat →
      character.toNat ≤ 126 → drops character = false)
    (visible : ∀ character ∈ text,
      33 ≤ character.toNat ∧ character.toNat ≤ 126) :
    Text.trimMatches drops text = text := by
  apply Text.trimMatches_eq_self
  · intro character first
    have codes := visible character (List.mem_of_mem_head? first)
    exact keeps character codes.1 codes.2
  · intro character last
    have codes := visible character (List.mem_of_getLast? last)
    exact keeps character codes.1 codes.2

theorem dartTrim_of_visible {text : Text} (visible : ∀ character ∈ text,
    33 ≤ character.toNat ∧ character.toNat ≤ 126) : dartTrim text = text :=
  trimMatches_of_visible (fun _ => isDartWhitespace_of_visible) visible

theorem fieldText_typeName (type : RoutingRuleType) : FieldText type.name := by
  cases type <;>
    exact ⟨by decide, List.all_iff_forall_prop.mp (by decide), by decide⟩

theorem fieldText_actionName (action : RoutingAction) :
    FieldText action.name := by
  cases action <;>
    exact ⟨by decide, List.all_iff_forall_prop.mp (by decide), by decide⟩

theorem fieldText_of_normalName {name : Text} (normal : NormalName name) :
    FieldText name := by
  have codes := ascii_of_normalName normal
  refine ⟨normal.ne_nil, ?_, ?_⟩
  · intro character member
    have bounds := codes character member
    omega
  · intro member
    have bounds := codes ',' member
    revert bounds
    decide

theorem fieldText_network (network : Ipv4Network) :
    FieldText network.serialize := by
  have codes : ∀ character ∈ network.serialize,
      46 ≤ character.toNat ∧ character.toNat ≤ 57 := by
    intro character member
    rcases List.mem_append.mp member with inAddress | inPrefix
    · rcases char_of_mem_serializeIpv4 inAddress with digit | rfl
      · have bounds := (Text.isDigit_iff _).mp digit
        omega
      · decide
    · rcases List.mem_cons.mp inPrefix with rfl | inPrefix
      · decide
      · have bounds := (Text.isDigit_iff _).mp (isDigit_of_mem_decimal inPrefix)
        omega
  refine ⟨by simp [Ipv4Network.serialize], ?_, ?_⟩
  · intro character member
    have bounds := codes character member
    omega
  · intro member
    have bounds := codes ',' member
    revert bounds
    decide

/-! ## Rules -/

/-- The rules that the parser produces. -/
inductive RoutingRule.Parsed : RoutingRule → Prop where
  | domain {name : Text} (normal : NormalName name) (action : RoutingAction) :
      Parsed ⟨.domain, some name, action, none⟩
  | domainSuffix {name : Text} (normal : NormalName name)
      (action : RoutingAction) : Parsed ⟨.domainSuffix, some name, action, none⟩
  | ipCidr {network : Ipv4Network} (valid : network.Valid)
      (action : RoutingAction) :
      Parsed ⟨.ipCidr, some network.serialize, action, some network⟩
  | matchAll (action : RoutingAction) : Parsed ⟨.matchAll, none, action, none⟩

theorem RoutingRule.parsed_of_ofValue {lower : ToLowerCase}
    {type : RoutingRuleType} {action : RoutingAction} {value source : Text}
    {rule : RoutingRule}
    (made : RoutingRule.ofValue lower type action value source = .ok rule) :
    rule.Parsed := by
  cases type with
  | domain =>
      obtain ⟨name, normalized, same⟩ := bind_eq_ok made
      cases same
      exact .domain (normalizeDomain_eq_ok_iff.mp normalized).1 action
  | domainSuffix =>
      obtain ⟨name, normalized, same⟩ := bind_eq_ok made
      cases same
      exact .domainSuffix (normalizeDomain_eq_ok_iff.mp normalized).1 action
  | ipCidr =>
      obtain ⟨network, read, same⟩ := bind_eq_ok made
      cases same
      exact .ipCidr (Ipv4Network.valid_of_parse read) action
  | matchAll =>
      cases made
      exact .matchAll action

theorem RoutingRule.parsed_of_parse {lower : ToLowerCase} {source : Text}
    {rule : RoutingRule} (parsed : RoutingRule.parse lower source = .ok rule) :
    rule.Parsed := by
  simp only [RoutingRule.parse] at parsed
  split at parsed
  next => cases parsed
  next =>
      simp only [RoutingRule.ofFields] at parsed
      obtain ⟨type, _, parsed⟩ := bind_eq_ok parsed
      split at parsed
      next =>
          obtain ⟨action, _, made⟩ := bind_eq_ok parsed
          exact RoutingRule.parsed_of_ofValue made
      next => cases parsed

theorem parseType_name (type : RoutingRuleType) (source : Text) :
    parseType type.name source = .ok type := by
  cases type <;> rfl

theorem parseAction_name (action : RoutingAction) (source : Text) :
    parseAction action.name source = .ok action := by
  cases action <;> rfl

/-- Three fields with commas between them are read as they are. -/
theorem splitOn_fields {first second third : Text} (one : FieldText first)
    (two : FieldText second) (three : FieldText third) :
    (first ++ ',' :: (second ++ ',' :: third)).splitOn ',' =
      [first, second, third] := by
  rw [List.splitOn_append_cons_self_of_not_mem one.plain,
    List.splitOn_append_cons_self_of_not_mem two.plain,
    List.splitOn_eq_singleton three.plain]

theorem splitOn_two_fields {first second : Text} (one : FieldText first)
    (two : FieldText second) :
    (first ++ ',' :: second).splitOn ',' = [first, second] := by
  rw [List.splitOn_append_cons_self_of_not_mem one.plain,
    List.splitOn_eq_singleton two.plain]

theorem RoutingRule.parse_fields {lower : ToLowerCase}
    {type : RoutingRuleType} (valued : type ≠ .matchAll)
    (action : RoutingAction) {value : Text} (field : FieldText value) :
    RoutingRule.parse lower
        (type.name ++ ',' :: (value ++ ',' :: action.name)) =
      RoutingRule.ofValue lower type action value
        (type.name ++ ',' :: (value ++ ',' :: action.name)) := by
  have one := fieldText_typeName type
  have three := fieldText_actionName action
  have fields : ((type.name ++ ',' :: (value ++ ',' :: action.name)).splitOn
      ',').map dartTrim = [type.name, value, action.name] := by
    rw [splitOn_fields one field three]
    simp [dartTrim_of_visible one.visible, dartTrim_of_visible field.visible,
      dartTrim_of_visible three.visible]
  have expected : type.expectedFields = 3 := by
    cases type <;> first | rfl | exact absurd rfl valued
  simp only [RoutingRule.parse, fields]
  rw [if_neg (by simp [one.nonempty, field.nonempty, three.nonempty])]
  simp only [RoutingRule.ofFields, List.headD_cons]
  rw [bind_of_eq_ok (parseType_name type _), if_pos (by simp [expected])]
  exact bind_of_eq_ok (parseAction_name action _)

/-- The serialised text of a parsed rule is parsed to the rule again. -/
theorem RoutingRule.Parsed.parse_serialize {rule : RoutingRule}
    (parsed : rule.Parsed) (lower : ToLowerCase) :
    RoutingRule.parse lower rule.serialize = .ok rule := by
  have plain : ∀ {name : Text}, NormalName name →
      name = withoutFinalDot (lower.apply name) := by
    intro name normal
    have ascii : ∀ character ∈ name, character.toNat < 128 := by
      intro character member
      have codes := ascii_of_normalName normal character member
      omega
    rw [lower.ascii name ascii, normal.lower, withoutFinalDot, if_neg]
    intro last
    have label := Routing.isLabelChar_of_getLast? normal.labels last
    revert label
    decide
  cases parsed with
  | domain normal action =>
      rw [RoutingRule.serialize, RoutingRule.parse_fields (by simp) action
        (fieldText_of_normalName normal)]
      exact bind_of_eq_ok
        (normalizeDomain_eq_ok_iff.mpr ⟨normal, plain normal⟩)
  | domainSuffix normal action =>
      rw [RoutingRule.serialize, RoutingRule.parse_fields (by simp) action
        (fieldText_of_normalName normal)]
      exact bind_of_eq_ok
        (normalizeDomain_eq_ok_iff.mpr ⟨normal, plain normal⟩)
  | ipCidr valid action =>
      rw [RoutingRule.serialize, RoutingRule.parse_fields (by simp) action
        (fieldText_network _)]
      exact bind_of_eq_ok (Ipv4Network.parse_serialize valid _)
  | matchAll action =>
      have one := fieldText_typeName .matchAll
      have two := fieldText_actionName action
      have fields : ((RoutingRuleType.matchAll.name ++ ',' ::
          action.name).splitOn ',').map dartTrim =
            [RoutingRuleType.matchAll.name, action.name] := by
        rw [splitOn_two_fields one two]
        simp [dartTrim_of_visible one.visible, dartTrim_of_visible two.visible]
      simp only [RoutingRule.serialize, RoutingRule.parse, fields]
      rw [if_neg (by simp [one.nonempty, two.nonempty])]
      simp only [RoutingRule.ofFields, List.headD_cons]
      rw [bind_of_eq_ok (parseType_name .matchAll _), if_pos (by rfl)]
      exact bind_of_eq_ok (parseAction_name action _)

/-! ## Rule sets -/

/-- A line of a serialised rule set. -/
structure LineText (text : Text) : Prop where
  nonempty : text ≠ []
  visible : ∀ character ∈ text, 33 ≤ character.toNat ∧ character.toNat ≤ 126

theorem LineText.plain {text : Text} (line : LineText text) : '\n' ∉ text := by
  intro member
  have codes := line.visible '\n' member
  revert codes
  decide

theorem LineText.join {first second : Text} (one : FieldText first)
    (two : LineText second) : LineText (first ++ ',' :: second) := by
  refine ⟨by simp, ?_⟩
  intro character member
  rcases List.mem_append.mp member with inFirst | later
  · exact one.visible character inFirst
  · rcases List.mem_cons.mp later with rfl | inSecond
    · decide
    · exact two.visible character inSecond

theorem FieldText.line {text : Text} (field : FieldText text) :
    LineText text :=
  ⟨field.nonempty, field.visible⟩

theorem RoutingRule.Parsed.line {rule : RoutingRule} (parsed : rule.Parsed) :
    LineText rule.serialize := by
  have valued : ∀ (type : RoutingRuleType) (action : RoutingAction)
      {value : Text}, FieldText value →
        LineText (type.name ++ ',' :: (value ++ ',' :: action.name)) := by
    intro type action value field
    exact .join (fieldText_typeName type)
      (.join field (fieldText_actionName action).line)
  cases parsed with
  | domain normal action =>
      exact valued .domain action (fieldText_of_normalName normal)
  | domainSuffix normal action =>
      exact valued .domainSuffix action (fieldText_of_normalName normal)
  | ipCidr valid action =>
      exact valued .ipCidr action (fieldText_network _)
  | matchAll action =>
      exact .join (fieldText_typeName .matchAll)
        (fieldText_actionName action).line

/-- Joined lines come apart again; a text without lines has one blank line. -/
theorem lines_of_join {clean : Text → Text} {lines : List Text}
    (keeps : ∀ line ∈ lines, clean line = line) (empty : clean [] = [])
    (good : ∀ line ∈ lines, LineText line) :
    (((['\n'].intercalate lines).splitOn '\n').map clean).filter (· ≠ []) =
      lines := by
  by_cases none : lines = []
  · subst none
    simp [empty]
  · rw [List.splitOn_intercalate '\n'
      (fun line member => (good line member).plain) none, Text.map_eq_self_iff.mpr keeps, List.filter_eq_self]
    intro line member
    simpa using (good line member).nonempty

namespace RoutingRuleSet

theorem new_eq_ok_iff {rules : List RoutingRule} {ruleSet : RoutingRuleSet} :
    new rules = .ok ruleSet ↔ ruleSet.rules = rules := by
  rw [new]
  split
  next last =>
      constructor
      · intro made
        cases made
        rfl
      · intro same
        obtain ⟨kept, proof⟩ := ruleSet
        cases same
        rfl
  next last =>
      constructor
      · intro made
        cases made
      · rintro rfl
        exact absurd ruleSet.matchLast last

theorem parseLine_eq_ok_iff {lower : ToLowerCase} {line : Text × Nat}
    {rule : RoutingRule} :
    parseLine lower line = .ok rule ↔
      RoutingRule.parse lower line.1 = .ok rule := by
  rw [parseLine]
  split
  next found same => rw [same]
  next failure same => simp [same]

theorem parse_eq_ok_iff {lower : ToLowerCase} {source : Text}
    {ruleSet : RoutingRuleSet} :
    parse lower source = .ok ruleSet ↔
      List.Forall₂ (fun line rule => RoutingRule.parse lower line = .ok rule)
        (((source.splitOn '\n').map dartTrim).filter (· ≠ []))
        ruleSet.rules := by
  have lines : (numberedLines source).map Prod.fst =
      ((source.splitOn '\n').map dartTrim).filter (· ≠ []) :=
    Text.map_fst_numbered dartTrim _ 1
  rw [← lines, List.forall₂_map_left_iff]
  simp only [← parseLine_eq_ok_iff]
  rw [← mapM_eq_ok_iff, parse]
  constructor
  · intro parsed
    obtain ⟨rules, read, made⟩ := bind_eq_ok parsed
    rw [new_eq_ok_iff.mp made, read]
  · intro read
    exact (bind_of_eq_ok read).trans (new_eq_ok_iff.mpr rfl)

theorem parsed_of_parse {lower : ToLowerCase} {source : Text}
    {ruleSet : RoutingRuleSet} (parsed : parse lower source = .ok ruleSet) :
    ∀ rule ∈ ruleSet.rules, rule.Parsed := by
  intro rule member
  obtain ⟨line, _, read⟩ :=
    exists_item_of_mem (parse_eq_ok_iff.mp parsed) member
  exact RoutingRule.parsed_of_parse read

/-- The lines of a serialised rule set are its serialised rules. -/
theorem lines_serialize {clean : Text → Text} {ruleSet : RoutingRuleSet}
    (keeps : ∀ text, LineText text → clean text = text) (empty : clean [] = [])
    (parsed : ∀ rule ∈ ruleSet.rules, rule.Parsed) :
    ((ruleSet.serialize.splitOn '\n').map clean).filter (· ≠ []) =
      ruleSet.rules.map RoutingRule.serialize := by
  have good : ∀ line ∈ ruleSet.rules.map RoutingRule.serialize,
      LineText line := by
    intro line member
    obtain ⟨rule, inRules, rfl⟩ := List.mem_map.mp member
    exact (parsed rule inRules).line
  exact lines_of_join (fun line member => keeps line (good line member)) empty
    good

/-- Serialising and parsing returns the rule set. -/
theorem parse_serialize {ruleSet : RoutingRuleSet}
    (parsed : ∀ rule ∈ ruleSet.rules, rule.Parsed) (lower : ToLowerCase) :
    parse lower ruleSet.serialize = .ok ruleSet := by
  rw [parse_eq_ok_iff, lines_serialize
    (fun text line => dartTrim_of_visible line.visible) (by rfl) parsed,
    List.forall₂_map_left_iff, List.forall₂_same]
  intro rule member
  exact (parsed rule member).parse_serialize lower

end RoutingRuleSet

end Velum.Client
