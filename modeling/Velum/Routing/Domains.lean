import Velum.Routing.Policy

/-!
# Domain names in normal form

`NormalName` is what the routing normaliser produces: lower-case labels of
letters, digits and inner hyphens.  On such names it is the identity, and a
suffix rule compares whole labels.
-/

namespace Velum.Routing

open Foundation

/-! ## Labels -/

theorem isLabelChar_toLower (character : Char) :
    isLabelChar character.toLower = isLabelChar character := by
  have hyphen : (character.toLower == '-') = (character == '-') := by
    rw [Bool.eq_iff_iff, beq_iff_eq, beq_iff_eq,
      Text.toLower_eq_iff (by decide)]
  rw [isLabelChar, isLabelChar, Text.isAlphanum_toLower, hyphen]

theorem isBadLabel_toAsciiLowercase (label : Text) :
    isBadLabel (Text.toAsciiLowercase label) = isBadLabel label := by
  have hyphen : ∀ found : Option Char,
      found.map Char.toLower = some '-' ↔ found = some '-' := by
    intro found
    cases found with
    | none => simp
    | some character =>
        have same : character.toLower = '-' ↔ character = '-' :=
          Text.toLower_eq_iff (by decide)
        simp [same]
  rw [Bool.eq_iff_iff]
  simp only [isBadLabel, Text.length_utf8_toAsciiLowercase, Bool.or_eq_true,
    decide_eq_true_eq, Bool.not_eq_true']
  simp only [Text.toAsciiLowercase, List.map_eq_nil_iff, List.head?_map,
    List.getLast?_map, hyphen, List.all_map, Function.comp_def,
    isLabelChar_toLower]

theorem isLabelChar_of_isBadLabel {label : Text} {character : Char}
    (good : isBadLabel label = false) (member : character ∈ label) :
    isLabelChar character = true := by
  simp only [isBadLabel, Bool.or_eq_false_iff, Bool.not_eq_false'] at good
  exact List.all_eq_true.mp good.2 character member

/-- A character of a label is neither whitespace nor a dot. -/
theorem solid_of_isLabelChar {character : Char}
    (label : isLabelChar character = true) :
    Text.isWhitespace character = false ∧ character ≠ '.' := by
  simp only [isLabelChar, Bool.or_eq_true, beq_iff_eq] at label
  rcases label with alphanumeric | rfl
  · have codes := Text.codes_of_isAlphanum alphanumeric
    refine ⟨Text.isWhitespace_of_codes (by omega) (by omega), ?_⟩
    rintro rfl
    cases alphanumeric
  · decide

theorem labels_toAsciiLowercase (domain : Text) :
    labels (Text.toAsciiLowercase domain) =
      (labels domain).map Text.toAsciiLowercase :=
  Text.splitOn_toAsciiLowercase (by decide) domain

theorem labels_inj {first second : Text} :
    labels first = labels second ↔ first = second := by
  constructor
  · intro same
    have joined := congrArg ['.'].intercalate same
    rwa [labels, labels, List.intercalate_splitOn,
      List.intercalate_splitOn] at joined
  · intro same
    rw [same]

/-! ## Normal names -/

structure NormalName (name : Text) : Prop where
  lower : Text.toAsciiLowercase name = name
  bounded : (Text.utf8 name).length ≤ 253
  labels : ∀ label ∈ labels name, isBadLabel label = false

theorem NormalName.ne_nil {name : Text} (normal : NormalName name) :
    name ≠ [] := by
  rintro rfl
  cases normal.labels [] (by simp [Routing.labels])

theorem isLabelChar_of_mem {name : Text} {character : Char}
    (good : ∀ label ∈ labels name, isBadLabel label = false)
    (member : character ∈ name) (inner : character ≠ '.') :
    isLabelChar character = true := by
  obtain ⟨label, inLabels, found⟩ := Text.exists_part_of_mem inner member
  exact isLabelChar_of_isBadLabel (good label inLabels) found

/-- A name with good labels does not end in a dot. -/
theorem isLabelChar_of_getLast? {name : Text} {character : Char}
    (good : ∀ label ∈ labels name, isBadLabel label = false)
    (last : name.getLast? = some character) :
    isLabelChar character = true := by
  refine isLabelChar_of_mem good (List.mem_of_getLast? last) ?_
  rintro rfl
  obtain ⟨front, rfl⟩ := List.getLast?_eq_some_iff.mp last
  have empty : [] ∈ labels (front ++ ['.']) := by
    rw [labels, List.splitOn_append_cons_self]
    simp
  cases good [] empty

theorem NormalName.solid {name : Text} (normal : NormalName name)
    {character : Char} (member : character ∈ name) :
    Text.isWhitespace character = false := by
  by_cases dot : character = '.'
  · subst dot
    decide
  · exact (solid_of_isLabelChar
      (isLabelChar_of_mem normal.labels member dot)).1

theorem trim_of_solid_ends {name : Text}
    (first : ∀ character, name.head? = some character →
      Text.isWhitespace character = false)
    (last : ∀ character, name.getLast? = some character →
      isLabelChar character = true) :
    trimDots (Text.trim name) = name := by
  have trimmed : Text.trim name = name :=
    Text.trimMatches_eq_self first fun character found =>
      (solid_of_isLabelChar (last character found)).1
  rw [trimmed, trimDots, List.rdropWhile_eq_self_iff]
  intro nonempty
  have label := last _ (List.getLast?_eq_some_getLast nonempty)
  simpa using (solid_of_isLabelChar label).2

theorem normalizeDomain_eq_ok_iff {value name : Text} :
    normalizeDomain value = .ok name ↔
      NormalName name ∧
        name = Text.toAsciiLowercase (trimDots (Text.trim value)) := by
  simp only [normalizeDomain]
  constructor
  · intro accepted
    split at accepted
    next => cases accepted
    next refused =>
        simp only [not_or, Nat.not_lt, List.any_eq_true, not_exists, not_and,
          Bool.not_eq_true] at refused
        obtain rfl := Except.ok.inj accepted
        refine ⟨⟨Text.toAsciiLowercase_toAsciiLowercase _, refused.2.1, ?_⟩,
          rfl⟩
        exact refused.2.2
  · rintro ⟨normal, rfl⟩
    rw [if_neg]
    rintro (empty | long | bad)
    · exact normal.ne_nil empty
    · exact absurd normal.bounded (Nat.not_le.mpr long)
    · obtain ⟨label, member, isBad⟩ := List.any_eq_true.mp bad
      rw [normal.labels label member] at isBad
      cases isBad

/-- A normal name is its own normal form. -/
theorem NormalName.normalizeDomain {name : Text} (normal : NormalName name) :
    normalizeDomain name = .ok name := by
  rw [normalizeDomain_eq_ok_iff]
  refine ⟨normal, ?_⟩
  rw [trim_of_solid_ends, normal.lower]
  · intro character first
    exact normal.solid (List.mem_of_mem_head? first)
  · intro character last
    exact isLabelChar_of_getLast? normal.labels last

/-! ## Suffix rules -/

theorem stripSuffix_any_dot_iff (suffix actual : Text) :
    ((stripSuffix suffix actual).any fun front =>
      front.getLast? = some '.') = true ↔
        ∃ front, actual = front ++ '.' :: suffix := by
  rw [stripSuffix]
  constructor
  · intro stripped
    split at stripped
    next ends =>
        obtain ⟨before, rfl⟩ := ends
        simp only [List.length_append, Nat.add_sub_cancel,
          List.take_left, Option.any_some, decide_eq_true_eq] at stripped
        obtain ⟨front, rfl⟩ := List.getLast?_eq_some_iff.mp stripped
        exact ⟨front, by simp⟩
    next => cases stripped
  · rintro ⟨front, rfl⟩
    have whole : front ++ '.' :: suffix = (front ++ ['.']) ++ suffix := by
      simp
    rw [whole, if_pos (List.suffix_append _ _), List.length_append,
      Nat.add_sub_cancel, List.take_left]
    simp

/-- A suffix rule matches a name whose last labels are those of the rule. -/
theorem domainSuffix_matches_iff (suffix actual : Text)
    (context : RouteContext) :
    (RuleMatcher.domainSuffix suffix).matchesContext context (some actual) =
        true ↔ labels suffix <:+ labels actual := by
  simp only [RuleMatcher.matchesContext, Option.any_some, Bool.or_eq_true,
    decide_eq_true_eq, stripSuffix_any_dot_iff]
  exact (Text.splitOn_suffix_iff '.' suffix actual).symm

end Velum.Routing
