import Velum.Foundation.Checked
import Velum.Proxy.ConnectHeaders

/-!
# Rewritten requests

The head that is sent to the origin server, read line by line.  Its lines are
the request line in origin form, the two generated headers and the headers of
the original request that are not meant for the proxy.  The request target is
the only part that may hold control characters.
-/

namespace Velum.Proxy

open Foundation Protocol

/-! ## Lines between line ends -/

theorem splitCrlf_cons {character : Char} {rest : Text}
    (inner : character = '\r' → rest.head? ≠ some '\n') :
    splitCrlf (character :: rest) =
      (splitCrlf rest).modifyHead (character :: ·) := by
  rw [splitCrlf.eq_def]
  split
  next same => cases same
  next more same =>
      cases same
      exact absurd rfl (inner rfl)
  next found more _ same =>
      cases same
      rfl

theorem crlf_infix_cons {character : Char} {rest : Text} :
    crlf <:+: character :: rest ↔
      (character = '\r' ∧ rest.head? = some '\n') ∨ crlf <:+: rest := by
  rw [List.infix_cons_iff]
  apply or_congr_left
  cases rest with
  | nil => simp [crlf]
  | cons next more => simp [crlf, List.cons_prefix_cons, eq_comm]

theorem crlf_infix_space (first second : Text) :
    crlf <:+: first ++ ' ' :: second ↔
      crlf <:+: first ∨ crlf <:+: second := by
  have empty : ¬crlf <:+: [] := by decide
  induction first with
  | nil =>
      rw [List.nil_append, crlf_infix_cons]
      simp [empty]
  | cons character first induction =>
      have next : (first ++ ' ' :: second).head? = some '\n' ↔
          first.head? = some '\n' := by
        cases first with
        | nil => simp
        | cons next more => simp
      simp only [List.cons_append, crlf_infix_cons, next, or_assoc]
      exact or_congr_right induction

/-- A line end has a carriage return. -/
theorem not_crlf_infix {text : Text} (free : '\r' ∉ text) :
    ¬crlf <:+: text := by
  intro broken
  exact free (broken.subset (by decide))

/-- A line ends at the first line end behind it. -/
theorem splitCrlf_line {line : Text} (plain : ¬crlf <:+: line) (rest : Text) :
    splitCrlf (line ++ (crlf ++ rest)) = line :: splitCrlf rest := by
  induction line with
  | nil => rfl
  | cons character line induction =>
      rw [crlf_infix_cons, not_or, not_and] at plain
      rw [List.cons_append, splitCrlf_cons, induction plain.2]
      · rfl
      · intro isReturn
        cases line with
        | nil => simp [crlf]
        | cons next more => simpa using plain.1 isReturn

theorem splitCrlf_last {line : Text} (plain : ¬crlf <:+: line) :
    splitCrlf line = [line] := by
  induction line with
  | nil => rfl
  | cons character line induction =>
      rw [crlf_infix_cons, not_or, not_and] at plain
      rw [splitCrlf_cons plain.1, induction plain.2]
      rfl

theorem splitCrlf_ne_nil (text : Text) : splitCrlf text ≠ [] := by
  induction text using splitCrlf.induct with
  | case1 => simp [splitCrlf]
  | case2 rest induction => simp [splitCrlf]
  | case3 character rest other induction =>
      rw [splitCrlf]
      · simpa [List.modifyHead_eq_nil_iff] using induction
      · exact other

/-- The parts of a text, joined again, are the text. -/
theorem intercalate_splitCrlf (text : Text) :
    crlf.intercalate (splitCrlf text) = text := by
  induction text using splitCrlf.induct with
  | case1 => rfl
  | case2 rest induction =>
      obtain ⟨first, others, same⟩ :=
        List.exists_cons_of_ne_nil (splitCrlf_ne_nil rest)
      rw [same] at induction
      rw [splitCrlf, same, List.intercalate_cons_cons, induction]
      rfl
  | case3 character rest other induction =>
      obtain ⟨first, others, same⟩ :=
        List.exists_cons_of_ne_nil (splitCrlf_ne_nil rest)
      rw [splitCrlf, same, List.modifyHead_cons]
      · rw [same] at induction
        cases others with
        | nil => simpa using induction
        | cons second others =>
            rw [List.intercalate_cons_cons] at induction ⊢
            rw [List.cons_append, List.cons_append, induction]
      · exact other

/-- No part of a text holds a line end. -/
theorem plain_of_mem_splitCrlf {text line : Text}
    (member : line ∈ splitCrlf text) : ¬crlf <:+: line := by
  induction text using splitCrlf.induct generalizing line with
  | case1 =>
      obtain rfl := List.mem_singleton.mp member
      decide
  | case2 rest induction =>
      rw [splitCrlf] at member
      rcases List.mem_cons.mp member with rfl | later
      · decide
      · exact induction later
  | case3 character rest other induction =>
      obtain ⟨first, others, same⟩ :=
        List.exists_cons_of_ne_nil (splitCrlf_ne_nil rest)
      rw [splitCrlf, same, List.modifyHead_cons] at member
      · rcases List.mem_cons.mp member with rfl | later
        · have joined := intercalate_splitCrlf rest
          rw [same] at joined
          rw [crlf_infix_cons, not_or]
          refine ⟨?_, induction (by simp [same])⟩
          -- a line feed at the start of the part starts the rest as well
          rintro ⟨rfl, feed⟩
          obtain ⟨more, rfl⟩ := List.head?_eq_some_iff.mp feed
          have start : ∃ tail, rest = '\n' :: tail := by
            cases others with
            | nil => exact ⟨more, by simpa using joined.symm⟩
            | cons second others =>
                rw [List.intercalate_cons_cons] at joined
                exact ⟨_, joined.symm⟩
          obtain ⟨tail, rfl⟩ := start
          exact other tail rfl rfl
        · exact induction (by simp [same, later])
      · exact other

/-- The lines of a head, without their ends and the empty line. -/
def headLines (head : List UInt8) : Option (List Text) :=
  ((Text.fromUtf8 head).bind stripHeadEnd).map splitCrlf

theorem headText_eq {lines : List Text} (some : lines ≠ []) :
    headText lines = crlf.intercalate lines ++ (crlf ++ crlf) := by
  induction lines with
  | nil => exact absurd rfl some
  | cons line lines induction =>
      cases lines with
      | nil => simp [headText]
      | cons second others =>
          have rest := induction (by simp)
          rw [headText, List.flatMap_cons, List.append_assoc,
            ← headText.eq_def, rest, List.intercalate_cons_cons]
          simp only [List.append_assoc]

theorem splitCrlf_intercalate {lines : List Text} (some : lines ≠ [])
    (plain : ∀ line ∈ lines, ¬crlf <:+: line) :
    splitCrlf (crlf.intercalate lines) = lines := by
  induction lines with
  | nil => exact absurd rfl some
  | cons line lines induction =>
      rw [List.forall_mem_cons] at plain
      cases lines with
      | nil => simpa using splitCrlf_last plain.1
      | cons second others =>
          rw [List.intercalate_cons_cons, List.append_assoc,
            splitCrlf_line plain.1, induction (by simp) plain.2]

theorem stripHeadEnd_append (text : Text) :
    stripHeadEnd (text ++ (crlf ++ crlf)) = some text := by
  have ends : "\r\n\r\n".toList <:+ text ++ (crlf ++ crlf) := ⟨text, rfl⟩
  rw [stripHeadEnd, if_pos ends]
  simp [crlf]

theorem eq_of_stripHeadEnd {text rest : Text}
    (stripped : stripHeadEnd text = some rest) :
    text = rest ++ (crlf ++ crlf) := by
  rw [stripHeadEnd] at stripped
  split at stripped
  next ends =>
      obtain ⟨front, rfl⟩ := ends
      obtain rfl := Option.some.inj stripped
      simp [crlf]
  next => cases stripped

/-- The lines of a head that was written line by line. -/
theorem headLines_headText {lines : List Text} (some : lines ≠ [])
    (plain : ∀ line ∈ lines, ¬crlf <:+: line) :
    headLines (Text.utf8 (headText lines)) = .some lines := by
  rw [headLines, Text.fromUtf8_utf8, headText_eq some, Option.bind_some,
    stripHeadEnd_append, Option.map_some, splitCrlf_intercalate some plain]

/-- Every head comes from its lines. -/
theorem eq_headText_of_headLines {head : List UInt8} {lines : List Text}
    (read : headLines head = some lines) :
    head = Text.utf8 (headText lines) ∧ lines ≠ [] ∧
      ∀ line ∈ lines, ¬crlf <:+: line := by
  obtain ⟨text, stripped, rfl⟩ := Option.map_eq_some_iff.mp read
  obtain ⟨whole, decoded, ends⟩ := Option.bind_eq_some_iff.mp stripped
  have some := splitCrlf_ne_nil text
  refine ⟨?_, some, fun line => plain_of_mem_splitCrlf⟩
  rw [headText_eq some, intercalate_splitCrlf, ← eq_of_stripHeadEnd ends,
    Text.utf8_of_fromUtf8 decoded]

/-! ## The request as it was sent -/

/-- The target of a request to the origin server. -/
def originForm (suffix : Text) : Text :=
  if suffix.head? = some '/' then suffix else '/' :: suffix

/-- The parts of an absolute `http` target. -/
structure AbsoluteUri (scheme authority suffix : Text) : Prop where
  http : eqIgnoreAsciiCase scheme "http://".toList = true
  named : authority ≠ [] ∧ '@' ∉ authority
  delimited : ∀ character ∈ authority, character ∉ ['/', '?', '#']
  starts : suffix = [] ∨ suffix.head? = some '/' ∨ suffix.head? = some '?'
  fragmentless : '#' ∉ suffix

/-- The parts of a request in absolute form. -/
structure ForwardHead where
  method : Text
  scheme : Text
  authority : Text
  suffix : Text
  version : Text
  headers : List HttpHeader
  token : isToken method = true
  absolute : AbsoluteUri scheme authority suffix
  spaceless : ' ' ∉ scheme ++ (authority ++ suffix)
  unbroken : ¬crlf <:+: scheme ++ (authority ++ suffix)
  known : isHttpVersion version = true
  wellFormed : ∀ header ∈ headers, header.WellFormed

namespace ForwardHead

def uri (request : ForwardHead) : Text :=
  request.scheme ++ (request.authority ++ request.suffix)

def requestLine (method target version : Text) : Text :=
  method ++ ' ' :: (target ++ ' ' :: version)

/-- The bytes of the request. -/
def bytes (request : ForwardHead) : List UInt8 :=
  Text.utf8 (headText
    (requestLine request.method request.uri request.version ::
      request.headers.map HttpHeader.line))

end ForwardHead

theorem okOr_eq_ok {Value : Type} {failure : IoError} {found : Option Value}
    {value : Value} (accepted : okOr failure found = .ok value) :
    found = some value := by
  cases found with
  | none => cases accepted
  | some inner => rw [Except.ok.inj accepted]

theorem forwardRequestLine_eq_ok {line method uri version : Text}
    (accepted : forwardRequestLine line = .ok (method, uri, version)) :
    line = ForwardHead.requestLine method uri version ∧ ' ' ∉ uri ∧
      isToken method = true ∧ isHttpVersion version = true := by
  rw [forwardRequestLine] at accepted
  obtain ⟨first, isFirst, accepted⟩ := bind_eq_ok accepted
  obtain ⟨second, isSecond, accepted⟩ := bind_eq_ok accepted
  obtain ⟨third, isThird, accepted⟩ := bind_eq_ok accepted
  replace isFirst := Option.filter_eq_some_iff.mp (okOr_eq_ok isFirst)
  replace isSecond := okOr_eq_ok isSecond
  replace isThird := Option.filter_eq_some_iff.mp (okOr_eq_ok isThird)
  have fields : [' '].intercalate (line.splitOn ' ') = line :=
    List.intercalate_splitOn ' '
  have plain : ∀ field ∈ line.splitOn ' ', ' ' ∉ field :=
    fun field => Text.not_mem_of_mem_splitOn
  split at accepted
  next => cases accepted
  next three =>
      cases accepted
      generalize line.splitOn ' ' = parts at *
      rcases parts with _ | ⟨one, _ | ⟨two, _ | ⟨last, _ | ⟨more, rest⟩⟩⟩⟩
      · cases isFirst.1
      · cases isSecond
      · cases isThird.1
      · cases isFirst.1
        cases isSecond
        cases isThird.1
        refine ⟨?_, plain uri (by simp), isFirst.2, isThird.2⟩
        rw [← fields, ForwardHead.requestLine]
        simp [List.intercalate_cons_cons]
      · exact absurd rfl three

theorem absoluteUri_cut {uri : Text} {inside : Char → Bool}
    (ends : ∀ character, inside character = true →
      character ∉ ['/', '?', '#'])
    (http : eqIgnoreAsciiCase (uri.take 7) "http://".toList = true)
    (named : ¬((uri.drop 7).takeWhile inside = [] ∨
      '@' ∈ (uri.drop 7).takeWhile inside))
    (fragmentless : '#' ∉ (uri.drop 7).dropWhile inside)
    (starts : (uri.drop 7).dropWhile inside = [] ∨
      ((uri.drop 7).dropWhile inside).head? = some '/' ∨
      ((uri.drop 7).dropWhile inside).head? = some '?') :
    AbsoluteUri (uri.take 7) ((uri.drop 7).takeWhile inside)
      ((uri.drop 7).dropWhile inside) := by
  refine ⟨http, not_or.mp named, ?_, starts, fragmentless⟩
  intro character member
  exact ends character (List.mem_takeWhile_imp member)

theorem splitAbsoluteHttpUri_eq_ok {uri authority target : Text}
    (accepted : splitAbsoluteHttpUri uri = .ok (authority, target)) :
    ∃ scheme suffix, uri = scheme ++ (authority ++ suffix) ∧
      AbsoluteUri scheme authority suffix ∧ target = originForm suffix := by
  simp only [splitAbsoluteHttpUri] at accepted
  split at accepted
  next => cases accepted
  next http =>
      split at accepted
      next => cases accepted
      next named =>
          split at accepted
          next => cases accepted
          next fragmentless =>
              rw [Bool.not_eq_false] at http
              have cut := absoluteUri_cut (by simp) http named fragmentless
              split at accepted
              next same =>
                  cases accepted
                  refine ⟨_, _, ?_, cut (.inl same), by rw [same]; rfl⟩
                  rw [List.takeWhile_append_dropWhile, List.take_append_drop]
              next rest same =>
                  cases accepted
                  refine ⟨_, _, ?_, cut (.inr (.inr (by rw [same]; rfl))),
                    by rw [same]; rfl⟩
                  rw [List.takeWhile_append_dropWhile, List.take_append_drop]
              next rest same =>
                  cases accepted
                  refine ⟨_, _, ?_, cut (.inr (.inl (by rw [same]; rfl))),
                    by rw [same]; rfl⟩
                  rw [List.takeWhile_append_dropWhile, List.take_append_drop]
              next => cases accepted

/-- Absolute targets are cut into their parts. -/
theorem AbsoluteUri.splitAbsoluteHttpUri_eq {scheme authority suffix : Text}
    (absolute : AbsoluteUri scheme authority suffix) :
    splitAbsoluteHttpUri (scheme ++ (authority ++ suffix)) =
      .ok (authority, originForm suffix) := by
  have seven : scheme.length = 7 := by
    have same := absolute.http
    simp only [eqIgnoreAsciiCase, decide_eq_true_eq] at same
    have lengths := congrArg List.length same
    simpa [Text.toAsciiLowercase] using lengths
  have inside : ∀ character ∈ authority,
      (!(['/', '?', '#'].contains character)) = true := by
    intro character member
    simpa using absolute.delimited character member
  have outside : suffix.takeWhile
      (fun character => !(['/', '?', '#'].contains character)) = [] := by
    rcases absolute.starts with rfl | slash | mark
    · rfl
    · obtain ⟨rest, rfl⟩ := List.head?_eq_some_iff.mp slash
      rfl
    · obtain ⟨rest, rfl⟩ := List.head?_eq_some_iff.mp mark
      rfl
  have after : suffix.dropWhile
      (fun character => !(['/', '?', '#'].contains character)) = suffix := by
    have joined := List.takeWhile_append_dropWhile
      (p := fun character => !(['/', '?', '#'].contains character))
      (l := suffix)
    rwa [outside, List.nil_append] at joined
  simp only [splitAbsoluteHttpUri]
  rw [← seven, List.take_left, List.drop_left,
    List.takeWhile_append_of_pos inside, List.dropWhile_append_of_pos inside,
    outside, after, List.append_nil, absolute.http,
    if_neg (by simp), if_neg (not_or.mpr absolute.named),
    if_neg absolute.fragmentless]
  rcases absolute.starts with rfl | slash | mark
  · rfl
  · obtain ⟨rest, rfl⟩ := List.head?_eq_some_iff.mp slash
    rfl
  · obtain ⟨rest, rfl⟩ := List.head?_eq_some_iff.mp mark
    rfl

theorem forwardHeader_eq_ok {line : Text} {header : HttpHeader}
    (accepted : forwardHeader line = .ok header) :
    header.line = line ∧ header.WellFormed := by
  rw [forwardHeader] at accepted
  split at accepted
  next => cases accepted
  next =>
      split at accepted
      next => cases accepted
      next name value cut =>
          split at accepted
          next => cases accepted
          next clean =>
              cases accepted
              simp only [not_or, Bool.not_eq_false, List.any_eq_true,
                not_exists, not_and, Bool.and_eq_true, decide_eq_true_eq,
                not_not] at clean
              exact ⟨(Text.eq_of_splitOnce cut).symm, clean.1, clean.2⟩

theorem infix_requestLine (method target version : Text) :
    target <:+: ForwardHead.requestLine method target version :=
  ⟨method ++ [' '], ' ' :: version, by simp [ForwardHead.requestLine]⟩

/-- An accepted head and what becomes of it. -/
theorem forwardHead_of_accepted {head : List UInt8} {forward : ForwardRequest}
    (accepted : parseForwardRequest head = .ok forward) :
    ∃ request : ForwardHead, request.bytes = head ∧
      ProxyTarget.fromHttpAuthority request.authority = .ok forward.target ∧
      forward.head = Text.utf8 (rewrittenHead request.method
        (originForm request.suffix) request.version request.authority
        request.headers) := by
  rw [parseForwardRequest] at accepted
  obtain ⟨text, decoded, accepted⟩ := bind_eq_ok accepted
  obtain ⟨body, stripped, accepted⟩ := bind_eq_ok accepted
  obtain ⟨line, isFirst, accepted⟩ := bind_eq_ok accepted
  obtain ⟨⟨method, uri, version⟩, isLine, accepted⟩ := bind_eq_ok accepted
  obtain ⟨⟨authority, target⟩, isUri, accepted⟩ := bind_eq_ok accepted
  obtain ⟨found, isTarget, accepted⟩ := bind_eq_ok accepted
  obtain ⟨headers, read, accepted⟩ := bind_eq_ok accepted
  cases accepted
  have lines : headLines head = some (splitCrlf body) := by
    simp only [headLines, okOr_eq_ok decoded, Option.bind_some,
      okOr_eq_ok stripped, Option.map_some]
  obtain ⟨others, spelled⟩ := List.head?_eq_some_iff.mp (okOr_eq_ok isFirst)
  obtain ⟨rfl, spaceless, token, known⟩ := forwardRequestLine_eq_ok isLine
  obtain ⟨scheme, suffix, rfl, absolute, rfl⟩ :=
    splitAbsoluteHttpUri_eq_ok isUri
  have readAll := mapM_eq_ok_iff.mp read
  rw [spelled, List.tail_cons] at readAll
  rw [spelled] at lines
  obtain ⟨bytes, _, plain⟩ := eq_headText_of_headLines lines
  have unbroken : ¬crlf <:+: scheme ++ (authority ++ suffix) := by
    intro broken
    exact plain _ List.mem_cons_self
      (broken.trans (infix_requestLine method _ version))
  have wellFormed : ∀ header ∈ headers, header.WellFormed := by
    intro header member
    obtain ⟨source, _, isHeader⟩ := exists_item_of_mem readAll member
    exact (forwardHeader_eq_ok isHeader).2
  have sources : headers.map HttpHeader.line = others := by
    have joined : List.Forall₂ Eq (headers.map HttpHeader.line) others := by
      rw [List.forall₂_map_left_iff]
      exact readAll.flip.imp fun header source isHeader =>
        (forwardHeader_eq_ok isHeader).1
    rw [List.forall₂_eq_eq_eq] at joined
    exact joined
  refine ⟨⟨method, scheme, authority, suffix, version, headers, token,
    absolute, spaceless, unbroken, known, wellFormed⟩, ?_, isTarget, rfl⟩
  rw [bytes, ForwardHead.bytes, sources]
  rfl

theorem parseForwardRequest_of_steps {text body line : Text}
    {others : List Text} {method uri version authority target : Text}
    {headers : List HttpHeader} (ends : stripHeadEnd text = some body)
    (lines : splitCrlf body = line :: others)
    (isLine : forwardRequestLine line = .ok (method, uri, version))
    (isUri : splitAbsoluteHttpUri uri = .ok (authority, target))
    (read : others.mapM forwardHeader = .ok headers) :
    parseForwardRequest (Text.utf8 text) =
      (ProxyTarget.fromHttpAuthority authority).map fun found =>
        ⟨found, Text.utf8
          (rewrittenHead method target version authority headers)⟩ := by
  rw [parseForwardRequest, Text.fromUtf8_utf8]
  simp only [okOr, ends, lines, List.head?_cons, List.tail_cons, isLine,
    isUri, read, bind, Except.bind, pure, Except.pure]
  cases ProxyTarget.fromHttpAuthority authority <;> rfl

theorem space_not_mem_of_visible {text : Text}
    (visible : ∀ character ∈ text, Text.IsVisible character) :
    ' ' ∉ text := by
  intro member
  exact absurd (visible _ member) (by decide)

theorem visible_of_isToken {value : Text} (token : isToken value = true) :
    ∀ character ∈ value, Text.IsVisible character := by
  simp only [isToken, Bool.and_eq_true] at token
  intro character member
  exact visible_of_isTokenChar (List.all_eq_true.mp token.2 character member)

theorem forwardRequestLine_requestLine {method uri version : Text}
    (token : isToken method = true) (spaceless : ' ' ∉ uri)
    (known : isHttpVersion version = true) :
    forwardRequestLine (ForwardHead.requestLine method uri version) =
      .ok (method, uri, version) := by
  have fields : (ForwardHead.requestLine method uri version).splitOn ' ' =
      [method, uri, version] := by
    rw [ForwardHead.requestLine, List.splitOn_append_cons_self_of_not_mem
      (space_not_mem_of_visible (visible_of_isToken token)),
      List.splitOn_append_cons_self_of_not_mem spaceless,
      List.splitOn_eq_singleton
        (space_not_mem_of_visible (visible_of_isHttpVersion known))]
  simp [forwardRequestLine, fields, okOr, Option.filter_some, token, known,
    bind, Except.bind, pure, Except.pure]

theorem HttpHeader.WellFormed.forwardHeader_eq {header : HttpHeader}
    (wellFormed : header.WellFormed) :
    forwardHeader header.line = .ok header := by
  obtain ⟨filled, visible⟩ := wellFormed.solid
  obtain ⟨first, rest, spelled⟩ := List.exists_cons_of_ne_nil filled
  have unfolded : ¬(header.line.head? = some ' ' ∨
      header.line.head? = some '\t') := by
    have solid : Text.IsVisible first := visible first (by simp [spelled])
    rw [HttpHeader.line, spelled, List.cons_append, List.head?_cons]
    rintro (space | tab)
    · obtain rfl := Option.some.inj space
      exact absurd solid (by decide)
    · obtain rfl := Option.some.inj tab
      exact absurd solid (by decide)
  have token := wellFormed.name
  have noColon : ':' ∉ header.name := by
    intro member
    simp only [isToken, Bool.and_eq_true] at token
    cases List.all_eq_true.mp token.2 ':' member
  have cut : Text.splitOnce ':' header.line =
      some (header.name, header.value) :=
    Text.splitOnce_of_not_mem noColon header.value
  have clean : ¬(isToken header.name = false ∨ header.value.any
      (fun character => Text.isAsciiControl character &&
        decide (character ≠ '\t')) = true) := by
    simp only [not_or, Bool.not_eq_false, List.any_eq_true, not_exists,
      not_and, Bool.and_eq_true, decide_eq_true_eq, not_not]
    exact ⟨token, wellFormed.value⟩
  rw [forwardHeader, if_neg unfolded, cut]
  exact if_neg clean

theorem mapM_forwardHeader {headers : List HttpHeader}
    (wellFormed : ∀ header ∈ headers, header.WellFormed) :
    (headers.map HttpHeader.line).mapM forwardHeader = .ok headers := by
  rw [mapM_eq_ok_iff, List.forall₂_map_left_iff, List.forall₂_same]
  intro header member
  exact (wellFormed header member).forwardHeader_eq

theorem HttpHeader.WellFormed.unbroken {header : HttpHeader}
    (wellFormed : header.WellFormed) : ¬crlf <:+: header.line := by
  intro broken
  exact wellFormed.plain (broken.subset (by decide))

/-- Whether a request is accepted depends on its authority alone. -/
theorem ForwardHead.parseForwardRequest_bytes (request : ForwardHead) :
    parseForwardRequest request.bytes =
      (ProxyTarget.fromHttpAuthority request.authority).map fun found =>
        ⟨found, Text.utf8 (rewrittenHead request.method
          (originForm request.suffix) request.version request.authority
          request.headers)⟩ := by
  have unbroken : ∀ line ∈ ForwardHead.requestLine request.method request.uri
      request.version :: request.headers.map HttpHeader.line,
      ¬crlf <:+: line := by
    have free : ∀ {text : Text},
        (∀ character ∈ text, Text.IsVisible character) →
          ¬crlf <:+: text := by
      intro text visible broken
      exact absurd (visible '\r' (broken.subset (by decide))) (by decide)
    intro line member
    rcases List.mem_cons.mp member with rfl | later
    · rw [ForwardHead.requestLine, crlf_infix_space, crlf_infix_space,
        not_or, not_or]
      exact ⟨free (visible_of_isToken request.token), request.unbroken,
        free (visible_of_isHttpVersion request.known)⟩
    · obtain ⟨header, inHeaders, rfl⟩ := List.mem_map.mp later
      exact (request.wellFormed header inHeaders).unbroken
  rw [ForwardHead.bytes, headText_eq (List.cons_ne_nil _ _)]
  exact parseForwardRequest_of_steps (stripHeadEnd_append _)
    (splitCrlf_intercalate (List.cons_ne_nil _ _) unbroken)
    (forwardRequestLine_requestLine request.token request.spaceless
      request.known)
    request.absolute.splitAbsoluteHttpUri_eq
    (mapM_forwardHeader request.wellFormed)

/-! ## Headers for one hop -/

/-- The header lists the name as one that is meant for this connection. -/
def HttpHeader.Nominates (header : HttpHeader) (name : Text) : Prop :=
  (eqIgnoreAsciiCase header.name "connection".toList = true ∨
    eqIgnoreAsciiCase header.name "proxy-connection".toList = true) ∧
  ∃ part ∈ header.value.splitOn ',', Text.trim part ≠ [] ∧
    eqIgnoreAsciiCase name (Text.trim part) = true

instance (header : HttpHeader) (name : Text) :
    Decidable (header.Nominates name) :=
  inferInstanceAs (Decidable (_ ∧ _))

/-- The names that a proxy does not pass on. -/
def Removed (headers : List HttpHeader) (name : Text) : Prop :=
  eqIgnoreAsciiCase name "host".toList = true ∨
    eqIgnoreAsciiCase name "connection".toList = true ∨
    eqIgnoreAsciiCase name "proxy-connection".toList = true ∨
    eqIgnoreAsciiCase name "proxy-authorization".toList = true ∨
    eqIgnoreAsciiCase name "keep-alive".toList = true ∨
    ∃ header ∈ headers, header.Nominates name

instance (headers : List HttpHeader) (name : Text) :
    Decidable (Removed headers name) :=
  inferInstanceAs (Decidable (_ ∨ _))

theorem eqIgnoreAsciiCase_toAsciiLowercase (first second : Text) :
    eqIgnoreAsciiCase first (Text.toAsciiLowercase second) =
      eqIgnoreAsciiCase first second := by
  rw [eqIgnoreAsciiCase, eqIgnoreAsciiCase,
    Text.toAsciiLowercase_toAsciiLowercase]

theorem exists_token_iff (header : HttpHeader) (name : Text) :
    (∃ token ∈ connectionTokens header, eqIgnoreAsciiCase name token = true) ↔
      header.Nominates name := by
  rw [connectionTokens, HttpHeader.Nominates]
  split
  next connection =>
      rw [Bool.or_eq_true] at connection
      simp only [connection, true_and, List.mem_map, List.mem_filter,
        decide_eq_true_eq, ne_eq]
      constructor
      · rintro ⟨token, ⟨trimmed, ⟨⟨part, inParts, rfl⟩, filled⟩, rfl⟩, same⟩
        rw [eqIgnoreAsciiCase_toAsciiLowercase] at same
        exact ⟨part, inParts, filled, same⟩
      · rintro ⟨part, inParts, filled, same⟩
        rw [← eqIgnoreAsciiCase_toAsciiLowercase] at same
        exact ⟨_, ⟨_, ⟨⟨part, inParts, rfl⟩, filled⟩, rfl⟩, same⟩
  next other =>
      rw [Bool.or_eq_true] at other
      simp only [other, false_and, List.not_mem_nil, exists_false]

/-- The tokens collected over all headers, wherever they stand, and the fixed
names are the ones to remove. -/
theorem isHopByHop_iff (headers : List HttpHeader) (name : Text) :
    isHopByHop (headers.flatMap connectionTokens) name = true ↔
      Removed headers name := by
  have nominated : (headers.flatMap connectionTokens).any
      (eqIgnoreAsciiCase name) = true ↔
        ∃ header ∈ headers, header.Nominates name := by
    simp only [List.any_eq_true, List.mem_flatMap, ← exists_token_iff]
    constructor
    · rintro ⟨token, ⟨header, inHeaders, inTokens⟩, same⟩
      exact ⟨header, inHeaders, token, inTokens, same⟩
    · rintro ⟨header, inHeaders, token, inTokens, same⟩
      exact ⟨token, ⟨header, inHeaders, inTokens⟩, same⟩
  rw [isHopByHop, Bool.or_eq_true, nominated, Removed]
  simp only [List.any_cons, List.any_nil, Bool.or_false, Bool.or_eq_true,
    or_assoc]

namespace ForwardHead

/-- The headers that are passed on, in their order. -/
def retained (request : ForwardHead) : List HttpHeader :=
  request.headers.filter fun header =>
    decide (¬Removed request.headers header.name)

def retainedLine (header : HttpHeader) : Text :=
  header.name ++ ": ".toList ++ Text.trim header.value

def hostLine (request : ForwardHead) : Text :=
  "Host: ".toList ++ request.authority

def connectionLine : Text := "Connection: close".toList

/-- The lines for the origin server. -/
def rewrittenLines (request : ForwardHead) : List Text :=
  requestLine request.method (originForm request.suffix) request.version ::
    request.hostLine :: connectionLine :: request.retained.map retainedLine

theorem rewrittenHead_eq (request : ForwardHead) :
    rewrittenHead request.method (originForm request.suffix) request.version
        request.authority request.headers =
      headText request.rewrittenLines := by
  have kept : (request.headers.filter fun header =>
      !isHopByHop (request.headers.flatMap connectionTokens) header.name) =
        request.retained := by
    apply List.filter_congr
    intro header _
    rw [Bool.eq_iff_iff, Bool.not_eq_true', ← Bool.not_eq_true,
      isHopByHop_iff, decide_eq_true_eq]
  have lines : ∀ headers : List HttpHeader, headers.flatMap forwardLine =
      (headers.map retainedLine).flatMap (· ++ crlf) := by
    intro headers
    rw [List.flatMap_map]
    rfl
  have ends : "\r\n".toList = crlf := rfl
  have host : "\r\nHost: ".toList = crlf ++ "Host: ".toList := rfl
  have close : "\r\nConnection: close\r\n".toList =
      crlf ++ (connectionLine ++ crlf) := rfl
  have named : request.hostLine = "Host: ".toList ++ request.authority := rfl
  -- The longer literals come first: the short one would be compared with them.
  rw [rewrittenHead, kept, lines, host, close, ends, headText, rewrittenLines,
    requestLine, named]
  generalize "Host: ".toList = label
  generalize connectionLine = connection
  generalize crlf = ending
  simp only [List.flatMap_cons, List.append_assoc, List.cons_append]

/-- A character of the lines that the proxy writes besides the target. -/
def IsLineChar (character : Char) : Prop :=
  Text.isAsciiControl character = false ∨ character = '\t'

theorem lineChar_of_visible {text : Text}
    (visible : ∀ character ∈ text, Text.IsVisible character) :
    ∀ character ∈ text, IsLineChar character := by
  intro character member
  exact .inl (visible character member).isAsciiControl

theorem lineChar_of_mem_retainedLine {header : HttpHeader}
    (wellFormed : header.WellFormed) :
    ∀ character ∈ retainedLine header, IsLineChar character := by
  intro character member
  rw [retainedLine, List.mem_append, List.mem_append] at member
  rcases member with (inName | inColon) | inValue
  · exact lineChar_of_visible wellFormed.solid.2 character inName
  · rcases List.mem_cons.mp inColon with rfl | inColon
    · exact .inl (by decide)
    · obtain rfl := List.mem_singleton.mp inColon
      exact .inl (by decide)
  · have inside := (Text.trimMatches_sublist _ header.value).subset inValue
    by_cases control : Text.isAsciiControl character = true
    · exact .inr (wellFormed.value character inside control)
    · exact .inl (Bool.not_eq_true _ ▸ control)

theorem lineChar_of_mem_generated (request : ForwardHead)
    {target : ProxyTarget}
    (accepted : ProxyTarget.fromHttpAuthority request.authority = .ok target)
    {line : Text} (member : line ∈ request.hostLine :: connectionLine ::
      request.retained.map retainedLine) :
    ∀ character ∈ line, IsLineChar character := by
  have fixed : ∀ character ∈ "Host: ".toList ++ connectionLine,
      Text.isAsciiControl character = false :=
    List.all_iff_forall_prop.mp (by decide)
  rw [List.mem_cons, List.mem_cons] at member
  rcases member with rfl | rfl | inRetained
  · intro character inLine
    rcases List.mem_append.mp inLine with inName | inAuthority
    · exact .inl (fixed character (List.mem_append_left _ inName))
    · exact lineChar_of_visible
        (ProxyTarget.visible_of_fromHttpAuthority accepted) character
        inAuthority
  · intro character inLine
    exact .inl (fixed character (List.mem_append_right _ inLine))
  · obtain ⟨header, kept, rfl⟩ := List.mem_map.mp inRetained
    exact lineChar_of_mem_retainedLine
      (request.wellFormed header (List.mem_filter.mp kept).1)

theorem visible_of_scheme (request : ForwardHead) :
    ∀ character ∈ request.scheme, Text.isAsciiControl character = false := by
  intro character member
  have http := request.absolute.http
  simp only [eqIgnoreAsciiCase, decide_eq_true_eq] at http
  have lowered : character.toLower ∈ Text.toAsciiLowercase request.scheme :=
    List.mem_map_of_mem member
  rw [http] at lowered
  have plain : ∀ letter ∈ Text.toAsciiLowercase "http://".toList,
      45 ≤ letter.toNat ∧ letter.toNat ≤ 122 :=
    List.all_iff_forall_prop.mp (by decide)
  have codes := plain _ lowered
  simp only [Text.isAsciiControl, decide_eq_false_iff_not]
  rcases Text.toLower_cases character with ⟨low, high, moved⟩ | ⟨_, same⟩
  · omega
  · rw [same] at codes
    omega

theorem not_mem_of_lineChar {line : Text}
    (plain : ∀ character ∈ line, IsLineChar character) :
    '\r' ∉ line ∧ '\n' ∉ line := by
  constructor
  · intro member
    rcases plain _ member with plain | tab
    · cases plain
    · cases tab
  · intro member
    rcases plain _ member with plain | tab
    · cases plain
    · cases tab

theorem unbroken_originForm (request : ForwardHead) :
    ¬crlf <:+: originForm request.suffix := by
  have suffix : ¬crlf <:+: request.suffix := by
    intro broken
    apply request.unbroken
    rw [← List.append_assoc]
    exact broken.trans (List.suffix_append _ _).isInfix
  rw [originForm]
  split
  next => exact suffix
  next => simp [crlf_infix_cons, suffix]

theorem unbroken_rewrittenLines (request : ForwardHead) {target : ProxyTarget}
    (accepted : ProxyTarget.fromHttpAuthority request.authority = .ok target) :
    ∀ line ∈ request.rewrittenLines, ¬crlf <:+: line := by
  intro line member
  rcases List.mem_cons.mp member with rfl | later
  · have method := not_crlf_infix (not_mem_of_lineChar
      (lineChar_of_visible (visible_of_isToken request.token))).1
    have version := not_crlf_infix (not_mem_of_lineChar
      (lineChar_of_visible (visible_of_isHttpVersion request.known))).1
    simp [requestLine, crlf_infix_space, method, version,
      unbroken_originForm]
  · exact not_crlf_infix (not_mem_of_lineChar
      (request.lineChar_of_mem_generated accepted later)).1

/-- The head for the origin server has the rewritten lines, line ends stand
only between them, and the target is in origin form without spaces and control
characters. -/
structure WellRewritten (request : ForwardHead) (head : List UInt8) :
    Prop where
  lines : headLines head = some request.rewrittenLines
  unbroken : ∀ line ∈ request.rewrittenLines, '\r' ∉ line ∧ '\n' ∉ line
  origin : (originForm request.suffix).head? = some '/'
  target : ∀ character ∈ originForm request.suffix,
    character ≠ ' ' ∧ Text.isAsciiControl character = false

theorem mem_originForm {suffix : Text} {character : Char}
    (member : character ∈ suffix) : character ∈ originForm suffix := by
  rw [originForm]
  split
  next => exact member
  next => exact List.mem_cons_of_mem _ member

theorem head?_originForm (suffix : Text) :
    (originForm suffix).head? = some '/' := by
  rw [originForm]
  split
  next slash => exact slash
  next => rfl

theorem headLines_rewritten (request : ForwardHead) {target : ProxyTarget}
    (accepted : ProxyTarget.fromHttpAuthority request.authority = .ok target) :
    headLines (Text.utf8 (rewrittenHead request.method
      (originForm request.suffix) request.version request.authority
      request.headers)) = some request.rewrittenLines := by
  rw [rewrittenHead_eq]
  exact headLines_headText (List.cons_ne_nil _ _)
    (request.unbroken_rewrittenLines accepted)

theorem wellRewritten_iff (request : ForwardHead) {target : ProxyTarget}
    (accepted : ProxyTarget.fromHttpAuthority request.authority = .ok target) :
    request.WellRewritten (Text.utf8 (rewrittenHead request.method
        (originForm request.suffix) request.version request.authority
        request.headers)) ↔
      ∀ character ∈ request.uri, Text.isAsciiControl character = false := by
  constructor
  · intro well character member
    rcases List.mem_append.mp member with inScheme | later
    · exact request.visible_of_scheme character inScheme
    · rcases List.mem_append.mp later with inAuthority | inSuffix
      · exact (ProxyTarget.visible_of_fromHttpAuthority accepted character
          inAuthority).isAsciiControl
      · exact (well.target character (mem_originForm inSuffix)).2
  · intro plain
    have target : ∀ character ∈ originForm request.suffix,
        character ≠ ' ' ∧ Text.isAsciiControl character = false := by
      intro character member
      by_cases slash : character = '/'
      · subst slash
        decide
      · have inSuffix : character ∈ request.suffix := by
          rw [originForm] at member
          split at member
          next => exact member
          next => exact (List.mem_cons.mp member).resolve_left slash
        have inUri : character ∈ request.uri := by simp [uri, inSuffix]
        refine ⟨?_, plain character inUri⟩
        rintro rfl
        exact request.spaceless inUri
    refine ⟨request.headLines_rewritten accepted, ?_,
      head?_originForm request.suffix, target⟩
    intro line member
    rcases List.mem_cons.mp member with rfl | later
    · apply not_mem_of_lineChar
      intro character inLine
      simp only [requestLine, List.mem_append, List.mem_cons] at inLine
      rcases inLine with inMethod | rfl | inTarget | rfl | inVersion
      · exact .inl (visible_of_isToken request.token _ inMethod).isAsciiControl
      · exact .inl (by decide)
      · exact .inl (target character inTarget).2
      · exact .inl (by decide)
      · exact .inl
          (visible_of_isHttpVersion request.known _ inVersion).isAsciiControl
    · exact not_mem_of_lineChar
        (request.lineChar_of_mem_generated accepted later)

end ForwardHead

theorem parseForwardRequest_of_target {text body line : Text}
    {others : List Text} {method uri version authority target : Text}
    {headers : List HttpHeader} {found : ProxyTarget}
    (ends : stripHeadEnd text = some body)
    (lines : splitCrlf body = line :: others)
    (isLine : forwardRequestLine line = .ok (method, uri, version))
    (isUri : splitAbsoluteHttpUri uri = .ok (authority, target))
    (read : others.mapM forwardHeader = .ok headers)
    (isTarget : ProxyTarget.fromHttpAuthority authority = .ok found) :
    parseForwardRequest (Text.utf8 text) = .ok ⟨found, Text.utf8
      (rewrittenHead method target version authority headers)⟩ := by
  rw [parseForwardRequest_of_steps ends lines isLine isUri read, isTarget]
  rfl

/-- An accepted request is rewritten into a well-formed head exactly when its
target holds no control character. -/
theorem forward_head_wellFormed_iff {head : List UInt8}
    {forward : ForwardRequest}
    (accepted : parseForwardRequest head = .ok forward) :
    ∃ request : ForwardHead, request.bytes = head ∧
      (request.WellRewritten forward.head ↔
        ∀ character ∈ request.uri, Text.isAsciiControl character = false) := by
  obtain ⟨request, bytes, isTarget, written⟩ :=
    forwardHead_of_accepted accepted
  refine ⟨request, bytes, ?_⟩
  rw [written]
  exact request.wellRewritten_iff isTarget

/-- A request with a path and a header. -/
def pathHead : List UInt8 :=
  Text.utf8 "GET http://a/b HTTP/1.1\r\nAccept: c\r\n\r\n".toList

def pathText : Text :=
  "GET /b HTTP/1.1\r\nHost: a\r\nConnection: close\r\nAccept: c\r\n\r\n".toList

def pathForward : ForwardRequest :=
  ⟨.domain ['a'] 80, Text.utf8 pathText⟩

theorem forward_head_wellFormed_path :
    parseForwardRequest pathHead = .ok pathForward ∧
      ∃ request : ForwardHead, request.bytes = pathHead ∧
        (request.WellRewritten pathForward.head ↔
          ∀ character ∈ request.uri,
            Text.isAsciiControl character = false) := by
  have accepted : parseForwardRequest pathHead = .ok pathForward := by
    have written : rewrittenHead "GET".toList "/b".toList "HTTP/1.1".toList
        ['a'] [⟨"Accept".toList, " c".toList⟩] = pathText := by decide
    have ends : stripHeadEnd
        "GET http://a/b HTTP/1.1\r\nAccept: c\r\n\r\n".toList = some
          "GET http://a/b HTTP/1.1\r\nAccept: c".toList := by decide
    rw [pathForward, ← written]
    exact parseForwardRequest_of_target ends rfl rfl rfl rfl rfl
  exact ⟨accepted, forward_head_wellFormed_iff accepted⟩

/-- A request whose target holds a line feed. -/
def lineFeedHead : List UInt8 :=
  Text.utf8 "GET http://a/\nb:c HTTP/1.1\r\n\r\n".toList

def lineFeedText : Text :=
  "GET /\nb:c HTTP/1.1\r\nHost: a\r\nConnection: close\r\n\r\n".toList

def lineFeedForward : ForwardRequest :=
  ⟨.domain ['a'] 80, Text.utf8 lineFeedText⟩

/-- The line feed of the target is sent on and starts a line of its own. -/
theorem forward_head_broken :
    parseForwardRequest lineFeedHead = .ok lineFeedForward ∧
      (∃ before after, lineFeedForward.head = before ++ 10 :: after ∧
        before.getLast? = some 47) ∧
      ∀ request : ForwardHead,
        ¬request.WellRewritten lineFeedForward.head := by
  have accepted : parseForwardRequest lineFeedHead = .ok lineFeedForward := by
    have written : rewrittenHead "GET".toList "/\nb:c".toList
        "HTTP/1.1".toList ['a'] [] = lineFeedText := by decide
    have ends : stripHeadEnd
        "GET http://a/\nb:c HTTP/1.1\r\n\r\n".toList = some
          "GET http://a/\nb:c HTTP/1.1".toList := by decide
    rw [lineFeedForward, ← written]
    exact parseForwardRequest_of_target ends rfl rfl rfl rfl rfl
  have starts : lineFeedForward.head = Text.utf8 "GET /".toList ++
      10 :: Text.utf8 (lineFeedText.drop 6) := by decide
  refine ⟨accepted, ⟨_, _, starts, by decide⟩, ?_⟩
  intro request well
  have lines : headLines lineFeedForward.head =
      some ["GET /\nb:c HTTP/1.1".toList, "Host: a".toList,
        "Connection: close".toList] := by
    rw [headLines, lineFeedForward, Text.fromUtf8_utf8]
    decide
  have same := Option.some.inj (well.lines.symm.trans lines)
  have unbroken := well.unbroken
  rw [same] at unbroken
  have feed := (unbroken _ List.mem_cons_self).2
  revert feed
  decide

/-- The rewritten head carries the headers of the request in their order, with
trimmed values, without those that are not passed on. -/
theorem forwarded_headers_exact {head : List UInt8} {forward : ForwardRequest}
    (accepted : parseForwardRequest head = .ok forward) :
    ∃ request : ForwardHead, request.bytes = head ∧
      headLines forward.head = some
        (ForwardHead.requestLine request.method (originForm request.suffix)
          request.version ::
        ("Host: ".toList ++ request.authority) ::
        "Connection: close".toList ::
        (request.headers.filter fun header =>
          decide (¬Removed request.headers header.name)).map
            fun header => header.name ++ ": ".toList ++
              Text.trim header.value) := by
  obtain ⟨request, bytes, isTarget, written⟩ :=
    forwardHead_of_accepted accepted
  refine ⟨request, bytes, ?_⟩
  rw [written]
  exact request.headLines_rewritten isTarget

/-- A request whose last header nominates the first. -/
def nominatedHead : List UInt8 :=
  Text.utf8 "GET http://a HTTP/1.1\r\nb: c\r\nConnection:, B\r\n\r\n".toList

def nominatedText : Text :=
  "GET / HTTP/1.1\r\nHost: a\r\nConnection: close\r\n\r\n".toList

def nominatedForward : ForwardRequest :=
  ⟨.domain ['a'] 80, Text.utf8 nominatedText⟩

theorem forwarded_headers_nominated :
    parseForwardRequest nominatedHead = .ok nominatedForward ∧
      ∃ request : ForwardHead, request.bytes = nominatedHead ∧
        headLines nominatedForward.head = some
          (ForwardHead.requestLine request.method (originForm request.suffix)
            request.version ::
          ("Host: ".toList ++ request.authority) ::
          "Connection: close".toList ::
          (request.headers.filter fun header =>
            decide (¬Removed request.headers header.name)).map
              fun header => header.name ++ ": ".toList ++
                Text.trim header.value) := by
  have accepted : parseForwardRequest nominatedHead = .ok nominatedForward := by
    have written : rewrittenHead "GET".toList "/".toList "HTTP/1.1".toList
        ['a'] [⟨['b'], " c".toList⟩, ⟨"Connection".toList, ", B".toList⟩] =
          nominatedText := by decide
    have ends : stripHeadEnd
        "GET http://a HTTP/1.1\r\nb: c\r\nConnection:, B\r\n\r\n".toList = some
          "GET http://a HTTP/1.1\r\nb: c\r\nConnection:, B".toList := by decide
    rw [nominatedForward, ← written]
    exact parseForwardRequest_of_target ends rfl rfl rfl rfl rfl
  exact ⟨accepted, forwarded_headers_exact accepted⟩

end Velum.Proxy
