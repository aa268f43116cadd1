import Velum.Proxy.HttpRequest

/-!
# CONNECT requests and their headers

The words of a CONNECT request are taken from the whole head, so that every
header adds words behind the version.  A request is accepted exactly when it
has no header at all.
-/

namespace Velum.Proxy

open Foundation Protocol

def lineEnd : List UInt8 := [13, 10]

/-! ## Reading a head line by line -/

theorem readHead_append {request chunk stream : List UInt8}
    (continues : ∀ taken left, chunk = taken ++ left → left ≠ [] →
      ¬headEnd <:+ request ++ taken)
    (fits : request.length + chunk.length ≤ maxHandshakeBytes) :
    readHead request (chunk ++ stream) =
      readHead (request ++ chunk) stream := by
  induction chunk generalizing request with
  | nil => simp
  | cons byte rest induction =>
      have unfinished : ¬headEnd <:+ request := by
        simpa using continues [] (byte :: rest) rfl (by simp)
      have room : request.length ≠ maxHandshakeBytes := by
        simp only [List.length_cons] at fits
        omega
      rw [List.cons_append, readHead, if_neg unfinished, if_neg room,
        induction, List.append_assoc, List.singleton_append]
      · intro taken left same more
        rw [List.append_assoc]
        exact continues (byte :: taken) left (by rw [same]; rfl) more
      · simp only [List.length_cons, List.length_append,
          List.length_nil] at fits ⊢
        omega

theorem readHead_done {request : List UInt8} (stream : List UInt8)
    (ended : headEnd <:+ request) :
    readHead request stream = .ok (request, stream) := by
  rw [readHead.eq_def, if_pos ended]

/-- A request that ends in an empty line ends in a line feed. -/
theorem getLast?_of_headEnd {request : List UInt8}
    (ended : headEnd <:+ request) : request.getLast? = some 10 := by
  obtain ⟨before, rfl⟩ := ended
  simp [headEnd]

theorem readHead_line {request line stream : List UInt8}
    (unfinished : ¬headEnd <:+ request) (plain : 10 ∉ line)
    (fits : request.length + (line ++ lineEnd).length ≤ maxHandshakeBytes) :
    readHead request (line ++ lineEnd ++ stream) =
      readHead (request ++ (line ++ lineEnd)) stream := by
  refine readHead_append ?_ fits
  intro taken left same more ended
  have last := getLast?_of_headEnd ended
  by_cases none : taken = []
  · rw [none, List.append_nil] at ended
    exact unfinished ended
  · rw [List.getLast?_append_of_ne_nil _ none] at last
    -- what was taken stops before the line feed at the end
    have front : taken <+: line ++ [13] := by
      have whole : taken <+: line ++ lineEnd := ⟨left, same.symm⟩
      have most : line ++ [13] <+: line ++ lineEnd :=
        ⟨[10], by simp [lineEnd]⟩
      refine List.prefix_of_prefix_length_le whole most ?_
      have lengths := congrArg List.length same
      have positive := List.length_pos_iff.mpr more
      simp only [List.length_append, lineEnd, List.length_cons,
        List.length_nil] at lengths ⊢
      omega
    have feed := front.subset (List.mem_of_getLast? last)
    simp [plain] at feed

theorem not_headEnd_line {request line : List UInt8} (nonempty : line ≠ [])
    (plain : 10 ∉ line) : ¬headEnd <:+ request ++ (line ++ lineEnd) := by
  rintro ⟨before, same⟩
  have halves : (before ++ lineEnd) ++ lineEnd =
      (request ++ line) ++ lineEnd := by
    simpa [headEnd, lineEnd] using same
  have last := congrArg List.getLast? (List.append_cancel_right halves)
  rw [List.getLast?_append_of_ne_nil _ nonempty] at last
  exact plain (List.mem_of_getLast? (by simpa [lineEnd] using last.symm))

theorem readHead_emptyLine {request stream : List UInt8}
    (unfinished : ¬headEnd <:+ request) (ends : lineEnd <:+ request)
    (fits : request.length + lineEnd.length ≤ maxHandshakeBytes) :
    readHead request (lineEnd ++ stream) =
      .ok (request ++ lineEnd, stream) := by
  have line := @readHead_line request [] stream unfinished (by simp)
    (by simpa using fits)
  rw [List.nil_append] at line
  rw [line, readHead_done]
  obtain ⟨before, rfl⟩ := ends
  exact ⟨before, by simp [headEnd, lineEnd]⟩

/-- Lines that are not empty are read up to the first empty line. -/
theorem readHead_lines {request stream : List UInt8}
    {lines : List (List UInt8)} (unfinished : ¬headEnd <:+ request)
    (ends : lineEnd <:+ request ∨ lines ≠ [])
    (nonempty : ∀ line ∈ lines, line ≠ []) (plain : ∀ line ∈ lines, 10 ∉ line)
    (fits : request.length + (lines.flatMap (· ++ lineEnd)).length +
      lineEnd.length ≤ maxHandshakeBytes) :
    readHead request (lines.flatMap (· ++ lineEnd) ++ lineEnd ++ stream) =
      .ok (request ++ lines.flatMap (· ++ lineEnd) ++ lineEnd, stream) := by
  induction lines generalizing request with
  | nil =>
      have ends : lineEnd <:+ request := by simpa using ends
      simpa using readHead_emptyLine unfinished ends (by simpa using fits)
  | cons line lines induction =>
      have here : ¬headEnd <:+ request ++ (line ++ lineEnd) :=
        not_headEnd_line (nonempty line List.mem_cons_self)
          (plain line List.mem_cons_self)
      have others : lines.flatMap (· ++ lineEnd) ++ (lineEnd ++ stream) =
          lines.flatMap (· ++ lineEnd) ++ lineEnd ++ stream :=
        (List.append_assoc ..).symm
      simp only [List.flatMap_cons, List.length_append] at fits
      rw [List.flatMap_cons, List.append_assoc, List.append_assoc,
        readHead_line unfinished (plain line List.mem_cons_self)
          (by simp only [List.length_append]; omega), others,
        induction here]
      · simp only [List.append_assoc]
      · exact .inl ⟨request ++ line, by rw [List.append_assoc]⟩
      · exact fun other member => nonempty other (List.mem_cons_of_mem _ member)
      · exact fun other member => plain other (List.mem_cons_of_mem _ member)
      · simp only [List.length_append]
        omega

/-! ## The head of a CONNECT request -/

/-- A token, a colon, and a value without control characters but tabs. -/
structure HttpHeader.WellFormed (header : HttpHeader) : Prop where
  name : isToken header.name = true
  value : ∀ character ∈ header.value,
    Text.isAsciiControl character = true → character = '\t'

def HttpHeader.line (header : HttpHeader) : Text :=
  header.name ++ ':' :: header.value

def connectMethod : Text := ['C', 'O', 'N', 'N', 'E', 'C', 'T']

def connectLine (authority version : Text) : Text :=
  connectMethod ++ ' ' :: (authority ++ ' ' :: version)

def crlf : Text := ['\r', '\n']

/-- The lines of a head, each with its end, and the empty line. -/
def headText (lines : List Text) : Text :=
  lines.flatMap (· ++ crlf) ++ crlf

def connectHead (authority version : Text) (headers : List HttpHeader) : Text :=
  headText (connectLine authority version :: headers.map HttpHeader.line)

theorem utf8_crlf : Text.utf8 crlf = lineEnd := by
  decide

theorem utf8_lines (lines : List Text) :
    Text.utf8 (lines.flatMap (· ++ crlf)) =
      (lines.map Text.utf8).flatMap (· ++ lineEnd) := by
  induction lines with
  | nil => rfl
  | cons line lines induction =>
      simp only [List.flatMap_cons, List.map_cons, Text.utf8_append,
        utf8_crlf, induction]

theorem readHead_headText {lines : List Text} {rest : List UInt8}
    (some : lines ≠ []) (nonempty : ∀ line ∈ lines, line ≠ [])
    (plain : ∀ line ∈ lines, '\n' ∉ line)
    (fits : (Text.utf8 (headText lines)).length ≤ maxHandshakeBytes) :
    readHead [] (Text.utf8 (headText lines) ++ rest) =
      .ok (Text.utf8 (headText lines), rest) := by
  have bytes : Text.utf8 (headText lines) =
      (lines.map Text.utf8).flatMap (· ++ lineEnd) ++ lineEnd := by
    rw [headText, Text.utf8_append, utf8_lines, utf8_crlf]
  rw [bytes] at fits ⊢
  apply readHead_lines
  · decide
  · exact .inr (by simpa using some)
  · intro line member
    obtain ⟨text, inLines, rfl⟩ := List.mem_map.mp member
    simpa using nonempty text inLines
  · intro line member
    obtain ⟨text, inLines, rfl⟩ := List.mem_map.mp member
    rw [Text.mem_utf8_iff_of_ascii '\n' (by decide) (by decide)]
    exact plain text inLines
  · simpa using fits

theorem visible_of_isTokenChar {character : Char}
    (token : isTokenChar character = true) : Text.IsVisible character := by
  have marks : ∀ mark ∈ "!#$%&'*+-.^_`|~".toList,
      Text.IsVisible mark := List.all_iff_forall_prop.mp (by decide)
  simp only [isTokenChar, Bool.or_eq_true, List.contains_eq_mem,
    decide_eq_true_eq] at token
  rcases token with alphanumeric | mark
  · exact Text.visible_of_isAlphanum alphanumeric
  · exact marks character mark

theorem HttpHeader.WellFormed.solid {header : HttpHeader}
    (wellFormed : header.WellFormed) :
    header.name ≠ [] ∧
      ∀ character ∈ header.name, Text.IsVisible character := by
  have token := wellFormed.name
  simp only [isToken, Bool.and_eq_true, decide_eq_true_eq] at token
  refine ⟨token.1, ?_⟩
  intro character member
  exact visible_of_isTokenChar
    (List.all_eq_true.mp token.2 character member)

theorem HttpHeader.WellFormed.plain {header : HttpHeader}
    (wellFormed : header.WellFormed) : '\n' ∉ header.line := by
  intro member
  rcases List.mem_append.mp member with inName | inValue
  · exact absurd (wellFormed.solid.2 '\n' inName) (by decide)
  · rcases List.mem_cons.mp inValue with colon | inValue
    · cases colon
    · cases wellFormed.value '\n' inValue (by decide)

/-- The header lines hold a word, unless there are none. -/
theorem splitWhitespace_headers {headers : List HttpHeader}
    (wellFormed : ∀ header ∈ headers, header.WellFormed) :
    Text.splitWhitespace
      ('\n' :: headText (headers.map HttpHeader.line)) = [] ↔
        headers = [] := by
  rw [Text.splitWhitespace_eq_nil_iff]
  constructor
  · intro blank
    cases headers with
    | nil => rfl
    | cons header others =>
        exfalso
        have solid := (wellFormed header List.mem_cons_self).solid
        obtain ⟨character, name, spelled⟩ :=
          List.exists_cons_of_ne_nil solid.1
        have member : character ∈ header.name := by simp [spelled]
        have space := blank character (by
          simp [headText, HttpHeader.line, member])
        rw [(solid.2 character member).isWhitespace] at space
        cases space
  · rintro rfl
    exact List.all_iff_forall_prop.mp (by decide)

variable {authority version : Text} {headers : List HttpHeader}
  {target : ProxyTarget}

theorem visible_of_isHttpVersion (known : isHttpVersion version = true) :
    ∀ character ∈ version, Text.IsVisible character := by
  simp only [isHttpVersion, Bool.or_eq_true, decide_eq_true_eq] at known
  rcases known with rfl | rfl
  · exact List.all_iff_forall_prop.mp (by decide)
  · exact List.all_iff_forall_prop.mp (by decide)

theorem isWhitespace_of_isHttpVersion (known : isHttpVersion version = true) :
    version ≠ [] ∧
      ∀ character ∈ version, Text.isWhitespace character = false := by
  constructor
  · rintro rfl
    cases known
  · intro character member
    exact (visible_of_isHttpVersion known character member).isWhitespace

theorem solid_connectMethod :
    ∀ character ∈ connectMethod, Text.isWhitespace character = false :=
  List.all_iff_forall_prop.mp (by decide)

theorem splitWhitespace_connectHead
    (accepted : ProxyTarget.fromAuthority authority = .ok target)
    (known : isHttpVersion version = true) :
    Text.splitWhitespace (connectHead authority version headers) =
      connectMethod :: authority :: version :: Text.splitWhitespace
        ('\n' :: headText (headers.map HttpHeader.line)) := by
  have words : connectHead authority version headers =
      connectMethod ++ ' ' :: (authority ++ ' ' :: (version ++ '\r' ::
        ('\n' :: headText (headers.map HttpHeader.line)))) := by
    simp [connectHead, headText, connectLine, crlf]
  have blank : Text.isWhitespace ' ' = true := by decide
  have ends : Text.isWhitespace '\r' = true := by decide
  have method : connectMethod ≠ [] := by decide
  obtain ⟨versionNonempty, versionSolid⟩ :=
    isWhitespace_of_isHttpVersion known
  rw [words,
    Text.splitWhitespace_word method solid_connectMethod blank,
    Text.splitWhitespace_word (ProxyTarget.ne_nil_of_fromAuthority accepted)
      (fun character member => (ProxyTarget.visible_of_fromAuthority
        accepted character member).isWhitespace) blank,
    Text.splitWhitespace_word versionNonempty versionSolid ends]

theorem plain_connectLine
    (accepted : ProxyTarget.fromAuthority authority = .ok target)
    (known : isHttpVersion version = true) :
    '\n' ∉ connectLine authority version := by
  intro member
  have solid : ∀ text : Text,
      (∀ character ∈ text, Text.isWhitespace character = false) →
        '\n' ∉ text := by
    intro text solid inText
    cases solid '\n' inText
  simp only [connectLine, List.mem_append, List.mem_cons] at member
  rcases member with inMethod | space | inAuthority | space | inVersion
  · exact solid connectMethod solid_connectMethod inMethod
  · cases space
  · exact solid authority
      (fun character member => (ProxyTarget.visible_of_fromAuthority
        accepted character member).isWhitespace) inAuthority
  · cases space
  · exact solid version (isWhitespace_of_isHttpVersion known).2 inVersion

theorem readHead_connectHead
    (accepted : ProxyTarget.fromAuthority authority = .ok target)
    (known : isHttpVersion version = true)
    (wellFormed : ∀ header ∈ headers, header.WellFormed)
    (fits : (Text.utf8 (connectHead authority version headers)).length ≤
      maxHandshakeBytes) (rest : List UInt8) :
    readHead [] (Text.utf8 (connectHead authority version headers) ++ rest) =
      .ok (Text.utf8 (connectHead authority version headers), rest) := by
  apply readHead_headText (List.cons_ne_nil _ _)
  · intro line member
    rcases List.mem_cons.mp member with rfl | later
    · simp [connectLine]
    · obtain ⟨header, _, rfl⟩ := List.mem_map.mp later
      simp [HttpHeader.line]
  · intro line member
    rcases List.mem_cons.mp member with rfl | later
    · exact plain_connectLine accepted known
    · obtain ⟨header, inHeaders, rfl⟩ := List.mem_map.mp later
      exact (wellFormed header inHeaders).plain
  · exact fits

/-- What becomes of a CONNECT request, whatever headers it carries. -/
theorem readHttpRequest_connectHead
    (accepted : ProxyTarget.fromAuthority authority = .ok target)
    (known : isHttpVersion version = true)
    (wellFormed : ∀ header ∈ headers, header.WellFormed)
    (fits : (Text.utf8 (connectHead authority version headers)).length ≤
      maxHandshakeBytes) {first : UInt8} {stream rest : List UInt8}
    (sent : first :: stream =
      Text.utf8 (connectHead authority version headers) ++ rest) :
    readHttpRequest first stream =
      if headers = [] then .ok (⟨target, .httpConnect⟩, rest)
      else .error (invalidRequest "invalid HTTP CONNECT request line") := by
  have head : readHead [first] stream =
      .ok (Text.utf8 (connectHead authority version headers), rest) := by
    rw [← readHead_connectHead accepted known wellFormed fits rest, ← sent,
      readHead, if_neg (by decide), if_neg (by decide), List.nil_append]
  have method : eqIgnoreAsciiCase connectMethod "CONNECT".toList = true := by
    decide
  have words := @splitWhitespace_connectHead authority version headers target
    accepted known
  have none := splitWhitespace_headers wellFormed
  rw [readHttpRequest, head]
  simp only [bind, Except.bind, Text.fromUtf8_utf8, okOr, words, method,
    if_true, known, Bool.true_eq_false, false_or, accepted, pure, Except.pure]
  by_cases empty : headers = []
  · rw [if_neg (not_not.mpr (none.mpr empty)), if_pos empty]
  · rw [if_pos (mt none.mp empty), if_neg empty]
    rfl

/-- A CONNECT request for an accepted authority, within the size limit, opens
its target exactly when it carries no header. -/
theorem connect_accepted_iff
    (accepted : ProxyTarget.fromAuthority authority = .ok target)
    (known : isHttpVersion version = true)
    (wellFormed : ∀ header ∈ headers, header.WellFormed)
    (fits : (Text.utf8 (connectHead authority version headers)).length ≤
      maxHandshakeBytes) {first : UInt8} {stream rest : List UInt8}
    (sent : first :: stream =
      Text.utf8 (connectHead authority version headers) ++ rest) :
    readHttpRequest first stream = .ok (⟨target, .httpConnect⟩, rest) ↔
      headers = [] := by
  rw [readHttpRequest_connectHead accepted known wellFormed fits sent]
  by_cases empty : headers = []
  · simp [empty]
  · simp [empty]

def sampleAuthority : Text := "example.com:443".toList

def sampleVersion : Text := "HTTP/1.1".toList

def hostHeader : HttpHeader :=
  ⟨"Host".toList, " example.com:443".toList⟩

theorem fromAuthority_sample : ProxyTarget.fromAuthority sampleAuthority =
    .ok (.domain "example.com".toList 443) := by
  rfl

theorem hostHeader_wellFormed : hostHeader.WellFormed := by
  constructor
  · decide
  · exact List.all_iff_forall_prop.mp (by decide)

/-- The stream of a sample request, after its first byte. -/
def sampleStream (headers : List HttpHeader) : List UInt8 :=
  (Text.utf8 (connectHead sampleAuthority sampleVersion headers)).tail ++ [7]

theorem connect_accepted_plain :
    readHttpRequest 67 (sampleStream []) =
      .ok (⟨.domain "example.com".toList 443, .httpConnect⟩, [7]) := by
  have known : isHttpVersion sampleVersion = true := by decide
  have fits : (Text.utf8 (connectHead sampleAuthority sampleVersion
      [])).length ≤ maxHandshakeBytes := by decide
  have sent : 67 :: sampleStream [] = Text.utf8
      (connectHead sampleAuthority sampleVersion []) ++ [7] := by decide
  exact (connect_accepted_iff fromAuthority_sample known (by simp) fits
    sent).mpr rfl

theorem connect_host_refused :
    hostHeader.WellFormed ∧
      (Text.utf8 (connectHead sampleAuthority sampleVersion
        [hostHeader])).length ≤ maxHandshakeBytes ∧
      67 :: sampleStream [hostHeader] = Text.utf8
        (connectHead sampleAuthority sampleVersion [hostHeader]) ++ [7] ∧
      ProxyTarget.fromAuthority sampleAuthority =
        .ok (.domain "example.com".toList 443) ∧
      readHttpRequest 67 (sampleStream [hostHeader]) = .error
        (invalidRequest "invalid HTTP CONNECT request line") := by
  have fits : (Text.utf8 (connectHead sampleAuthority sampleVersion
      [hostHeader])).length ≤ maxHandshakeBytes := by decide
  have sent : 67 :: sampleStream [hostHeader] = Text.utf8
      (connectHead sampleAuthority sampleVersion [hostHeader]) ++ [7] := by
    decide
  refine ⟨hostHeader_wellFormed, fits, sent, fromAuthority_sample, ?_⟩
  rw [readHttpRequest_connectHead fromAuthority_sample (by decide)
    (by simpa using hostHeader_wellFormed) fits sent]
  simp

end Velum.Proxy
