import Velum.Forest.CoverService

/-!
# What a cover connection sends

Whatever fails and wherever the connection is cut off, a client of the static
service is sent a front part of one response that an HTTP reader reads back as
the asset it asked for, and nothing before its request head is complete.  A
reverse proxy passes on what the two sides send.
-/

namespace Velum.Forest

open Foundation HttpMessage Protocol

/-! ## Heads of requests -/

/-- A stream begins with a head: the bytes up to the first empty line, if they
are few enough. -/
structure BeginsWith (stream head rest : Bytes) : Prop where
  whole : stream = head ++ rest
  ends : headEnd <:+ head
  first : ∀ front, front <+: head → headEnd <:+ front → front = head
  short : head.length ≤ maxRequestHeadBytes

section Reading

variable {safe : CoverWorld → CoverCall → Prop}
  {post : Except CoverServiceError Bytes → CoverWorld → Prop}

theorem guarantees_readByte {rest : UInt8 → CoverScript Bytes}
    {world : CoverWorld} (allowed : safe world .readByte)
    (fails : ∀ failure, post (.error failure) world)
    (reads : ∀ byte left, world.input = byte :: left →
      Script.Guarantees CoverWorld.Answers safe post (rest byte)
        { world with input := left }) :
    Script.Guarantees CoverWorld.Answers safe post
      (CoverScript.readByte >>= rest : CoverScript Bytes) world := by
  refine Script.guarantees_bind_except.mpr ⟨allowed, ?_⟩
  rintro reply after (⟨rfl | rfl, rfl⟩ | ⟨byte, left, input, rfl, rfl⟩)
  · exact fails .transport
  · exact fails .requestTimedOut
  · exact reads byte left input

/-- Reading on either fails, or it ends with the head that the stream begins
with. -/
theorem guarantees_readRequestHeadFrom {room : Nat} {head : Bytes}
    {world : CoverWorld}
    (allowed : ∀ input, safe { world with input } .readByte)
    (fails : ∀ input failure, post (.error failure) { world with input })
    (fits : head.length + room ≤ maxRequestHeadBytes)
    (unfinished : ∀ front, front <+: head → ¬headEnd <:+ front)
    (reads : ∀ full left, BeginsWith (head ++ world.input) full left →
      post (.ok full) { world with input := left }) :
    Script.Guarantees CoverWorld.Answers safe post
      (readRequestHeadFrom room head) world := by
  induction room generalizing head world with
  | zero => exact fails world.input .malformedRequest
  | succ room induction =>
      apply guarantees_readByte (allowed world.input) (fails world.input)
      intro byte left input
      have extended : head ++ world.input = head ++ [byte] ++ left := by
        rw [input, List.append_assoc, List.singleton_append]
      have longer : (head ++ [byte]).length = head.length + 1 :=
        List.length_append
      have fronts : ∀ front, front <+: head ++ [byte] →
          headEnd <:+ front → front = head ++ [byte] := by
        intro front within complete
        rcases List.prefix_concat_iff.mp within with same | shorter
        · exact same
        · exact absurd complete (unfinished front shorter)
      by_cases complete : headEnd <:+ head ++ [byte]
      · simp only [if_pos complete]
        apply reads
        exact ⟨extended, complete, fronts, by omega⟩
      · simp only [if_neg complete]
        refine @induction (head ++ [byte]) { world with input := left } allowed
          fails (by omega) ?_ ?_
        · intro front within ends
          rw [fronts front within ends] at ends
          exact complete ends
        · intro full rest begins
          rw [← extended] at begins
          exact reads full rest begins

theorem guarantees_readRequestHead {world : CoverWorld}
    (allowed : ∀ input, safe { world with input } .readByte)
    (fails : ∀ input failure, post (.error failure) { world with input })
    (reads : ∀ head left, BeginsWith world.input head left →
      post (.ok head) { world with input := left }) :
    Script.Guarantees CoverWorld.Answers safe post readRequestHead world := by
  apply guarantees_readRequestHeadFrom allowed fails
  · exact Nat.le_of_eq (Nat.zero_add _)
  · intro front within ends
    rw [List.prefix_nil.mp within, List.suffix_nil] at ends
    cases ends
  · exact reads

end Reading

/-! ## Responses as messages -/

def responseStatusLine (status : Text) : Bytes :=
  Text.utf8 ("HTTP/1.1 ".toList ++ status)

def contentTypeField (asset : StaticAsset) : Field :=
  ⟨Text.utf8 "Content-Type".toList, Text.utf8 asset.contentType⟩

def contentLengthField (asset : StaticAsset) : Field :=
  ⟨Text.utf8 "Content-Length".toList, decimal asset.body.length⟩

def connectionField : Field :=
  ⟨Text.utf8 "Connection".toList, Text.utf8 "close".toList⟩

def responseFields (asset : StaticAsset) : List Field :=
  [contentTypeField asset, contentLengthField asset, connectionField]

/-- The text between the value of a field and that of the next one. -/
def labelOf (name : Text) : Text :=
  "\r\n".toList ++ name ++ ": ".toList

theorem utf8_labelOf (name : Text) :
    Text.utf8 (labelOf name) = crlf ++ (Text.utf8 name ++ [colon, 32]) := by
  have ended : Text.utf8 "\r\n".toList = crlf := by decide
  have separator : Text.utf8 ": ".toList = [colon, 32] := by decide
  rw [labelOf, Text.utf8_append, Text.utf8_append, ended, separator,
    List.append_assoc]

theorem responseHead_eq (status : Text) (asset : StaticAsset) :
    responseHead status asset =
      "HTTP/1.1 ".toList ++ (status ++ (labelOf "Content-Type".toList ++
        (asset.contentType ++ (labelOf "Content-Length".toList ++
          (Nat.toDigits 10 asset.body.length ++
            (labelOf "Connection".toList ++ ("close".toList ++
              "\r\n\r\n".toList))))))) := by
  delta responseHead labelOf
  simp

theorem utf8_responseHead (status : Text) (asset : StaticAsset) :
    Text.utf8 (responseHead status asset) =
      writeHead (responseStatusLine status) (responseFields asset) := by
  have ended : Text.utf8 "\r\n\r\n".toList = crlf ++ crlf := by decide
  rw [responseHead_eq]
  simp only [Text.utf8_append, utf8_labelOf, ended]
  simp only [writeHead, responseFields, responseStatusLine, contentTypeField,
    contentLengthField, connectionField, Field.line, decimal, Text.utf8_append,
    List.flatMap_cons, List.flatMap_nil, List.append_assoc, List.append_nil,
    List.cons_append, List.nil_append]

/-- An asset whose content type fits on a line of its own. -/
def StaticAsset.Plain (asset : StaticAsset) : Prop :=
  carriageReturn ∉ Text.utf8 asset.contentType

theorem plain_of_validContentType {asset : StaticAsset}
    (valid : validContentType asset.contentType = true) : asset.Plain := by
  rw [validContentType, Bool.and_eq_true, List.all_eq_true] at valid
  intro member
  have printable := valid.2 carriageReturn member
  exact absurd printable (by decide)

section Asset

variable {asset : StaticAsset}

theorem responseFields_plain (plain : asset.Plain) :
    ∀ field ∈ responseFields asset, field.Plain := by
  have typed : (contentTypeField asset).Plain := by
    refine ⟨?_, plain⟩
    change colon ∉ Text.utf8 "Content-Type".toList ∧
      carriageReturn ∉ Text.utf8 "Content-Type".toList
    decide
  have sized : (contentLengthField asset).Plain := by
    refine ⟨?_, not_mem_decimal '\r' asset.body.length rfl (by decide)
      (by decide)⟩
    change colon ∉ Text.utf8 "Content-Length".toList ∧
      carriageReturn ∉ Text.utf8 "Content-Length".toList
    decide
  have closed : connectionField.Plain := ⟨by decide, by decide⟩
  simp only [responseFields, List.forall_mem_cons, typed, sized, closed,
    List.not_mem_nil, false_imp_iff, implies_true, and_self]

theorem contentLength_response :
    contentLength ((responseFields asset).map Field.stripped) =
      some asset.body.length := by
  have others : ∀ field ∈ [contentTypeField asset],
      field.name.map toLower ≠ contentLengthName := by
    rw [List.forall_mem_singleton]
    change (Text.utf8 "Content-Type".toList).map toLower ≠ contentLengthName
    decide
  have named : (contentLengthField asset).name.map toLower =
      contentLengthName := by
    change (Text.utf8 "Content-Length".toList).map toLower = contentLengthName
    decide
  apply contentLength_written others named
  exact stripSpace_decimal asset.body.length

end Asset

/-! ## The answer to a request -/

/-- The request wants a head without a body. -/
def asksForHead (head : Bytes) : Bool :=
  requestMethod head = some "HEAD".toList

/-- What a reader of the response finds. -/
def StaticService.reply (service : StaticService) (head : Bytes)
    (path : Text) : Response :=
  let (status, asset) := service.find path
  { statusLine := responseStatusLine status
    fields := (responseFields asset).map Field.stripped
    body := if asksForHead head then [] else asset.body }

def StaticService.responseTo (service : StaticService) (head : Bytes)
    (path : Text) : Bytes :=
  let (status, asset) := service.find path
  Text.utf8 (responseHead status asset) ++
    if asksForHead head then [] else asset.body

theorem StaticService.find_plain {service : StaticService}
    (valid : service.validate = .ok ()) (path : Text) :
    (service.find path).2.Plain := by
  have typed : ∀ entry ∈ service.assets.entries,
      validContentType entry.2.contentType = true := by
    intro entry member
    rw [StaticService.validate] at valid
    split at valid
    next => cases valid
    next accepted =>
      simp only [Bool.or_eq_true, decide_eq_true_eq, not_or, List.any_eq_true,
        Bool.not_eq_true', not_exists, not_and, Bool.not_eq_false] at accepted
      exact accepted.2 entry member
  rw [StaticService.find]
  split
  next asset found =>
    apply plain_of_validContentType
    exact typed _ (OrderedMap.get?_eq_some_iff.mp found)
  next => exact plain_of_validContentType (by decide)

theorem StaticService.find_unbroken (service : StaticService) (path : Text) :
    carriageReturn ∉ responseStatusLine (service.find path).1 := by
  have found : carriageReturn ∉ responseStatusLine "200 OK".toList := by decide
  have lost : carriageReturn ∉ responseStatusLine "404 Not Found".toList := by
    decide
  rw [StaticService.find]
  split
  next => exact found
  next => exact lost

/-- A reader of a response finds the asset that the service has for the
path. -/
theorem StaticService.read_responseTo {service : StaticService}
    (valid : service.validate = .ok ()) (head : Bytes) (path : Text) :
    Response.read (asksForHead head) (service.responseTo head path) =
      some (service.reply head path, []) := by
  have unbroken := service.find_unbroken path
  have plain := responseFields_plain (StaticService.find_plain valid path)
  cases asked : asksForHead head with
  | true =>
      have read := read_toHead unbroken plain []
      simpa [StaticService.responseTo, StaticService.reply, asked,
        utf8_responseHead] using read
  | false =>
      have read := read_body unbroken plain contentLength_response []
      simpa [StaticService.responseTo, StaticService.reply, asked,
        utf8_responseHead] using read

/-! ## Connections to the static service -/

/-- A response that a reader reads back as the asset which the head at the
beginning of the input asks for. -/
def StaticService.Answers (service : StaticService) (input whole : Bytes) :
    Prop :=
  ∃ head rest path, BeginsWith input head rest ∧
    requestPath head = some path ∧
    Response.read (asksForHead head) whole =
      some (service.reply head path, [])

/-- A front part of one answer, and nothing to an upstream server. -/
def StaticService.Keeps (service : StaticService) (input : Bytes)
    (world : CoverWorld) : Prop :=
  world.upstreamInput = [] ∧ (world.output = [] ∨
    ∃ whole, service.Answers input whole ∧ world.output <+: whole)

/-- A connection that succeeds is answered in full; one that fails for another
reason than the transport is sent nothing. -/
structure StaticService.Ends (service : StaticService) (input : Bytes)
    (result : Except CoverServiceError Unit) (world : CoverWorld) :
    Prop where
  keeps : service.Keeps input world
  answered : result = .ok () → service.Answers input world.output
  silent : ∀ failure, result = .error failure → failure ≠ .transport →
    world.output = []

section Writing

variable {safe : CoverWorld → CoverCall → Prop}
  {post : Except CoverServiceError Unit → CoverWorld → Prop}
  {bytes : Bytes} {world : CoverWorld} {rest : CoverScript Unit}

theorem guarantees_write (allowed : safe world (.write bytes))
    (fails : ∀ sent, sent <+: bytes → post (.error .transport)
      { world with output := world.output ++ sent })
    (writes : Script.Guarantees CoverWorld.Answers safe post rest
      { world with output := world.output ++ bytes }) :
    Script.Guarantees CoverWorld.Answers safe post
      (CoverScript.write bytes >>= fun _ => rest : CoverScript Unit)
      world := by
  refine Script.guarantees_bind_except.mpr ⟨allowed, ?_⟩
  rintro reply after (⟨sent, part, rfl, rfl⟩ | ⟨rfl, rfl⟩)
  · exact fails sent part
  · exact writes

theorem guarantees_write_last (allowed : safe world (.write bytes))
    (fails : ∀ sent, sent <+: bytes → post (.error .transport)
      { world with output := world.output ++ sent })
    (writes : post (.ok ()) { world with output := world.output ++ bytes }) :
    Script.Guarantees CoverWorld.Answers safe post
      (CoverScript.write bytes) world := by
  refine ⟨allowed, ?_⟩
  rintro reply after (⟨sent, part, rfl, rfl⟩ | ⟨rfl, rfl⟩)
  · exact fails sent part
  · exact writes

end Writing

theorem requestMethod_ne_iff (head : Bytes) :
    requestMethod head ≠ some "HEAD".toList ↔ asksForHead head = false :=
  decide_eq_false_iff_not.symm

theorem guarantees_serveStatic {service : StaticService}
    (valid : service.validate = .ok ()) {input head rest : Bytes}
    {world : CoverWorld} (begins : BeginsWith input head rest)
    (silent : world.output = []) (alone : world.upstreamInput = []) :
    Script.Guarantees CoverWorld.Answers
      (fun world _ => service.Keeps input world) (service.Ends input)
      (serveStatic service head) world := by
  rw [serveStatic]
  have quiet : service.Keeps input world := ⟨alone, .inl silent⟩
  cases asked : requestPath head with
  | none =>
      refine ⟨quiet, ?_, fun _ _ _ => silent⟩
      intro done
      cases done
  | some path =>
      have answers : service.Answers input (service.responseTo head path) :=
        ⟨head, rest, path, begins, asked,
          StaticService.read_responseTo valid head path⟩
      have part : ∀ sent, sent <+: service.responseTo head path →
          service.Keeps input
            { world with output := world.output ++ sent } := by
        intro sent front
        rw [silent, List.nil_append]
        exact ⟨alone, .inr ⟨_, answers, front⟩⟩
      have cut : ∀ sent, sent <+: service.responseTo head path →
          service.Ends input (.error .transport)
            { world with output := world.output ++ sent } := by
        intro sent front
        refine ⟨part sent front, ?_, ?_⟩
        · intro done
          cases done
        · intro failure failed other
          cases failed
          exact absurd rfl other
      have full : service.Ends input (.ok ())
          { world with
            output := world.output ++ service.responseTo head path } := by
        refine ⟨part _ List.prefix_rfl, ?_, ?_⟩
        · intro _
          rw [silent, List.nil_append]
          exact answers
        · intro failure failed
          cases failed
      cases found : service.find path with
      | mk status asset =>
          simp only [StaticService.responseTo, found] at part cut full
          simp only [found, requestMethod_ne_iff]
          have front : ∀ sent, sent <+: Text.utf8 (responseHead status asset) →
              ∀ body, sent <+: Text.utf8 (responseHead status asset) ++ body :=
            fun sent begun body =>
              begun.trans (List.prefix_append _ body)
          apply guarantees_write quiet
          · intro sent begun
            exact cut sent (front sent begun _)
          · cases toHead : asksForHead head with
            | true =>
                rw [toHead, if_pos rfl, List.append_nil] at full
                exact full
            | false =>
                rw [toHead, if_neg Bool.false_ne_true] at part cut full
                apply guarantees_write_last
                · exact part _ (List.prefix_append _ _)
                · intro sent begun
                  have more := cut
                    (Text.utf8 (responseHead status asset) ++ sent)
                    ((List.prefix_append_right_inj _).mpr begun)
                  rwa [← List.append_assoc] at more
                · rwa [← List.append_assoc] at full

/-! ## Connections to the reverse proxy -/

/-- Each side is sent a front part of what the other one sends.  The upstream
server is sent nothing of an unfinished request head, and the client nothing
before the upstream server has the whole head. -/
structure Relays (input upstreamOutput : Bytes) (world : CoverWorld) :
    Prop where
  forward : world.upstreamInput <+: input
  backward : world.output <+: upstreamOutput
  complete : world.upstreamInput ≠ [] → ∃ head rest, BeginsWith input head rest
  headFirst : world.output ≠ [] →
    ∃ head rest, BeginsWith input head rest ∧ head <+: world.upstreamInput

structure RelayEnds (input upstreamOutput : Bytes)
    (result : Except CoverServiceError Unit) (world : CoverWorld) :
    Prop where
  relays : Relays input upstreamOutput world
  finished : result = .ok () →
    world.upstreamInput = input ∧ world.output = upstreamOutput
  silent : ∀ failure, result = .error failure → failure ≠ .transport →
    world.upstreamInput = [] ∧ world.output = []

theorem relays_of_silent {input upstreamOutput : Bytes} {world : CoverWorld}
    (silent : world.output = []) (alone : world.upstreamInput = []) :
    Relays input upstreamOutput world where
  forward := alone ▸ List.nil_prefix
  backward := silent ▸ List.nil_prefix
  complete := fun sent => absurd alone sent
  headFirst := fun answered => absurd silent answered

theorem relayEnds_of_silent {input upstreamOutput : Bytes} {world : CoverWorld}
    {failure : CoverServiceError} (silent : world.output = [])
    (alone : world.upstreamInput = []) :
    RelayEnds input upstreamOutput (.error failure) world where
  relays := relays_of_silent silent alone
  finished := fun done => by cases done
  silent := fun _ _ _ => ⟨alone, silent⟩

theorem relayEnds_of_transport {input upstreamOutput : Bytes}
    {world : CoverWorld} (relays : Relays input upstreamOutput world) :
    RelayEnds input upstreamOutput (.error .transport) world where
  relays := relays
  finished := fun done => by cases done
  silent := by
    intro failure failed other
    cases failed
    exact absurd rfl other

theorem guarantees_relay {upstream : SocketAddr}
    {input upstreamOutput head rest : Bytes}
    (begins : BeginsWith input head rest) :
    Script.Guarantees CoverWorld.Answers
      (fun world _ => Relays input upstreamOutput world)
      (RelayEnds input upstreamOutput)
      (do
        CoverScript.connectUpstream upstream
        CoverScript.writeUpstream head
        CoverScript.copyBidirectional : CoverScript Unit)
      ⟨rest, [], [], upstreamOutput⟩ := by
  have quiet : Relays input upstreamOutput ⟨rest, [], [], upstreamOutput⟩ :=
    relays_of_silent rfl rfl
  have forwards : ∀ {sent answered left pending : Bytes}, sent <+: rest →
      answered <+: upstreamOutput →
      Relays input upstreamOutput ⟨left, answered, head ++ sent, pending⟩ := by
    intro sent answered left pending front back
    refine ⟨?_, back, fun _ => ⟨head, rest, begins⟩, fun _ => ?_⟩
    · rw [begins.whole]
      exact (List.prefix_append_right_inj head).mpr front
    · exact ⟨head, rest, begins, List.prefix_append head sent⟩
  have copying : Relays input upstreamOutput
      ⟨rest, [], head, upstreamOutput⟩ := by
    have started := @forwards [] [] rest upstreamOutput List.nil_prefix
      List.nil_prefix
    rwa [List.append_nil] at started
  refine Script.guarantees_bind_except.mpr ⟨quiet, ?_⟩
  rintro reply after ⟨rfl | rfl, rfl⟩
  · exact relayEnds_of_silent rfl rfl
  refine Script.guarantees_bind_except.mpr ⟨quiet, ?_⟩
  rintro reply after (⟨sent, part, rfl, rfl⟩ | ⟨rfl, rfl⟩)
  · apply relayEnds_of_transport
    refine ⟨?_, List.nil_prefix, fun _ => ⟨head, rest, begins⟩, ?_⟩
    · rw [begins.whole]
      exact part.trans (List.prefix_append head rest)
    · exact fun answered => absurd rfl answered
  refine ⟨copying, ?_⟩
  rintro reply after (⟨sent, answered, left, pending, front, back, rfl, rfl⟩ |
    ⟨rfl, rfl⟩)
  · exact relayEnds_of_transport (forwards front back)
  · refine ⟨forwards List.prefix_rfl List.prefix_rfl, fun _ => ?_, ?_⟩
    · exact ⟨begins.whole.symm, rfl⟩
    · intro failure failed
      cases failed

/-! ## Any connection -/

def CoverServiceMode.Keeps (input upstreamOutput : Bytes)
    (world : CoverWorld) : CoverServiceMode → Prop
  | .static service => service.Keeps input world
  | .reverseProxy _ => Relays input upstreamOutput world

def CoverServiceMode.Ends (input upstreamOutput : Bytes)
    (result : Except CoverServiceError Unit) (world : CoverWorld) :
    CoverServiceMode → Prop
  | .static service => service.Ends input result world
  | .reverseProxy _ => RelayEnds input upstreamOutput result world

section Connection

variable {config : CoverServiceConfig} {input upstreamOutput : Bytes}
  {mode : CoverServiceMode}

theorem CoverServiceMode.keeps_of_silent (left : Bytes) :
    mode.Keeps input upstreamOutput ⟨left, [], [], upstreamOutput⟩ := by
  cases mode with
  | static service => exact ⟨rfl, .inl rfl⟩
  | reverseProxy upstream => exact relays_of_silent rfl rfl

theorem CoverServiceMode.ends_of_silent (left : Bytes)
    (failure : CoverServiceError) :
    mode.Ends input upstreamOutput (.error failure)
      ⟨left, [], [], upstreamOutput⟩ := by
  cases mode with
  | static service =>
      refine ⟨⟨rfl, .inl rfl⟩, ?_, fun _ _ _ => rfl⟩
      intro done
      cases done
  | reverseProxy upstream => exact relayEnds_of_silent rfl rfl

theorem CoverServiceMode.keeps_of_ends {world : CoverWorld}
    {result : Except CoverServiceError Unit}
    (ends : mode.Ends input upstreamOutput result world) :
    mode.Keeps input upstreamOutput world := by
  cases mode with
  | static service => exact ends.keeps
  | reverseProxy upstream => exact ends.relays

theorem CoverServiceConfig.mode_validate
    (valid : config.validate = .ok ()) : config.mode.validate = .ok () := by
  rw [CoverServiceConfig.validate] at valid
  split at valid
  next => cases valid
  next =>
    split at valid
    next => cases valid
    next =>
      split at valid
      next => cases valid
      next => exact valid

theorem guarantees_serveCoverConnection :
    Script.Guarantees CoverWorld.Answers
      (fun world _ => config.mode.Keeps input upstreamOutput world)
      (fun result world => config.mode.Ends input upstreamOutput result world)
      (serveCoverConnection config) ⟨input, [], [], upstreamOutput⟩ := by
  rw [serveCoverConnection]
  cases accepted : config.validate with
  | error failure => exact CoverServiceMode.ends_of_silent input .invalidConfig
  | ok _ =>
      have valid := CoverServiceConfig.mode_validate accepted
      refine Script.guarantees_bind_except.mpr ?_
      apply guarantees_readRequestHead
      · exact CoverServiceMode.keeps_of_silent
      · exact CoverServiceMode.ends_of_silent
      · intro head rest begins
        generalize config.mode = mode at valid ⊢
        cases mode with
        | static service =>
            exact guarantees_serveStatic valid begins rfl rfl
        | reverseProxy upstream => exact guarantees_relay begins

/-- Wherever a connection is cut off, its client has been sent nothing or a
front part of one response for the head it sent, whatever has failed; and when
the connection ends without a failure, the whole of it. -/
theorem cover_connection_answers :
    (∀ final, Script.Leads CoverWorld.Answers ⟨input, [], [], upstreamOutput⟩
      (serveCoverConnection config) final →
        config.mode.Keeps input upstreamOutput final) ∧
    ∀ result final, Script.Ends CoverWorld.Answers
      ⟨input, [], [], upstreamOutput⟩ (serveCoverConnection config) result
      final → config.mode.Ends input upstreamOutput result final := by
  have held := @guarantees_serveCoverConnection config input upstreamOutput
  refine ⟨?_, fun result final ended => held.of_ends ended⟩
  intro final cut
  refine held.of_leads (fun kept => kept) ?_ cut
  exact CoverServiceMode.keeps_of_ends

end Connection

/-! ## A run without failures -/

def CoverWorld.perform (world : CoverWorld) :
    (call : CoverCall) → call.Reply × CoverWorld
  | .readByte =>
      match world.input with
      | [] => (.error .transport, world)
      | byte :: rest => (.ok byte, { world with input := rest })
  | .write bytes => (.ok (), { world with output := world.output ++ bytes })
  | .connectUpstream _ => (.ok (), world)
  | .writeUpstream bytes =>
      (.ok (), { world with upstreamInput := world.upstreamInput ++ bytes })
  | .copyBidirectional =>
      (.ok (), {
        input := []
        output := world.output ++ world.upstreamOutput
        upstreamInput := world.upstreamInput ++ world.input
        upstreamOutput := [] })

theorem CoverWorld.answers_perform (world : CoverWorld) (call : CoverCall) :
    world.Answers call (world.perform call).1 (world.perform call).2 := by
  cases call with
  | readByte =>
      cases input : world.input with
      | nil =>
          simp only [CoverWorld.perform, input]
          exact .inl ⟨.inl rfl, rfl⟩
      | cons byte rest =>
          simp only [CoverWorld.perform, input]
          exact .inr ⟨byte, rest, input, rfl, rfl⟩
  | write bytes => exact .inr ⟨rfl, rfl⟩
  | connectUpstream upstream => exact ⟨.inr rfl, rfl⟩
  | writeUpstream bytes => exact .inr ⟨rfl, rfl⟩
  | copyBidirectional => exact .inr ⟨rfl, rfl⟩

def plainService : StaticService where
  assets := OrderedMap.empty.insert "/" ⟨"text/plain".toList, [104, 105]⟩

def plainConfig : CoverServiceConfig where
  schemaVersion := 1
  mode := .static plainService
  requestHeadTimeout := 1
  upstreamTimeout := 1

def plainRequest : Bytes := Text.utf8 "GET / \r\n\r\n".toList

def plainResponse : Bytes := Text.utf8
  ("HTTP/1.1 200 OK\r\nContent-Type: text/plain\r\nContent-Length: 2\r\n" ++
    "Connection: close\r\n\r\nhi").toList

theorem cover_connection_answers_sample :
    plainService.Answers plainRequest plainResponse := by
  have run := Script.ends_run CoverWorld.answers_perform
    (serveCoverConnection plainConfig) ⟨plainRequest, [], [], []⟩
  have done : Script.run CoverWorld.perform (serveCoverConnection plainConfig)
      ⟨plainRequest, [], [], []⟩ = (.ok (), ⟨[], plainResponse, [], []⟩) := by
    decide +kernel
  rw [done] at run
  have ends := cover_connection_answers.2 _ _ run
  exact StaticService.Ends.answered ends rfl

end Velum.Forest
