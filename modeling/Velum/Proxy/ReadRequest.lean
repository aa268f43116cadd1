import Velum.Foundation.ByteReader
import Velum.Proxy.ForwardHead

/-!
# Requests to the local proxy

The first byte of a connection selects SOCKS5 or HTTP.  Host names are only
accepted with a port other than zero; literal addresses of a SOCKS5 request
and of an authority with a port are taken as they are.
-/

namespace Velum.Proxy

open Foundation Protocol

/-! ## SOCKS5 -/

def earlyEof : IoError := ⟨.unexpectedEof, "early eof"⟩

abbrev ProxyReader := ByteReader IoError

namespace ProxyReader

def ofResult {Value : Type} : Except IoError Value → ProxyReader Value
  | .ok value => pure value
  | .error failure => throw failure

theorem run_ofResult_eq_ok_iff {Value : Type} {result : Except IoError Value}
    {input rest : List UInt8} {value : Value} :
    (ofResult result).run input = .ok (value, rest) ↔
      result = .ok value ∧ rest = input := by
  cases result with
  | error failure =>
      constructor
      · intro read
        exact absurd read ByteReader.run_throw_ne_ok
      · rintro ⟨impossible, _⟩
        cases impossible
  | ok found =>
      rw [ofResult, ByteReader.run_pure_eq_ok_iff, Except.ok.injEq,
        eq_comm (a := value)]

end ProxyReader

/-- The address of a request, without its port. -/
def readSocks5Address (kind : UInt8) : ProxyReader ProxyTarget :=
  if kind = 1 then do
    let value ← ByteReader.take earlyEof 4
    pure (.address (SocketAddr.new (.v4 value) 0))
  else if kind = 4 then do
    let value ← ByteReader.take earlyEof 16
    pure (.address (SocketAddr.new (.v6 value) 0))
  else if kind = 3 then do
    let length ← ByteReader.take earlyEof 1
    let host ← ByteReader.take earlyEof length.head.toNat
    match Text.fromUtf8 host.toList with
    | some host => pure (.domain host 0)
    | none => throw (invalidTarget "proxy target hostname is not UTF-8")
  else throw (invalidRequest "invalid SOCKS address type")

def withPort (port : UInt16) : ProxyTarget → Except IoError ProxyTarget
  | .address address => .ok (.address (SocketAddr.new address.ip port))
  | .domain host _ => ProxyTarget.fromHostPort (Text.utf8 host) port

/-- Reads a request after its first byte.  `reply` is what comes of writing
the selected method back. -/
def readSocks5Target (reply : Except IoError Unit) :
    ProxyReader ProxyTarget := do
  let count ← ByteReader.take earlyEof 1
  let methods ← ByteReader.take earlyEof count.head.toNat
  if 0 ∈ methods.toList then do
    ProxyReader.ofResult reply
    let request ← ByteReader.take earlyEof 4
    if request.toList.take 3 = [5, 1, 0] then do
      let address ← readSocks5Address (request.get 3)
      let port ← ByteReader.word16 earlyEof
      ProxyReader.ofResult (withPort port address)
    else throw (invalidRequest "only SOCKS CONNECT is supported")
  else throw ⟨.permissionDenied, "SOCKS authentication is required"⟩

def readRequest (reply : Except IoError Unit) :
    List UInt8 → Except IoError (ProxyRequest × List UInt8)
  | [] => .error earlyEof
  | first :: stream =>
      if first = 5 then
        ((readSocks5Target reply).run stream).map fun (target, rest) =>
          (⟨target, .socks5⟩, rest)
      else readHttpRequest first stream

/-! ## What a SOCKS5 request names -/

/-- A request of a kind with the bytes of an address, and its target. -/
inductive SocksTarget : UInt8 → List UInt8 → UInt16 → ProxyTarget → Prop where
  | ipv4 (octets : List.Vector UInt8 4) (port : UInt16) :
      SocksTarget 1 octets.toList port
        (.address (SocketAddr.new (.v4 octets) port))
  | ipv6 (octets : List.Vector UInt8 16) (port : UInt16) :
      SocksTarget 4 octets.toList port
        (.address (SocketAddr.new (.v6 octets) port))
  | domain {host : Text} {length : UInt8} {port : UInt16}
      {target : ProxyTarget} (counted : (Text.utf8 host).length = length.toNat)
      (accepted : ProxyTarget.fromHostPort (Text.utf8 host) port =
        .ok target) :
      SocksTarget 3 (length :: Text.utf8 host) port target

/-- The bytes of a request after the first one. -/
def socksBytes (methods : List UInt8) (kind : UInt8)
    (address port rest : List UInt8) : List UInt8 :=
  UInt8.ofNat methods.length ::
    (methods ++ ([5, 1, 0, kind] ++ (address ++ (port ++ rest))))

theorem toList_one (bytes : List.Vector UInt8 1) :
    bytes.toList = [bytes.head] := by
  obtain ⟨list, width⟩ := bytes
  obtain ⟨byte, rfl⟩ := List.length_eq_one_iff.mp width
  rfl

theorem toList_four {bytes : List.Vector UInt8 4}
    (starts : bytes.toList.take 3 = [5, 1, 0]) :
    bytes.toList = [5, 1, 0, bytes.get 3] := by
  obtain ⟨list, width⟩ := bytes
  rcases list with _ | ⟨one, _ | ⟨two, _ | ⟨three, _ | ⟨four, _ | rest⟩⟩⟩⟩
  all_goals simp at width
  simp only [List.Vector.toList_mk, List.take_succ_cons, List.take_zero,
    List.cons.injEq] at starts
  obtain ⟨rfl, rfl, rfl, _⟩ := starts
  rfl

theorem readSocks5Address_eq_ok {kind : UInt8} {input rest : List UInt8}
    {address target : ProxyTarget} {port : UInt16}
    (read : (readSocks5Address kind).run input = .ok (address, rest))
    (made : withPort port address = .ok target) :
    ∃ bytes, input = bytes ++ rest ∧ SocksTarget kind bytes port target := by
  rw [readSocks5Address] at read
  split at read
  next isFour =>
      obtain ⟨octets, middle, taken, ends⟩ :=
        (ByteReader.reads_take _ _).bind_iff.mp read
      obtain ⟨rfl, rfl⟩ := ByteReader.run_pure_eq_ok_iff.mp ends
      obtain rfl := Except.ok.inj made
      rw [isFour]
      exact ⟨_, taken, .ipv4 octets port⟩
  next =>
      split at read
      next isSix =>
          obtain ⟨octets, middle, taken, ends⟩ :=
            (ByteReader.reads_take _ _).bind_iff.mp read
          obtain ⟨rfl, rfl⟩ := ByteReader.run_pure_eq_ok_iff.mp ends
          obtain rfl := Except.ok.inj made
          rw [isSix]
          exact ⟨_, taken, .ipv6 octets port⟩
      next =>
          split at read
          next isDomain =>
              obtain ⟨length, middle, taken, readHost⟩ :=
                (ByteReader.reads_take _ _).bind_iff.mp read
              obtain ⟨host, after, takenHost, ends⟩ :=
                (ByteReader.reads_take _ _).bind_iff.mp readHost
              cases decoded : Text.fromUtf8 host.toList with
              | none =>
                  rw [decoded] at ends
                  exact absurd ends ByteReader.run_throw_ne_ok
              | some text =>
                  rw [decoded] at ends
                  obtain ⟨rfl, rfl⟩ := ByteReader.run_pure_eq_ok_iff.mp ends
                  have bytes := Text.utf8_of_fromUtf8 decoded
                  have counted : (Text.utf8 text).length =
                      length.head.toNat := by
                    rw [bytes, host.toList_length]
                  rw [isDomain, taken, takenHost, toList_one, ← bytes]
                  exact ⟨_, rfl, .domain counted made⟩
          next => exact absurd read ByteReader.run_throw_ne_ok

theorem readSocks5Target_eq_ok {reply : Except IoError Unit}
    {stream rest : List UInt8} {target : ProxyTarget}
    (read : (readSocks5Target reply).run stream = .ok (target, rest)) :
    ∃ methods kind address port, methods.length < 256 ∧
      SocksTarget kind address port target ∧
      stream = socksBytes methods kind address (wordBytes16 port) rest := by
  rw [readSocks5Target] at read
  obtain ⟨count, afterCount, takenCount, readMethods⟩ :=
    (ByteReader.reads_take _ _).bind_iff.mp read
  obtain ⟨methods, afterMethods, takenMethods, readReply⟩ :=
    (ByteReader.reads_take _ _).bind_iff.mp readMethods
  have counted : methods.toList.length = count.head.toNat :=
    methods.toList_length
  have short : methods.toList.length < 256 := by
    rw [counted]
    exact count.head.toNat_lt
  split at readReply
  next =>
      obtain ⟨_, same, replied, readKind⟩ :=
        ByteReader.run_bind_eq_ok_iff.mp readReply
      obtain ⟨_, rfl⟩ := ProxyReader.run_ofResult_eq_ok_iff.mp replied
      obtain ⟨request, afterKind, takenKind, readAddress⟩ :=
        (ByteReader.reads_take _ _).bind_iff.mp readKind
      split at readAddress
      next starts =>
          obtain ⟨address, afterAddress, isAddress, readPort⟩ :=
            ByteReader.run_bind_eq_ok_iff.mp readAddress
          obtain ⟨port, afterPort, takenPort, ends⟩ :=
            (ByteReader.reads_word16 _).bind_iff.mp readPort
          obtain ⟨made, rfl⟩ := ProxyReader.run_ofResult_eq_ok_iff.mp ends
          obtain ⟨bytes, takenAddress, named⟩ :=
            readSocks5Address_eq_ok isAddress made
          refine ⟨methods.toList, request.get 3, bytes, port, short, named, ?_⟩
          rw [takenCount, takenMethods, takenKind, takenAddress, takenPort,
            socksBytes, toList_one, toList_four starts, counted]
          simp
      next => exact absurd readAddress ByteReader.run_throw_ne_ok
  next => exact absurd readReply ByteReader.run_throw_ne_ok

/-! ## Ports -/

def ProxyTarget.port : ProxyTarget → UInt16
  | .address socket => socket.port
  | .domain _ number => number

theorem port_new (ip : IpAddr) (port : UInt16) :
    (SocketAddr.new ip port).port = port := by
  cases ip <;> rfl

namespace ProxyTarget

theorem port_of_fromHostPort {host : List UInt8} {port : UInt16}
    {target : ProxyTarget} (accepted : fromHostPort host port = .ok target) :
    target.port ≠ 0 := by
  rw [fromHostPort] at accepted
  split at accepted
  next => cases accepted
  next nonzero =>
      split at accepted
      next => cases accepted
      next text decoded =>
          obtain ⟨_, _, made⟩ := bind_eq_ok accepted
          cases made
          exact nonzero

theorem port_of_validAddress {address : SocketAddr} {target : ProxyTarget}
    (accepted : validAddress address = .ok target) : target.port ≠ 0 := by
  rw [validAddress] at accepted
  split at accepted
  next => cases accepted
  next nonzero =>
      cases accepted
      exact nonzero

/-- An authority with a port names port zero only as a literal. -/
theorem port_of_fromAuthority {authority : Text} {target : ProxyTarget}
    (accepted : fromAuthority authority = .ok target) :
    target.port = 0 ↔ ∃ literal,
      AddressText.parseSocketAddr authority = some literal ∧
        literal.port = 0 := by
  rw [fromAuthority] at accepted
  split at accepted
  next literal parsed =>
      cases accepted
      simp [parsed, port]
  next parsed =>
      have named : target.port ≠ 0 := by
        split at accepted
        next => cases accepted
        next =>
            split at accepted
            next => cases accepted
            next =>
                split at accepted
                next => cases accepted
                next => exact port_of_fromHostPort accepted
      simp [parsed, named]

theorem port_of_fromHttpAuthority {authority : Text} {target : ProxyTarget}
    (accepted : fromHttpAuthority authority = .ok target) :
    target.port = 0 ↔ authority.head? ≠ some '[' ∧ ':' ∈ authority ∧
      ∃ literal, AddressText.parseSocketAddr authority = some literal ∧
        literal.port = 0 := by
  rw [fromHttpAuthority] at accepted
  split at accepted
  next bracket =>
      have named : target.port ≠ 0 := by
        split at accepted
        next => cases accepted
        next =>
            split at accepted
            next => cases accepted
            next =>
                obtain ⟨port, _, made⟩ := bind_eq_ok accepted
                exact port_of_validAddress made
      simp [bracket, named]
  next bracket =>
      split at accepted
      next colon =>
          rw [port_of_fromAuthority accepted]
          simp [bracket, colon]
      next colon =>
          have named : target.port ≠ 0 := by
            split at accepted
            next => exact port_of_validAddress accepted
            next => exact port_of_fromHostPort accepted
          simp [colon, named]

end ProxyTarget

theorem SocksTarget.port_eq_zero_iff {kind : UInt8} {bytes : List UInt8}
    {port : UInt16} {target : ProxyTarget}
    (named : SocksTarget kind bytes port target) :
    target.port = 0 ↔ port = 0 ∧
      (kind = 1 ∧ bytes.length = 4 ∨ kind = 4 ∧ bytes.length = 16) := by
  cases named with
  | ipv4 octets => simp [ProxyTarget.port, port_new]
  | ipv6 octets => simp [ProxyTarget.port, port_new]
  | domain counted accepted =>
      simp [ProxyTarget.port_of_fromHostPort accepted]

/-- The kind of a request fixes how many bytes its address has. -/
theorem SocksTarget.length_eq {kind : UInt8} {bytes : List UInt8}
    {port : UInt16} {target : ProxyTarget}
    (named : SocksTarget kind bytes port target) {other : List UInt8}
    (literal : kind = 1 ∧ other.length = 4 ∨ kind = 4 ∧ other.length = 16) :
    bytes.length = other.length := by
  cases named with
  | ipv4 octets =>
      rcases literal with ⟨_, width⟩ | ⟨impossible, _⟩
      · rw [width, octets.toList_length]
      · cases impossible
  | ipv6 octets =>
      rcases literal with ⟨impossible, _⟩ | ⟨_, width⟩
      · cases impossible
      · rw [width, octets.toList_length]
  | domain counted accepted =>
      rcases literal with ⟨impossible, _⟩ | ⟨impossible, _⟩
      · cases impossible
      · cases impossible

/-! ## Requests that name port zero -/

/-- A SOCKS5 request for a literal address, or an HTTP request whose authority
is a literal address, with port zero. -/
inductive NamesPortZero : List UInt8 → Prop where
  | socks {methods address rest : List UInt8} {kind : UInt8}
      (short : methods.length < 256)
      (literal : kind = 1 ∧ address.length = 4 ∨
        kind = 4 ∧ address.length = 16) :
      NamesPortZero (5 :: socksBytes methods kind address [0, 0] rest)
  | connect {stream rest : List UInt8} {head method authority version : Text}
      {literal : SocketAddr} (http : stream.head? ≠ some 5)
      (read : readHead [] stream = .ok (Text.utf8 head, rest))
      (words : Text.splitWhitespace head = [method, authority, version])
      (connects : eqIgnoreAsciiCase method "CONNECT".toList = true)
      (parsed : AddressText.parseSocketAddr authority = some literal)
      (zero : literal.port = 0) : NamesPortZero stream
  | forward {stream rest : List UInt8} {request : ForwardHead}
      {literal : SocketAddr} (http : stream.head? ≠ some 5)
      (read : readHead [] stream = .ok (request.bytes, rest))
      (forwards : eqIgnoreAsciiCase request.method "CONNECT".toList = false)
      (unbracketed : request.authority.head? ≠ some '[')
      (colon : ':' ∈ request.authority)
      (parsed : AddressText.parseSocketAddr request.authority = some literal)
      (zero : literal.port = 0) : NamesPortZero stream

theorem socks_names_port_zero_iff {reply : Except IoError Unit}
    {stream rest : List UInt8} {target : ProxyTarget}
    (read : (readSocks5Target reply).run stream = .ok (target, rest)) :
    target.port = 0 ↔ NamesPortZero (5 :: stream) := by
  obtain ⟨methods, kind, address, port, short, named, rfl⟩ :=
    readSocks5Target_eq_ok read
  rw [named.port_eq_zero_iff]
  constructor
  · rintro ⟨rfl, literal⟩
    exact .socks short literal
  · intro zero
    generalize sent : 5 :: socksBytes methods kind address
      (wordBytes16 port) rest = bytes at zero
    cases zero with
    | connect http => exact absurd (by rw [← sent]; rfl) http
    | forward http => exact absurd (by rw [← sent]; rfl) http
    | @socks others bytes more found shorter literal =>
        obtain ⟨_, afterFive⟩ := List.cons.inj sent
        obtain ⟨counts, afterCount⟩ := List.cons.inj afterFive
        have lengths : methods.length = others.length := by
          have values := congrArg UInt8.toNat counts
          simpa [UInt8.toNat_ofNat', Nat.mod_eq_of_lt short,
            Nat.mod_eq_of_lt shorter] using values
        obtain ⟨_, afterMethods⟩ := List.append_inj afterCount lengths
        obtain ⟨kinds, afterKind⟩ := List.append_inj afterMethods rfl
        obtain rfl : kind = found := by simpa using kinds
        obtain ⟨rfl, afterAddress⟩ := List.append_inj afterKind
          (named.length_eq literal)
        obtain ⟨ports, _⟩ := List.append_inj afterAddress
          (length_wordBytes16 port)
        refine ⟨?_, literal⟩
        rw [← word16_wordBytes16 port, ports]
        rfl

theorem readHead_first (first : UInt8) (stream : List UInt8) :
    readHead [] (first :: stream) = readHead [first] stream := by
  rw [readHead, if_neg (by decide), if_neg (by decide), List.nil_append]

/-- How an accepted HTTP request was read. -/
theorem readHttpRequest_eq_ok {first : UInt8} {stream rest : List UInt8}
    {request : ProxyRequest}
    (accepted : readHttpRequest first stream = .ok (request, rest)) :
    ∃ head method authority more,
      readHead [] (first :: stream) = .ok (Text.utf8 head, rest) ∧
      Text.splitWhitespace head = method :: authority :: more ∧
      if eqIgnoreAsciiCase method "CONNECT".toList = true then
        (∃ version, more = [version]) ∧
          ProxyTarget.fromAuthority authority = .ok request.target
      else ∃ forward, parseForwardRequest (Text.utf8 head) = .ok forward ∧
        request.target = forward.target := by
  rw [readHttpRequest] at accepted
  obtain ⟨⟨bytes, left⟩, read, accepted⟩ := bind_eq_ok accepted
  obtain ⟨head, decoded, accepted⟩ := bind_eq_ok accepted
  obtain rfl := Text.utf8_of_fromUtf8 (okOr_eq_ok decoded)
  rw [← readHead_first] at read
  split at accepted
  next => cases accepted
  next => cases accepted
  next method authority more words =>
      refine ⟨head, method, authority, more, ?_, words, ?_⟩
      · rw [read]
        split at accepted
        next =>
            split at accepted
            next => cases accepted
            next =>
                split at accepted
                next => cases accepted
                next =>
                    obtain ⟨target, _, made⟩ := bind_eq_ok accepted
                    cases made
                    rfl
        next =>
            obtain ⟨forward, _, made⟩ := bind_eq_ok accepted
            cases made
            rfl
      · split at accepted
        next connects =>
            rw [if_pos connects]
            split at accepted
            next => cases accepted
            next version others =>
                split at accepted
                next => cases accepted
                next single =>
                    obtain ⟨target, named, made⟩ := bind_eq_ok accepted
                    cases made
                    simp only [not_or, not_not] at single
                    exact ⟨⟨version, by rw [single.2]⟩, named⟩
        next forwards =>
            rw [if_neg forwards]
            obtain ⟨forward, parsed, made⟩ := bind_eq_ok accepted
            cases made
            exact ⟨forward, parsed, rfl⟩

/-- The first word of a request is its method. -/
theorem ForwardHead.splitWhitespace_head (request : ForwardHead) {head : Text}
    (same : request.bytes = Text.utf8 head) :
    ∃ more, Text.splitWhitespace head = request.method :: more := by
  have text : headText (ForwardHead.requestLine request.method request.uri
      request.version :: request.headers.map HttpHeader.line) = head :=
    Text.utf8_inj same
  have token := request.token
  simp only [isToken, Bool.and_eq_true, decide_eq_true_eq] at token
  rw [← text, headText, List.flatMap_cons, ForwardHead.requestLine]
  simp only [List.append_assoc, List.cons_append]
  exact ⟨_, Text.splitWhitespace_word token.1 (fun character member =>
    (visible_of_isToken request.token character member).isWhitespace)
    (by decide)⟩

theorem ForwardHead.fromHttpAuthority_of_accepted (request : ForwardHead)
    {forward : ForwardRequest}
    (accepted : parseForwardRequest request.bytes = .ok forward) :
    ProxyTarget.fromHttpAuthority request.authority = .ok forward.target := by
  rw [request.parseForwardRequest_bytes] at accepted
  cases found : ProxyTarget.fromHttpAuthority request.authority with
  | error failure =>
      rw [found] at accepted
      cases accepted
  | ok target =>
      rw [found] at accepted
      cases accepted
      rfl

theorem connect_names_port_zero_iff {stream rest : List UInt8}
    {head method authority version : Text} {target : ProxyTarget}
    (http : stream.head? ≠ some 5)
    (read : readHead [] stream = .ok (Text.utf8 head, rest))
    (words : Text.splitWhitespace head = [method, authority, version])
    (connects : eqIgnoreAsciiCase method "CONNECT".toList = true)
    (named : ProxyTarget.fromAuthority authority = .ok target) :
    target.port = 0 ↔ NamesPortZero stream := by
  rw [ProxyTarget.port_of_fromAuthority named]
  constructor
  · rintro ⟨literal, parsed, zero⟩
    exact .connect http read words connects parsed zero
  · intro zero
    cases zero with
    | socks => exact absurd rfl http
    | @connect _ _ _ _ _ _ literal _ again wordsAgain _ parsed zero =>
        rw [read] at again
        obtain ⟨bytes, _⟩ := Prod.mk.inj (Except.ok.inj again)
        rw [← Text.utf8_inj bytes, words] at wordsAgain
        cases wordsAgain
        exact ⟨literal, parsed, zero⟩
    | @forward _ _ request _ _ again forwards =>
        rw [read] at again
        obtain ⟨bytes, _⟩ := Prod.mk.inj (Except.ok.inj again)
        obtain ⟨more, starts⟩ := request.splitWhitespace_head bytes.symm
        rw [words] at starts
        cases starts
        rw [connects] at forwards
        cases forwards

theorem forward_names_port_zero_iff {stream rest : List UInt8}
    {head method authority : Text} {more : List Text}
    {forward : ForwardRequest} (http : stream.head? ≠ some 5)
    (read : readHead [] stream = .ok (Text.utf8 head, rest))
    (words : Text.splitWhitespace head = method :: authority :: more)
    (forwards : ¬eqIgnoreAsciiCase method "CONNECT".toList = true)
    (parsed : parseForwardRequest (Text.utf8 head) = .ok forward) :
    forward.target.port = 0 ↔ NamesPortZero stream := by
  constructor
  · intro isZero
    obtain ⟨request, bytes, named, _⟩ := forwardHead_of_accepted parsed
    obtain ⟨others, starts⟩ := request.splitWhitespace_head bytes
    rw [words] at starts
    obtain ⟨unbracketed, colon, literal, isLiteral, zero⟩ :=
      (ProxyTarget.port_of_fromHttpAuthority named).mp isZero
    obtain ⟨isMethod, _⟩ := List.cons.inj starts
    rw [← bytes] at read
    rw [isMethod, Bool.not_eq_true] at forwards
    exact .forward http read forwards unbracketed colon isLiteral zero
  · intro zero
    cases zero with
    | socks => exact absurd rfl http
    | connect _ again wordsAgain connects =>
        rw [read] at again
        obtain ⟨bytes, _⟩ := Prod.mk.inj (Except.ok.inj again)
        rw [← Text.utf8_inj bytes, words] at wordsAgain
        cases wordsAgain
        exact absurd connects forwards
    | @forward _ _ request literal _ again _ unbracketed colon isLiteral zero =>
        rw [read] at again
        obtain ⟨bytes, _⟩ := Prod.mk.inj (Except.ok.inj again)
        rw [bytes] at parsed
        have named := request.fromHttpAuthority_of_accepted parsed
        exact (ProxyTarget.port_of_fromHttpAuthority named).mpr
          ⟨unbracketed, colon, literal, isLiteral, zero⟩

/-- An accepted request has a target with a port other than zero exactly when
it does not name a literal address with port zero. -/
theorem target_port_nonzero_iff {reply : Except IoError Unit}
    {stream rest : List UInt8} {request : ProxyRequest}
    (accepted : readRequest reply stream = .ok (request, rest)) :
    request.target.port ≠ 0 ↔ ¬NamesPortZero stream := by
  apply not_congr
  cases stream with
  | nil => cases accepted
  | cons first stream =>
      rw [readRequest] at accepted
      split at accepted
      next five =>
          subst five
          cases read : (readSocks5Target reply).run stream with
          | error failure =>
              rw [read] at accepted
              cases accepted
          | ok result =>
              rw [read] at accepted
              cases accepted
              exact socks_names_port_zero_iff read
      next five =>
          have http : (first :: stream).head? ≠ some 5 := by simpa using five
          obtain ⟨head, method, authority, more, read, words, result⟩ :=
            readHttpRequest_eq_ok accepted
          split at result
          next connects =>
              obtain ⟨⟨version, rfl⟩, named⟩ := result
              exact connect_names_port_zero_iff http read words connects named
          next forwards =>
              obtain ⟨forward, parsed, same⟩ := result
              rw [same]
              exact forward_names_port_zero_iff http read words forwards parsed

/-- A SOCKS5 request for the local host. -/
def socksStream (port : UInt16) : List UInt8 :=
  5 :: socksBytes [0] 1 [127, 0, 0, 1] (wordBytes16 port) []

def socksRequest (port : UInt16) : ProxyRequest :=
  ⟨.address (.v4 ⟨[127, 0, 0, 1], rfl⟩ port), .socks5⟩

theorem target_port_nonzero_https :
    readRequest (.ok ()) (socksStream 443) = .ok (socksRequest 443, []) ∧
      ¬NamesPortZero (socksStream 443) := by
  have accepted : readRequest (.ok ()) (socksStream 443) =
      .ok (socksRequest 443, []) := by rfl
  exact ⟨accepted, (target_port_nonzero_iff accepted).mp (by decide)⟩

theorem target_port_zero :
    readRequest (.ok ()) (socksStream 0) = .ok (socksRequest 0, []) ∧
      (socksRequest 0).target.port = 0 := by
  exact ⟨rfl, rfl⟩

end Velum.Proxy
