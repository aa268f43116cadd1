import Velum.Proxy.Target

/-!
# HTTP requests to the local proxy

The head of a request is read byte by byte up to its empty line.  A CONNECT
request is cut into words over the whole head; any other request is taken
apart line by line and rewritten for its origin server.
-/

namespace Velum.Proxy

open Foundation Protocol

def maxHandshakeBytes : Nat := 16 * 1024

def headEnd : List UInt8 := [13, 10, 13, 10]

inductive ConnectProtocol where
  | httpConnect
  | httpForward (head : List UInt8)
  | socks5
  deriving DecidableEq

structure ProxyRequest where
  target : ProxyTarget
  protocol : ConnectProtocol
  deriving DecidableEq

def invalidRequest (message : String) : IoError :=
  ⟨.invalidInput, message⟩

def okOr {Value : Type} (failure : IoError) :
    Option Value → Except IoError Value
  | some value => .ok value
  | none => .error failure

def eqIgnoreAsciiCase (first second : Text) : Bool :=
  Text.toAsciiLowercase first = Text.toAsciiLowercase second

def isHttpVersion (version : Text) : Bool :=
  version = "HTTP/1.0".toList || version = "HTTP/1.1".toList

/-! ## Forwarded requests -/

def isTokenChar (character : Char) : Bool :=
  character.isAlphanum || "!#$%&'*+-.^_`|~".toList.contains character

def isToken (value : Text) : Bool :=
  value ≠ [] && value.all isTokenChar

structure HttpHeader where
  name : Text
  value : Text
  deriving DecidableEq

structure ForwardRequest where
  target : ProxyTarget
  head : List UInt8
  deriving DecidableEq

/-- The parts between the line ends. -/
def splitCrlf : Text → List Text
  | [] => [[]]
  | '\r' :: '\n' :: rest => [] :: splitCrlf rest
  | character :: rest => (splitCrlf rest).modifyHead (character :: ·)

/-- The text without the end of the head. -/
def stripHeadEnd (text : Text) : Option Text :=
  if "\r\n\r\n".toList <:+ text then some (text.take (text.length - 4))
  else none

/-- The authority of an absolute `http` target, and the target in origin
form. -/
def splitAbsoluteHttpUri (uri : Text) : Except IoError (Text × Text) :=
  if eqIgnoreAsciiCase (uri.take 7) "http://".toList = false then
    .error (invalidRequest "HTTP proxy target must use absolute-form http://")
  else
    let remainder := uri.drop 7
    let inAuthority (character : Char) : Bool :=
      !(['/', '?', '#'].contains character)
    let authority := remainder.takeWhile inAuthority
    let suffix := remainder.dropWhile inAuthority
    if authority = [] ∨ '@' ∈ authority then
      .error (invalidRequest "HTTP proxy authority is invalid")
    else if '#' ∈ suffix then
      .error
        (invalidRequest "HTTP request target must not contain a fragment")
    else
      match suffix with
      | [] => .ok (authority, ['/'])
      | '?' :: _ => .ok (authority, '/' :: suffix)
      | '/' :: _ => .ok (authority, suffix)
      | _ => .error (invalidRequest "HTTP proxy target is invalid")

def forwardHeader (line : Text) : Except IoError HttpHeader :=
  if line.head? = some ' ' ∨ line.head? = some '\t' then
    .error (invalidRequest "folded HTTP headers are not supported")
  else
    match Text.splitOnce ':' line with
    | none => .error (invalidRequest "malformed HTTP header")
    | some (name, value) =>
        if isToken name = false ∨ value.any (fun character =>
            Text.isAsciiControl character && character ≠ '\t') then
          .error (invalidRequest "malformed HTTP header")
        else .ok ⟨name, value⟩

/-- The header names that a connection header declares for one hop. -/
def connectionTokens (header : HttpHeader) : List Text :=
  if eqIgnoreAsciiCase header.name "connection".toList ||
      eqIgnoreAsciiCase header.name "proxy-connection".toList then
    (((header.value.splitOn ',').map Text.trim).filter (· ≠ [])).map
      Text.toAsciiLowercase
  else []

def isHopByHop (tokens : List Text) (name : Text) : Bool :=
  ["host", "connection", "proxy-connection", "proxy-authorization",
    "keep-alive"].any (fun known => eqIgnoreAsciiCase name known.toList) ||
    tokens.any (eqIgnoreAsciiCase name)

def forwardLine (header : HttpHeader) : Text :=
  header.name ++ ": ".toList ++ Text.trim header.value ++ "\r\n".toList

def rewrittenHead (method originForm version authority : Text)
    (headers : List HttpHeader) : Text :=
  let tokens := headers.flatMap connectionTokens
  method ++ ' ' :: originForm ++ ' ' :: version ++ "\r\nHost: ".toList ++
    authority ++ "\r\nConnection: close\r\n".toList ++
    (headers.filter fun header => !isHopByHop tokens header.name).flatMap
      forwardLine ++ "\r\n".toList

/-- The three fields of a request line. -/
def forwardRequestLine (line : Text) :
    Except IoError (Text × Text × Text) := do
  let fields := line.splitOn ' '
  let method ← okOr (invalidRequest "invalid HTTP method")
    (fields.head?.filter isToken)
  let uri ← okOr (invalidRequest "missing HTTP request target") fields[1]?
  let version ← okOr (invalidRequest "unsupported HTTP version")
    (fields[2]?.filter isHttpVersion)
  if fields[3]?.isSome then
    throw (invalidRequest "invalid HTTP request line")
  return (method, uri, version)

def parseForwardRequest (head : List UInt8) :
    Except IoError ForwardRequest := do
  let text ← okOr (invalidRequest "HTTP request is not UTF-8")
    (Text.fromUtf8 head)
  let text ← okOr (invalidRequest "HTTP request header is incomplete")
    (stripHeadEnd text)
  let lines := splitCrlf text
  let requestLine ← okOr (invalidRequest "missing HTTP request line")
    lines.head?
  let (method, uri, version) ← forwardRequestLine requestLine
  let (authority, originForm) ← splitAbsoluteHttpUri uri
  let target ← ProxyTarget.fromHttpAuthority authority
  let headers ← lines.tail.mapM forwardHeader
  return ⟨target, Text.utf8
    (rewrittenHead method originForm version authority headers)⟩

/-! ## Reading a request -/

/-- Reads bytes until the request ends in an empty line.  The bytes after it
stay in the stream. -/
def readHead (request : List UInt8) (stream : List UInt8) :
    Except IoError (List UInt8 × List UInt8) :=
  if headEnd <:+ request then .ok (request, stream)
  else if request.length = maxHandshakeBytes then
    .error ⟨.invalidData, "HTTP request header is too large"⟩
  else
    match stream with
    | [] => .error ⟨.unexpectedEof, "early eof"⟩
    | byte :: rest => readHead (request ++ [byte]) rest

def readHttpRequest (first : UInt8) (stream : List UInt8) :
    Except IoError (ProxyRequest × List UInt8) := do
  let (request, rest) ← readHead [first] stream
  let head ← okOr ⟨.invalidData, "HTTP request is not UTF-8"⟩
    (Text.fromUtf8 request)
  match Text.splitWhitespace head with
  | [] => throw (invalidRequest "missing HTTP method")
  | [_] => throw (invalidRequest "missing HTTP authority")
  | method :: authority :: parts =>
      if eqIgnoreAsciiCase method "CONNECT".toList then
        match parts with
        | [] => throw (invalidRequest "missing HTTP version")
        | version :: more =>
            if isHttpVersion version = false ∨ more ≠ [] then
              throw (invalidRequest "invalid HTTP CONNECT request line")
            let target ← ProxyTarget.fromAuthority authority
            return (⟨target, .httpConnect⟩, rest)
      else
        let forward ← parseForwardRequest request
        return (⟨forward.target, .httpForward forward.head⟩, rest)

end Velum.Proxy
