import Mathlib.Data.String.Basic
import Velum.Foundation.HttpMessage
import Velum.Foundation.OrderedMap
import Velum.Foundation.Script
import Velum.Protocol.Datagram

/-!
# The cover service

A connection is answered from a table of assets, or relayed to an upstream
server.  Reads and writes may fail at any point and reading the head of the
request may time out; a failing write may have sent a part of its bytes.
-/

namespace Velum.Forest

open Foundation Protocol

def maxRequestHeadBytes : Nat := 16 * 1024

/-! ## The configuration -/

structure StaticAsset where
  contentType : Text
  body : Bytes
  deriving DecidableEq

structure StaticService where
  assets : OrderedMap String StaticAsset

inductive CoverServiceMode where
  | static (service : StaticService)
  | reverseProxy (upstream : SocketAddr)

/-- Times are in nanoseconds. -/
structure CoverServiceConfig where
  schemaVersion : UInt16
  mode : CoverServiceMode
  requestHeadTimeout : Nat
  upstreamTimeout : Nat

inductive CoverConfigError where
  | unsupportedSchema
  | zeroRequestHeadTimeout
  | zeroUpstreamTimeout
  | invalidStaticService
  deriving DecidableEq

def validPath (path : Text) : Bool :=
  path.head? = some '/' && !decide ("..".toList <:+: path) &&
    !path.contains '\r' && !path.contains '\n'

def validContentType (contentType : Text) : Bool :=
  contentType ≠ [] &&
    (Text.utf8 contentType).all fun byte => 32 ≤ byte && byte ≠ 127

def StaticService.validate (service : StaticService) :
    Except CoverConfigError Unit :=
  if service.assets.entries = [] ||
      service.assets.entries.any (fun entry => !validPath entry.1.toList) ||
      service.assets.entries.any fun entry =>
        !validContentType entry.2.contentType then
    .error .invalidStaticService
  else .ok ()

def CoverServiceMode.validate : CoverServiceMode → Except CoverConfigError Unit
  | .static service => service.validate
  | .reverseProxy _ => .ok ()

def CoverServiceConfig.validate (config : CoverServiceConfig) :
    Except CoverConfigError Unit :=
  if config.schemaVersion ≠ 1 then .error .unsupportedSchema
  else if config.upstreamTimeout = 0 then .error .zeroUpstreamTimeout
  else if config.requestHeadTimeout = 0 then .error .zeroRequestHeadTimeout
  else config.mode.validate

/-! ## The connection -/

inductive CoverServiceError where
  | invalidConfig
  | malformedRequest
  | requestTimedOut
  | upstreamUnavailable
  | transport
  deriving DecidableEq

inductive CoverCall where
  | readByte
  | write (bytes : Bytes)
  | connectUpstream (upstream : SocketAddr)
  | writeUpstream (bytes : Bytes)
  | copyBidirectional

/-- A call answers with the failure that the service makes of it. -/
def CoverCall.Reply : CoverCall → Type
  | .readByte => Except CoverServiceError UInt8
  | _ => Except CoverServiceError Unit

/-- What the client and the upstream server have still to send, and what they
have been sent. -/
structure CoverWorld where
  input : Bytes
  output : Bytes
  upstreamInput : Bytes
  upstreamOutput : Bytes
  deriving DecidableEq

def CoverWorld.Answers (world : CoverWorld) :
    (call : CoverCall) → call.Reply → CoverWorld → Prop
  | .readByte, reply, after =>
      ((reply = .error .transport ∨ reply = .error .requestTimedOut) ∧
        after = world) ∨
      ∃ byte rest, world.input = byte :: rest ∧ reply = .ok byte ∧
        after = { world with input := rest }
  | .write bytes, reply, after =>
      (∃ sent, sent <+: bytes ∧ reply = .error .transport ∧
        after = { world with output := world.output ++ sent }) ∨
      reply = .ok () ∧
        after = { world with output := world.output ++ bytes }
  | .connectUpstream _, reply, after =>
      (reply = .error .upstreamUnavailable ∨ reply = .ok ()) ∧ after = world
  | .writeUpstream bytes, reply, after =>
      (∃ sent, sent <+: bytes ∧ reply = .error .transport ∧
        after = { world with upstreamInput := world.upstreamInput ++ sent }) ∨
      reply = .ok () ∧
        after = { world with upstreamInput := world.upstreamInput ++ bytes }
  | .copyBidirectional, reply, after =>
      (∃ sent answered input upstreamOutput, sent <+: world.input ∧
        answered <+: world.upstreamOutput ∧ reply = .error .transport ∧
        after = {
          input, upstreamOutput
          output := world.output ++ answered
          upstreamInput := world.upstreamInput ++ sent }) ∨
      reply = .ok () ∧ after = {
        input := []
        output := world.output ++ world.upstreamOutput
        upstreamInput := world.upstreamInput ++ world.input
        upstreamOutput := [] }

abbrev CoverScript (Value : Type) :=
  ExceptT CoverServiceError (Script CoverCall CoverCall.Reply) Value

namespace CoverScript

def readByte : CoverScript UInt8 :=
  ExceptT.mk (Script.call CoverCall.readByte)

def write (bytes : Bytes) : CoverScript Unit :=
  ExceptT.mk (Script.call (CoverCall.write bytes))

def connectUpstream (upstream : SocketAddr) : CoverScript Unit :=
  ExceptT.mk (Script.call (CoverCall.connectUpstream upstream))

def writeUpstream (bytes : Bytes) : CoverScript Unit :=
  ExceptT.mk (Script.call (CoverCall.writeUpstream bytes))

def copyBidirectional : CoverScript Unit :=
  ExceptT.mk (Script.call CoverCall.copyBidirectional)

end CoverScript

/-! ## Requests -/

def headEnd : Bytes := HttpMessage.crlf ++ HttpMessage.crlf

/-- Reads on while there is room in the head. -/
def readRequestHeadFrom : Nat → Bytes → CoverScript Bytes
  | 0, _ => throw .malformedRequest
  | room + 1, head => do
      let byte ← CoverScript.readByte
      let longer := head ++ [byte]
      if headEnd <:+ longer then pure longer
      else readRequestHeadFrom room longer

def readRequestHead : CoverScript Bytes :=
  readRequestHeadFrom maxRequestHeadBytes []

/-- The text in front of the first line end. -/
def firstLine : Text → Text
  | [] => []
  | character :: rest =>
      if character = '\r' ∧ rest.head? = some '\n' then []
      else character :: firstLine rest

def isAsciiWhitespace (character : Char) : Bool :=
  character = ' ' || character = '\t' || character = '\n' ||
    character = '\x0c' || character = '\r'

def splitAsciiWhitespace (text : Text) : List Text :=
  (text.splitOnP isAsciiWhitespace).filter (· ≠ [])

/-- The words of the first line of a head in UTF-8. -/
def requestFields (head : Bytes) : Option (List Text) :=
  (Text.fromUtf8 head).map fun text => splitAsciiWhitespace (firstLine text)

def requestPath (head : Bytes) : Option Text :=
  match requestFields head with
  | some (method :: path :: _) =>
      if method = "GET".toList ∨ method = "HEAD".toList then some path
      else none
  | _ => none

def requestMethod (head : Bytes) : Option Text :=
  (requestFields head).bind List.head?

/-! ## Responses -/

def missing : StaticAsset where
  contentType := "text/plain; charset=utf-8".toList
  body := Text.utf8 "Not Found\n".toList

/-- The status and the asset for a path. -/
def StaticService.find (service : StaticService) (path : Text) :
    Text × StaticAsset :=
  match service.assets.get? (String.ofList path) with
  | some asset => ("200 OK".toList, asset)
  | none => ("404 Not Found".toList, missing)

def responseHead (status : Text) (asset : StaticAsset) : Text :=
  "HTTP/1.1 ".toList ++ status ++ "\r\nContent-Type: ".toList ++
    asset.contentType ++ "\r\nContent-Length: ".toList ++
    Nat.toDigits 10 asset.body.length ++
    "\r\nConnection: close\r\n\r\n".toList

def serveStatic (service : StaticService) (head : Bytes) :
    CoverScript Unit :=
  match requestPath head with
  | none => throw .malformedRequest
  | some path => do
      let (status, asset) := service.find path
      CoverScript.write (Text.utf8 (responseHead status asset))
      if requestMethod head ≠ some "HEAD".toList then
        CoverScript.write asset.body

def serveCoverConnection (config : CoverServiceConfig) :
    CoverScript Unit :=
  match config.validate with
  | .error _ => throw .invalidConfig
  | .ok () => do
      let head ← readRequestHead
      match config.mode with
      | .static service => serveStatic service head
      | .reverseProxy upstream => do
          CoverScript.connectUpstream upstream
          CoverScript.writeUpstream head
          CoverScript.copyBidirectional

end Velum.Forest
