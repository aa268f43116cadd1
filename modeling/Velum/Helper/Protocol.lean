import Velum.Protocol.Datagram
import Mathlib.Data.Finset.Defs

/-!
# The helper control protocol

Requests and responses between an unprivileged controller and a privileged
traffic host, and the strict decoding of one unframed body.  The reading of
the JSON text itself is a parameter.
-/

namespace Velum.Helper

open Velum.Protocol (IpAddr)

def protocolVersion : UInt16 := 1
/-- Maximum body size; the four-byte frame header is not included. -/
def maxFrameLength : Nat := 64 * 1024
def frameHeaderLength : Nat := 4

inductive Capability where
  | tun
  | ipv6
  | routeTransaction
  | dnsTransaction
  | socketProtection
  | crashRecovery
  deriving DecidableEq, Repr

structure IpNetwork where
  address : IpAddr
  prefixLength : UInt8
  deriving DecidableEq

structure StartParameters where
  mtu : UInt16
  ipv4 : Option IpNetwork
  ipv6 : Option IpNetwork
  dns : List IpAddr
  deriving DecidableEq

/-- The only operations a privileged traffic host may execute. -/
inductive Command where
  | hello
  | status
  | start (configuration : StartParameters)
  | stop
  | recover
  deriving DecidableEq

structure Request where
  version : UInt16
  requestId : UInt64
  profileGeneration : UInt64
  capabilities : Finset Capability
  command : Command
  deriving DecidableEq

inductive HostState where
  | recovering
  | stopped
  | starting
  | running
  | stopping
  | failed
  deriving DecidableEq, Repr

inductive ErrorCode where
  | unauthorized
  | unsupportedVersion
  | unsupportedCapability
  | invalidConfiguration
  | generationConflict
  | busy
  | platform
  | recoveryRequired
  deriving DecidableEq, Repr

inductive Success where
  | hello
  | status (state : HostState)
  | started
  | stopped
  | recovered
  deriving DecidableEq, Repr

inductive CommandResult where
  | ok (success : Success)
  | err (code : ErrorCode)
  deriving DecidableEq, Repr

structure Response where
  version : UInt16
  requestId : UInt64
  profileGeneration : UInt64
  capabilities : Finset Capability
  response : CommandResult
  deriving DecidableEq

inductive CodecError where
  | emptyFrame
  | frameTooLarge
  | invalidJson
  | unsupportedVersion
  deriving DecidableEq, Repr

/-- Strict validation of one unframed body around a JSON reader. -/
def decode {Value : Type} (parse : List UInt8 → Option Value)
    (version : Value → UInt16) (body : List UInt8) :
    Except CodecError Value :=
  if body = [] then .error .emptyFrame
  else if body.length > maxFrameLength then .error .frameTooLarge
  else
    match parse body with
    | none => .error .invalidJson
    | some value =>
        if version value ≠ protocolVersion then .error .unsupportedVersion
        else .ok value

def decodeRequest (parse : List UInt8 → Option Request) :
    List UInt8 → Except CodecError Request :=
  decode parse Request.version

end Velum.Helper
