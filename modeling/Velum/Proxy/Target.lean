import Velum.Protocol.AddressText

/-!
# Targets of a proxied connection

A target is a literal socket address or a host name with a port.  An
authority of a request is tried as a literal first; everything else has to be
a valid host name, a colon and a port.
-/

namespace Velum.Proxy

open Foundation Protocol

inductive IoErrorKind where
  | invalidData
  | invalidInput
  | permissionDenied
  | unexpectedEof
  deriving DecidableEq, Repr

structure IoError where
  kind : IoErrorKind
  message : String
  deriving DecidableEq, Repr

def invalidTarget (message : String) : IoError :=
  ⟨.invalidInput, message⟩

inductive ProxyTarget where
  | address (address : SocketAddr)
  | domain (host : Text) (port : UInt16)
  deriving DecidableEq

/-- The characters of a host name, its dots included. -/
def isHostChar (character : Char) : Bool :=
  character.isAlphanum || ['-', '.', '_'].contains character

def validateHostname (host : Text) : Except IoError Unit :=
  if host = [] ∨ 253 < (Text.utf8 host).length ∨
      host.head? = some '.' ∨ host.getLast? = some '.' ∨
      (host.splitOn '.').any
        (fun label => label = [] ∨ 63 < (Text.utf8 label).length) ∨
      host.all isHostChar = false then
    .error (invalidTarget "proxy target hostname is invalid")
  else .ok ()

namespace ProxyTarget

def fromHostPort (host : List UInt8) (port : UInt16) :
    Except IoError ProxyTarget := do
  if port = 0 then
    throw (invalidTarget "proxy target port must not be zero")
  match Text.fromUtf8 host with
  | none => throw (invalidTarget "proxy target hostname is not UTF-8")
  | some host =>
      validateHostname host
      return .domain host port

def fromAuthority (authority : Text) : Except IoError ProxyTarget :=
  match AddressText.parseSocketAddr authority with
  | some literal => .ok (.address literal)
  | none =>
      match Text.rsplitOnce ':' authority with
      | none =>
          .error (invalidTarget "proxy authority requires a host and port")
      | some (host, port) =>
          if ':' ∈ host then
            .error (invalidTarget "IPv6 proxy authorities must use brackets")
          else
            match Text.parseUnsigned 65536 port with
            | none =>
                .error
                  (invalidTarget "proxy authority contains an invalid port")
            | some port => fromHostPort (Text.utf8 host) (UInt16.ofNat port)

def validAddress (address : SocketAddr) : Except IoError ProxyTarget :=
  if address.port = 0 then
    .error (invalidTarget "proxy target port must not be zero")
  else .ok (.address address)

/-- The port after the closing bracket of an IPv6 authority. -/
def bracketPort (suffix : Text) : Except IoError UInt16 :=
  match suffix with
  | [] => .ok 80
  | ':' :: port =>
      match Text.parseUnsigned 65536 port with
      | none =>
          .error (invalidTarget "proxy authority contains an invalid port")
      | some port => .ok (UInt16.ofNat port)
  | _ => .error (invalidTarget "IPv6 proxy authority is invalid")

/-- An authority of an absolute request target, whose port may be missing. -/
def fromHttpAuthority (authority : Text) : Except IoError ProxyTarget :=
  if authority.head? = some '[' then
    match Text.splitOnce ']' authority with
    | none =>
        .error (invalidTarget "IPv6 proxy authority is missing a bracket")
    | some (opening, suffix) =>
        match AddressText.parseIpAddr opening.tail with
        | none => .error (invalidTarget "IPv6 proxy authority is invalid")
        | some ip => do
            let port ← bracketPort suffix
            validAddress (SocketAddr.new ip port)
  else if ':' ∈ authority then fromAuthority authority
  else
    match AddressText.parseIpAddr authority with
    | some ip => validAddress (SocketAddr.new ip 80)
    | none => fromHostPort (Text.utf8 authority) 80

end ProxyTarget

/-! ## Accepted authorities are single words -/

theorem visible_of_isHostChar {character : Char}
    (host : isHostChar character = true) : Text.IsVisible character := by
  simp only [isHostChar, Bool.or_eq_true, List.contains_eq_mem,
    decide_eq_true_eq, List.mem_cons, List.not_mem_nil, or_false] at host
  rcases host with alphanumeric | rfl | rfl | rfl
  · exact Text.visible_of_isAlphanum alphanumeric
  all_goals decide

theorem isHostChar_of_validateHostname {host : Text}
    (valid : validateHostname host = .ok ()) :
    ∀ character ∈ host, isHostChar character = true := by
  rw [validateHostname] at valid
  split at valid
  next => cases valid
  next refused =>
      simp only [not_or] at refused
      simpa using refused.2.2.2.2.2

namespace ProxyTarget

theorem validateHostname_of_fromHostPort {host : Text} {port : UInt16}
    {target : ProxyTarget}
    (accepted : fromHostPort (Text.utf8 host) port = .ok target) :
    validateHostname host = .ok () := by
  rw [fromHostPort, Text.fromUtf8_utf8] at accepted
  by_cases zero : port = 0
  · simp [zero, bind, Except.bind, throw, throwThe, MonadExceptOf.throw]
      at accepted
  · cases valid : validateHostname host with
    | ok => rfl
    | error failure =>
        simp [zero, valid, bind, Except.bind] at accepted

theorem visible_of_fromAuthority {authority : Text}
    {target : ProxyTarget} (accepted : fromAuthority authority = .ok target) :
    ∀ character ∈ authority, Text.IsVisible character := by
  rw [fromAuthority] at accepted
  split at accepted
  next literal parsed =>
      exact AddressText.visible_of_parseSocketAddr parsed
  next =>
      split at accepted
      next => cases accepted
      next host port split =>
          split at accepted
          next => cases accepted
          next =>
              split at accepted
              next => cases accepted
              next number parsed =>
                  have valid := validateHostname_of_fromHostPort accepted
                  rw [Text.eq_of_rsplitOnce split]
                  intro character member
                  rcases List.mem_append.mp member with inHost | inPort
                  · exact visible_of_isHostChar
                      (isHostChar_of_validateHostname valid character inHost)
                  · rcases List.mem_cons.mp inPort with rfl | inPort
                    · decide
                    · exact Text.visible_of_parseUnsigned parsed
                        character inPort

theorem visible_of_bracketPort {suffix : Text} {port : UInt16}
    (accepted : bracketPort suffix = .ok port) :
    ∀ character ∈ suffix, Text.IsVisible character := by
  rw [bracketPort.eq_def] at accepted
  split at accepted
  next => simp
  next digits =>
      split at accepted
      next => cases accepted
      next number parsed =>
          intro character member
          rcases List.mem_cons.mp member with rfl | inDigits
          · decide
          · exact Text.visible_of_parseUnsigned parsed character inDigits
  next => cases accepted

theorem visible_of_bracketed {authority opening suffix : Text} {ip : IpAddr}
    {port : UInt16} (starts : authority.head? = some '[')
    (cut : Text.splitOnce ']' authority = some (opening, suffix))
    (parsed : AddressText.parseIpAddr opening.tail = some ip)
    (accepted : bracketPort suffix = .ok port) :
    ∀ character ∈ authority, Text.IsVisible character := by
  obtain rfl := Text.eq_of_splitOnce cut
  have inside : ∀ character ∈ opening, Text.IsVisible character := by
    cases opening with
    | nil => simp
    | cons first rest =>
        obtain rfl : first = '[' := by simpa using starts
        intro character member
        rcases List.mem_cons.mp member with rfl | inRest
        · decide
        · exact AddressText.visible_of_parseIpAddr parsed character inRest
  intro character member
  rcases List.mem_append.mp member with inOpening | later
  · exact inside character inOpening
  · rcases List.mem_cons.mp later with rfl | inSuffix
    · decide
    · exact visible_of_bracketPort accepted character inSuffix

theorem visible_of_fromHttpAuthority {authority : Text}
    {target : ProxyTarget}
    (accepted : fromHttpAuthority authority = .ok target) :
    ∀ character ∈ authority, Text.IsVisible character := by
  rw [fromHttpAuthority] at accepted
  split at accepted
  next starts =>
      split at accepted
      next => cases accepted
      next opening suffix cut =>
          split at accepted
          next => cases accepted
          next ip parsed =>
              cases read : bracketPort suffix with
              | error failure =>
                  rw [read] at accepted
                  cases accepted
              | ok port => exact visible_of_bracketed starts cut parsed read
  next =>
      split at accepted
      next => exact visible_of_fromAuthority accepted
      next =>
          split at accepted
          next ip parsed => exact AddressText.visible_of_parseIpAddr parsed
          next =>
              have valid := validateHostname_of_fromHostPort accepted
              intro character member
              exact visible_of_isHostChar
                (isHostChar_of_validateHostname valid character member)

theorem ne_nil_of_fromAuthority {authority : Text} {target : ProxyTarget}
    (accepted : fromAuthority authority = .ok target) : authority ≠ [] := by
  rintro rfl
  cases accepted

end ProxyTarget

end Velum.Proxy
