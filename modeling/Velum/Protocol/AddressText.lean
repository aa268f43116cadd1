import Velum.Foundation.TextParser
import Velum.Protocol.Datagram

/-!
# Addresses in text form

The textual forms of internet addresses that the standard library accepts:
four decimal octets without leading zeros; up to eight groups of hexadecimal
digits, one run of zero groups written as two colons, the last two groups
possibly as an IPv4 address; and either of the two with a port.
-/

namespace Velum.Protocol

open Foundation TextParser

namespace AddressText

def readOctet (index : Nat) : TextParser UInt8 := do
  let octet ← readSeparator '.' index (readNumber 10 (some 3) false 256)
  pure (UInt8.ofNat octet)

def readIpv4Addr : TextParser (List.Vector UInt8 4) := do
  let one ← readOctet 0
  let two ← readOctet 1
  let three ← readOctet 2
  let four ← readOctet 3
  pure ⟨[one, two, three, four], rfl⟩

def readGroup (index : Nat) : TextParser UInt16 := do
  let group ← readSeparator ':' index (readNumber 16 (some 4) true 65536)
  pure (UInt16.ofNat group)

/-- Groups of an IPv6 address, with the mark whether they end in an embedded
IPv4 address, which takes the place of two groups. -/
def readGroups : Nat → Nat → TextParser (List UInt16 × Bool)
  | 0, _ => pure ([], false)
  | remaining + 1, index =>
      let embedded : TextParser (List UInt16 × Bool) :=
        if remaining = 0 then failure
        else do
          let octets ← readSeparator ':' index readIpv4Addr
          pure ([word16 (octets.toList.take 2),
            word16 (octets.toList.drop 2)], true)
      let group : TextParser (List UInt16 × Bool) := do
        let group ← readGroup index
        let (groups, ipv4) ← readGroups remaining (index + 1)
        pure (group :: groups, ipv4)
      embedded <|> group <|> pure ([], false)

/-- The octets of eight groups. -/
def groupOctets (groups : List UInt16) : List.Vector UInt8 16 :=
  List.Vector.ofFn fun index =>
    (wordBytes16 (groups.getD (index.val / 2) 0)).getD (index.val % 2) 0

/-- The groups after the two colons, with the zero groups before them. -/
def readTail (head : List UInt16) : TextParser (List.Vector UInt8 16) := do
  readGivenChar ':'
  readGivenChar ':'
  let (tail, _) ← readGroups (8 - (head.length + 1)) 0
  let zeros := List.replicate (8 - head.length - tail.length) 0
  pure (groupOctets (head ++ zeros ++ tail))

def readIpv6Addr : TextParser (List.Vector UInt8 16) := do
  let (head, headIpv4) ← readGroups 8 0
  if head.length = 8 then pure (groupOctets head)
  -- an embedded IPv4 address is not allowed before the two colons
  else if headIpv4 then failure
  else readTail head

def readIpAddr : TextParser IpAddr :=
  (IpAddr.v4 <$> readIpv4Addr) <|> (IpAddr.v6 <$> readIpv6Addr)

def readPort : TextParser UInt16 := do
  readGivenChar ':'
  let port ← readNumber 10 none true 65536
  pure (UInt16.ofNat port)

def readScopeId : TextParser UInt32 := do
  readGivenChar '%'
  let scope ← readNumber 10 none true 4294967296
  pure (UInt32.ofNat scope)

def readSocketAddrV4 : TextParser SocketAddr := do
  let octets ← readIpv4Addr
  let port ← readPort
  pure (.v4 octets port)

def readSocketAddrV6 : TextParser SocketAddr := do
  readGivenChar '['
  let octets ← readIpv6Addr
  let scope ← readScopeId <|> pure 0
  readGivenChar ']'
  let port ← readPort
  pure (.v6 octets port 0 scope)

def readSocketAddr : TextParser SocketAddr :=
  readSocketAddrV4 <|> readSocketAddrV6

def parseIpAddr (text : Text) : Option IpAddr :=
  parseWith readIpAddr text

def parseSocketAddr (text : Text) : Option SocketAddr :=
  parseWith readSocketAddr text

example : parseSocketAddr "192.0.2.1:443".toList =
    some (.v4 ⟨[192, 0, 2, 1], rfl⟩ 443) := by
  decide

/-! ## The text of an address -/

def showIpv4Addr (octets : List.Vector UInt8 4) : Text :=
  ['.'].intercalate
    (octets.toList.map fun octet => Nat.toDigits 10 octet.toNat)

/-- The eight groups of an address. -/
def segments (octets : List.Vector UInt8 16) : List UInt16 :=
  (List.range 8).map fun index =>
    word16 ((octets.toList.drop (2 * index)).take 2)

/-- The start and the length of the first of the longest runs of zeros. -/
def longestZeros (groups : List UInt16) : Nat × Nat :=
  let step : (Nat × Nat) × (Nat × Nat) → UInt16 × Nat →
      (Nat × Nat) × (Nat × Nat) := fun (longest, current) (group, index) =>
    if group = 0 then
      let start := if current.2 = 0 then index else current.1
      let run := (start, current.2 + 1)
      (if longest.2 < run.2 then run else longest, run)
    else (longest, (0, 0))
  (groups.zipIdx.foldl step ((0, 0), (0, 0))).1

def showGroups (groups : List UInt16) : Text :=
  [':'].intercalate (groups.map fun group => Nat.toDigits 16 group.toNat)

def showIpv6Addr (octets : List.Vector UInt8 16) : Text :=
  let groups := segments octets
  let (start, length) := longestZeros groups
  if groups.take 6 = [0, 0, 0, 0, 0, 0xFFFF] then
    "::ffff:".toList ++ showIpv4Addr (octets.drop 12)
  else if 1 < length then
    showGroups (groups.take start) ++ "::".toList ++
      showGroups (groups.drop (start + length))
  else showGroups groups

def showSocketAddr : SocketAddr → Text
  | .v4 octets port => showIpv4Addr octets ++ ':' :: Nat.toDigits 10 port.toNat
  | .v6 octets port _ scope =>
      let zone : Text :=
        if scope = 0 then [] else '%' :: Nat.toDigits 10 scope.toNat
      '[' :: (showIpv6Addr octets ++ zone ++
        "]:".toList ++ Nat.toDigits 10 port.toNat)

/-- The text is the one that a socket address is shown as, and is read as this
address. -/
def isShown (text : Text) : Bool :=
  (parseSocketAddr text).any fun address => showSocketAddr address == text

theorem ne_nil_of_isShown {text : Text} (shown : isShown text = true) :
    text ≠ [] := by
  rintro rfl
  cases shown

example : isShown "[2001:db8::1:0:0:1%3]:443".toList = true := by
  decide +kernel

/-! ## The characters of an address -/

/-- The characters that the text of an address can hold. -/
def isAddressChar (character : Char) : Bool :=
  Text.isDigit 16 character || ['.', ':', '%', '[', ']'].contains character

theorem isAddressChar_of_isDigit {radix : Nat} {character : Char}
    (small : radix ≤ 16) (digit : Text.isDigit radix character = true) :
    isAddressChar character = true := by
  simp [isAddressChar, Text.isDigit_of_le small digit]

theorem visible_of_isAddressChar {character : Char}
    (address : isAddressChar character = true) :
    Text.IsVisible character := by
  simp only [isAddressChar, Bool.or_eq_true, List.contains_eq_mem,
    decide_eq_true_eq, List.mem_cons, List.not_mem_nil, or_false] at address
  rcases address with digit | rfl | rfl | rfl | rfl | rfl
  · exact Text.visible_of_isDigit digit
  all_goals decide

theorem readNumber_consumes {radix : Nat} {maxDigits : Option Nat}
    {allowZeroPrefix : Bool} {limit : Nat} (small : radix ≤ 16) :
    Consumes (isAddressChar · = true)
      (readNumber radix maxDigits allowZeroPrefix limit) :=
  Consumes.readNumber fun _ => isAddressChar_of_isDigit small

theorem readOctet_consumes (index : Nat) :
    Consumes (isAddressChar · = true) (readOctet index) := by
  apply Consumes.bind
  · exact Consumes.readSeparator (by decide) (readNumber_consumes (by decide))
  · exact fun _ => Consumes.pure _

theorem readGroup_consumes (index : Nat) :
    Consumes (isAddressChar · = true) (readGroup index) := by
  apply Consumes.bind
  · exact Consumes.readSeparator (by decide) (readNumber_consumes (by decide))
  · exact fun _ => Consumes.pure _

theorem readIpv4Addr_consumes :
    Consumes (isAddressChar · = true) readIpv4Addr := by
  refine Consumes.bind (readOctet_consumes 0) fun _ => ?_
  refine Consumes.bind (readOctet_consumes 1) fun _ => ?_
  refine Consumes.bind (readOctet_consumes 2) fun _ => ?_
  refine Consumes.bind (readOctet_consumes 3) fun _ => ?_
  exact Consumes.pure _

theorem readGroups_consumes (remaining index : Nat) :
    Consumes (isAddressChar · = true) (readGroups remaining index) := by
  induction remaining generalizing index with
  | zero => exact Consumes.pure _
  | succ remaining induction =>
      refine Consumes.orElse ?_ (Consumes.orElse ?_ (Consumes.pure _))
      · split
        · exact Consumes.failure
        · refine Consumes.bind ?_ fun _ => Consumes.pure _
          exact Consumes.readSeparator (by decide) readIpv4Addr_consumes
      · refine Consumes.bind (readGroup_consumes index) fun _ => ?_
        exact Consumes.bind (induction (index + 1)) fun _ => Consumes.pure _

theorem readIpv6Addr_consumes :
    Consumes (isAddressChar · = true) readIpv6Addr := by
  have colon : Consumes (isAddressChar · = true) (readGivenChar ':') :=
    Consumes.readGivenChar (by decide)
  refine Consumes.bind (readGroups_consumes 8 0) fun head => ?_
  split
  split
  · exact Consumes.pure _
  · split
    · exact Consumes.failure
    · refine Consumes.bind colon fun _ => Consumes.bind colon fun _ => ?_
      exact Consumes.bind (readGroups_consumes _ 0) fun _ => Consumes.pure _

theorem readPort_consumes : Consumes (isAddressChar · = true) readPort := by
  refine Consumes.bind (Consumes.readGivenChar (by decide)) fun _ => ?_
  exact Consumes.bind (readNumber_consumes (by decide))
    fun _ => Consumes.pure _

theorem readScopeId_consumes :
    Consumes (isAddressChar · = true) readScopeId := by
  refine Consumes.bind (Consumes.readGivenChar (by decide)) fun _ => ?_
  exact Consumes.bind (readNumber_consumes (by decide))
    fun _ => Consumes.pure _

theorem readSocketAddr_consumes :
    Consumes (isAddressChar · = true) readSocketAddr := by
  apply Consumes.orElse
  · refine Consumes.bind readIpv4Addr_consumes fun _ => ?_
    exact Consumes.bind readPort_consumes fun _ => Consumes.pure _
  · refine Consumes.bind (Consumes.readGivenChar (by decide)) fun _ => ?_
    refine Consumes.bind readIpv6Addr_consumes fun _ => ?_
    refine Consumes.bind
      (Consumes.orElse readScopeId_consumes (Consumes.pure 0)) fun _ => ?_
    refine Consumes.bind (Consumes.readGivenChar (by decide)) fun _ => ?_
    exact Consumes.bind readPort_consumes fun _ => Consumes.pure _

/-- The text of a socket address is one word. -/
theorem readIpAddr_consumes :
    Consumes (isAddressChar · = true) readIpAddr := by
  apply Consumes.orElse
  · exact Consumes.bind readIpv4Addr_consumes fun _ => Consumes.pure _
  · exact Consumes.bind readIpv6Addr_consumes fun _ => Consumes.pure _

theorem visible_of_parseSocketAddr {text : Text} {address : SocketAddr}
    (parsed : parseSocketAddr text = some address) :
    ∀ character ∈ text, Text.IsVisible character := by
  intro character member
  exact visible_of_isAddressChar
    (readSocketAddr_consumes.of_parseWith parsed character member)

theorem visible_of_parseIpAddr {text : Text} {address : IpAddr}
    (parsed : parseIpAddr text = some address) :
    ∀ character ∈ text, Text.IsVisible character := by
  intro character member
  exact visible_of_isAddressChar
    (readIpAddr_consumes.of_parseWith parsed character member)

end AddressText

end Velum.Protocol
