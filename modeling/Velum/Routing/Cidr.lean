import Velum.Foundation.Bits
import Velum.Routing.Policy

/-!
# Networks and the bits of addresses

The masks of a network are made by shifts of whole words.  On the bits of an
address, the first one first, a mask keeps those of the prefix and clears the
others, for both families and every prefix length.
-/

namespace Velum.Routing

open Foundation Protocol

/-! ## The bits of an address -/

def addressOctets : IpAddr → List UInt8
  | .v4 octets => octets.toList
  | .v6 octets => octets.toList

/-- The bits of an address, the first one first. -/
def addressBit (address : IpAddr) (index : Nat) : Bool :=
  bitAt (addressOctets address) index

def SameFamily : IpAddr → IpAddr → Prop
  | .v4 _, .v4 _ => True
  | .v6 _, .v6 _ => True
  | _, _ => False

theorem length_addressOctets (address : IpAddr) :
    8 * (addressOctets address).length = addressWidth address := by
  cases address with
  | v4 octets => rw [addressOctets, octets.toList_length, addressWidth]
  | v6 octets => rw [addressOctets, octets.toList_length, addressWidth]

theorem addressWidth_eq_iff (first second : IpAddr) :
    addressWidth first = addressWidth second ↔ SameFamily first second := by
  cases first <;> cases second <;> simp [addressWidth, SameFamily]

/-- Addresses of one family with the same bits are equal. -/
theorem eq_of_addressBit {first second : IpAddr}
    (family : SameFamily first second)
    (same : ∀ index < addressWidth first,
      addressBit first index = addressBit second index) : first = second := by
  have octets : addressOctets first = addressOctets second := by
    have widths := (addressWidth_eq_iff first second).mpr family
    rw [← length_addressOctets, ← length_addressOctets] at widths
    rw [← length_addressOctets] at same
    exact eq_of_bitAt (by omega) same
  cases first with
  | v4 front =>
      cases second with
      | v4 back => rw [List.Vector.toList_injective octets]
      | v6 back => cases family
  | v6 front =>
      cases second with
      | v4 back => cases family
      | v6 back => rw [List.Vector.toList_injective octets]

/-! ## Masks -/

/-- The mask has the digits of the prefix, also when the shift is as wide as
the word and leaves nothing. -/
theorem testBit_prefixMask {width prefixLength position : Nat}
    (fits : prefixLength ≤ width) (inside : position < width) :
    (prefixMask width prefixLength).testBit position =
      decide (width - prefixLength ≤ position) := by
  unfold prefixMask
  rw [Nat.min_eq_left fits]
  dsimp only
  split
  next => simp [inside, Nat.testBit_shiftLeft, Nat.sub_lt_of_lt inside]
  next whole =>
      have empty : prefixLength = 0 := by omega
      subst empty
      simp [inside]

/-- Both families are masked through the number of the address. -/
theorem bitAt_masked {octets : List UInt8} {prefixLength index : Nat}
    (fits : prefixLength ≤ 8 * octets.length)
    (inside : index < 8 * octets.length) :
    bitAt (bigEndian octets.length (ofBigEndian octets &&&
        prefixMask (8 * octets.length) prefixLength)) index =
      (bitAt octets index && decide (index < prefixLength)) := by
  have small : ofBigEndian octets &&&
      prefixMask (8 * octets.length) prefixLength < 256 ^ octets.length :=
    Nat.lt_of_le_of_lt Nat.and_le_left (ofBigEndian_lt octets)
  rw [bitAt_bigEndian small inside, Nat.testBit_and,
    testBit_prefixMask fits (by omega), ← bitAt_eq_testBit _ inside]
  congr 1
  rw [decide_eq_decide]
  omega

theorem sameFamily_maskAddress (prefixLength : Nat) (address : IpAddr) :
    SameFamily (maskAddress prefixLength address) address := by
  cases address <;> trivial

/-- Masking keeps the bits of the prefix and clears the others. -/
theorem addressBit_maskAddress {prefixLength index : Nat} {address : IpAddr}
    (fits : prefixLength ≤ addressWidth address)
    (inside : index < addressWidth address) :
    addressBit (maskAddress prefixLength address) index =
      (addressBit address index && decide (index < prefixLength)) := by
  cases address with
  | v4 octets =>
      have width : octets.toList.length = 4 := octets.toList_length
      have front : prefixLength ≤ 8 * octets.toList.length := by rwa [width]
      have bit : index < 8 * octets.toList.length := by rwa [width]
      have masked := bitAt_masked front bit
      rwa [width] at masked
  | v6 octets =>
      have width : octets.toList.length = 16 := octets.toList_length
      have front : prefixLength ≤ 8 * octets.toList.length := by rwa [width]
      have bit : index < 8 * octets.toList.length := by rwa [width]
      have masked := bitAt_masked front bit
      rwa [width] at masked

/-- A masked address is another one exactly when that one has the same bits in
the prefix and no bits after it. -/
theorem maskAddress_eq_iff {prefixLength : Nat} {address network : IpAddr}
    (family : SameFamily address network)
    (fits : prefixLength ≤ addressWidth network) :
    maskAddress prefixLength address = network ↔
      ∀ index < addressWidth network, addressBit network index =
        (addressBit address index && decide (index < prefixLength)) := by
  have widths := (addressWidth_eq_iff address network).mpr family
  constructor
  · rintro rfl index inside
    rw [← widths] at fits inside
    exact addressBit_maskAddress fits inside
  · intro bits
    have masked := sameFamily_maskAddress prefixLength address
    have same := (addressWidth_eq_iff _ _).mpr masked
    apply eq_of_addressBit
    · rw [← addressWidth_eq_iff, same, widths]
    · intro index inside
      rw [same, widths] at inside
      rw [bits index inside, addressBit_maskAddress (by rwa [widths])
        (by rwa [widths])]

theorem maskAddress_eq_self_iff {prefixLength : Nat} {network : IpAddr}
    (fits : prefixLength ≤ addressWidth network) :
    maskAddress prefixLength network = network ↔
      ∀ index, prefixLength ≤ index → index < addressWidth network →
        addressBit network index = false := by
  have family : SameFamily network network :=
    (addressWidth_eq_iff _ _).mp rfl
  rw [maskAddress_eq_iff family fits]
  constructor
  · intro bits index beyond inside
    rw [bits index inside, decide_eq_false (Nat.not_lt.mpr beyond),
      Bool.and_false]
  · intro clear index inside
    by_cases beyond : index < prefixLength
    · rw [decide_eq_true beyond, Bool.and_true]
    · rw [clear index (Nat.not_lt.mp beyond) inside, Bool.false_and]

namespace IpCidr

/-- The address is in the network: it has the family of the network and its
first bits. -/
def Covers (cidr : IpCidr) (address : IpAddr) : Prop :=
  SameFamily address cidr.network ∧
    ∀ index < cidr.prefixLength.toNat,
      addressBit address index = addressBit cidr.network index

theorem contains_iff (cidr : IpCidr) (address : IpAddr) :
    cidr.contains address = true ↔ cidr.Covers address := by
  rw [contains, Bool.and_eq_true, decide_eq_true_eq, decide_eq_true_eq,
    eq_comm, addressWidth_eq_iff]
  apply and_congr_right
  intro family
  have clear := (maskAddress_eq_self_iff cidr.fits).mp cidr.masked
  rw [maskAddress_eq_iff family cidr.fits]
  constructor
  · intro bits index inside
    have short := Nat.lt_of_lt_of_le inside cidr.fits
    rw [bits index short, decide_eq_true inside, Bool.and_true]
  · intro agrees index inside
    by_cases beyond : index < cidr.prefixLength.toNat
    · rw [agrees index beyond, decide_eq_true beyond, Bool.and_true]
    · rw [clear index (Nat.not_lt.mp beyond) inside,
        decide_eq_false beyond, Bool.and_false]

theorem new_eq_ok_iff {network : IpAddr} {prefixLength : UInt8}
    {cidr : IpCidr} :
    new network prefixLength = .ok cidr ↔
      cidr.network = network ∧ cidr.prefixLength = prefixLength := by
  obtain ⟨net, bits, fits, masked⟩ := cidr
  constructor
  · intro made
    unfold new at made
    split at made
    · split at made
      · cases made
        exact ⟨rfl, rfl⟩
      · cases made
    · cases made
  · rintro ⟨rfl, rfl⟩
    rw [new, dif_pos fits, dif_pos masked]

/-- A network is accepted when its length is one of the family and no bit
after the prefix is set. -/
theorem exists_new_iff (network : IpAddr) (prefixLength : UInt8) :
    (∃ cidr, new network prefixLength = .ok cidr) ↔
      prefixLength.toNat ≤ addressWidth network ∧
        ∀ index, prefixLength.toNat ≤ index → index < addressWidth network →
          addressBit network index = false := by
  constructor
  · rintro ⟨cidr, made⟩
    obtain ⟨rfl, rfl⟩ := new_eq_ok_iff.mp made
    exact ⟨cidr.fits, (maskAddress_eq_self_iff cidr.fits).mp cidr.masked⟩
  · rintro ⟨fits, clear⟩
    exact ⟨⟨network, prefixLength, fits,
      (maskAddress_eq_self_iff fits).mpr clear⟩, new_eq_ok_iff.mpr ⟨rfl, rfl⟩⟩

/-- The text of a network: its address as the standard library displays it,
and the length. -/
def display (displayAddress : IpAddr → Text) (cidr : IpCidr) : Text :=
  displayAddress cidr.network ++
    '/' :: Nat.toDigits 10 cidr.prefixLength.toNat

section Display

variable {displayAddress : IpAddr → Text} {cidr : IpCidr}

theorem mem_display_isVisible
    (reads : AddressText.parseIpAddr (displayAddress cidr.network) =
      some cidr.network) :
    ∀ character ∈ cidr.display displayAddress, Text.IsVisible character := by
  intro character member
  rcases List.mem_append.mp member with address | tail
  · exact AddressText.visible_of_parseIpAddr reads character address
  · rcases List.mem_cons.mp tail with rfl | digit
    · decide
    · exact Text.visible_of_isDigit (Text.isDigit_toDigits digit)

/-- A displayed network is parsed back. -/
theorem fromStr_display
    (reads : AddressText.parseIpAddr (displayAddress cidr.network) =
      some cidr.network) :
    fromStr (cidr.display displayAddress) = .ok cidr := by
  have visible := mem_display_isVisible reads
  have trimmed : Text.trim (cidr.display displayAddress) =
      cidr.display displayAddress := by
    apply Text.trimMatches_eq_self
    · intro character first
      exact (visible character (List.mem_of_mem_head? first)).isWhitespace
    · intro character last
      exact (visible character (List.mem_of_getLast? last)).isWhitespace
  have slashless : '/' ∉ displayAddress cidr.network := by
    intro slash
    have kind := AddressText.readIpAddr_consumes.of_parseWith reads '/' slash
    revert kind
    decide
  have parts : Text.splitOnce '/' (cidr.display displayAddress) =
      some (displayAddress cidr.network,
        Nat.toDigits 10 cidr.prefixLength.toNat) :=
    Text.splitOnce_of_not_mem slashless _
  have number : Text.parseUnsigned 256
      (Nat.toDigits 10 cidr.prefixLength.toNat) =
        some cidr.prefixLength.toNat :=
    Text.parseUnsigned_toDigits cidr.prefixLength.toNat_lt
  simp only [fromStr, trimmed, parts, reads, number, UInt8.ofNat_toNat]
  exact new_eq_ok_iff.mpr ⟨rfl, rfl⟩

end Display

/-- A network holds the addresses of its family with its first bits, it is
made exactly from an address without bits after a prefix that fits, and its
text is parsed back where the text of its address is. -/
theorem cidr_prefix_exact :
    (∀ (cidr : IpCidr) (address : IpAddr),
      cidr.contains address = true ↔
        SameFamily address cidr.network ∧
          ∀ index < cidr.prefixLength.toNat,
            addressBit address index = addressBit cidr.network index) ∧
      (∀ (network : IpAddr) (prefixLength : UInt8),
        ((∃ cidr, IpCidr.new network prefixLength = .ok cidr) ↔
          prefixLength.toNat ≤ addressWidth network ∧
            ∀ index, prefixLength.toNat ≤ index →
              index < addressWidth network →
              addressBit network index = false) ∧
        ∀ cidr, IpCidr.new network prefixLength = .ok cidr →
          cidr.network = network ∧ cidr.prefixLength = prefixLength) ∧
      ∀ (displayAddress : IpAddr → Text) (cidr : IpCidr),
        AddressText.parseIpAddr (displayAddress cidr.network) =
          some cidr.network →
        IpCidr.fromStr (cidr.display displayAddress) = .ok cidr := by
  refine ⟨contains_iff, ?_, fun _ _ => fromStr_display⟩
  intro network prefixLength
  exact ⟨exists_new_iff network prefixLength,
    fun _ made => new_eq_ok_iff.mp made⟩

/-- The decimal octets with dots between them; of the other family the groups
without any abbreviation. -/
def sampleDisplay (address : IpAddr) : Text :=
  match address with
  | .v4 octets =>
      ['.'].intercalate
        (octets.toList.map fun octet => Nat.toDigits 10 octet.toNat)
  | .v6 octets =>
      [':'].intercalate ((List.range 8).map fun group =>
        Nat.toDigits 16
          (ofBigEndian ((octets.toList.drop (2 * group)).take 2)))

def privateNetwork : IpCidr :=
  ⟨.v4 ⟨[10, 0, 0, 0], rfl⟩, 8, by decide, by decide⟩

/-- A private network holds an address that starts with its octet, not one
that starts with the next octet, and its text is parsed back. -/
theorem cidr_prefix_exact_private :
    privateNetwork.contains (.v4 ⟨[10, 1, 2, 3], rfl⟩) = true ∧
      privateNetwork.contains (.v4 ⟨[11, 0, 0, 0], rfl⟩) = false ∧
      IpCidr.fromStr (privateNetwork.display sampleDisplay) =
        .ok privateNetwork := by
  obtain ⟨holds, _, parsed⟩ := cidr_prefix_exact
  refine ⟨(holds _ _).mpr ⟨trivial, by decide⟩, ?_,
    parsed sampleDisplay privateNetwork (by decide)⟩
  rw [Bool.eq_false_iff]
  intro inside
  obtain ⟨_, agrees⟩ := (holds _ _).mp inside
  revert agrees
  decide

end IpCidr

end Velum.Routing
