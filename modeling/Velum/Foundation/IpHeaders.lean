import Velum.Foundation.BigEndian
import Mathlib.Data.List.GetD

/-!
# Layouts of internet headers

The fixed headers of IPv4, IPv6 and UDP as byte strings, with the fields that
a packet without options, fragments and extension headers may have, and the
reading of a field at its offset.
-/

namespace Foundation

/-! ## Fields at an offset -/

def byteAt (bytes : List UInt8) (offset : Nat) : UInt8 :=
  bytes.getD offset 0

def wordAt (bytes : List UInt8) (offset : Nat) : Nat :=
  ofBigEndian ((bytes.drop offset).take 2)

def octetsAt (width : Nat) (bytes : List UInt8) (offset : Nat) :
    List.Vector UInt8 width :=
  List.Vector.ofFn fun index => bytes.getD (offset + index) 0

section Fields

variable {front back : List UInt8} {offset : Nat}

theorem byteAt_append (byte : UInt8) (place : front.length = offset) :
    byteAt (front ++ byte :: back) offset = byte := by
  subst place
  simp [byteAt]

theorem wordAt_append {value : Nat} (fits : value < 65536)
    (place : front.length = offset) :
    wordAt (front ++ (bigEndian 2 value ++ back)) offset = value := by
  subst place
  have field : ((front ++ (bigEndian 2 value ++ back)).drop
      front.length).take 2 = bigEndian 2 value := by
    rw [List.drop_left]
    exact List.take_left' (length_bigEndian 2 value)
  rw [wordAt, field, ofBigEndian_bigEndian 2 value fits]

theorem octetsAt_append {width : Nat} (octets : List.Vector UInt8 width)
    (place : front.length = offset) :
    octetsAt width (front ++ (octets.toList ++ back)) offset = octets := by
  subst place
  apply List.Vector.ext
  intro index
  have inside : index.val < octets.toList.length := by
    rw [octets.toList_length]
    exact index.isLt
  rw [octetsAt, List.Vector.get_ofFn,
    List.getD_append_right _ _ _ _ (Nat.le_add_right _ _),
    Nat.add_sub_cancel_left, List.getD_append _ _ _ _ inside,
    List.getD_eq_getElem _ _ inside]
  exact (List.Vector.get_eq_get_toList octets index).symm

end Fields

/-! ## Headers -/

/-- The header of an unfragmented IPv4 packet without options. -/
structure Ipv4Header where
  service : UInt8
  identification : UInt16
  dontFragment : Bool
  hopLimit : UInt8
  protocol : UInt8
  checksum : UInt16
  source : List.Vector UInt8 4
  destination : List.Vector UInt8 4

namespace Ipv4Header

/-- The fields in front of the addresses. -/
def opening (header : Ipv4Header) (bodyLength : Nat) : List UInt8 :=
  [0x45, header.service] ++ bigEndian 2 (20 + bodyLength) ++
    wordBytes16 header.identification ++
    [if header.dontFragment then 0x40 else 0, 0, header.hopLimit,
      header.protocol] ++ wordBytes16 header.checksum

def bytes (header : Ipv4Header) (bodyLength : Nat) : List UInt8 :=
  header.opening bodyLength ++
    (header.source.toList ++ header.destination.toList)

end Ipv4Header

/-- The header of an IPv6 packet without extension headers. -/
structure Ipv6Header where
  trafficClass : UInt8
  flowLabel : Nat
  nextHeader : UInt8
  hopLimit : UInt8
  source : List.Vector UInt8 16
  destination : List.Vector UInt8 16

namespace Ipv6Header

def opening (header : Ipv6Header) (bodyLength : Nat) : List UInt8 :=
  [UInt8.ofNat (0x60 + header.trafficClass.toNat / 16),
      UInt8.ofNat (header.trafficClass.toNat % 16 * 16 +
        header.flowLabel / 65536 % 16)] ++
    bigEndian 2 header.flowLabel ++ bigEndian 2 bodyLength ++
    [header.nextHeader, header.hopLimit]

def bytes (header : Ipv6Header) (bodyLength : Nat) : List UInt8 :=
  header.opening bodyLength ++
    (header.source.toList ++ header.destination.toList)

end Ipv6Header

structure UdpHeader where
  source : UInt16
  destination : UInt16
  checksum : UInt16

def UdpHeader.bytes (header : UdpHeader) (bodyLength : Nat) : List UInt8 :=
  wordBytes16 header.source ++ wordBytes16 header.destination ++
    bigEndian 2 (8 + bodyLength) ++ wordBytes16 header.checksum

@[simp] theorem Ipv4Header.length_opening (header : Ipv4Header)
    (bodyLength : Nat) : (header.opening bodyLength).length = 12 := by
  simp [opening]

@[simp] theorem Ipv6Header.length_opening (header : Ipv6Header)
    (bodyLength : Nat) : (header.opening bodyLength).length = 8 := by
  simp [opening]

@[simp] theorem Ipv4Header.length_bytes (header : Ipv4Header)
    (bodyLength : Nat) : (header.bytes bodyLength).length = 20 := by
  simp [bytes]

@[simp] theorem Ipv6Header.length_bytes (header : Ipv6Header)
    (bodyLength : Nat) : (header.bytes bodyLength).length = 40 := by
  simp [bytes]

@[simp] theorem UdpHeader.length_bytes (header : UdpHeader)
    (bodyLength : Nat) : (header.bytes bodyLength).length = 8 := by
  simp [bytes]

/-! ## Versions -/

theorem Ipv4Header.head?_bytes (header : Ipv4Header) (bodyLength : Nat)
    (body : List UInt8) :
    (header.bytes bodyLength ++ body).head? = some 0x45 := by
  simp [bytes, opening]

theorem Ipv6Header.head?_bytes (header : Ipv6Header) (bodyLength : Nat)
    (body : List UInt8) :
    ∃ first, (header.bytes bodyLength ++ body).head? = some first ∧
      first >>> 4 = 6 := by
  refine ⟨UInt8.ofNat (0x60 + header.trafficClass.toNat / 16),
    by simp [bytes, opening], ?_⟩
  have small := header.trafficClass.toNat_lt
  apply UInt8.toNat_inj.mp
  rw [UInt8.toNat_shiftRight, UInt8.toNat_ofNat', Nat.mod_eq_of_lt (by omega)]
  simp only [UInt8.reduceToNat, Nat.reduceMod, Nat.shiftRight_eq_div_pow]
  omega

/-! ## The fields that are read -/

section Read

variable {length : Nat} {rest : List UInt8}

theorem Ipv4Header.byteAt_first (header : Ipv4Header) :
    byteAt (header.bytes length ++ rest) 0 = 0x45 := rfl

theorem Ipv4Header.wordAt_length (header : Ipv4Header)
    (fits : 20 + length < 65536) :
    wordAt (header.bytes length ++ rest) 2 = 20 + length := by
  have shape : header.bytes length ++ rest = [0x45, header.service] ++
      (bigEndian 2 (20 + length) ++ (wordBytes16 header.identification ++
        ([if header.dontFragment then 0x40 else 0, 0, header.hopLimit,
          header.protocol] ++ (wordBytes16 header.checksum ++
            (header.source.toList ++ (header.destination.toList ++
              rest)))))) := by
    simp [bytes, opening]
  rw [shape]
  exact wordAt_append fits rfl

/-- The bits of an unfragmented packet that would mark a fragment. -/
theorem Ipv4Header.wordAt_fragment (header : Ipv4Header) :
    wordAt (header.bytes length ++ rest) 6 % 16384 = 0 := by
  have shape : header.bytes length ++ rest =
      ([0x45, header.service] ++ (bigEndian 2 (20 + length) ++
        wordBytes16 header.identification)) ++
      (bigEndian 2 (if header.dontFragment then 0x4000 else 0) ++
        ([header.hopLimit, header.protocol] ++ (wordBytes16 header.checksum ++
          (header.source.toList ++ (header.destination.toList ++
            rest))))) := by
    cases kept : header.dontFragment <;>
      simp [bytes, opening, kept, bigEndian]
  rw [shape, wordAt_append (by split <;> decide) (by simp)]
  split <;> rfl

theorem Ipv4Header.byteAt_protocol (header : Ipv4Header) :
    byteAt (header.bytes length ++ rest) 9 = header.protocol := by
  have shape : header.bytes length ++ rest =
      ([0x45, header.service] ++ (bigEndian 2 (20 + length) ++
        (wordBytes16 header.identification ++
          [if header.dontFragment then 0x40 else 0, 0, header.hopLimit]))) ++
      header.protocol :: (wordBytes16 header.checksum ++
        (header.source.toList ++ (header.destination.toList ++ rest))) := by
    simp [bytes, opening]
  rw [shape]
  exact byteAt_append _ (by simp)

theorem Ipv4Header.octetsAt_source (header : Ipv4Header) :
    octetsAt 4 (header.bytes length ++ rest) 12 = header.source := by
  rw [bytes, List.append_assoc, List.append_assoc]
  exact octetsAt_append _ (header.length_opening length)

theorem Ipv4Header.octetsAt_destination (header : Ipv4Header) :
    octetsAt 4 (header.bytes length ++ rest) 16 = header.destination := by
  rw [bytes, ← List.append_assoc, List.append_assoc]
  exact octetsAt_append _ (by simp)

theorem Ipv6Header.byteAt_first (header : Ipv6Header) :
    (byteAt (header.bytes length ++ rest) 0).toNat / 16 = 6 := by
  have small := header.trafficClass.toNat_lt
  have first : byteAt (header.bytes length ++ rest) 0 =
      UInt8.ofNat (0x60 + header.trafficClass.toNat / 16) := rfl
  rw [first, UInt8.toNat_ofNat', Nat.mod_eq_of_lt (by omega)]
  omega

theorem Ipv6Header.wordAt_length (header : Ipv6Header)
    (fits : length < 65536) :
    wordAt (header.bytes length ++ rest) 4 = length := by
  have shape : header.bytes length ++ rest =
      ([UInt8.ofNat (0x60 + header.trafficClass.toNat / 16),
        UInt8.ofNat (header.trafficClass.toNat % 16 * 16 +
          header.flowLabel / 65536 % 16)] ++
        bigEndian 2 header.flowLabel) ++ (bigEndian 2 length ++
      ([header.nextHeader, header.hopLimit] ++
        (header.source.toList ++ (header.destination.toList ++ rest)))) := by
    simp [bytes, opening]
  rw [shape]
  exact wordAt_append fits (by simp)

theorem Ipv6Header.byteAt_nextHeader (header : Ipv6Header) :
    byteAt (header.bytes length ++ rest) 6 = header.nextHeader := by
  have shape : header.bytes length ++ rest =
      ([UInt8.ofNat (0x60 + header.trafficClass.toNat / 16),
        UInt8.ofNat (header.trafficClass.toNat % 16 * 16 +
          header.flowLabel / 65536 % 16)] ++
        (bigEndian 2 header.flowLabel ++ bigEndian 2 length)) ++
      header.nextHeader :: ([header.hopLimit] ++
        (header.source.toList ++ (header.destination.toList ++ rest))) := by
    simp [bytes, opening]
  rw [shape]
  exact byteAt_append _ (by simp)

theorem Ipv6Header.octetsAt_source (header : Ipv6Header) :
    octetsAt 16 (header.bytes length ++ rest) 8 = header.source := by
  rw [bytes, List.append_assoc, List.append_assoc]
  exact octetsAt_append _ (header.length_opening length)

theorem Ipv6Header.octetsAt_destination (header : Ipv6Header) :
    octetsAt 16 (header.bytes length ++ rest) 24 = header.destination := by
  rw [bytes, ← List.append_assoc, List.append_assoc]
  exact octetsAt_append _ (by simp)

theorem UdpHeader.wordAt_source (header : UdpHeader) :
    wordAt (header.bytes length ++ rest) 0 = header.source.toNat := by
  rw [bytes, List.append_assoc, List.append_assoc, List.append_assoc]
  exact wordAt_append header.source.toNat_lt (List.length_nil)

theorem UdpHeader.wordAt_destination (header : UdpHeader) :
    wordAt (header.bytes length ++ rest) 2 = header.destination.toNat := by
  rw [bytes, List.append_assoc, List.append_assoc, List.append_assoc]
  exact wordAt_append header.destination.toNat_lt (length_wordBytes16 _)

theorem UdpHeader.wordAt_length (header : UdpHeader)
    (fits : 8 + length < 65536) :
    wordAt (header.bytes length ++ rest) 4 = 8 + length := by
  rw [bytes, List.append_assoc, List.append_assoc]
  exact wordAt_append fits (by simp)

end Read

end Foundation
