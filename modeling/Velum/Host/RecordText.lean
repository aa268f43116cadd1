import Velum.Foundation.JsonReader
import Velum.Host.TrafficHost
import Velum.Protocol.AddressText

/-!
# Recovery records as JSON texts

A record is written with its addresses as texts and read back; a text with
other fields is refused.
-/

namespace Velum.Host.RecordText

open Foundation
open Helper (IpNetwork StartParameters)
open Velum.Protocol (IpAddr)
open Velum.Protocol.AddressText

def showIpAddr : IpAddr → Foundation.Text
  | .v4 octets => showIpv4Addr octets
  | .v6 octets => showIpv6Addr octets

/-- The text of an address is that of no other one. -/
def Shown (address : IpAddr) : Prop :=
  parseIpAddr (showIpAddr address) = some address

instance (address : IpAddr) : Decidable (Shown address) :=
  inferInstanceAs (Decidable (_ = _))

def writeAddress (address : IpAddr) : Json :=
  .string (String.ofList (showIpAddr address))

def writeNetwork (network : IpNetwork) : Json :=
  .object [("address", writeAddress network.address),
    ("prefix_length", .number network.prefixLength.toNat)]

def writeOption : Option IpNetwork → Json
  | none => .null
  | some network => writeNetwork network

def writeParameters (configuration : StartParameters) : Json :=
  .object [("mtu", .number configuration.mtu.toNat),
    ("ipv4", writeOption configuration.ipv4),
    ("ipv6", writeOption configuration.ipv6),
    ("dns", .array (configuration.dns.map writeAddress))]

def writeRecord (record : RecoveryRecord) : Json :=
  .object [("profile_generation", .number record.profileGeneration.toNat),
    ("configuration", writeParameters record.configuration)]

/-- The fields of an object, if they are among the names. -/
def readFields (names : List String) : Json → Option (List (String × Json))
  | .object fields =>
      if (fields.map Prod.fst).Nodup ∧ ∀ field ∈ fields, field.1 ∈ names then
        some fields
      else none
  | _ => none

def readNumber (bound : Nat) : Json → Option Nat
  | .number (.ofNat number) => if number < bound then some number else none
  | _ => none

def readAddress : Json → Option IpAddr
  | .string text => parseIpAddr text.toList
  | _ => none

def readNetwork (value : Json) : Option IpNetwork := do
  let fields ← readFields ["address", "prefix_length"] value
  return {
    address := ← readAddress (Json.field fields "address")
    prefixLength := .ofNat
      (← readNumber (2 ^ 8) (Json.field fields "prefix_length")) }

def readOption : Json → Option (Option IpNetwork)
  | .null => some none
  | value => (readNetwork value).map some

def readAddresses : Json → Option (List IpAddr)
  | .array items => items.mapM readAddress
  | _ => none

def readParameters (value : Json) : Option StartParameters := do
  let fields ← readFields ["mtu", "ipv4", "ipv6", "dns"] value
  return {
    mtu := .ofNat (← readNumber (2 ^ 16) (Json.field fields "mtu"))
    ipv4 := ← readOption (Json.field fields "ipv4")
    ipv6 := ← readOption (Json.field fields "ipv6")
    dns := ← readAddresses (Json.field fields "dns") }

def readRecord (value : Json) : Option RecoveryRecord := do
  let fields ← readFields ["profile_generation", "configuration"] value
  return {
    profileGeneration := .ofNat
      (← readNumber (2 ^ 64) (Json.field fields "profile_generation"))
    configuration := ← readParameters (Json.field fields "configuration") }

/-! ## Reading back -/

/-- The addresses of a record. -/
def Addresses (record : RecoveryRecord) (address : IpAddr) : Prop :=
  (∃ network, record.configuration.ipv4 = some network ∧
      network.address = address) ∨
    (∃ network, record.configuration.ipv6 = some network ∧
      network.address = address) ∨
    address ∈ record.configuration.dns

theorem readNumber_ofNat {bound number : Nat} (fits : number < bound) :
    readNumber bound (.number number) = some number :=
  if_pos fits

theorem readAddress_write {address : IpAddr} (shown : Shown address) :
    readAddress (writeAddress address) = some address := by
  rw [writeAddress, readAddress, String.toList_ofList]
  exact shown

theorem readNetwork_write {network : IpNetwork}
    (shown : Shown network.address) :
    readNetwork (writeNetwork network) = some network := by
  have address := readAddress_write shown
  have length := readNumber_ofNat network.prefixLength.toNat_lt
  simp [readNetwork, writeNetwork, readFields, Json.field, List.lookup_cons,
    address, length]

theorem readOption_write {network : Option IpNetwork}
    (shown : ∀ given, network = some given → Shown given.address) :
    readOption (writeOption network) = some network := by
  cases network with
  | none => rfl
  | some given =>
      have read := readNetwork_write (shown given rfl)
      rw [writeOption, writeNetwork, readOption]
      · rw [← writeNetwork, read]
        rfl
      · exact nofun

theorem mapM_readAddress {addresses : List IpAddr}
    (shown : ∀ address ∈ addresses, Shown address) :
    (addresses.map writeAddress).mapM readAddress = some addresses := by
  induction addresses with
  | nil => rfl
  | cons address rest induction =>
      rw [List.map_cons, List.mapM_cons,
        readAddress_write (shown address List.mem_cons_self),
        induction fun other member => shown other
          (List.mem_cons_of_mem _ member)]
      rfl

theorem readParameters_write {configuration : StartParameters}
    (ipv4 : ∀ given, configuration.ipv4 = some given → Shown given.address)
    (ipv6 : ∀ given, configuration.ipv6 = some given → Shown given.address)
    (dns : ∀ address ∈ configuration.dns, Shown address) :
    readParameters (writeParameters configuration) = some configuration := by
  have mtu := readNumber_ofNat configuration.mtu.toNat_lt
  have addresses := mapM_readAddress dns
  simp [readParameters, writeParameters, readFields, Json.field,
    List.lookup_cons, mtu, readOption_write ipv4, readOption_write ipv6, readAddresses, addresses]

/-- A record is read back if its addresses are. -/
theorem readRecord_write {record : RecoveryRecord}
    (shown : ∀ address, Addresses record address → Shown address) :
    readRecord (writeRecord record) = some record := by
  have generation := readNumber_ofNat record.profileGeneration.toNat_lt
  have configuration : readParameters (writeParameters record.configuration) =
      some record.configuration := by
    apply readParameters_write
    · intro given present
      exact shown _ (.inl ⟨given, present, rfl⟩)
    · intro given present
      exact shown _ (.inr (.inl ⟨given, present, rfl⟩))
    · intro address member
      exact shown _ (.inr (.inr member))
  simp [readRecord, writeRecord, readFields, Json.field, List.lookup_cons,
    generation, configuration]

def encode (record : RecoveryRecord) : List UInt8 :=
  Text.utf8 (Json.write (writeRecord record))

def decode (source : List UInt8) : Option RecoveryRecord := do
  let text ← Text.fromUtf8 source
  let value ← Json.read text
  readRecord value

theorem decode_encode {record : RecoveryRecord}
    (shown : ∀ address, Addresses record address → Shown address) :
    decode (encode record) = some record := by
  rw [decode, encode, Text.fromUtf8_utf8, Option.bind_eq_bind,
    Option.bind_some, Json.read_write]
  exact readRecord_write shown

end Velum.Host.RecordText
