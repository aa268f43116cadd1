import Velum.Protocol.Datagram
import Mathlib.Data.Prod.Lex

/-!
# The order of addresses

Addresses are compared as ordered maps compare them: IPv4 stands before IPv6,
then the numbers of the addresses decide, and then the remaining fields.
-/

namespace Velum.Protocol

open Foundation

namespace IpAddr

def rank : IpAddr → Lex (Nat × Nat)
  | .v4 octets => toLex (0, ofBigEndian octets.toList)
  | .v6 octets => toLex (1, ofBigEndian octets.toList)

theorem octets_injective {width : Nat}
    {first second : List.Vector UInt8 width}
    (same : ofBigEndian first.toList = ofBigEndian second.toList) :
    first = second := by
  apply List.Vector.toList_injective
  rw [← bigEndian_ofBigEndian first.toList,
    ← bigEndian_ofBigEndian second.toList, same,
    List.Vector.toList_length, List.Vector.toList_length]

theorem rank_injective : Function.Injective rank := by
  intro first second same
  cases first with
  | v4 octets =>
      cases second with
      | v4 octets' =>
          obtain ⟨_, numbers⟩ := Prod.mk.inj (toLex.injective same)
          rw [octets_injective numbers]
      | v6 => cases (Prod.mk.inj (toLex.injective same)).1
  | v6 octets =>
      cases second with
      | v4 => cases (Prod.mk.inj (toLex.injective same)).1
      | v6 octets' =>
          obtain ⟨_, numbers⟩ := Prod.mk.inj (toLex.injective same)
          rw [octets_injective numbers]

instance : LinearOrder IpAddr :=
  LinearOrder.lift' rank rank_injective

end IpAddr

namespace SocketAddr

def rank : SocketAddr → Lex (IpAddr × Lex (Nat × Lex (Nat × Nat)))
  | .v4 octets port => toLex (.v4 octets, toLex (port.toNat, toLex (0, 0)))
  | .v6 octets port flowinfo scopeId =>
      toLex (.v6 octets,
        toLex (port.toNat, toLex (flowinfo.toNat, scopeId.toNat)))

theorem rank_injective : Function.Injective rank := by
  intro first second same
  cases first with
  | v4 octets port =>
      cases second with
      | v4 octets' port' =>
          obtain ⟨addresses, rest⟩ := Prod.mk.inj (toLex.injective same)
          obtain ⟨ports, _⟩ := Prod.mk.inj (toLex.injective rest)
          obtain rfl := IpAddr.v4.inj addresses
          obtain rfl := UInt16.toNat_inj.mp ports
          rfl
      | v6 => cases (Prod.mk.inj (toLex.injective same)).1
  | v6 octets port flowinfo scopeId =>
      cases second with
      | v4 => cases (Prod.mk.inj (toLex.injective same)).1
      | v6 octets' port' flowinfo' scopeId' =>
          obtain ⟨addresses, rest⟩ := Prod.mk.inj (toLex.injective same)
          obtain ⟨ports, fields⟩ := Prod.mk.inj (toLex.injective rest)
          obtain ⟨flows, scopes⟩ := Prod.mk.inj (toLex.injective fields)
          obtain rfl := IpAddr.v6.inj addresses
          obtain rfl := UInt16.toNat_inj.mp ports
          obtain rfl := UInt32.toNat_inj.mp flows
          obtain rfl := UInt32.toNat_inj.mp scopes
          rfl

instance : LinearOrder SocketAddr :=
  LinearOrder.lift' rank rank_injective

end SocketAddr

end Velum.Protocol
