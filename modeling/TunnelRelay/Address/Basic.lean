/-!
# Network addresses

## Main definitions

- `Address.V4`, `Address.V6` — addresses of the two families
- `Address` — an address of either family
- `Subnet` — an address with a prefix length
-/

namespace TunnelRelay

/-- An IPv4 address: thirty-two bits, the first octet highest. -/
structure Address.V4 where
  /-- The address as one number. -/
  bits : UInt32
  deriving DecidableEq, Repr

/-- An IPv6 address: eight groups of sixteen bits. -/
structure Address.V6 where
  /-- The groups, in the order in which they are written. -/
  groups : Vector UInt16 8
  deriving DecidableEq, Repr

/-- An address of either family. -/
inductive Address where
  | v4 (a : Address.V4)
  | v6 (a : Address.V6)
  deriving DecidableEq, Repr

namespace Address

/-- The address with the given octets. -/
def V4.ofOctets (a b c d : Nat) : V4 :=
  ⟨UInt32.ofNat (((a * 256 + b) * 256 + c) * 256 + d)⟩

/-- The octet at a place, the first at place zero. -/
def V4.octet (x : V4) (i : Nat) : Nat := x.bits.toNat / Nat.pow 256 (3 - i) % 256

/-- The octets, in the order in which they are written. -/
def V4.octets (x : V4) : List Nat := [x.octet 0, x.octet 1, x.octet 2, x.octet 3]

/-- The address whose bits are all clear. -/
def V4.unspecified : V4 := ⟨0⟩

/-- The address with the given groups; groups that are missing are zero. -/
def V6.ofGroups (gs : List UInt16) : V6 := ⟨Vector.ofFn fun i => gs.getD i 0⟩

/-- The address whose bits are all clear. -/
def V6.unspecified : V6 := ⟨Vector.replicate 8 0⟩

/-- The IPv4 address inside an IPv6 address that maps one. -/
def V6.mapped? (x : V6) : Option V4 :=
  match x.groups.toList with
  | [0, 0, 0, 0, 0, 0xffff, g, h] => some ⟨g.toUInt32 * 0x10000 + h.toUInt32⟩
  | _ => none

/-- The address belongs to the IPv6 family. -/
def isV6 : Address → Bool
  | v4 _ => false
  | v6 _ => true

/-- The address, if it is an IPv4 one. -/
def v4? : Address → Option V4
  | v4 a => some a
  | v6 _ => none

/-- The address, if it is an IPv6 one. -/
def v6? : Address → Option V6
  | v4 _ => none
  | v6 a => some a

/-- The longest prefix that an address of this family can have. -/
def width : Address → Nat
  | v4 _ => 32
  | v6 _ => 128

end Address

/-- An address with the length of its network prefix. -/
structure Subnet where
  /-- The address. -/
  address : Address
  /-- How many leading bits name the network. -/
  prefixLen : Nat
  deriving DecidableEq, Repr

namespace Subnet

/-- Every IPv4 destination. -/
def allV4 : Subnet := ⟨.v4 .unspecified, 0⟩

/-- Every IPv6 destination. -/
def allV6 : Subnet := ⟨.v6 .unspecified, 0⟩

/-- The prefix is no longer than the address. -/
def Fits (s : Subnet) : Prop := s.prefixLen ≤ s.address.width

instance (s : Subnet) : Decidable s.Fits := inferInstanceAs (Decidable (_ ≤ _))

end Subnet

end TunnelRelay
