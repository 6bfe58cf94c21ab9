import VpnGateway.Address.Ipv6

/-!
# Addresses

* `Address`: an IPv4 or an IPv6 address;
* `Address.toText`, `Address.ofText?`: an IPv4 text is tried first, and no text denotes both;
* `Address.width`: the bits of an address.
-/

namespace VpnGateway

/-- An IP address. -/
inductive Address
  | v4 (ip : Ipv4)
  | v6 (ip : Ipv6)
  deriving DecidableEq, Repr

namespace Address

/-- The characters of an address. -/
def toChars : Address → List Char
  | v4 ip => ip.toChars
  | v6 ip => ip.toChars

/-- The text of an address. -/
def toText (a : Address) : String :=
  String.ofList a.toChars

/-- The address that characters denote. -/
def ofChars? (cs : List Char) : Option Address :=
  match Ipv4.ofChars? cs with
  | some ip => some (v4 ip)
  | none => (Ipv6.ofChars? cs).map v6

/-- The address that a text denotes. -/
def ofText? (s : String) : Option Address :=
  ofChars? s.toList

/-- How many bits an address has. -/
def width : Address → Nat
  | v4 _ => 32
  | v6 _ => 128

/-- The address has IPv6 form. -/
def isV6 : Address → Bool
  | v4 _ => false
  | v6 _ => true

end Address

end VpnGateway
