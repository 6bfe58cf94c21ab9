import VpnGateway.Address

/-!
# Networks

An address with the length of its network part. The text of a network is an address, a slash and
the length; for IPv4 a mask may stand for the length, and an address alone is a network of its own.

* `Network`, `Network.toText`, `Network.ofText?`;
* `Network.maskLength?`: the length that a mask denotes.
-/

namespace VpnGateway

/-- An address, host bits included, and the length of its network part. -/
structure Network where
  address : Address
  length : Nat
  deriving DecidableEq, Repr

namespace Network

/-- The text of a network. -/
def toText (n : Network) : String :=
  String.ofList (n.address.toChars ++ '/' :: Nat.toDigits 10 n.length)

/-- A mask of `length` ones and then zeros, in 32 bits. -/
def mask (length : Nat) : Nat :=
  Nat.pow 2 32 - Nat.pow 2 (32 - length)

/-- The length that a mask denotes: its ones come first. -/
def maskLength? (ip : Ipv4) : Option Nat :=
  (List.range 33).find? fun n => mask n == ip.toNat

/-- A length of at most `width`. -/
def length? (width : Nat) (cs : List Char) : Option Nat :=
  (Text.unsigned? cs).bind fun n => if n ≤ width then some n else none

/-- What follows the slash after an address: a mask, or a length. -/
def lengthAfter? (a : Address) (cs : List Char) : Option Nat :=
  match a, Ipv4.ofChars? cs with
  | .v4 _, some ip => maskLength? ip
  | _, _ => length? a.width cs

/-- The network that characters denote: exactly one slash, or none. -/
def ofChars? (cs : List Char) : Option Network :=
  match cs.splitOn '/' with
  | [a] => (Address.ofChars? a).map fun a => ⟨a, a.width⟩
  | [a, l] => do
    let address ← Address.ofChars? a
    let length ← lengthAfter? address l
    return ⟨address, length⟩
  | _ => none

/-- The network that a text denotes. -/
def ofText? (s : String) : Option Network :=
  ofChars? s.toList

end Network

end VpnGateway
