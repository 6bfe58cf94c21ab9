import VpnGateway.Text.Numeral

/-!
# IPv4 addresses

Four octets, written in base ten with points between them. A number has at most three digits and no
leading zero, so each address has one text.

* `Ipv4`, `Ipv4.toText`, `Ipv4.ofText?`;
* `Ipv4.toNat`: the 32 bits of an address.
-/

namespace VpnGateway

/-- An IPv4 address. -/
structure Ipv4 where
  a : UInt8
  b : UInt8
  c : UInt8
  d : UInt8
  deriving DecidableEq, Repr, Inhabited

namespace Ipv4

/-- The four octets. -/
def octets (ip : Ipv4) : List UInt8 :=
  [ip.a, ip.b, ip.c, ip.d]

/-- The address as a number of 32 bits. -/
def toNat (ip : Ipv4) : Nat :=
  ip.octets.foldl (fun n o => n * 256 + o.toNat) 0

/-- The characters of an address. -/
def toChars (ip : Ipv4) : List Char :=
  ['.'].intercalate (ip.octets.map fun o => Nat.toDigits 10 o.toNat)

/-- The text of an address. -/
def toText (ip : Ipv4) : String :=
  String.ofList ip.toChars

/-- An octet: one to three digits, no leading zero, at most 255. -/
def octet? (cs : List Char) : Option UInt8 :=
  if 3 < cs.length ∨ (1 < cs.length ∧ cs.head? = some '0') then none
  else (Text.natural? cs).bind fun n => if n < 256 then some (UInt8.ofNat n) else none

/-- The address that characters denote. -/
def ofChars? (cs : List Char) : Option Ipv4 :=
  match (cs.splitOn '.').mapM octet? with
  | some [a, b, c, d] => some ⟨a, b, c, d⟩
  | _ => none

/-- The address that a text denotes. -/
def ofText? (s : String) : Option Ipv4 :=
  ofChars? s.toList

end Ipv4

end VpnGateway
