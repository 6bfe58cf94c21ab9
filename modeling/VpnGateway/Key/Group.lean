import VpnGateway.Key.Algorithm
import VpnGateway.Modular

/-!
# Parameters of keys

* `PrimeGroup`: powers of a number modulo a prime, with the three ways its parameters are written;
* `pssOf`: parameters that restrict how an RSA key signs.
-/

namespace VpnGateway

open Asn1

/-- The powers of a number modulo a prime, and how many there are if that is known. -/
structure PrimeGroup where
  p : Nat
  q : Option Nat
  g : Nat
  deriving DecidableEq, Repr

namespace PrimeGroup

/-- The next number of a sequence. -/
def number : Fields Nat := do
  let n ← (← Fields.take .integer).unsigned
  return n

/-- The group of a signature key. -/
def ofSignature? (e : Element) : Option PrimeGroup :=
  e.sequence do
    let p ← number
    let q ← number
    let g ← number
    return ⟨p, some q, g⟩

/-- The group of an agreement key, which may say how long secrets are. -/
def ofAgreement? (e : Element) : Option PrimeGroup :=
  e.sequence do
    let p ← number
    let g ← number
    if let some length ← Fields.take? .integer then
      let _ ← length.int32
    return ⟨p, none, g⟩

/-- How the parameters of a group were found. -/
def search (e : Element) : Option Unit :=
  e.sequence do
    let _ ← (← Fields.take .bitString).bitString
    let _ ← number

/-- The group of an agreement key with an order. -/
def ofAgreementWithOrder? (e : Element) : Option PrimeGroup :=
  e.sequence do
    let p ← number
    let g ← number
    let q ← number
    if let some factor ← Fields.take? .integer then
      let _ ← factor.unsigned
    if let some found ← Fields.take? .sequence then
      search found
    return ⟨p, some q, g⟩

/-- The power of the group's number by a secret. -/
def power (group : PrimeGroup) (secret : Nat) : Nat :=
  Modular.pow group.g secret group.p

end PrimeGroup

/-! ## Restrictions of signatures -/

/-- The object identifiers of digests, by themselves or with a signature. -/
def digestObjects : List (List Nat) :=
  [[1, 0, 10118, 3, 0, 55], [1, 2, 156, 10197, 1, 401], [1, 2, 156, 10197, 1, 504],
   [1, 3, 6, 1, 4, 1, 1722, 12, 2, 1, 16], [1, 3, 6, 1, 4, 1, 1722, 12, 2, 2, 8],
   [1, 3, 14, 3, 2, 26], [1, 3, 14, 3, 2, 29], [1, 3, 36, 3, 2, 1], [1, 3, 36, 3, 3, 1, 2]] ++
  ([3, 4, 5, 11, 12, 13, 14, 15, 16].map fun n => [1, 2, 840, 113549, 1, 1, n]) ++
  ([4, 5].map fun n => [1, 2, 840, 113549, 2, n]) ++
  ([1, 2, 3, 4, 5, 6, 7, 8, 9, 10, 11, 12].map fun n => [2, 16, 840, 1, 101, 3, 4, 2, n]) ++
  ([13, 14, 15, 16].map fun n => [2, 16, 840, 1, 101, 3, 4, 3, n])

/-- The object identifier of the only way to make masks. -/
def maskObject : ObjectId := ⟨[1, 2, 840, 113549, 1, 1, 8]⟩

/-- An algorithm that is a digest. -/
def digestOf (e : Element) : Option Unit := do
  let a ← AlgorithmIdentifier.ofElement? e
  if a.object.arcs ∈ digestObjects then return () else none

/-- An algorithm that makes masks with a digest. -/
def maskOf (e : Element) : Option Unit := do
  let a ← AlgorithmIdentifier.ofElement? e
  if a.object = maskObject then digestOf (← a.parameters) else none

/-- An element of a sequence under an explicit tag, if it is there. -/
def tagged (n : Nat) (read : Element → Option Unit) : Fields Unit := do
  if let some e ← Fields.take? (.context n) then
    let inner ← e.inner
    read inner

/-- An integer. -/
def integerOf (e : Element) : Option Unit := do
  if e.tag = .integer then let _ ← e.integer else none

/-- Parameters that restrict how a key signs: the digest, the mask, the length of the salt and the
trailer. -/
def pssOf (e : Element) : Option Unit :=
  e.sequence do
    tagged 0 digestOf
    tagged 1 maskOf
    tagged 2 integerOf
    tagged 3 integerOf

end VpnGateway
