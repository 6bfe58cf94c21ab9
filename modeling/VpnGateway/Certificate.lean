import VpnGateway.Certificate.Name
import VpnGateway.Key.Public

/-!
# Certificates

A certificate says whose a public key is. Nothing is checked but its form.

* `Certificate`, `Certificate.ofBytes?`.
-/

namespace VpnGateway

open Asn1

/-- What is kept of a certificate: its holder, the key of the holder, and the whole in the shortest
writing. -/
structure Certificate where
  subject : Name
  keyInfo : KeyInfo
  encoded : List UInt8
  deriving DecidableEq, Repr

namespace Certificate

/-- A point in time, in one of two types. -/
def time : Fields Unit := do
  let e ← Fields.next
  if e.tag = .utcTime ∨ e.tag = .generalizedTime then
    let _ ← e.octets
  else failure

/-- From when to when a certificate is valid. -/
def validity (e : Element) : Option Unit :=
  e.sequence do
    time
    time

/-- An extension: what it is, whether it is critical, and its value. -/
def extension (e : Element) : Option Unit :=
  e.sequence do
    let _ ← (← Fields.take .objectIdentifier).objectId
    if let some critical ← Fields.take? .boolean then
      let _ ← critical.boolean
    let _ ← (← Fields.take .octetString).octets

/-- The version, under an explicit tag. -/
def version (e : Element) : Option Unit := do
  let inner ← e.inner
  if inner.tag = .integer then let _ ← inner.integer else none

/-- Extensions, under an explicit tag. -/
def extensions (e : Element) : Option Unit := do
  let inner ← e.inner
  if inner.tag = .sequence then let _ ← inner.rows extension else none

/-- A number that tells holders of one name apart. -/
def uniqueNumber (n : Nat) : Fields Unit := do
  if let some e ← Fields.take? (.context n) then
    let _ ← e.bitString

/-- The part that is signed: the name and the key of the holder. -/
def body (e : Element) : Option (Name × KeyInfo) :=
  e.sequence do
    if let some e ← Fields.take? (.context 0) then version e
    let _ ← (← Fields.take .integer).integer
    let _ ← AlgorithmIdentifier.ofElement? (← Fields.next)
    let _ ← Name.ofElement? (← Fields.next)
    validity (← Fields.next)
    let subject ← Name.ofElement? (← Fields.next)
    let keyInfo ← KeyInfo.ofElement? (← Fields.next)
    uniqueNumber 1
    uniqueNumber 2
    if let some e ← Fields.take? (.context 3) then extensions e
    return (subject, keyInfo)

/-- The certificate that an element holds. The part that is signed is kept as it is written. -/
def ofElement? (e : Element) : Option Certificate :=
  e.sequence do
    let signed ← Fields.next
    let (subject, keyInfo) ← body signed
    let algorithm ← AlgorithmIdentifier.encode (← Fields.next)
    let (unused, signature) ← (← Fields.take .bitString).bits
    return ⟨subject, keyInfo,
      wrap .sequence true (signed.raw ++ algorithm ++ wrapBits unused signature)⟩

/-- The certificate that bytes start with. -/
def ofBytes? (bytes : List UInt8) : Option Certificate := do
  ofElement? (← Element.read bytes).1

end Certificate

end VpnGateway
