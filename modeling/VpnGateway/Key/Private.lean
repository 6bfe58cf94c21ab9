import VpnGateway.Curve.Edwards
import VpnGateway.Curve.Montgomery
import VpnGateway.Key.Public

/-!
# Private keys

Of a private key only its public half is kept, which tells the algorithm and the size, and whether a
certificate belongs to the key.

* `PrivateKey.publicHalf?`: the public half of a key in bytes, either in a frame that names the
  algorithm or in the form of its own algorithm.
-/

namespace VpnGateway.PrivateKey

open Asn1 PublicKey

/-! ## Forms of single algorithms -/

/-- Three numbers for each prime after the second. -/
def primeInfo (e : Element) : Option Unit :=
  e.sequence do
    let _ ← PrimeGroup.number
    let _ ← PrimeGroup.number
    let _ ← PrimeGroup.number

/-- The public numbers of an RSA key. In version 1 there are more than two primes. -/
def rsaNumbers (e : Element) : Option (Nat × Nat) :=
  e.sequence do
    let version ← (← Fields.take .integer).int32
    let n ← PrimeGroup.number
    let e ← PrimeGroup.number
    let _ ← PrimeGroup.number
    let _ ← PrimeGroup.number
    let _ ← PrimeGroup.number
    let _ ← PrimeGroup.number
    let _ ← PrimeGroup.number
    let _ ← PrimeGroup.number
    let more ← match ← Fields.take? .sequence with
      | none => pure []
      | some infos => infos.rows primeInfo
    if version = 1 ∧ more = [] then failure
    return (n, e)

/-- The public half of a signature key in a group of powers. -/
def dsaKey (e : Element) : Option PublicKey :=
  e.sequence do
    let _ ← (← Fields.take .integer).int32
    let p ← PrimeGroup.number
    let q ← PrimeGroup.number
    let g ← PrimeGroup.number
    let y ← PrimeGroup.number
    let _ ← PrimeGroup.number
    return dsa ⟨p, some q, g⟩ y

/-- The curve and the point of a key on a curve. The curve is the one written in the key, or else the
one given; the point is written too, or else the multiple of the generating point by the secret. -/
def curvePoint (given : Option CurveGroup) (e : Element) : Option (CurveGroup × Point) :=
  e.sequence do
    let _ ← (← Fields.take .integer).int32
    let secret ← (← Fields.take .octetString).octets
    let group ← match ← Fields.take? (.context 0) with
      | none => given
      | some parameters => do CurveGroup.ofParameters? (← parameters.inner)
    let point ← match ← Fields.take? (.context 1) with
      | none => pure (group.curve.scale (Octets.bigEndian secret) group.curve.base)
      | some point => do
        let inner ← point.inner
        if inner.tag = .bitString then group.curve.pointOfBytes? (← inner.bitString) else failure
    return (group, point)

/-! ## The frame -/

/-- A property of a key: what it is, and its values. -/
def property (e : Element) : Option Unit :=
  e.sequence do
    let _ ← (← Fields.take .objectIdentifier).objectId
    let values ← (← Fields.take .set).rows fun value => value.encode
    let _ := values

/-- A key in its frame: the algorithm, and what it makes of the bytes. -/
def frame (e : Element) : Option (AlgorithmIdentifier × List UInt8) :=
  e.sequence do
    let _ ← (← Fields.take .integer).integer
    let algorithm ← AlgorithmIdentifier.ofElement? (← Fields.next)
    let key ← (← Fields.take .octetString).octets
    if let some properties ← Fields.take? (.context 0) then
      let _ ← properties.rows property
    return (algorithm, key)

/-- The sizes of groups of powers, in binary digits, in which the public half of an agreement key is
computed. -/
def agreementSizes (p : Nat) : Bool :=
  512 ≤ Octets.bitLength p && Octets.bitLength p ≤ 10000

/-- The number of an agreement key: the power by its secret, whose sign does not count. -/
def agreementNumber (group : PrimeGroup) (secret : Int) : Option Int :=
  if group.p % 2 = 1 ∧ agreementSizes group.p then some (group.power secret.natAbs) else none

/-- The point that a secret has on a curve whose points are kept as bytes. -/
def bytePoint : ByteCurve → List UInt8 → List UInt8
  | .x25519 => Montgomery.publicKey25519
  | .x448 => Montgomery.publicKey448
  | .ed25519 => Edwards.publicKey25519
  | .ed448 => Edwards.publicKey448

/-- The algorithm of a key on a curve under a label. -/
def curveAlgorithm (label : KeyLabel) (group : CurveGroup) : KeyAlgorithm :=
  if group.curve ≠ Curve.sm2 then .ec else if label = .sm2 then .unnumbered else .sm2

/-- The public half of a key with a label and parameters. -/
def framed (label : KeyLabel) (parameters : Option Element) (key : List UInt8) :
    Option PublicKey := do
  match label with
  | .rsa =>
    let (n, e) ← rsaNumbers (← first key)
    return rsa n e
  | .rsaPss =>
    if let some p := parameters then pssOf p
    let (n, e) ← rsaNumbers (← first key)
    return rsaPss n e
  | .dsa =>
    let group ← PrimeGroup.ofSignature? (← parameters)
    let secret ← firstInteger key
    if group.p % 2 = 1 ∧ 0 ≤ secret then return dsa group (group.power secret.toNat) else none
  | .dh =>
    let group ← PrimeGroup.ofAgreement? (← parameters)
    return dh group (← agreementNumber group (← firstInteger key))
  | .dhWithOrder =>
    let group ← PrimeGroup.ofAgreementWithOrder? (← parameters)
    return dhWithOrder group (← agreementNumber group (← firstInteger key))
  | .ec | .sm2 =>
    let given ← CurveGroup.ofParameters? (← parameters)
    let (group, point) ← curvePoint (some given) (← first key)
    return ec (curveAlgorithm label group) group point
  | _ =>
    let curve ← byteCurve label
    let e ← first key
    let secret ← e.octets
    if parameters = none ∧ e.tag = .octetString ∧ secret.length = curve.width then
      return bytes curve (bytePoint curve secret)
    else none

/-- The public half of a key in its frame. -/
def ofFrame (e : Element) : Option PublicKey := do
  let (algorithm, key) ← frame e
  framed (← KeyLabel.ofObjectId? algorithm.object) algorithm.parameters key

/-- The public half of an RSA key. -/
def ofRsa (e : Element) : Option PublicKey := do
  let (n, e) ← rsaNumbers e
  return rsa n e

/-- The public half of a key on a curve. -/
def ofCurve (e : Element) : Option PublicKey := do
  let (group, point) ← curvePoint none e
  if group.curve = Curve.sm2 then none else return ec .ec group point

/-- The public half of a private key. What follows the key is ignored. -/
def publicHalf? (bytes : List UInt8) : Option PublicKey := do
  let e ← first bytes
  ofFrame e <|> ofRsa e <|> dsaKey e <|> ofCurve e

end VpnGateway.PrivateKey
