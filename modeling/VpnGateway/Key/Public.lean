import VpnGateway.Curve.Parameters
import VpnGateway.Key.Group

/-!
# Public keys

* `PublicKey`, `PublicKey.algorithm`, `PublicKey.bits`, `PublicKey.agrees`;
* `PublicKey.ofBytes?`: a key, read from its bytes;
* `KeyInfo`, `KeyInfo.publicKey?`: the key that a certificate holds.
-/

namespace VpnGateway

open Asn1

/-- A curve whose points are kept as bytes. -/
inductive ByteCurve
  | x25519 | x448 | ed25519 | ed448
  deriving DecidableEq, Repr

namespace ByteCurve

/-- How many bytes a point or secret takes. -/
def width : ByteCurve → Nat
  | x25519 => 32
  | x448 => 56
  | ed25519 => 32
  | ed448 => 57

/-- How many binary digits keys on the curve are said to have. -/
def bits : ByteCurve → Nat
  | x25519 => 253
  | x448 => 448
  | ed25519 => 256
  | ed448 => 456

/-- The algorithm of keys on the curve. -/
def algorithm : ByteCurve → KeyAlgorithm
  | x25519 => .x25519
  | x448 => .x448
  | ed25519 => .ed25519
  | ed448 => .ed448

end ByteCurve

/-- A public key. The number of a key in a group of powers may come with a sign. -/
inductive PublicKey
  | rsa (n e : Nat)
  | rsaPss (n e : Nat)
  | dsa (group : PrimeGroup) (y : Int)
  | dh (group : PrimeGroup) (y : Int)
  | dhWithOrder (group : PrimeGroup) (y : Int)
  | ec (algorithm : KeyAlgorithm) (group : CurveGroup) (point : Point)
  | bytes (curve : ByteCurve) (point : List UInt8)
  deriving DecidableEq, Repr

namespace PublicKey

/-- The algorithm of a key. -/
def algorithm : PublicKey → KeyAlgorithm
  | rsa .. => .rsa
  | rsaPss .. => .rsaPss
  | dsa .. => .dsa
  | dh .. => .dh
  | dhWithOrder .. => .dhWithOrder
  | ec algorithm .. => algorithm
  | bytes curve _ => curve.algorithm

/-- How many binary digits a key is said to have. -/
def bits : PublicKey → Nat
  | rsa n _ => Octets.bitLength n
  | rsaPss n _ => Octets.bitLength n
  | dsa group _ => Octets.bitLength group.p
  | dh group _ => Octets.bitLength group.p
  | dhWithOrder group _ => Octets.bitLength group.p
  | ec _ group _ => Octets.bitLength group.curve.order
  | bytes curve _ => curve.bits

/-- The same number in the same group of powers. -/
def sameNumber (g : PrimeGroup) (y : Int) (g' : PrimeGroup) (y' : Int) : Bool :=
  g.p = g'.p && g.g = g'.g && y = y'

/-- Two keys are the same. On a curve, what the key is for does not count. -/
def agrees : PublicKey → PublicKey → Bool
  | rsa n e, rsa n' e' => n = n' && e = e'
  | rsaPss n e, rsaPss n' e' => n = n' && e = e'
  | dsa g y, dsa g' y' => sameNumber g y g' y'
  | dh g y, dh g' y' => sameNumber g y g' y'
  | dhWithOrder g y, dhWithOrder g' y' => sameNumber g y g' y'
  | ec _ g p, ec _ g' p' => g.agrees g' && p = p'
  | bytes c p, bytes c' p' => c = c' && p = p'
  | _, _ => false

/-! ## Keys as data -/

/-- The first element of bytes. -/
def first (bytes : List UInt8) : Option Element := do
  return (← Element.read bytes).1

/-- The first element of bytes, an integer. -/
def firstInteger (bytes : List UInt8) : Option Int := do
  let e ← first bytes
  if e.tag = .integer then e.integer else none

/-- The two numbers of an RSA key. -/
def rsaNumbers (bytes : List UInt8) : Option (Nat × Nat) := do
  (← first bytes).sequence do
    let n ← PrimeGroup.number
    let e ← PrimeGroup.number
    return (n, e)

/-- The algorithm of a key on a curve that stands under the label of curves. -/
def curveAlgorithm (group : CurveGroup) : KeyAlgorithm :=
  if group.curve = Curve.sm2 then .unnumbered else .ec

/-- Under the label of one curve, no other is allowed. -/
def allows (label : KeyLabel) (group : CurveGroup) : Bool :=
  label = .ec || group.curve = Curve.sm2

/-- The curve whose points are kept as bytes that a label names. -/
def byteCurve : KeyLabel → Option ByteCurve
  | .x25519 => some .x25519
  | .x448 => some .x448
  | .ed25519 => some .ed25519
  | .ed448 => some .ed448
  | _ => none

/-- The key with a label and parameters that bytes denote. -/
def ofBytes? (label : KeyLabel) (parameters : Option Element) (key : List UInt8) :
    Option PublicKey := do
  match label with
  | .rsa =>
    let (n, e) ← rsaNumbers key
    return rsa n e
  | .rsaPss =>
    if let some p := parameters then pssOf p
    let (n, e) ← rsaNumbers key
    return rsaPss n e
  | .dsa => return dsa (← PrimeGroup.ofSignature? (← parameters)) (← firstInteger key)
  | .dh => return dh (← PrimeGroup.ofAgreement? (← parameters)) (← firstInteger key)
  | .dhWithOrder =>
    return dhWithOrder (← PrimeGroup.ofAgreementWithOrder? (← parameters)) (← firstInteger key)
  | .ec | .sm2 =>
    let group ← CurveGroup.ofParameters? (← parameters)
    if allows label group then
      return ec (curveAlgorithm group) group (← group.curve.pointOfBytes? key)
    else none
  | _ =>
    let curve ← byteCurve label
    if parameters = none ∧ key.length = curve.width then return bytes curve key else none

end PublicKey

/-- What a certificate says about the key of its holder. -/
structure KeyInfo where
  algorithm : AlgorithmIdentifier
  key : List UInt8
  deriving DecidableEq, Repr

namespace KeyInfo

/-- The information that an element holds. -/
def ofElement? (e : Element) : Option KeyInfo :=
  e.sequence do
    let algorithm ← AlgorithmIdentifier.ofElement? (← Fields.next)
    let key ← (← Fields.take .bitString).bitString
    return ⟨algorithm, key⟩

/-- The key. There may be none, if it is of an unknown kind or does not fit its kind. -/
def publicKey? (info : KeyInfo) : Option PublicKey := do
  PublicKey.ofBytes? (← KeyLabel.ofObjectId? info.algorithm.object) info.algorithm.parameters
    info.key

end KeyInfo

end VpnGateway
