import VpnGateway.Asn1.Content
import VpnGateway.Curve.Binary
import VpnGateway.Curve.Prime

/-!
# Parameters of curves

The curve of a key is named, or its parameters are written out. Written out, the parameters of a
named curve mean that curve.

* `CurveGroup`: a curve, and its name if it has one;
* `CurveGroup.ofParameters?`: reads either form.
-/

namespace VpnGateway

/-- A curve, and its name if it has one. -/
structure CurveGroup where
  name : Option Asn1.ObjectId
  curve : Curve
  deriving DecidableEq, Repr

namespace CurveGroup

open Asn1

/-- All curves with names. -/
def named : List (List Nat × Curve) :=
  Curve.primeCurves ++ Curve.binaryCurves

/-- The curve of a name. -/
def ofName? (o : ObjectId) : Option CurveGroup := do
  return ⟨some o, ← named.lookup o.arcs⟩

/-- The group of a curve. -/
def ofCurve (c : Curve) : CurveGroup :=
  ⟨(named.find? fun entry => entry.2 = c).map fun entry => ⟨entry.1⟩, c⟩

/-! ## Fields -/

/-- The most binary digits that elements of a field may have. -/
def maxFieldBits : Nat := 661

/-- The object identifier of prime fields. -/
def primeField : ObjectId := ⟨[1, 2, 840, 10045, 1, 1]⟩

/-- The object identifier of fields of binary polynomials. -/
def binaryField : ObjectId := ⟨[1, 2, 840, 10045, 1, 2]⟩

/-- The object identifier of polynomials with three terms. -/
def trinomial : ObjectId := ⟨[1, 2, 840, 10045, 1, 2, 3, 2]⟩

/-- The object identifier of polynomials with five terms. -/
def pentanomial : ObjectId := ⟨[1, 2, 840, 10045, 1, 2, 3, 3]⟩

/-- An exponent of a polynomial. -/
def exponent (e : Element) : Option Nat := do
  let k ← e.int32
  if 0 < k then return k.toNat else none

/-- The field of the residues modulo an odd number. -/
def primeFieldOf (e : Element) : Option Field := do
  let p ← e.integer
  if 3 < p ∧ p % 2 = 1 ∧ Octets.bitLength p.toNat ≤ maxFieldBits then return .prime p.toNat else none

/-- The exponents between the degree and zero of a polynomial with few terms. -/
def middleExponents (basis : ObjectId) (e : Element) : Option (List Nat) :=
  if basis = trinomial then do
    let k ← (if e.tag = .integer then e.integer else none)
    if 0 < k then return [k.toNat] else none
  else if basis = pentanomial then
    e.sequence do
      let k₁ ← exponent (← Fields.take .integer)
      let k₂ ← exponent (← Fields.take .integer)
      let k₃ ← exponent (← Fields.take .integer)
      return [k₃, k₂, k₁]
  else none

/-- The field of the binary polynomials modulo one with few terms. -/
def binaryFieldOf (e : Element) : Option Field :=
  e.sequence do
    let m ← exponent (← Fields.take .integer)
    let basis ← (← Fields.take .objectIdentifier).objectId
    let middle ← middleExponents basis (← Fields.next)
    if m ≤ maxFieldBits ∧ (m :: middle).Pairwise (· > ·) then
      return .binary (Field.polynomial (m :: middle ++ [0]))
    else failure

/-- The field over which a curve is drawn. -/
def fieldOf (e : Element) : Option Field :=
  e.sequence do
    let kind ← (← Fields.take .objectIdentifier).objectId
    if kind = primeField then
      primeFieldOf (← Fields.take .integer)
    else if kind = binaryField then
      binaryFieldOf (← Fields.next)
    else failure

/-! ## Curves -/

/-- The numbers `a` and `b` of the equation of a curve. -/
def coefficients (e : Element) : Option (Nat × Nat) :=
  e.sequence do
    let a ← (← Fields.take .octetString).octets
    let b ← (← Fields.take .octetString).octets
    if let some seed ← Fields.take? .bitString then
      if (← seed.bitString) = [] then failure
    return (Octets.bigEndian a, Octets.bigEndian b)

/-- A curve whose parameters are written out. -/
def explicit (e : Element) : Option CurveGroup :=
  e.sequence do
    let _ ← (← Fields.take .integer).int32
    let field ← fieldOf (← Fields.take .sequence)
    let (a, b) ← coefficients (← Fields.take .sequence)
    let start ← (← Fields.take .octetString).octets
    let order ← (← Fields.take .integer).integer
    if let some cofactor ← Fields.take? .integer then
      let h ← cofactor.integer
      if h < 0 then failure
    let plain : Curve := ⟨field, field.reduce a, field.reduce b, .infinity, order.toNat⟩
    let base ← plain.pointOfBytes? start
    if 0 < order ∧ Octets.bitLength order.toNat ≤ field.bits + 1 then
      return ofCurve { plain with base := base }
    else failure

/-- The curve of parameters: a name, or all of them. -/
def ofParameters? (e : Element) : Option CurveGroup := do
  if e.tag = .objectIdentifier then ofName? (← e.objectId) else explicit e

/-- Two groups are the same: not two names, and the same curve. -/
def agrees (g h : CurveGroup) : Bool :=
  (g.name = none || h.name = none || g.name = h.name) && g.curve = h.curve

end CurveGroup

end VpnGateway
