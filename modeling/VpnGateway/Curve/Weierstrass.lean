import VpnGateway.Curve.Field

/-!
# Elliptic curves in Weierstrass form

Over a prime field a curve is `y ^ 2 = x ^ 3 + a x + b`, over binary polynomials it is
`y ^ 2 + x y = x ^ 3 + a x ^ 2 + b`.

* `Curve`, `Point`, `Curve.contains`;
* `Curve.add`, `Curve.scale`: the group of its points;
* `Curve.pointOfBytes?`: a point that is written as bytes.
-/

namespace VpnGateway

/-- A point of a curve. -/
inductive Point
  /-- The neutral point. -/
  | infinity
  | affine (x y : Nat)
  deriving DecidableEq, Repr

/-- A curve with a point that generates a group of points, and the order of that group. -/
structure Curve where
  field : Field
  a : Nat
  b : Nat
  base : Point
  order : Nat
  deriving DecidableEq, Repr

namespace Curve

variable (c : Curve)

/-- The right side of the equation of a curve. -/
def rightSide (x : Nat) : Nat :=
  let f := c.field
  match f with
  | .prime _ => f.add (f.mul (f.add (f.square x) c.a) x) c.b
  | .binary _ => f.add (f.mul (f.square x) (f.add x c.a)) c.b

/-- The left side of the equation of a curve. -/
def leftSide (x y : Nat) : Nat :=
  let f := c.field
  match f with
  | .prime _ => f.square y
  | .binary _ => f.mul y (f.add y x)

/-- The point is on the curve. -/
def contains : Point → Bool
  | .infinity => true
  | .affine x y => c.leftSide x y = c.rightSide x

/-! ## The group -/

/-- The slope of the tangent at a point. -/
def tangent (x y : Nat) : Nat :=
  let f := c.field
  match f with
  | .prime _ => f.div (f.add (f.mul 3 (f.square x)) c.a) (f.add y y)
  | .binary _ => f.add x (f.div y x)

/-- The third point of the line of slope `s` through points with the abscissas `x` and `x'`, the first
of them with the ordinate `y`, seen from the other side. -/
def chord (s x y x' : Nat) : Point :=
  let f := c.field
  match f with
  | .prime _ =>
    let x'' := f.sub (f.sub (f.square s) x) x'
    .affine x'' (f.sub (f.mul s (f.sub x x'')) y)
  | .binary _ =>
    let x'' := f.add (f.add (f.add (f.square s) s) (f.add x x')) c.a
    .affine x'' (f.add (f.add (f.mul s (f.add x x'')) x'') y)

/-- The opposite of an ordinate. -/
def opposite (x y : Nat) : Nat :=
  match c.field with
  | .prime p => Modular.sub 0 y p
  | .binary _ => x ^^^ y

/-- The sum of two points. -/
def add : Point → Point → Point
  | .infinity, q => q
  | p, .infinity => p
  | .affine x y, .affine x' y' =>
    if x ≠ x' then c.chord (c.field.div (c.field.sub y' y) (c.field.sub x' x)) x y x'
    else if y' = c.opposite x y then .infinity
    else c.chord (c.tangent x y) x y x'

/-- The multiple of a point by a number. -/
def scale (n : Nat) (p : Point) : Point :=
  if n = 0 then .infinity
  else
    let half := scale (n / 2) p
    let double := c.add half half
    if n % 2 = 1 then c.add double p else double
termination_by n

/-! ## Points as bytes -/

/-- An ordinate of the point with the abscissa `x`, chosen by one bit. -/
def ordinate? (x : Nat) (odd : Bool) : Option Nat :=
  let f := c.field
  match f with
  | .prime p => do
    let y ← f.sqrt? (c.rightSide x)
    if (y % 2 = 1) = odd then return y
    else if y = 0 then none
    else return p - y
  | .binary _ =>
    if x = 0 then f.sqrt? c.b
    else do
      let z ← f.artinSchreier? (f.add (f.add x c.a) (f.div c.b (f.square x)))
      return f.mul x (if (z % 2 = 1) = odd then z else f.add z 1)

/-- The bit that chooses between the ordinates of an abscissa. -/
def isOdd (x y : Nat) : Bool :=
  match c.field with
  | .prime _ => y % 2 = 1
  | .binary _ => x ≠ 0 && c.field.div y x % 2 = 1

/-- How a point is written: the first byte says which form, and in two of them a bit of the
ordinate. -/
inductive Form
  | infinity | compressed (odd : Bool) | uncompressed | hybrid (odd : Bool)
  deriving DecidableEq, Repr

/-- The form that a first byte announces. -/
def Form.ofByte? (b : UInt8) : Option Form :=
  if b = 0 then some .infinity
  else if b = 2 ∨ b = 3 then some (.compressed (b = 3))
  else if b = 4 then some .uncompressed
  else if b = 6 ∨ b = 7 then some (.hybrid (b = 7))
  else none

/-- The point that bytes denote. It must be on the curve. -/
def pointOfBytes? (bytes : List UInt8) : Option Point := do
  let width := c.field.width
  match bytes with
  | [] => none
  | b :: rest =>
    let x := Octets.bigEndian (rest.take width)
    let y := Octets.bigEndian (rest.drop width)
    let both := rest.length = 2 * width ∧ c.field.contains x ∧ c.field.contains y ∧
      c.contains (.affine x y)
    match ← Form.ofByte? b with
    | .infinity => if rest = [] then return .infinity else none
    | .compressed odd =>
      if rest.length = width ∧ c.field.contains x then
        return .affine x (← c.ordinate? x odd)
      else none
    | .uncompressed => if both then return .affine x y else none
    | .hybrid odd => if both ∧ c.isOdd x y = odd then return .affine x y else none

end Curve

end VpnGateway
