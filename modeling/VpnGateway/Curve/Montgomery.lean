import VpnGateway.Modular
import VpnGateway.Octets

/-!
# Agreement keys on Montgomery curves

The curves `y ^ 2 = x ^ 3 + a x ^ 2 + x`, on which points are known by their abscissas, and the
public key that a secret has on them.

* `Montgomery.Curve`, `Montgomery.Curve.scale`;
* `Montgomery.publicKey25519`, `Montgomery.publicKey448`.
-/

namespace VpnGateway.Montgomery

/-- A curve: its prime, the number `(a - 2) / 4`, and the abscissa of a point that generates a group
of points. -/
structure Curve where
  p : Nat
  factor : Nat
  base : Nat

/-- An abscissa as the quotient `x / z`. -/
structure Abscissa where
  x : Nat
  z : Nat

namespace Curve

variable (c : Curve)

/-- The abscissa of the double of a point. -/
def double (s : Abscissa) : Abscissa :=
  let m := c.p
  let sum := (s.x + s.z) * (s.x + s.z) % m
  let difference := Modular.sub s.x s.z m * Modular.sub s.x s.z m % m
  let e := Modular.sub sum difference m
  ⟨sum * difference % m, e * (sum + c.factor * e) % m⟩

/-- The abscissa of the sum of two points whose difference has the abscissa `u`. -/
def add (u : Nat) (s t : Abscissa) : Abscissa :=
  let m := c.p
  let left := Modular.sub s.x s.z m * (t.x + t.z) % m
  let right := (s.x + s.z) * Modular.sub t.x t.z m % m
  let sum := (left + right) % m
  let difference := Modular.sub left right m
  ⟨sum * sum % m, u * (difference * difference % m) % m⟩

/-- The abscissas of the multiples by `n` and `n + 1` of the point with the abscissa `u`. -/
def ladder (u n : Nat) : Abscissa × Abscissa :=
  if n = 0 then (⟨1, 0⟩, ⟨u, 1⟩)
  else
    let (s, t) := ladder u (n / 2)
    let middle := c.add u s t
    if n % 2 = 1 then (middle, c.double t) else (c.double s, middle)
termination_by n

/-- The abscissa of the multiple by `n` of the point with the abscissa `u`. -/
def scale (n u : Nat) : Nat :=
  let s := (c.ladder u n).1
  s.x * Modular.inverse s.z c.p % c.p

end Curve

/-- The curve of 255 bits. -/
def curve25519 : Curve := ⟨Nat.pow 2 255 - 19, 121665, 9⟩

/-- The curve of 448 bits. -/
def curve448 : Curve := ⟨Nat.pow 2 448 - Nat.pow 2 224 - 1, 39081, 5⟩

/-- The public key of a secret of 32 bytes. -/
def publicKey25519 (secret : List UInt8) : List UInt8 :=
  Octets.ofLittleEndian 32 (curve25519.scale (Octets.clamp 3 254 secret) curve25519.base)

/-- The public key of a secret of 56 bytes. -/
def publicKey448 (secret : List UInt8) : List UInt8 :=
  Octets.ofLittleEndian 56 (curve448.scale (Octets.clamp 2 447 secret) curve448.base)

end VpnGateway.Montgomery
