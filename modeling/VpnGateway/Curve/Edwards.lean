import VpnGateway.Digest.Sha2
import VpnGateway.Digest.Shake
import VpnGateway.Modular

/-!
# Signature keys on Edwards curves

The curves `a x ^ 2 + y ^ 2 = 1 + d x ^ 2 y ^ 2`, and the public key that a secret has on them.

* `Edwards.Curve`, `Edwards.Curve.scale`;
* `Edwards.publicKey25519`, `Edwards.publicKey448`.
-/

namespace VpnGateway.Edwards

/-- A point as a quotient: its coordinates are `x / z` and `y / z`. -/
structure Point where
  x : Nat
  y : Nat
  z : Nat

/-- A curve with a point that generates a group of points. -/
structure Curve where
  p : Nat
  a : Nat
  d : Nat
  base : Point

namespace Curve

variable (c : Curve)

/-- The neutral point. -/
def neutral : Point := ⟨0, 1, 1⟩

/-- The sum of two points. -/
def add (s t : Point) : Point :=
  let m := c.p
  let z := s.z * t.z % m
  let square := z * z % m
  let x := s.x * t.x % m
  let y := s.y * t.y % m
  let e := c.d * x % m * y % m
  let low := Modular.sub square e m
  let high := (square + e) % m
  let cross := Modular.sub ((s.x + s.y) * (t.x + t.y)) (x + y) m
  ⟨z * low % m * cross % m, z * high % m * Modular.sub y (c.a * x) m % m, low * high % m⟩

/-- The multiple of a point by a number. -/
def scale (n : Nat) (s : Point) : Point :=
  if n = 0 then neutral
  else
    let half := scale (n / 2) s
    let double := c.add half half
    if n % 2 = 1 then c.add double s else double
termination_by n

/-- A point in `width` bytes: its ordinate, and in the highest bit whether its abscissa is odd. -/
def encode (width : Nat) (s : Point) : List UInt8 :=
  let inverse := Modular.inverse s.z c.p
  let x := s.x * inverse % c.p
  let y := s.y * inverse % c.p
  Octets.ofLittleEndian width (y + x % 2 * Nat.pow 2 (8 * width - 1))

end Curve

/-- The curve of 255 bits. -/
def edwards25519 : Curve :=
  let p := Nat.pow 2 255 - 19
  ⟨p, p - 1, Modular.sub 0 (121665 * Modular.inverse 121666 p) p,
    ⟨0x216936D3CD6E53FEC0A4E231FDD6DC5C692CC7609525A7B2C9562D608F25D51A,
     0x6666666666666666666666666666666666666666666666666666666666666658, 1⟩⟩

/-- The curve of 448 bits. -/
def edwards448 : Curve :=
  let p := Nat.pow 2 448 - Nat.pow 2 224 - 1
  ⟨p, 1, p - 39081,
    ⟨0x4F1970C66BED0DED221D15A622BF36DA9E146570470F1767EA6DE324A3D3A46412AE1AF72AB66511433B80E18B00938E2626A82BC70CC05E,
     0x693F46716EB6BC248876203756C9C7624BEA73736CA3984087789C1E05A0C2D73AD3FF1CE67C39C4FDBD132C4ED7C8AD9808795BF230FA14, 1⟩⟩

/-- The public key of a secret of 32 bytes. -/
def publicKey25519 (secret : List UInt8) : List UInt8 :=
  let n := Octets.clamp 3 254 ((sha512 secret).take 32)
  edwards25519.encode 32 (edwards25519.scale n edwards25519.base)

/-- The public key of a secret of 57 bytes. -/
def publicKey448 (secret : List UInt8) : List UInt8 :=
  let n := Octets.clamp 2 447 ((shake256 114 secret).take 57)
  edwards448.encode 57 (edwards448.scale n edwards448.base)

end VpnGateway.Edwards
