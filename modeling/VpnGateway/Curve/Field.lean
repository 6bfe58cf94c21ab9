import VpnGateway.Modular
import VpnGateway.Octets

/-!
# Finite fields

The fields that curves are drawn over: the residues modulo a prime, and the binary polynomials modulo
an irreducible one. A polynomial is the number whose binary digits are its coefficients.

* `Field`, with `Field.add`, `Field.mul`, `Field.inverse` and their neighbours;
* `Field.sqrt?`, `Field.artinSchreier?`: roots of `y ^ 2 = c` and of `z ^ 2 + z = c`.
-/

namespace VpnGateway

/-- A finite field. -/
inductive Field
  /-- The residues modulo a prime. -/
  | prime (p : Nat)
  /-- The binary polynomials modulo an irreducible one. -/
  | binary (modulus : Nat)
  deriving DecidableEq, Repr

namespace Field

/-! ## Binary polynomials -/

/-- The polynomial with terms of the given exponents, each given once. -/
def polynomial (exponents : List Nat) : Nat :=
  exponents.foldr (fun k n => Nat.pow 2 k + n) 0

/-- The degree of a polynomial that is not zero. -/
def degree (a : Nat) : Nat := Nat.log2 a

/-- A polynomial without the term that its multiple by the indeterminate may have at the top. -/
def reduceTop (m a : Nat) : Nat :=
  if a.testBit (degree m) then a ^^^ m else a

/-- The remainder of a polynomial, from whose top `n` terms too many are taken. -/
def remainder (m : Nat) : Nat → Nat → Nat
  | 0, a => a
  | n + 1, a =>
    remainder m n (if a.testBit (degree m + n) then a ^^^ (m <<< n) else a)

/-- The product of reduced polynomials, taking `n` binary digits of `a` from the top. -/
def mulBinary (m a b : Nat) : Nat → Nat → Nat
  | 0, product => product
  | n + 1, product =>
    let shifted := reduceTop m (product <<< 1)
    mulBinary m a b n (if a.testBit n then shifted ^^^ b else shifted)

/-- The Euclidean algorithm on `(u, g)` and `(v, h)`, where `g` and `h` are the factors of the number
to be inverted that leave `u` and `v`. -/
def invertBinary : Nat → Nat → Nat → Nat → Nat → Nat
  | 0, _, _, g, _ => g
  | fuel + 1, u, v, g, h =>
    if u ≤ 1 then g
    else if degree u < degree v then invertBinary fuel v u h g
    else
      let shift := degree u - degree v
      invertBinary fuel (u ^^^ (v <<< shift)) v (g ^^^ (h <<< shift)) h

/-! ## Operations -/

/-- How many binary digits the elements have at most. -/
def bits : Field → Nat
  | prime p => Octets.bitLength p
  | binary m => degree m

/-- How many bytes an element takes. -/
def width (f : Field) : Nat := (f.bits + 7) / 8

/-- The number is an element. -/
def contains (f : Field) (a : Nat) : Bool :=
  match f with
  | prime p => a < p
  | binary m => a < Nat.pow 2 (degree m)

/-- The element of a number. -/
def reduce (f : Field) (a : Nat) : Nat :=
  match f with
  | prime p => a % p
  | binary m => remainder m (Octets.bitLength a - degree m) a

def add (f : Field) (a b : Nat) : Nat :=
  match f with
  | prime p => (a + b) % p
  | binary _ => a ^^^ b

def sub (f : Field) (a b : Nat) : Nat :=
  match f with
  | prime p => Modular.sub a b p
  | binary _ => a ^^^ b

def mul (f : Field) (a b : Nat) : Nat :=
  match f with
  | prime p => a * b % p
  | binary m => mulBinary m a b (degree m) 0

def square (f : Field) (a : Nat) : Nat := f.mul a a

/-- The inverse of an element that is not zero. -/
def inverse (f : Field) (a : Nat) : Nat :=
  match f with
  | prime p => Modular.inverse a p
  | binary m => f.reduce (invertBinary (4 * degree m + 4) a m 1 0)

def div (f : Field) (a b : Nat) : Nat := f.mul a (f.inverse b)

/-! ## Roots -/

/-- The square of an element, again and again. -/
def squares (f : Field) : Nat → Nat → Nat
  | 0, a => a
  | n + 1, a => squares f n (f.square a)

/-- A square root of an element. -/
def sqrt? (f : Field) (a : Nat) : Option Nat :=
  match f with
  | prime p => Modular.sqrt? a p
  | binary m => some (f.squares (degree m - 1) a)

/-- The pair of `z` and `w` after `n` steps, in which `w` becomes the trace of `r`, and `z` a solution
of `z ^ 2 + z = c` if that trace is one. -/
def traceSteps (f : Field) (c r : Nat) : Nat → Nat × Nat → Nat × Nat
  | 0, zw => zw
  | n + 1, (z, w) =>
    let w' := f.square w
    traceSteps f c r n (f.add (f.square z) (f.mul w' c), f.add w' r)

/-- A solution of `z ^ 2 + z = c` in a field of binary polynomials. The elements that are tried for a
trace of one start with one itself and then are spread over the field. -/
def artinSchreier? (f : Field) (c : Nat) : Option Nat := do
  let z ← (List.range f.bits).findSome? fun k =>
    let r := Nat.pow 7 (k * f.bits) % Nat.pow 2 f.bits
    let (z, w) := f.traceSteps c r (f.bits - 1) (0, r)
    if w = 0 then none else some z
  if f.add (f.square z) z = c then return z else none

end Field

end VpnGateway
