/-!
# Arithmetic modulo a number

* `Modular.pow`, `Modular.sub`, `Modular.inverse`: powers, differences, and inverses modulo a prime;
* `Modular.sqrt?`: square roots modulo an odd prime.
-/

namespace VpnGateway.Modular

/-- The power `b ^ e` modulo `m`, by repeated squaring. -/
def pow (b e m : Nat) : Nat :=
  if e = 0 then 1 % m
  else
    let half := pow b (e / 2) m
    let square := half * half % m
    if e % 2 = 1 then square * b % m else square
termination_by e

/-- The difference of two residues. -/
def sub (a b m : Nat) : Nat := (a + m - b % m) % m

/-- The inverse modulo a prime. -/
def inverse (a p : Nat) : Nat := pow (a % p) (p - 2) p

theorem pow_eq (b e m : Nat) : pow b e m = Nat.pow b e % m := by
  induction e using Nat.strongRecOn with
  | ind e ih =>
    rw [pow]
    split
    · simp [*]
    · dsimp only
      rw [ih (e / 2) (by omega), ← Nat.mul_mod, Nat.pow_eq, Nat.pow_eq, ← Nat.pow_add]
      split
      · rw [Nat.mod_mul_mod, ← Nat.pow_succ]
        congr 2
        omega
      · congr 2
        omega

/-! ## Square roots -/

/-- The product of `a.1 + a.2 w` and `b.1 + b.2 w` where the square of `w` is `d`. -/
def mulPair (d m : Nat) (a b : Nat × Nat) : Nat × Nat :=
  ((a.1 * b.1 + a.2 * b.2 % m * d) % m, (a.1 * b.2 + a.2 * b.1) % m)

/-- The power of `b.1 + b.2 w` where the square of `w` is `d`. -/
def powPair (d m : Nat) (b : Nat × Nat) (e : Nat) : Nat × Nat :=
  if e = 0 then (1, 0)
  else
    let half := powPair d m b (e / 2)
    let square := mulPair d m half half
    if e % 2 = 1 then mulPair d m square b else square
termination_by e

/-- A number that is no square modulo an odd prime. -/
def isNonResidue (a p : Nat) : Bool :=
  pow a ((p - 1) / 2) p = p - 1

/-- A square root modulo an odd prime `p`. If `t * t - a` is no square and `w` a root of it, then
`t + w` to the power of `(p + 1) / 2` is one of `a`. -/
def sqrt? (a p : Nat) : Option Nat := do
  let t ← (List.range 256).find? fun t => a % p = 0 || isNonResidue (sub (t * t) a p) p
  let r := (powPair (sub (t * t) a p) p (t, 1) ((p + 1) / 2)).1
  if r * r % p = a % p then return r else none

end VpnGateway.Modular
