/-!
# Numbers as bytes

* `Octets.bigEndian`, `Octets.littleEndian`: the number that bytes denote, with the most or the least
  significant byte first;
* `Octets.ofBigEndian`, `Octets.ofLittleEndian`: the bytes of a number, in a given width;
* `Octets.minimal`: the bytes of a number, as few as it takes;
* `Octets.bitLength`: how many binary digits a number has;
* `Octets.clamp`: the number in a given range that bytes give as a secret.
-/

namespace VpnGateway.Octets

/-- The number that bytes denote, the most significant byte first. -/
def bigEndian (bytes : List UInt8) : Nat :=
  bytes.foldl (fun n b => n * 256 + b.toNat) 0

/-- The number that bytes denote, the least significant byte first. -/
def littleEndian (bytes : List UInt8) : Nat :=
  bytes.foldr (fun b n => b.toNat + 256 * n) 0

/-- The `width` lowest bytes of a number, the least significant one first. -/
def ofLittleEndian : Nat → Nat → List UInt8
  | 0, _ => []
  | width + 1, n => UInt8.ofNat (n % 256) :: ofLittleEndian width (n / 256)

/-- The `width` lowest bytes of a number, the most significant one first. -/
def ofBigEndian (width n : Nat) : List UInt8 :=
  (ofLittleEndian width n).reverse

/-- How many binary digits a number has; zero has none. -/
def bitLength (n : Nat) : Nat :=
  if n = 0 then 0 else Nat.log2 n + 1

/-- The bytes of a number without leading zeros, the most significant one first. -/
def minimal (n : Nat) : List UInt8 :=
  ofBigEndian ((bitLength n + 7) / 8) n

/-- The number that bytes denote, the least significant byte first, without its `low` lowest bits and
with `high` as its highest bit, which is set. -/
def clamp (low high : Nat) (bytes : List UInt8) : Nat :=
  littleEndian bytes % Nat.pow 2 high / Nat.pow 2 low * Nat.pow 2 low + Nat.pow 2 high

theorem length_ofLittleEndian (width n : Nat) : (ofLittleEndian width n).length = width := by
  induction width generalizing n with
  | zero => rfl
  | succ width ih => simp [ofLittleEndian, ih]

theorem length_ofBigEndian (width n : Nat) : (ofBigEndian width n).length = width := by
  simp [ofBigEndian, length_ofLittleEndian]

theorem littleEndian_ofLittleEndian (width n : Nat) :
    littleEndian (ofLittleEndian width n) = n % Nat.pow 256 width := by
  induction width generalizing n with
  | zero => simp [ofLittleEndian, littleEndian, Nat.mod_one]
  | succ width ih =>
    have h : littleEndian (ofLittleEndian (width + 1) n) =
        (UInt8.ofNat (n % 256)).toNat + 256 * littleEndian (ofLittleEndian width (n / 256)) := rfl
    have hb : (UInt8.ofNat (n % 256)).toNat = n % 256 := by
      rw [UInt8.toNat_ofNat']
      omega
    rw [h, ih, hb, Nat.pow_eq, Nat.pow_eq, Nat.pow_succ, Nat.mul_comm _ 256, Nat.mod_mul]

end VpnGateway.Octets
