import VpnGateway.Octets

/-!
# SHA-2

The digests of the SHA-2 family, for words of 32 and of 64 bits. The constants of the family are the
first binary digits behind the point of the square and cube roots of the first primes.

* `Sha2.Family`, `Sha2.Family.digest`;
* `sha256`, `sha512`.
-/

namespace VpnGateway.Sha2

/-! ## Constants -/

/-- The number is a prime. -/
def isPrime (n : Nat) : Bool :=
  2 ≤ n && (List.range n).all fun d => d < 2 || n % d ≠ 0

/-- The first `n` primes, of which the eightieth is 409. -/
def primes (n : Nat) : List Nat :=
  ((List.range 410).filter isPrime).take n

/-- The greatest number below `2 ^ bits` whose power by `k` is at most `n`. -/
def root (k n bits : Nat) : Nat :=
  (List.range bits).foldr (fun i r => if Nat.pow (r + Nat.pow 2 i) k ≤ n then r + Nat.pow 2 i else r) 0

/-- The first `w` binary digits behind the point of the root of `n` by `k`, which is below 16. -/
def rootDigits (w k n : Nat) : BitVec w :=
  BitVec.ofNat w (root k (n * Nat.pow 2 (k * w)) (w + 4))

/-! ## Families -/

/-- How far words are turned or shifted and added up without carry: two turns, and a third turn or
shift. -/
structure Mix where
  first : Nat
  second : Nat
  third : Nat

/-- A member of the family: its word size, its number of rounds, and how it mixes words. -/
structure Family where
  width : Nat
  rounds : Nat
  upper : Mix
  lower : Mix
  older : Mix
  newer : Mix

namespace Family

variable (f : Family)

/-- A word with three turns of it added up. -/
def turns (m : Mix) (x : BitVec f.width) : BitVec f.width :=
  x.rotateRight m.first ^^^ x.rotateRight m.second ^^^ x.rotateRight m.third

/-- A word with two turns and a shift of it added up. -/
def turnsAndShift (m : Mix) (x : BitVec f.width) : BitVec f.width :=
  x.rotateRight m.first ^^^ x.rotateRight m.second ^^^ x >>> m.third

/-- The constant of each round. -/
def roundConstants : List (BitVec f.width) :=
  (primes f.rounds).map (rootDigits f.width 3)

/-- The state: eight words. -/
structure State (w : Nat) where
  a : BitVec w
  b : BitVec w
  c : BitVec w
  d : BitVec w
  e : BitVec w
  f : BitVec w
  g : BitVec w
  h : BitVec w

/-- The state that eight words make. -/
def State.ofWords {w : Nat} : List (BitVec w) → State w
  | [a, b, c, d, e, f, g, h] => ⟨a, b, c, d, e, f, g, h⟩
  | _ => ⟨0, 0, 0, 0, 0, 0, 0, 0⟩

/-- The words of a state. -/
def State.words {w : Nat} (s : State w) : List (BitVec w) :=
  [s.a, s.b, s.c, s.d, s.e, s.f, s.g, s.h]

/-- The state before the first block. -/
def initial : State f.width :=
  .ofWords ((primes 8).map (rootDigits f.width 2))

/-- One round: `k` is its constant and `w` its word of the schedule. -/
def round (s : State f.width) (k w : BitVec f.width) : State f.width :=
  let choice := (s.e &&& s.f) ^^^ (~~~s.e &&& s.g)
  let majority := (s.a &&& s.b) ^^^ (s.a &&& s.c) ^^^ (s.b &&& s.c)
  let t := s.h + f.turns f.lower s.e + choice + k + w
  ⟨t + f.turns f.upper s.a + majority, s.a, s.b, s.c, s.d + t, s.e, s.f, s.g⟩

/-- The word that follows sixteen words of the schedule. -/
def nextWord (words : List (BitVec f.width)) : BitVec f.width :=
  let word := fun i => words.getD i 0
  f.turnsAndShift f.newer (word 14) + word 9 + f.turnsAndShift f.older (word 1) + word 0

/-- The state after the rounds with the constants `ks`, where `window` holds sixteen words of the
schedule. -/
def runRounds : List (BitVec f.width) → List (BitVec f.width) → State f.width → State f.width
  | [], _, s => s
  | k :: ks, window, s =>
    runRounds ks (window.drop 1 ++ [f.nextWord window]) (f.round s k (window.headD 0))

/-- How many bytes a word takes. -/
def wordBytes : Nat := f.width / 8

/-- How many bytes a block takes. -/
def blockBytes : Nat := 16 * f.wordBytes

/-- The `n` words that bytes make. -/
def wordsOf (n : Nat) (bytes : List UInt8) : List (BitVec f.width) :=
  (List.range n).map fun i =>
    BitVec.ofNat f.width (Octets.bigEndian ((bytes.drop (i * f.wordBytes)).take f.wordBytes))

/-- The state after a block. -/
def compress (ks : List (BitVec f.width)) (s : State f.width) (block : List UInt8) :
    State f.width :=
  let t := f.runRounds ks (f.wordsOf 16 block) s
  .ofWords (List.zipWith (· + ·) s.words t.words)

/-- The state after `n` blocks. -/
def compressAll (ks : List (BitVec f.width)) : Nat → List UInt8 → State f.width → State f.width
  | 0, _, s => s
  | n + 1, bytes, s =>
    compressAll ks n (bytes.drop f.blockBytes) (f.compress ks s (bytes.take f.blockBytes))

/-- A message filled up to whole blocks: a one bit, zeros, and the length in bits. -/
def pad (message : List UInt8) : List UInt8 :=
  let tail := 2 * f.wordBytes
  let zeros := (f.blockBytes - (message.length + 1 + tail) % f.blockBytes) % f.blockBytes
  message ++ 0x80 :: List.replicate zeros 0 ++ Octets.ofBigEndian tail (8 * message.length)

/-- The digest of a message. -/
def digest (message : List UInt8) : List UInt8 :=
  let padded := f.pad message
  let s := f.compressAll f.roundConstants (padded.length / f.blockBytes) padded f.initial
  s.words.flatMap fun w => Octets.ofBigEndian f.wordBytes w.toNat

end Family

/-- The member with words of 32 bits. -/
def words32 : Family :=
  ⟨32, 64, ⟨2, 13, 22⟩, ⟨6, 11, 25⟩, ⟨7, 18, 3⟩, ⟨17, 19, 10⟩⟩

/-- The member with words of 64 bits. -/
def words64 : Family :=
  ⟨64, 80, ⟨28, 34, 39⟩, ⟨14, 18, 41⟩, ⟨1, 8, 7⟩, ⟨19, 61, 6⟩⟩

end VpnGateway.Sha2

namespace VpnGateway

/-- The SHA-256 digest of a message. -/
def sha256 (message : List UInt8) : List UInt8 :=
  Sha2.words32.digest message

/-- The SHA-512 digest of a message. -/
def sha512 (message : List UInt8) : List UInt8 :=
  Sha2.words64.digest message

end VpnGateway
