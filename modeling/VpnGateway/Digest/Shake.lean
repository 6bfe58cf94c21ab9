import VpnGateway.Octets

/-!
# SHAKE256

A digest of any length, from a state of twenty-five words that is stirred by the Keccak permutation.

* `Keccak.permute`;
* `shake256`.
-/

namespace VpnGateway.Keccak

/-- The state: words in five rows of five. The word in column `x` of row `y` has the index
`x + 5 y`. -/
abbrev State : Type := Vector UInt64 25

/-- The word in a column of a row, both counted around. -/
def State.word (s : State) (x y : Nat) : UInt64 :=
  s.get ⟨x % 5 + 5 * (y % 5), by omega⟩

/-- The state with the given words. -/
def State.ofWords (word : Nat → Nat → UInt64) : State :=
  Vector.ofFn fun i => word (i.val % 5) (i.val / 5)

/-- A word turned to the left. -/
def turn (w : UInt64) (n : Nat) : UInt64 :=
  if n % 64 = 0 then w
  else w <<< UInt64.ofNat (n % 64) ||| w >>> UInt64.ofNat (64 - n % 64)

/-- How far each word is turned. -/
def offsets : Vector Nat 25 :=
  #v[0, 1, 62, 28, 27, 36, 44, 6, 55, 20, 3, 10, 43, 25, 39, 41, 45, 15, 21, 8, 18, 2, 61, 56, 14]

/-- The constant of each round. -/
def roundConstants : List UInt64 :=
  [0x0000000000000001, 0x0000000000008082, 0x800000000000808A, 0x8000000080008000,
   0x000000000000808B, 0x0000000080000001, 0x8000000080008081, 0x8000000000008009,
   0x000000000000008A, 0x0000000000000088, 0x0000000080008009, 0x000000008000000A,
   0x000000008000808B, 0x800000000000008B, 0x8000000000008089, 0x8000000000008003,
   0x8000000000008002, 0x8000000000000080, 0x000000000000800A, 0x800000008000000A,
   0x8000000080008081, 0x8000000000008080, 0x0000000080000001, 0x8000000080008008]

/-- The sum of a column without carry. -/
def column (s : State) (x : Nat) : UInt64 :=
  s.word x 0 ^^^ s.word x 1 ^^^ s.word x 2 ^^^ s.word x 3 ^^^ s.word x 4

/-- Add to each word the sums of two neighbouring columns. -/
def spread (s : State) : State :=
  let sums : Vector UInt64 5 := Vector.ofFn fun x => column s x.val
  let sum := fun x : Nat => sums.get ⟨x % 5, by omega⟩
  .ofWords fun x y => s.word x y ^^^ sum (x + 4) ^^^ turn (sum (x + 1)) 1

/-- Turn each word. -/
def turnAll (s : State) : State :=
  Vector.ofFn fun i => turn s[i] offsets[i]

/-- Move the words to other places. -/
def transpose (s : State) : State :=
  .ofWords fun x y => s.word (x + 3 * y) x

/-- Mix each word with the next two of its row. -/
def mixRows (s : State) : State :=
  .ofWords fun x y => s.word x y ^^^ (~~~s.word (x + 1) y &&& s.word (x + 2) y)

/-- One round. -/
def round (s : State) (constant : UInt64) : State :=
  let t := mixRows (transpose (turnAll (spread s)))
  t.set 0 (t[0] ^^^ constant)

/-- All rounds. -/
def permute (s : State) : State :=
  roundConstants.foldl round s

/-! ## The sponge -/

/-- How many bytes a block takes. -/
def rate : Nat := 136

/-- The state with a block added without carry. -/
def addBlock (s : State) (block : List UInt8) : State :=
  Vector.ofFn fun i =>
    s[i] ^^^ UInt64.ofNat (Octets.littleEndian ((block.drop (8 * i.val)).take 8))

/-- The state after `n` blocks. -/
def absorb : Nat → List UInt8 → State → State
  | 0, _, s => s
  | n + 1, bytes, s => absorb n (bytes.drop rate) (permute (addBlock s (bytes.take rate)))

/-- The bytes of a state. -/
def bytes (s : State) : List UInt8 :=
  s.toList.flatMap fun w => Octets.ofLittleEndian 8 w.toNat

/-- The bytes of `n` blocks, from a state on. -/
def squeeze : Nat → State → List UInt8
  | 0, _ => []
  | n + 1, s => (bytes s).take rate ++ squeeze n (permute s)

/-- A message filled up to whole blocks: the mark `0x1F`, zeros, and a last one bit. -/
def pad (message : List UInt8) : List UInt8 :=
  let room := rate - message.length % rate
  message ++
    if room = 1 then [0x9F] else 0x1F :: List.replicate (room - 2) 0 ++ [0x80]

end VpnGateway.Keccak

namespace VpnGateway

/-- The SHAKE256 digest of a message, in `size` bytes. -/
def shake256 (size : Nat) (message : List UInt8) : List UInt8 :=
  let padded := Keccak.pad message
  let s := Keccak.absorb (padded.length / Keccak.rate) padded (Vector.replicate 25 0)
  (Keccak.squeeze (size / Keccak.rate + 1) s).take size

end VpnGateway
