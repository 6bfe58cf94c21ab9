/-!
# Base64

Bytes as text: three bytes make four characters of an alphabet of 64, and a last group of one or two
bytes is filled up with padding.

* `Base64.encode`: the padded text of bytes;
* `Base64.decode?`: reads exactly those texts;
* `Base64.decodeLoose`: reads what stands between the lines of a PEM section, where blanks and
  missing padding are allowed and the bits that no byte needs may be anything.
-/

namespace VpnGateway.Base64

/-- The character of a value below 64. -/
def symbol (n : Nat) : UInt8 :=
  if n < 26 then UInt8.ofNat (n + 65)
  else if n < 52 then UInt8.ofNat (n - 26 + 97)
  else if n < 62 then UInt8.ofNat (n - 52 + 48)
  else if n = 62 then 43
  else 47

/-- The value of a character. -/
def value? (b : UInt8) : Option Nat :=
  if 65 ≤ b ∧ b ≤ 90 then some (b.toNat - 65)
  else if 97 ≤ b ∧ b ≤ 122 then some (b.toNat - 97 + 26)
  else if 48 ≤ b ∧ b ≤ 57 then some (b.toNat - 48 + 52)
  else if b = 43 then some 62
  else if b = 47 then some 63
  else none

/-- The padding character. -/
def pad : UInt8 := 61

/-! ## Writing -/

/-- The padded text of bytes. -/
def encode : List UInt8 → List UInt8
  | [] => []
  | [a] => [symbol (a.toNat / 4), symbol (a.toNat % 4 * 16), pad, pad]
  | [a, b] =>
    [symbol (a.toNat / 4), symbol (a.toNat % 4 * 16 + b.toNat / 16), symbol (b.toNat % 16 * 4), pad]
  | a :: b :: c :: rest =>
    symbol (a.toNat / 4) :: symbol (a.toNat % 4 * 16 + b.toNat / 16) ::
      symbol (b.toNat % 16 * 4 + c.toNat / 64) :: symbol (c.toNat % 64) :: encode rest

/-! ## Reading -/

/-- The first byte of a group, from its first two values. -/
def firstByte (v w : Nat) : UInt8 := UInt8.ofNat (v * 4 + w / 16)

/-- The second byte of a group. -/
def secondByte (w x : Nat) : UInt8 := UInt8.ofNat (w % 16 * 16 + x / 4)

/-- The third byte of a group. -/
def thirdByte (x y : Nat) : UInt8 := UInt8.ofNat (x % 4 * 64 + y)

/-- The bytes of a padded text. -/
def decode? : List UInt8 → Option (List UInt8)
  | [] => some []
  | [a, b, c, d] => do
    let v ← value? a
    let w ← value? b
    if c = pad ∧ d = pad then if w % 16 = 0 then return [firstByte v w] else none
    else
      let x ← value? c
      if d = pad then if x % 4 = 0 then return [firstByte v w, secondByte w x] else none
      else
        let y ← value? d
        return [firstByte v w, secondByte w x, thirdByte x y]
  | a :: b :: c :: d :: rest => do
    let v ← value? a
    let w ← value? b
    let x ← value? c
    let y ← value? d
    let bytes ← decode? rest
    return firstByte v w :: secondByte w x :: thirdByte x y :: bytes
  | _ => none

/-- Why the body of a section is not Base64. -/
inductive Fault
  /-- A byte that is neither a character of the alphabet nor padding nor blank. -/
  | invalidCharacter (byte : UInt8)
  /-- Padding before the end. -/
  | prematurePadding
  /-- A last group that is no group. -/
  | invalidTrailingPadding
  deriving DecidableEq, Repr

/-- The wording of a fault. -/
def Fault.message : Fault → String
  | invalidCharacter b => "InvalidCharacter(" ++ toString b.toNat ++ ")"
  | prematurePadding => "PrematurePadding"
  | invalidTrailingPadding => "InvalidTrailingPadding"

/-- A byte that is skipped: a blank, a tabulator, or the end of a line or page. -/
def isBlank (b : UInt8) : Bool :=
  b = 32 || (9 ≤ b && b ≤ 13)

/-- The bytes of four values. -/
def quadBytes (v w x y : Nat) : List UInt8 :=
  [firstByte v w, secondByte w x, thirdByte x y]

/-- The bytes of a last group of at most four characters, where `none` is padding. -/
def lastQuad : List (Option Nat) → Except Fault (List UInt8)
  | [] => .ok []
  | [some v, some w] => .ok [firstByte v w]
  | [some v, some w, none, none] => .ok [firstByte v w]
  | [some v, some w, some x] => .ok [firstByte v w, secondByte w x]
  | [some v, some w, some x, none] => .ok [firstByte v w, secondByte w x]
  | [some v, some w, some x, some y] => .ok (quadBytes v w x y)
  | _ => .error .invalidTrailingPadding

/-- The bytes of the last group of at most eight characters. -/
def lastGroup : List (Option Nat) → Except Fault (List UInt8)
  | a :: b :: c :: d :: e :: rest =>
    match a, b, c, d with
    | some v, some w, some x, some y => (quadBytes v w x y ++ ·) <$> lastQuad (e :: rest)
    | _, _, _, _ => .error .prematurePadding
  | group => lastQuad group

/-- The bytes of a group of eight characters that others follow. -/
def fullGroup : List (Option Nat) → Except Fault (List UInt8)
  | [some a, some b, some c, some d, some e, some f, some g, some h] =>
    .ok (quadBytes a b c d ++ quadBytes e f g h)
  | _ => .error .prematurePadding

/-- The bytes of a text, of which `group` is read and not yet used. -/
def decodeFrom (group : List (Option Nat)) : List UInt8 → Except Fault (List UInt8)
  | [] => lastGroup group
  | b :: bs =>
    if isBlank b then decodeFrom group bs
    else if b = pad ∨ (value? b).isSome then
      if group.length = 8 then do
        let bytes ← fullGroup group
        (bytes ++ ·) <$> decodeFrom [value? b] bs
      else decodeFrom (group ++ [value? b]) bs
    else .error (.invalidCharacter b)

/-- The bytes of the body of a section. -/
def decodeLoose (body : List UInt8) : Except Fault (List UInt8) :=
  decodeFrom [] body

end VpnGateway.Base64
