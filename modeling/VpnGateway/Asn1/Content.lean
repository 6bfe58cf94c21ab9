import VpnGateway.Asn1.Element

/-!
# Contents of ASN.1 elements

* `Element.octets`: the bytes of a string, which may come in pieces;
* `Element.boolean`, `Element.integer`, `Element.unsigned`, `Element.bitString`,
  `Element.objectId`: the values of the other primitive types;
* `ObjectId`;
* `Fields`, `Element.sequence`, `Element.rows`: the elements inside an element;
* `Element.isWellFormed`, `Element.encode`: an element of any type, and its shortest writing.
-/

namespace VpnGateway.Asn1

/-! ## Primitive types -/

/-- How deep the pieces of a string may be nested. -/
def maxNesting : Nat := 5

/-- The bytes of an element that is a piece of a string, where pieces of pieces may be nested `depth`
deep. -/
def pieceBytes (depth : Nat) (e : Element) : Option (List UInt8) :=
  if e.constructed then
    match depth with
    | 0 => none
    | depth + 1 => do
      let parts ← (← e.elements).mapM (pieceBytes depth)
      return parts.flatten
  else some e.content

/-- The bytes of a string, whole or in pieces. -/
def Element.octets (e : Element) : Option (List UInt8) :=
  pieceBytes (maxNesting + 1) e

/-- The bytes of an element that is not in pieces. -/
def Element.primitive (e : Element) : Option (List UInt8) :=
  if e.constructed then none else some e.content

/-- A truth value takes one byte. -/
def Element.boolean (e : Element) : Option UInt8 := do
  match ← e.primitive with
  | [b] => return b
  | _ => none

/-- Bytes that denote a signed number without need: the first one only repeats the sign. -/
def isPadded : List UInt8 → Bool
  | a :: b :: _ => (a = 0 && b < 0x80) || (a = 0xFF && 0x80 ≤ b)
  | _ => false

/-- The signed number that bytes denote. -/
def signed (bytes : List UInt8) : Int :=
  match bytes with
  | [] => 0
  | a :: _ =>
    if a < 0x80 then Octets.bigEndian bytes else Octets.bigEndian bytes - Nat.pow 256 bytes.length

/-- An integer takes as few bytes as it can, but at least one. -/
def Element.integer (e : Element) : Option Int := do
  let bytes ← e.primitive
  if bytes = [] ∨ isPadded bytes then none else return signed bytes

/-- An integer whose bytes, however many, are read as a natural number. -/
def Element.unsigned (e : Element) : Option Nat := do
  return Octets.bigEndian (← e.primitive)

/-- An integer of 32 bits, where no bytes denote zero. -/
def Element.int32 (e : Element) : Option Int := do
  let n ← if e.content = [] then do let _ ← e.primitive; some 0 else e.integer
  if -0x80000000 ≤ n ∧ n < 0x80000000 then return n else none

/-- Bytes whose last one has its `n` lowest bits set to zero. -/
def clearLast (n : Nat) : List UInt8 → List UInt8
  | [] => []
  | [b] => [UInt8.ofNat (b.toNat / Nat.pow 2 n * Nat.pow 2 n)]
  | b :: bs => b :: clearLast n bs

/-- A string of bits: how many bits of the last byte do not count, and the bytes. -/
def Element.bits (e : Element) : Option (Nat × List UInt8) := do
  match ← e.octets with
  | [] => none
  | unused :: bytes =>
    if 7 < unused then none else return (unused.toNat, clearLast unused.toNat bytes)

/-- The bytes of a string of bits. -/
def Element.bitString (e : Element) : Option (List UInt8) := do
  return (← e.bits).2

/-! ## Object identifiers -/

/-- The name of an object: a path of numbers from the root of all names. -/
structure ObjectId where
  arcs : List Nat
  deriving DecidableEq, Repr

namespace ObjectId

/-- The numbers of a path with dots between. -/
def dotted (o : ObjectId) : String :=
  ".".intercalate (o.arcs.map toString)

/-- The numbers in groups of seven bits, the last group of each with a zero bit before it. -/
def groups (high : Nat) : List UInt8 → List Nat
  | [] => []
  | b :: bytes =>
    let n := high * 128 + b.toNat % 128
    if b < 0x80 then n :: groups 0 bytes else groups n bytes

/-- No number has a first group of zeros. -/
def noLeadingZeros (atStart : Bool) : List UInt8 → Bool
  | [] => true
  | b :: bytes => !(atStart && b = 0x80) && noLeadingZeros (b < 0x80) bytes

/-- The path that bytes denote. The first number of bytes holds the first two of the path. -/
def ofContent? (bytes : List UInt8) : Option ObjectId :=
  if (bytes.getLast?.all (0x80 ≤ ·)) ∨ ¬ noLeadingZeros true bytes then none
  else
    match groups 0 bytes with
    | [] => none
    | n :: arcs =>
      if n < 80 then some ⟨n / 40 :: n % 40 :: arcs⟩ else some ⟨2 :: (n - 80) :: arcs⟩

end ObjectId

/-- An object identifier. -/
def Element.objectId (e : Element) : Option ObjectId := do
  ObjectId.ofContent? (← e.primitive)

/-! ## Elements inside elements -/

/-- A reading of the elements of a row, one after the other. -/
abbrev Fields : Type → Type := StateT (List Element) Option

namespace Fields

/-- The next element, of any type. -/
def next : Fields Element := do
  match ← get with
  | [] => failure
  | e :: rest => set rest; return e

/-- The next element, which has the tag. -/
def take (tag : Tag) : Fields Element := do
  let e ← next
  if e.tag = tag then return e else failure

/-- The next element, if it has the tag. -/
def take? (tag : Tag) : Fields (Option Element) := do
  match ← get with
  | [] => return none
  | e :: rest => if e.tag = tag then set rest; return some e else return none

/-- The next element, if there is one. -/
def next? : Fields (Option Element) := do
  match ← get with
  | [] => return none
  | e :: rest => set rest; return some e

/-- The value of a reading that takes all elements of a row. -/
def run {α : Type} (fields : Fields α) (row : List Element) : Option α :=
  match StateT.run fields row with
  | some (a, []) => some a
  | _ => none

end Fields

/-- The value of the fields of an element. -/
def Element.fields {α : Type} (e : Element) (fields : Fields α) : Option α := do
  if e.constructed then fields.run (← e.elements) else none

/-- The value of a sequence of fields. -/
def Element.sequence {α : Type} (e : Element) (fields : Fields α) : Option α :=
  if e.tag = .sequence then e.fields fields else none

/-- The values of a row of elements of one kind. -/
def Element.rows {α : Type} (e : Element) (row : Element → Option α) : Option (List α) := do
  (← e.elements).mapM row

/-- The element under an explicit tag. -/
def Element.inner (e : Element) : Option Element :=
  e.fields Fields.next

/-! ## Elements of any type -/

/-- The first bytes of an element: its tag, and whether it is constructed. -/
def identifier (tag : Tag) (constructed : Bool) : List UInt8 :=
  let high := match tag.tagClass with
    | .universal => 0
    | .application => 0x40
    | .context => 0x80
    | .privateUse => 0xC0
  let lead := high + if constructed then 0x20 else 0
  if tag.number < 31 then [UInt8.ofNat (lead + tag.number)]
  else UInt8.ofNat (lead + 31) :: base128 tag.number
where
  /-- A number in groups of seven bits. -/
  base128 (n : Nat) : List UInt8 :=
    let groups := (Octets.bitLength n + 6) / 7
    (List.range groups).map fun i =>
      let more := if i + 1 = groups then 0 else 0x80
      UInt8.ofNat (n / Nat.pow 128 (groups - 1 - i) % 128 + more)

/-- An element in the shortest writing. -/
def wrap (tag : Tag) (constructed : Bool) (content : List UInt8) : List UInt8 :=
  identifier tag constructed ++ lengthBytes content.length ++ content

/-- The shortest writing of a string of bits. -/
def wrapBits (unused : Nat) (bytes : List UInt8) : List UInt8 :=
  wrap .bitString false (UInt8.ofNat (if bytes = [] then 0 else unused) :: bytes)

/-- The shortest writing of an element of any type, if its contents are right for its type. Contents
that are elements are kept as they are. -/
def Element.encode (e : Element) : Option (List UInt8) :=
  if e.tag.tagClass ≠ .universal then some e.raw
  else if e.tag = .sequence ∨ e.tag = .set then if e.constructed then some e.raw else none
  else if e.tag = .boolean then do
    let _ ← e.boolean
    return wrap e.tag false e.content
  else if e.tag = .null then do
    if (← e.primitive) = [] then return wrap e.tag false [] else none
  else if e.tag = .integer ∨ e.tag = .enumerated then do
    let _ ← e.integer
    return wrap e.tag false e.content
  else if e.tag = .objectIdentifier then do
    let _ ← e.objectId
    return wrap e.tag false e.content
  else if e.tag = .bitString then do
    let (unused, bytes) ← e.bits
    return wrapBits unused bytes
  else do
    let bytes ← e.octets
    if e.tag = .bmpString ∧ bytes.length % 2 ≠ 0 then none
    else if e.tag = .universalString ∧ bytes.length % 4 ≠ 0 then none
    else return wrap e.tag false bytes

/-- The contents of an element are right for its type. -/
def Element.isWellFormed (e : Element) : Bool :=
  e.encode.isSome

end VpnGateway.Asn1
