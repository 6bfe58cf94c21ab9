import VpnGateway.Octets

/-!
# Elements of ASN.1 data

Data is a row of elements, each with a tag and contents. Contents are bytes (a primitive element) or
again elements (a constructed one). Their length is given in front; only a constructed element may do
without, and then ends with two zero bytes.

* `Tag`, `Header`, `Element`;
* `readHeader`, `Element.read`: what bytes start with;
* `elements`, `Element.elements`: all elements of a row, or inside an element;
* `lengthBytes`: the shortest writing of a length.
-/

namespace VpnGateway.Asn1

/-- The realm a tag number belongs to. -/
inductive TagClass
  | universal | application | context | privateUse
  deriving DecidableEq, Repr

/-- A tag: what an element is. -/
structure Tag where
  tagClass : TagClass
  number : Nat
  deriving DecidableEq, Repr

namespace Tag

/-- A tag that means the same everywhere. -/
def universal (number : Nat) : Tag := ⟨.universal, number⟩

/-- A tag that has its meaning from the place it stands in. -/
def context (number : Nat) : Tag := ⟨.context, number⟩

def boolean : Tag := universal 1
def integer : Tag := universal 2
def bitString : Tag := universal 3
def octetString : Tag := universal 4
def null : Tag := universal 5
def objectIdentifier : Tag := universal 6
def enumerated : Tag := universal 10
def utf8String : Tag := universal 12
def sequence : Tag := universal 16
def set : Tag := universal 17
def numericString : Tag := universal 18
def printableString : Tag := universal 19
def teletexString : Tag := universal 20
def ia5String : Tag := universal 22
def utcTime : Tag := universal 23
def generalizedTime : Tag := universal 24
def universalString : Tag := universal 28
def bmpString : Tag := universal 30

end Tag

/-- What stands in front of contents. Without a length, contents last until two zero bytes. -/
structure Header where
  tag : Tag
  constructed : Bool
  length : Option Nat
  deriving DecidableEq, Repr

/-- An element: its tag, its contents, whether these are followed by two zero bytes, and the bytes it
was read from. -/
structure Element where
  tag : Tag
  constructed : Bool
  content : List UInt8
  marked : Bool
  raw : List UInt8
  deriving DecidableEq, Repr

/-! ## Headers -/

/-- The class in the two highest bits. -/
def TagClass.ofByte (b : UInt8) : TagClass :=
  if b < 0x40 then .universal
  else if b < 0x80 then .application
  else if b < 0xC0 then .context
  else .privateUse

/-- A tag number in groups of seven bits, the last group with a zero bit before it. A number has at
most 31 bits. -/
def readTagNumber (high : Nat) : List UInt8 → Option (Nat × List UInt8)
  | [] => none
  | b :: rest =>
    let n := high * 128 + b.toNat % 128
    if b < 0x80 then some (n, rest)
    else if 0x1000000 ≤ n then none
    else readTagNumber n rest

/-- A tag, and whether the contents are constructed. -/
def readTag : List UInt8 → Option ((Tag × Bool) × List UInt8)
  | [] => none
  | b :: rest =>
    let constructed := b.toNat / 32 % 2 = 1
    if b.toNat % 32 = 31 then do
      let (number, rest) ← readTagNumber 0 rest
      return ((⟨.ofByte b, number⟩, constructed), rest)
    else some ((⟨.ofByte b, b.toNat % 32⟩, constructed), rest)

/-- A length: in one byte, or in as many as the first byte says, and then something must follow. -/
def readLength : List UInt8 → Option (Option Nat × List UInt8)
  | [] => none
  | b :: rest =>
    if b < 0x80 then some (some b.toNat, rest)
    else if b = 0x80 then some (none, rest)
    else
      let width := b.toNat - 0x80
      if rest.length ≤ width then none
      else some (some (Octets.bigEndian (rest.take width)), rest.drop width)

/-- The header that bytes start with. The contents must be there, and only those of a constructed
element may lack a length. -/
def readHeader (bytes : List UInt8) : Option (Header × List UInt8) := do
  let ((tag, constructed), rest) ← readTag bytes
  let (length, rest) ← readLength rest
  match length with
  | some n => if n ≤ rest.length then return (⟨tag, constructed, length⟩, rest) else none
  | none => if constructed then return (⟨tag, constructed, length⟩, rest) else none

theorem length_readTagNumber {high n : Nat} {bytes rest : List UInt8}
    (h : readTagNumber high bytes = some (n, rest)) : rest.length < bytes.length := by
  induction bytes generalizing high with
  | nil => simp [readTagNumber] at h
  | cons b bytes ih =>
    simp only [readTagNumber] at h
    split at h
    · simp only [Option.some.injEq, Prod.mk.injEq] at h
      simp [← h.2]
    · split at h
      · simp at h
      · exact Nat.lt_succ_of_lt (ih h)

theorem length_readTag {t : Tag × Bool} {bytes rest : List UInt8}
    (h : readTag bytes = some (t, rest)) : rest.length < bytes.length := by
  cases bytes with
  | nil => simp [readTag] at h
  | cons b bytes =>
    simp only [readTag] at h
    split at h
    · simp only [Option.bind_eq_bind, Option.bind_eq_some_iff, Option.pure_def,
        Option.some.injEq, Prod.mk.injEq] at h
      obtain ⟨⟨n, r⟩, hn, -, rfl⟩ := h
      exact Nat.lt_succ_of_lt (length_readTagNumber hn)
    · simp only [Option.some.injEq, Prod.mk.injEq] at h
      simp [← h.2]

theorem length_readLength {l : Option Nat} {bytes rest : List UInt8}
    (h : readLength bytes = some (l, rest)) : rest.length < bytes.length := by
  cases bytes with
  | nil => simp [readLength] at h
  | cons b bytes =>
    simp only [readLength] at h
    split at h
    · simp only [Option.some.injEq, Prod.mk.injEq] at h
      simp [← h.2]
    · split at h
      · simp only [Option.some.injEq, Prod.mk.injEq] at h
        simp [← h.2]
      · split at h
        · simp at h
        · simp only [Option.some.injEq, Prod.mk.injEq] at h
          simp only [← h.2, List.length_drop, List.length_cons]
          omega

theorem length_readHeader {header : Header} {bytes rest : List UInt8}
    (h : readHeader bytes = some (header, rest)) : rest.length < bytes.length := by
  simp only [readHeader, Option.bind_eq_bind, Option.bind_eq_some_iff] at h
  obtain ⟨⟨t, r⟩, ht, ⟨l, s⟩, hl, h⟩ := h
  have ht : r.length < bytes.length := length_readTag ht
  have hl : s.length < r.length := length_readLength hl
  have hs : s = rest := by
    revert h
    dsimp only
    cases l <;> dsimp only <;> split <;> simp_all
  subst hs
  omega

/-! ## Elements -/

/-- How many bytes there are before the two zero bytes that end the contents of an element without a
length, where `depth` more such elements have begun inside it. -/
def contentSize (depth : Nat) (bytes : List UInt8) : Option Nat :=
  if bytes.take 2 = [0, 0] then
    match depth with
    | 0 => some 0
    | depth + 1 => (2 + ·) <$> contentSize depth (bytes.drop 2)
  else
    match _h : readHeader bytes with
    | none => none
    | some (⟨_, _, some n⟩, rest) =>
      (bytes.length - rest.length + n + ·) <$> contentSize depth (rest.drop n)
    | some (⟨_, _, none⟩, rest) =>
      (bytes.length - rest.length + ·) <$> contentSize (depth + 1) rest
termination_by bytes.length
decreasing_by
  · rename_i h
    cases bytes with
    | nil => simp at h
    | cons => simp only [List.length_drop, List.length_cons]; omega
  · have := length_readHeader _h
    simp only [List.length_drop]
    omega
  · exact length_readHeader _h

/-- The element that bytes start with, and what follows it. -/
def Element.read (bytes : List UInt8) : Option (Element × List UInt8) := do
  let (header, rest) ← readHeader bytes
  let before := bytes.length - rest.length
  match header.length with
  | some n =>
    return (⟨header.tag, header.constructed, rest.take n, false, bytes.take (before + n)⟩,
      rest.drop n)
  | none =>
    let n ← contentSize 0 rest
    return (⟨header.tag, header.constructed, rest.take n, true, bytes.take (before + n + 2)⟩,
      rest.drop (n + 2))

theorem Element.length_read {e : Element} {bytes rest : List UInt8}
    (h : Element.read bytes = some (e, rest)) : rest.length < bytes.length := by
  simp only [Element.read, Option.bind_eq_bind, Option.bind_eq_some_iff] at h
  obtain ⟨⟨header, r⟩, hr, h⟩ := h
  have hr := length_readHeader hr
  dsimp only at h
  split at h
  · simp only [Option.pure_def, Option.some.injEq, Prod.mk.injEq] at h
    simp only [← h.2, List.length_drop]
    omega
  · simp only [Option.bind_eq_some_iff, Option.pure_def, Option.some.injEq, Prod.mk.injEq] at h
    obtain ⟨n, -, -, rfl⟩ := h
    simp only [List.length_drop]
    omega

/-- The elements of a row up to its end, or up to two zero bytes at its end. -/
def elements (marked : Bool) (bytes : List UInt8) : Option (List Element) :=
  if bytes = (if marked then [0, 0] else []) then some []
  else if bytes.take 2 = [0, 0] then none
  else
    match _h : Element.read bytes with
    | none => none
    | some (e, rest) => (e :: ·) <$> elements marked rest
termination_by bytes.length
decreasing_by exact Element.length_read _h

/-- The elements inside an element. -/
def Element.elements (e : Element) : Option (List Element) :=
  Asn1.elements e.marked (e.content ++ if e.marked then [0, 0] else [])

/-! ## Writing -/

/-- A length in as few bytes as it takes. -/
def lengthBytes (n : Nat) : List UInt8 :=
  if n < 0x80 then [UInt8.ofNat n]
  else
    let bytes := Octets.minimal n
    UInt8.ofNat (0x80 + bytes.length) :: bytes

end VpnGateway.Asn1
