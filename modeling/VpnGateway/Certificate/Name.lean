import VpnGateway.Asn1.ObjectName
import VpnGateway.Text.Utf8

/-!
# Names of certificate holders

A name is a row of entries, each an object identifier and a value.

* `NameEntry`, `NameEntry.shownText`;
* `Name`, `Name.ofElement?`.
-/

namespace VpnGateway

open Asn1

/-- An entry of a name. Values that are no text have an empty one. -/
structure NameEntry where
  object : ObjectId
  text : String
  deriving DecidableEq, Repr

namespace NameEntry

/-- The numbers that bytes denote, `width` bytes each. -/
def units (width : Nat) : Nat → List UInt8 → List Nat
  | 0, _ => []
  | n + 1, bytes => Octets.bigEndian (bytes.take width) :: units width n (bytes.drop width)

/-- The character with a number, if there is one. -/
def character? (n : Nat) : Option Char :=
  if n.isValidChar then some (Char.ofNat n) else none

/-- The text of characters of `width` bytes each. -/
def wideText? (width : Nat) (bytes : List UInt8) : Option String := do
  let characters ← (units width (bytes.length / width) bytes).mapM character?
  return String.ofList characters

/-- The tags of the types that a value may have: texts, a string of bits, a sequence, and types that
nothing is known about. -/
def isAllowed (tag : Tag) : Bool :=
  tag.tagClass = .universal &&
    tag.number ∈ [3, 7, 8, 9, 11, 12, 13, 14, 15, 16, 18, 19, 20, 22, 28, 29, 30]

/-- The text of a value. -/
def text? (e : Element) : Option String :=
  if e.tag = .utf8String then do Text.utf8Text? (← e.octets)
  else if e.tag = .bmpString then do wideText? 2 (← e.octets)
  else if e.tag = .universalString then do wideText? 4 (← e.octets)
  else if e.tag ∈ [Tag.numericString, .printableString, .teletexString, .ia5String] then do
    wideText? 1 (← e.octets)
  else some ""

/-- The entry that an element holds. -/
def ofElement? (e : Element) : Option NameEntry :=
  e.sequence do
    let object ← (← Fields.take .objectIdentifier).objectId
    let value ← Fields.next
    if isAllowed value.tag ∧ value.isWellFormed then
      return ⟨object, ← text? value⟩
    else failure

/-- The text as it is shown, up to the first zero character. -/
def shownText (entry : NameEntry) : String :=
  String.ofList (entry.text.toList.takeWhile (· ≠ '\x00'))

end NameEntry

/-- A name. -/
abbrev Name : Type := List NameEntry

namespace Name

/-- The name that an element holds, as a row of sets of entries. -/
def ofElement? (e : Element) : Option Name := do
  if e.tag = .sequence then
    let sets ← e.rows fun set =>
      if set.tag = .set then set.rows NameEntry.ofElement? else none
    return sets.flatten
  else none

end Name

end VpnGateway
