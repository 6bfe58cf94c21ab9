import VpnGateway.Asn1.Content

/-!
# Algorithms of keys

* `KeyAlgorithm`, `KeyAlgorithm.number`: the algorithms, and the numbers by which they are known;
* `AlgorithmIdentifier`: an algorithm with parameters, as data;
* `KeyLabel`, `KeyLabel.ofObjectId?`: what a key is announced to be.
-/

namespace VpnGateway

/-- What a key is for, and with which mathematics. -/
inductive KeyAlgorithm
  | rsa | rsaPss | dsa | dh | dhWithOrder | ec | x25519 | x448 | ed25519 | ed448
  /-- Keys on the curve `sm2` that are labelled as keys on any curve. -/
  | sm2
  /-- Other keys on the curve `sm2`, which have no number. -/
  | unnumbered
  deriving DecidableEq, Repr

/-- The number by which an algorithm is known. -/
def KeyAlgorithm.number : KeyAlgorithm → Int
  | rsa => 6
  | dh => 28
  | dsa => 116
  | ec => 408
  | rsaPss => 912
  | dhWithOrder => 920
  | x25519 => 1034
  | x448 => 1035
  | ed25519 => 1087
  | ed448 => 1088
  | sm2 => 1172
  | unnumbered => -1

open Asn1

/-- An algorithm and its parameters. -/
structure AlgorithmIdentifier where
  object : ObjectId
  parameters : Option Element
  deriving DecidableEq, Repr

namespace AlgorithmIdentifier

/-- The algorithm that an element holds. -/
def ofElement? (e : Element) : Option AlgorithmIdentifier :=
  e.sequence do
    let object ← (← Fields.take .objectIdentifier).objectId
    let parameters ← Fields.next?
    if parameters.all (·.isWellFormed) then return ⟨object, parameters⟩ else failure

/-- The element that holds an algorithm, in the shortest writing. -/
def encode (e : Element) : Option (List UInt8) :=
  e.sequence do
    let object ← (← Fields.take .objectIdentifier).encode
    let parameters ← match ← Fields.next? with
      | none => pure []
      | some p => p.encode
    return wrap .sequence true (object ++ parameters)

end AlgorithmIdentifier

/-- What an object identifier announces a key to be. -/
inductive KeyLabel
  | rsa | rsaPss | dsa | dh | dhWithOrder | ec | sm2 | x25519 | x448 | ed25519 | ed448
  deriving DecidableEq, Repr

/-- The label that an object identifier is. -/
def KeyLabel.ofObjectId? (o : ObjectId) : Option KeyLabel :=
  List.lookup o.arcs [
    ([1, 2, 840, 113549, 1, 1, 1], rsa),
    ([2, 5, 8, 1, 1], rsa),
    ([1, 2, 840, 113549, 1, 1, 10], rsaPss),
    ([1, 2, 840, 10040, 4, 1], dsa),
    ([1, 2, 840, 10040, 4, 3], dsa),
    ([1, 3, 14, 3, 2, 12], dsa),
    ([1, 3, 14, 3, 2, 13], dsa),
    ([1, 3, 14, 3, 2, 27], dsa),
    ([1, 2, 840, 113549, 1, 3, 1], dh),
    ([1, 2, 840, 10046, 2, 1], dhWithOrder),
    ([1, 2, 840, 10045, 2, 1], ec),
    ([1, 2, 156, 10197, 1, 301], sm2),
    ([1, 3, 101, 110], x25519),
    ([1, 3, 101, 111], x448),
    ([1, 3, 101, 112], ed25519),
    ([1, 3, 101, 113], ed448)]

end VpnGateway
