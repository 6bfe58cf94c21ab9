import VpnGateway.Error

/-!
# Libraries of cryptography

What is asked of a library that understands certificates and keys. Besides its values it leaves
complaints, which wait in a queue: a call that fails takes all of them as the words of its error, also
those that earlier calls left.

* `Reply`, `CryptoLibrary`: what a library answers;
* `Diagnosis`: a computation that may fail, with the complaints that wait;
* `CryptoLibrary.ask`, `CryptoLibrary.textOr`, `CryptoLibrary.compare`: calls.
-/

namespace VpnGateway

/-- What a call gives: a value if it succeeds, and the complaints that it leaves. -/
structure Reply (κ α : Type) where
  value : Option α
  complaints : List κ

/-- A library that understands certificates and keys. -/
structure CryptoLibrary where
  Complaint : Type
  Certificate : Type
  Key : Type
  /-- Complaints in words, if there are words for them. -/
  words? : List Complaint → Option String
  certificate : List UInt8 → Reply Complaint Certificate
  privateKey : List UInt8 → Reply Complaint Key
  /-- The entries of the name of the holder, each with its short name and its text. -/
  entries : Certificate → List (Reply Complaint String × Reply Complaint String)
  digest : Certificate → Reply Complaint (List UInt8)
  publicKey : Certificate → Reply Complaint Key
  /-- The number of the algorithm of a key. -/
  keyNumber : Key → Int
  keyBits : Key → Nat
  sameKey : Key → Key → Bool

/-- A computation that may fail, with the complaints that wait. -/
def Diagnosis (κ α : Type) : Type :=
  List κ → Except GatewayError α × List κ

namespace Diagnosis

variable {κ : Type}

instance : Monad (Diagnosis κ) where
  pure a := fun waiting => (.ok a, waiting)
  bind m f := fun waiting =>
    match m waiting with
    | (.ok a, waiting) => f a waiting
    | (.error e, waiting) => (.error e, waiting)

/-- A value that no library is asked for. -/
def liftExcept {α : Type} (x : Except GatewayError α) : Diagnosis κ α :=
  fun waiting => (x, waiting)

end Diagnosis

namespace CryptoLibrary

variable (library : CryptoLibrary) {α : Type}

/-- A call whose failure is an error. The error takes the complaints. -/
def ask (reply : Reply library.Complaint α) (error : Option String → GatewayError) :
    Diagnosis library.Complaint α := fun waiting =>
  match reply.value with
  | some a => (.ok a, waiting ++ reply.complaints)
  | none => (.error (error (library.words? (waiting ++ reply.complaints))), [])

/-- A call for a text, with another text in place of a failure. The complaints are dropped then. -/
def textOr (reply : Reply library.Complaint String) (default : String) :
    Diagnosis library.Complaint String := fun waiting =>
  match reply.value with
  | some text => (.ok text, waiting ++ reply.complaints)
  | none => (.ok default, [])

/-- Compare keys. All complaints are dropped. -/
def compare (a b : library.Key) : Diagnosis library.Complaint Bool :=
  fun _ => (.ok (library.sameKey a b), [])

end CryptoLibrary

end VpnGateway
