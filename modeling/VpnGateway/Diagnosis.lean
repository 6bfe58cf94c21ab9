import VpnGateway.Certificate
import VpnGateway.Diagnosis.Library
import VpnGateway.Digest.Sha2
import VpnGateway.Key.Private
import VpnGateway.Log
import VpnGateway.Text.Hex

/-!
# Diagnoses of credentials

What a certificate and a private key hold, and whether they belong together, by any library. The
settings do not depend on it.

* `CertificateSummary`, `CryptoLibrary.describeCertificate`;
* `KeySummary`, `CryptoLibrary.describePrivateKey`;
* `CryptoLibrary.keyMatchesCertificate`;
* `CryptoLibrary.own`: the library of certificates and keys of this development;
* `describeCertificate`, `describePrivateKey`, `keyMatchesCertificate`: the diagnoses by it.
-/

namespace VpnGateway

/-- The bytes of a credential of a kind. -/
def Credential.bytesOf (kind : CredentialKind) (c : Credential) :
    Except GatewayError (List UInt8) :=
  if c.kind = kind then .ok c.toDer else .error (.credential (.otherKind kind c.kind))

/-- What a certificate holds. -/
structure CertificateSummary where
  subject : String
  fingerprint : String
  keyAlgorithm : String
  deriving DecidableEq, Repr

/-- What a private key holds, without the key. -/
structure KeySummary where
  algorithm : String
  bits : Nat
  deriving DecidableEq, Repr

/-- How the algorithm with a number is called. Those that are of no use here have no name. -/
def algorithmName : Int → String
  | 6 => "RSA"
  | 408 => "EC"
  | 1087 => "Ed25519"
  | 1088 => "Ed448"
  | 116 => "DSA"
  | number => "unknown (" ++ toString number ++ ")"

/-- A digest in pairs of digits with colons between. -/
def fingerprint (digest : List UInt8) : String :=
  ":".intercalate (digest.map fun b => String.ofList (Text.hexByte b))

/-! ## Diagnoses by a library -/

namespace CryptoLibrary

variable (library : CryptoLibrary)

/-- What a library reads in a credential of a kind. -/
def parse {α : Type} (kind : CredentialKind) (read : List UInt8 → Reply library.Complaint α)
    (c : Credential) : Diagnosis library.Complaint α := do
  let der ← Diagnosis.liftExcept (c.bytesOf kind)
  library.ask (read der) fun words => .credential (.notParsed kind words)

/-- The certificate of a credential. -/
def parseCertificate : Credential → Diagnosis library.Complaint library.Certificate :=
  library.parse .certificate library.certificate

/-- The private key of a credential. -/
def parsePrivateKey : Credential → Diagnosis library.Complaint library.Key :=
  library.parse .privateKey library.privateKey

/-- The public key in a certificate. -/
def holderKey (certificate : library.Certificate) : Diagnosis library.Complaint library.Key :=
  library.ask (library.publicKey certificate) fun words => @GatewayError.unknownKey words

/-- Entries of a name in words. -/
def entryTexts : List (Reply library.Complaint String × Reply library.Complaint String) →
    Diagnosis library.Complaint (List String)
  | [] => return []
  | (name, text) :: entries => do
    let name ← library.textOr name "?"
    let text ← library.textOr text ""
    let texts ← entryTexts entries
    return (name ++ "=" ++ text) :: texts

/-- Describe a certificate. -/
def describeCertificate (c : Credential) : Diagnosis library.Complaint CertificateSummary := do
  let certificate ← library.parseCertificate c
  let entries ← library.entryTexts (library.entries certificate)
  let digest ← library.ask (library.digest certificate) fun words => @GatewayError.unknownKey words
  let key ← library.holderKey certificate
  return ⟨", ".intercalate entries, fingerprint digest, algorithmName (library.keyNumber key)⟩

/-- Describe a private key. -/
def describePrivateKey (k : Credential) : Diagnosis library.Complaint KeySummary := do
  let key ← library.parsePrivateKey k
  return ⟨algorithmName (library.keyNumber key), library.keyBits key⟩

/-- A private key belongs to a certificate. -/
def keyMatchesCertificate (k c : Credential) : Diagnosis library.Complaint Bool := do
  let key ← library.parsePrivateKey k
  let certificate ← library.parseCertificate c
  let holder ← library.holderKey certificate
  library.compare holder key

/-- The library of the certificates and keys of this development. It fails without complaints. -/
def own : CryptoLibrary where
  Complaint := Empty
  Certificate := VpnGateway.Certificate
  Key := PublicKey
  words? _ := none
  certificate bytes := ⟨Certificate.ofBytes? bytes, []⟩
  privateKey bytes := ⟨PrivateKey.publicHalf? bytes, []⟩
  entries c := c.subject.map fun entry =>
    (⟨some entry.object.shortName, []⟩, ⟨some entry.shownText, []⟩)
  digest c := ⟨some (sha256 c.encoded), []⟩
  publicKey c := ⟨c.keyInfo.publicKey?, []⟩
  keyNumber key := key.algorithm.number
  keyBits := PublicKey.bits
  sameKey := PublicKey.agrees

end CryptoLibrary

/-! ## Diagnoses by the own library -/

/-- Describe a certificate. -/
def describeCertificate (c : Credential) : Except GatewayError CertificateSummary :=
  (CryptoLibrary.own.describeCertificate c []).1

/-- Describe a private key. -/
def describePrivateKey (k : Credential) : Except GatewayError KeySummary :=
  (CryptoLibrary.own.describePrivateKey k []).1

/-- A private key belongs to a certificate. -/
def keyMatchesCertificate (k c : Credential) : Except GatewayError Bool :=
  (CryptoLibrary.own.keyMatchesCertificate k c []).1

/-- The line that is logged with a description of a certificate. -/
def CertificateSummary.line (s : CertificateSummary) : Log.Line :=
  ⟨.debug, .certificate, "Certificate " ++ s.subject ++ " has fingerprint " ++ s.fingerprint⟩

end VpnGateway
