import VpnGateway.Pem.Section

/-!
# Credentials

A private key or a certificate, taken from the first section of a PEM text. Only the section counts:
its bytes are not looked into.

* `CredentialKind`, `Credential`;
* `Credential.payload`, `Credential.toPem`: the Base64 text of a credential, on one line or as a
  section with lines of 64 columns;
* `Credential.toDer`: the bytes behind the payload;
* `Credential.extract`: the credential of a PEM text, or why there is none.
-/

namespace VpnGateway

/-- What a credential is. -/
inductive CredentialKind
  | privateKey
  | certificate
  deriving DecidableEq, Repr

/-- The label of the section that holds a credential. -/
def CredentialKind.label : CredentialKind → Pem.Label
  | privateKey => .privateKey
  | certificate => .certificate

/-- The text of that label. -/
def CredentialKind.text (kind : CredentialKind) : String :=
  kind.label.text

/-- A credential: its kind and its bytes. -/
structure Credential where
  kind : CredentialKind
  der : List UInt8
  deriving DecidableEq, Repr

namespace Credential

/-- The text of ASCII bytes. -/
def asciiText (bytes : List UInt8) : String :=
  String.ofList (bytes.map fun b => Char.ofNat b.toNat)

/-- The bytes of a credential in Base64, on one line. -/
def payload (c : Credential) : String :=
  asciiText (Base64.encode c.der)

/-- The bytes that the payload of a credential denotes, none if it denoted nothing. -/
def toDer (c : Credential) : List UInt8 :=
  (Base64.decode? (Text.utf8Bytes c.payload)).getD []

/-- How many columns a line of a section has. -/
def columns : Nat := 64

/-- A text in rows of 64 columns, the last one perhaps shorter. -/
def rows : List UInt8 → List (List UInt8)
  | [] => []
  | b :: bs => (b :: bs).take columns :: rows ((b :: bs).drop columns)
termination_by bytes => bytes.length
decreasing_by
  simp only [columns, List.length_drop, List.length_cons]
  omega

/-- The lines of the section that holds a credential. -/
def bodyLines (c : Credential) : List (List UInt8) :=
  rows (Base64.encode c.der)

/-- The bytes of the section that holds a credential. -/
def pemBytes (c : Credential) : List UInt8 :=
  Pem.bytesOf ("-----BEGIN " ++ c.kind.text ++ "-----\n") ++
    c.bodyLines.flatMap (· ++ [10]) ++ Pem.bytesOf ("-----END " ++ c.kind.text ++ "-----\n")

/-- The section that holds a credential. -/
def toPem (c : Credential) : String :=
  asciiText c.pemBytes

/-- The name of a kind in outlines. -/
def kindName : CredentialKind → String
  | .privateKey => "PrivateKey"
  | .certificate => "Certificate"

/-- What may be shown of a credential: its kind and how long its payload is. -/
def outline (c : Credential) : String :=
  "ExtractedCredential \x7b kind: " ++ kindName c.kind ++ ", payload: <" ++
    toString c.payload.length ++ " base64 chars> \x7d"

/-! ## Extraction -/

/-- Why a text holds no credential of a kind. -/
inductive Fault
  /-- The text cannot be read. -/
  | unreadable (fault : Pem.Fault)
  /-- The text has no section. -/
  | noSection (wanted : CredentialKind)
  /-- The first section is another one. -/
  | otherSection (found : Pem.Label) (wanted : CredentialKind)
  /-- A reason that was given in words. -/
  | stated (reason : String)
  deriving DecidableEq, Repr

/-- How messages name a section that was found. -/
def foundName : Pem.Label → String
  | .publicKey => "unsupported"
  | .echConfig => "unsupported"
  | l => l.text

/-- The wording of a fault. -/
def Fault.message : Fault → String
  | unreadable fault => fault.message
  | noSection wanted => "no " ++ wanted.text ++ " PEM block found"
  | otherSection found wanted =>
    "found a " ++ foundName found ++ " block instead of " ++ wanted.text
  | stated reason => reason

/-- The credential in the first section of a text. -/
def extract (raw : List UInt8) (kind : CredentialKind) : Except Fault Credential :=
  match Pem.firstSection raw with
  | .error fault => .error (.unreadable fault)
  | .ok none => .error (.noSection kind)
  | .ok (some (label, der)) =>
    if label = kind.label then .ok ⟨kind, der⟩ else .error (.otherSection label kind)

end Credential

end VpnGateway
