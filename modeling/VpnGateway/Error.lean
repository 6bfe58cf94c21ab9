import VpnGateway.File.Status
import VpnGateway.Setting.Error

/-!
# Errors

All that can go wrong: with files, with settings, and with the credentials that settings hold. What a
library of cryptography says of its failures is a part of the errors that it causes.

* `CredentialFault`: why a credential cannot be described;
* `GatewayError`, `GatewayError.message`.
-/

namespace VpnGateway

/-- Words after a colon, if there are any. -/
def colonWords : Option String → String
  | none => ""
  | some words => ": " ++ words

/-- Why a credential cannot be described. -/
inductive CredentialFault
  /-- It is of another kind. -/
  | otherKind (wanted found : CredentialKind)
  /-- Its bytes have not the form of its kind, for reasons in the words of the library. -/
  | notParsed (kind : CredentialKind) (words : Option String)
  deriving DecidableEq, Repr

/-- The wording of a fault. -/
def CredentialFault.message : CredentialFault → String
  | otherKind wanted found => "expected a " ++ wanted.text ++ " credential, got " ++ found.text
  | notParsed .certificate words => "Failed to parse certificate" ++ colonWords words
  | notParsed .privateKey words => "Failed to parse private key" ++ colonWords words

/-- All that can go wrong. -/
inductive GatewayError
  | file (error : FileError)
  /-- A certificate was parsed, but it cannot be digested, or holds a key that cannot be understood,
  for reasons in the words of the library. -/
  | unknownKey {words : Option String}
  | setting (error : SettingError)
  | credential (fault : CredentialFault)
  deriving DecidableEq, Repr

/-- The wording of an error. -/
def GatewayError.message : GatewayError → String
  | file error => "IO error: " ++ error.message
  | @unknownKey words => "OpenSSL error" ++ colonWords words
  | setting error => "Settings error: " ++ error.message
  | credential fault => "Credential error: " ++ fault.message

end VpnGateway
