import VpnGateway.Settings
import VpnGateway.Text.Outline
import VpnGateway.Text.Quoted

/-!
# Settings as outlines

All settings under the names of their groups, as developers see them. Of a credential there is only
its kind and the length of its payload.

* `Duration.decimal`: a duration as a decimal number of its largest unit;
* `Credential.summary`: a credential, `Credential.line_summary`: the same as it is shown alone;
* `DnsSettings.outline`, `CyberghostSettings.outline`, `Settings.outline`: the groups.
-/

namespace VpnGateway

/-! ## Parts -/

/-- The decimal places of a fraction of `10 ^ places`, without the zeros at their end. -/
def Duration.places (places fraction : Nat) : List Char :=
  let digits := Nat.toDigits 10 fraction
  let padded := List.replicate (places - digits.length) '0' ++ digits
  (padded.reverse.dropWhile (· == '0')).reverse

/-- `n` in units of `10 ^ places` nanoseconds. -/
def Duration.inUnit (n places : Nat) (unit : String) : String :=
  let point := match Duration.places places (n % Nat.pow 10 places) with
    | [] => []
    | digits => '.' :: digits
  String.ofList (Nat.toDigits 10 (n / Nat.pow 10 places) ++ point) ++ unit

/-- A duration as a decimal number of the largest unit that fits, up to seconds. -/
def Duration.decimal (d : Duration) : String :=
  let n := d.nanoseconds
  if 1000000000 ≤ n then Duration.inUnit n 9 "s"
  else if 1000000 ≤ n then Duration.inUnit n 6 "ms"
  else if 1000 ≤ n then Duration.inUnit n 3 "µs"
  else Duration.inUnit n 0 "ns"

/-- Texts in a list, each between quotes. -/
def quotedTexts (l : List String) : Outline :=
  .list (l.map fun s => .word (Text.quoted s))

/-- A truth value. -/
def boolWord (b : Bool) : Outline :=
  .word (toString b)

/-- A byte. -/
def byteWord (b : UInt8) : Outline :=
  .word (toString b.toNat)

/-- What may be shown of a credential. -/
def Credential.summary (c : Credential) : Outline :=
  .record "ExtractedCredential"
    [("kind", .word (kindName c.kind)),
     ("payload", .word ("<" ++ toString c.payload.length ++ " base64 chars>"))]

/-- Within the settings a credential is shown as it is alone. -/
theorem Credential.line_summary (c : Credential) : c.summary.line = c.outline := by
  have hname : "ExtractedCredential \x7b kind: ".toList =
      "ExtractedCredential".toList ++ [' ', '\x7b', ' '] ++ "kind".toList ++ [':', ' '] := by
    decide
  have hpayload : ", payload: <".toList =
      [',', ' '] ++ "payload".toList ++ [':', ' '] ++ "<".toList := by decide
  have hend : " base64 chars> \x7d".toList = " base64 chars>".toList ++ [' ', '\x7d'] := by decide
  -- Its equation lemma takes Lean too long, so the definition is unfolded.
  unfold summary outline Outline.line
  rw [← String.toList_inj]
  simp only [String.toList_ofList, String.toList_append, Outline.lineChars, Outline.lineFields,
    hname, hpayload, hend, List.append_assoc, List.cons_append, List.nil_append]

/-! ## Groups -/

/-- The settings of DNS over TLS as an outline. -/
def DnsOverTlsSettings.outline (s : DnsOverTlsSettings) : Outline :=
  .record "DnsOverTlsSettings"
    [("providers", quotedTexts s.providers), ("verbosity", byteWord s.verbosity),
     ("verbosity_details", byteWord s.verbosityDetails),
     ("validation_log_level", byteWord s.validationLogLevel),
     ("block_malicious", boolWord s.blockMalicious),
     ("block_surveillance", boolWord s.blockSurveillance), ("block_ads", boolWord s.blockAds),
     ("unblocked_hostnames", quotedTexts s.unblockedHostnames), ("caching", boolWord s.caching),
     ("private_addresses", quotedTexts s.privateAddresses), ("ipv6", boolWord s.ipv6),
     ("update_period", .word s.updatePeriod.decimal)]

/-- How names are resolved, as an outline. -/
def DnsResolution.outline : DnsResolution → Outline
  | overTls s => .wrapped "OverTls" s.outline
  | plaintext address => .record "Plaintext" [("address", .word address.toText)]

/-- The settings of name resolution as an outline. -/
def DnsSettings.outline (s : DnsSettings) : Outline :=
  .record "DnsSettings"
    [("resolution", s.resolution.outline), ("keep_nameserver", boolWord s.keepNameserver)]

/-- The choice of servers and the credentials as an outline. -/
def CyberghostSettings.outline (s : CyberghostSettings) : Outline :=
  .record "CyberghostSettings"
    [("group", .word (Text.quoted s.group)), ("regions", quotedTexts s.regions),
     ("client_key", s.clientKey.summary), ("client_certificate", s.clientCertificate.summary)]

/-- All settings as an outline. -/
def Settings.outline (s : Settings) : Outline :=
  .record "AllSettings"
    [("vpn_provider", .word s.vpnProvider.name), ("dns", s.dns.outline),
     ("cyberghost", match s.cyberghost with
       | none => .word "None"
       | some c => .wrapped "Some" c.outline)]

end VpnGateway
