import VpnGateway.Duration.Words
import VpnGateway.Settings
import VpnGateway.Text.Json

/-!
# Settings as documents

Every field of every group in a fixed order; the private key is left out, and a group that is not
there has no field.

* `DnsSettings.document`, `CyberghostSettings.document`, `Settings.document`.
-/

namespace VpnGateway

/-- A list of texts. -/
def textList (l : List String) : Json :=
  .list (l.map .text)

/-- A byte. -/
def byteNumber (b : UInt8) : Json :=
  .number b.toNat

/-- How names are resolved, as a document. -/
def DnsResolution.document : DnsResolution → Json
  | overTls s => .record
    [("mode", .text "over_tls"), ("providers", textList s.providers),
     ("verbosity", byteNumber s.verbosity), ("verbosity_details", byteNumber s.verbosityDetails),
     ("validation_log_level", byteNumber s.validationLogLevel),
     ("block_malicious", .bool s.blockMalicious),
     ("block_surveillance", .bool s.blockSurveillance), ("block_ads", .bool s.blockAds),
     ("unblocked_hostnames", textList s.unblockedHostnames), ("caching", .bool s.caching),
     ("private_addresses", textList s.privateAddresses), ("ipv6", .bool s.ipv6),
     ("update_period", .text s.updatePeriod.describe)]
  | plaintext address => .record [("mode", .text "plaintext"), ("address", .text address.toText)]

/-- The settings of name resolution, as a document. -/
def DnsSettings.document (s : DnsSettings) : Json :=
  .record [("resolution", s.resolution.document), ("keep_nameserver", .bool s.keepNameserver)]

/-- The choice of servers and the certificate, as a document. -/
def CyberghostSettings.document (s : CyberghostSettings) : Json :=
  .record
    [("group", .text s.group), ("regions", textList s.regions),
     ("client_certificate", .text s.clientCertificate.payload)]

/-- All settings but the private key, as a document. -/
def Settings.document (s : Settings) : Json :=
  .record
    ([("vpn_provider", .text s.vpnProvider.text), ("dns", s.dns.document)] ++
      (s.cyberghost.map fun c => ("cyberghost", c.document)).toList)

end VpnGateway
