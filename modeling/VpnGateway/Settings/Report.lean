import VpnGateway.Duration.Words
import VpnGateway.Log
import VpnGateway.Settings

/-!
# Settings as log lines

What the log says about the settings, without secrets.

* `DnsSettings.report`, `CyberghostSettings.report`, `Settings.report`.
-/

namespace VpnGateway

/-- Texts in a row. -/
def commaWords (l : List String) : String :=
  ", ".intercalate l

/-- The lines about DNS over TLS. -/
def DnsOverTlsSettings.lines (s : DnsOverTlsSettings) : List String :=
  ["  DNS over TLS providers: " ++ commaWords s.providers,
   "  Verbosity: " ++ toString s.verbosity.toNat ++ " (details " ++
     toString s.verbosityDetails.toNat ++ ", validation " ++
     toString s.validationLogLevel.toNat ++ ")",
   "  Block malicious: " ++ toString s.blockMalicious,
   "  Block surveillance: " ++ toString s.blockSurveillance,
   "  Block ads: " ++ toString s.blockAds] ++
  (if s.unblockedHostnames = [] then []
   else ["  Unblocked hostnames: " ++ commaWords s.unblockedHostnames]) ++
  ["  Caching: " ++ toString s.caching] ++
  (if s.privateAddresses = [] then []
   else ["  Private addresses: " ++ commaWords s.privateAddresses]) ++
  ["  IPv6: " ++ toString s.ipv6,
   "  Update period: " ++
     if s.updatePeriod.nanoseconds = 0 then "disabled" else s.updatePeriod.describe]

/-- The lines about the resolution of names. -/
def DnsResolution.lines : DnsResolution → List String
  | overTls s => s.lines
  | plaintext address =>
    ["  DNS over TLS: disabled", "  Plaintext address: " ++ address.toText]

/-- The log lines about name resolution. -/
def DnsSettings.report (s : DnsSettings) : List Log.Line :=
  (["DNS Settings:"] ++ s.resolution.lines ++
    ["  Keep nameserver: " ++ toString s.keepNameserver]).map fun text => ⟨.info, .dns, text⟩

/-- The log lines about servers and credentials. -/
def CyberghostSettings.report (s : CyberghostSettings) : List Log.Line :=
  ["Cyberghost Settings:",
   "  Group: " ++ s.group,
   "  Regions: " ++ (if s.regions = [] then "any" else commaWords s.regions),
   "  Client key: [set]",
   "  Client certificate: " ++ toString s.clientCertificate.payload.length ++
     " base64 characters"].map fun text => ⟨.info, .cyberghost, text⟩

/-- The log lines about all settings. -/
def Settings.report (s : Settings) : List Log.Line :=
  [⟨.info, .settings, "=== Settings ==="⟩,
   ⟨.info, .settings, "VPN provider: " ++ s.vpnProvider.text⟩] ++
  s.dns.report ++ (s.cyberghost.map (·.report)).getD [] ++
  [⟨.info, .settings, "================"⟩]

end VpnGateway
