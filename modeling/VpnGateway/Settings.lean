import VpnGateway.Credential
import VpnGateway.Duration
import VpnGateway.Address
import VpnGateway.Provider.Vpn

/-!
# Settings

What the gateway needs in order to start, in groups.

* `DnsOverTlsSettings`, `DnsResolution`, `DnsSettings`: how names are resolved;
* `CyberghostSettings`: the choice of servers of one provider, and the client's credentials;
* `Settings`: all of it.
-/

namespace VpnGateway

/-- A local resolver that forwards over TLS. -/
structure DnsOverTlsSettings where
  providers : List String
  verbosity : UInt8
  verbosityDetails : UInt8
  validationLogLevel : UInt8
  blockMalicious : Bool
  blockSurveillance : Bool
  blockAds : Bool
  unblockedHostnames : List String
  caching : Bool
  privateAddresses : List String
  ipv6 : Bool
  /-- Zero means no updates. -/
  updatePeriod : Duration
  deriving DecidableEq, Repr

/-- How names are resolved. -/
inductive DnsResolution
  | overTls (settings : DnsOverTlsSettings)
  /-- Plain queries to one server. -/
  | plaintext (address : Address)
  deriving DecidableEq, Repr

/-- The settings of name resolution. -/
structure DnsSettings where
  resolution : DnsResolution
  keepNameserver : Bool
  deriving DecidableEq, Repr

/-- The settings of DNS over TLS, if it is on. -/
def DnsSettings.overTls? (s : DnsSettings) : Option DnsOverTlsSettings :=
  match s.resolution with
  | .overTls settings => some settings
  | .plaintext _ => none

/-- The choice of servers of Cyberghost, and the client's credentials. -/
structure CyberghostSettings where
  group : String
  /-- None means any region. -/
  regions : List String
  clientKey : Credential
  clientCertificate : Credential
  deriving DecidableEq, Repr

/-- All settings of the gateway. -/
structure Settings where
  vpnProvider : VpnProvider
  dns : DnsSettings
  cyberghost : Option CyberghostSettings
  deriving DecidableEq, Repr

end VpnGateway
