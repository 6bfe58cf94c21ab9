import VpnGateway.Hostname
import VpnGateway.Provider.Cyberghost
import VpnGateway.Provider.Resolver
import VpnGateway.Reading.Alias
import VpnGateway.Settings

/-!
# Reading the settings

Each setting has its key, its rule and its default. A group is read in one pass, and the first
setting without a value ends it.

* `Setting.vpnProvider` and its neighbours: one reading for each setting;
* `DnsSettings.read`, `CyberghostSettings.read`, `Settings.read`: the groups.
-/

namespace VpnGateway

namespace Setting

/-- The VPN provider. -/
def vpnProvider : Reading VpnProvider := do
  let name ← Reading.choice Key.vpnProvider VpnProvider.choices (.withDefault Default.vpnProvider)
  Reading.note .debug .reader ("VPN provider: " ++ name)
  match VpnProvider.ofText? name with
  | some provider => return provider
  | none => Reading.fail (.notAChoice Key.vpnProvider name VpnProvider.choices)

/-- DNS over TLS is on. -/
def dnsOverTls : Reading Bool :=
  Reading.onOff Key.dnsOverTls (.withDefault Default.dnsOverTls)

/-- The resolvers that are asked, in order. -/
def dotProviders : Reading (List String) :=
  Reading.choiceList Key.dotProviders Resolver.names (.withDefault Default.dotProviders)

/-- How much the local resolver logs. -/
def dotVerbosity : Reading UInt8 :=
  Reading.byte Key.dotVerbosity 0 5 (.withDefault Default.dotVerbosity)

/-- How detailed its log is. -/
def dotVerbosityDetails : Reading UInt8 :=
  Reading.byte Key.dotVerbosityDetails 0 4 (.withDefault Default.dotVerbosityDetails)

/-- How much it logs of validation. -/
def dotValidationLogLevel : Reading UInt8 :=
  Reading.byte Key.dotValidationLogLevel 0 2 (.withDefault Default.dotValidationLogLevel)

/-- Malicious names and addresses are blocked. -/
def blockMalicious : Reading Bool :=
  Reading.onOff Key.blockMalicious (.withDefault Default.blockMalicious)

/-- The setting of blocked surveillance, which was renamed. -/
def surveillanceAlias : Alias :=
  ⟨Key.blockNsa, Key.blockSurveillance, .withDefault Default.blockSurveillance⟩

/-- Names and addresses of surveillance are blocked. -/
def blockSurveillance : Reading Bool :=
  Reading.renamed surveillanceAlias Reading.onOff

/-- Names and addresses of advertising are blocked. -/
def blockAds : Reading Bool :=
  Reading.onOff Key.blockAds (.withDefault Default.blockAds)

/-- Host names that are not blocked. -/
def unblockedHostnames : Reading (List String) :=
  Reading.list Key.unblock .hostnames .optional

/-- The local resolver caches answers. -/
def dotCaching : Reading Bool :=
  Reading.onOff Key.dotCaching (.withDefault Default.dotCaching)

/-- Addresses and networks that no answer may hold. -/
def dotPrivateAddresses : Reading (List String) :=
  Reading.list Key.dotPrivateAddress .networks .optional

/-- IPv6 addresses are resolved. -/
def dotIpv6 : Reading Bool :=
  Reading.onOff Key.dotIpv6 (.withDefault Default.dotIpv6)

/-- How often block lists are updated. -/
def dnsUpdatePeriod : Reading Duration :=
  Reading.duration Key.dnsUpdatePeriod (.withDefault Default.dnsUpdatePeriod)

/-- The server for plain queries. -/
def dnsPlaintextAddress : Reading Address :=
  Reading.address Key.dnsPlaintextAddress (.withDefault Default.dnsPlaintextAddress)

/-- The nameserver of the system is kept. -/
def dnsKeepNameserver : Reading Bool :=
  Reading.onOff Key.dnsKeepNameserver (.withDefault Default.dnsKeepNameserver)

/-- The group of servers. -/
def cyberghostGroup : Reading String :=
  Reading.choice Key.cyberghostGroup Cyberghost.groups (.withDefault Default.cyberghostGroup)

/-- The regions of servers. -/
def cyberghostRegions : Reading (List String) :=
  Reading.choiceList Key.region Cyberghost.regions .optional

/-- A credential of a kind, with a file of last resort. -/
def credential (key : String) (kind : CredentialKind) (fallback : String) : Reading Credential := do
  let (bytes, _) ← Reading.credentialBytes key (some fallback)
  Reading.liftExcept (verdict (readCredential key kind bytes))

/-- The client's private key. -/
def clientKey : Reading Credential := do
  credential Key.clientKey .privateKey (← Reading.surroundings).clientKeyFile

/-- The client's certificate. -/
def clientCertificate : Reading Credential := do
  credential Key.clientCertificate .certificate (← Reading.surroundings).clientCertificateFile

end Setting

/-- Read the settings of DNS over TLS. -/
def DnsOverTlsSettings.read : Reading DnsOverTlsSettings := do
  let providers ← Setting.dotProviders
  let verbosity ← Setting.dotVerbosity
  let verbosityDetails ← Setting.dotVerbosityDetails
  let validationLogLevel ← Setting.dotValidationLogLevel
  let blockMalicious ← Setting.blockMalicious
  let blockSurveillance ← Setting.blockSurveillance
  let blockAds ← Setting.blockAds
  let unblockedHostnames ← Setting.unblockedHostnames
  let caching ← Setting.dotCaching
  let privateAddresses ← Setting.dotPrivateAddresses
  let ipv6 ← Setting.dotIpv6
  let updatePeriod ← Setting.dnsUpdatePeriod
  return ⟨providers, verbosity, verbosityDetails, validationLogLevel, blockMalicious,
    blockSurveillance, blockAds, unblockedHostnames, caching, privateAddresses, ipv6, updatePeriod⟩

/-- Read how names are resolved. -/
def DnsResolution.read : Reading DnsResolution := do
  if ← Setting.dnsOverTls then return .overTls (← DnsOverTlsSettings.read)
  else return .plaintext (← Setting.dnsPlaintextAddress)

/-- Read the settings of name resolution. -/
def DnsSettings.read : Reading DnsSettings := do
  let resolution ← DnsResolution.read
  let keepNameserver ← Setting.dnsKeepNameserver
  return ⟨resolution, keepNameserver⟩

/-- Read the choice of servers and the credentials. -/
def CyberghostSettings.read : Reading CyberghostSettings := do
  let group ← Setting.cyberghostGroup
  let regions ← Setting.cyberghostRegions
  let clientKey ← Setting.clientKey
  let clientCertificate ← Setting.clientCertificate
  return ⟨group, regions, clientKey, clientCertificate⟩

/-- Read all settings; those of Cyberghost only if it is the provider. -/
def Settings.read : Reading Settings := do
  let vpnProvider ← Setting.vpnProvider
  let dns ← DnsSettings.read
  if vpnProvider = .cyberghost then return ⟨vpnProvider, dns, some (← CyberghostSettings.read)⟩
  else return ⟨vpnProvider, dns, none⟩

end VpnGateway
