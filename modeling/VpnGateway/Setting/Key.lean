/-!
# Keys and defaults

The names under which settings are looked up, and the texts that stand for what is not set.

* `Key`: the keys;
* `Default`: the texts.
-/

namespace VpnGateway

namespace Key

def vpnProvider : String := "VPNSP"
def dnsOverTls : String := "DOT"
def dotProviders : String := "DOT_PROVIDERS"
def dotVerbosity : String := "DOT_VERBOSITY"
def dotVerbosityDetails : String := "DOT_VERBOSITY_DETAILS"
def dotValidationLogLevel : String := "DOT_VALIDATION_LOGLEVEL"
def blockMalicious : String := "BLOCK_MALICIOUS"
def blockSurveillance : String := "BLOCK_SURVEILLANCE"

/-- The former name of `blockSurveillance`. -/
def blockNsa : String := "BLOCK_NSA"

def blockAds : String := "BLOCK_ADS"
def unblock : String := "UNBLOCK"
def dotCaching : String := "DOT_CACHING"
def dotPrivateAddress : String := "DOT_PRIVATE_ADDRESS"
def dotIpv6 : String := "DOT_IPV6"
def dnsUpdatePeriod : String := "DNS_UPDATE_PERIOD"
def dnsPlaintextAddress : String := "DNS_PLAINTEXT_ADDRESS"
def dnsKeepNameserver : String := "DNS_KEEP_NAMESERVER"
def cyberghostGroup : String := "CYBERGHOST_GROUP"
def region : String := "REGION"
def clientKey : String := "OPENVPN_CLIENTKEY"
def clientCertificate : String := "OPENVPN_CLIENTCRT"

/-- The key that names the secret file of a credential. -/
def secretFile (key : String) : String :=
  key ++ "_SECRETFILE"

end Key

namespace Default

def vpnProvider : String := "private internet access"
def dnsOverTls : String := "on"
def dotProviders : String := "cloudflare"
def dotVerbosity : String := "1"
def dotVerbosityDetails : String := "0"
def dotValidationLogLevel : String := "0"
def blockMalicious : String := "on"
def blockSurveillance : String := "off"
def blockAds : String := "off"
def dotCaching : String := "on"
def dotIpv6 : String := "off"
def dnsUpdatePeriod : String := "24h"
def dnsPlaintextAddress : String := "1.1.1.1"
def dnsKeepNameserver : String := "off"
def cyberghostGroup : String := "Premium UDP Europe"
def secretsDirectory : String := "/run/secrets"
def clientKeyFile : String := "/gateway/client.key"
def clientCertificateFile : String := "/gateway/client.crt"

end Default

end VpnGateway
