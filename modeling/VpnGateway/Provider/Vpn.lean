/-!
# VPN providers

* `VpnProvider`, `VpnProvider.all`;
* `VpnProvider.text`, `VpnProvider.ofText?`: the text that selects a provider;
* `VpnProvider.name`: how listings name it.
-/

namespace VpnGateway

/-- A provider of VPN servers. -/
inductive VpnProvider
  | cyberghost | mullvad | nordvpn | privateInternetAccess | purevpn | surfshark | vyprvpn
  | windscribe
  deriving DecidableEq, Repr

namespace VpnProvider

/-- Every provider, in the order of messages. -/
def all : List VpnProvider :=
  [cyberghost, mullvad, nordvpn, privateInternetAccess, purevpn, surfshark, vyprvpn, windscribe]

/-- The text that selects a provider. -/
def text : VpnProvider → String
  | cyberghost => "cyberghost"
  | mullvad => "mullvad"
  | nordvpn => "nordvpn"
  | privateInternetAccess => "private internet access"
  | purevpn => "purevpn"
  | surfshark => "surfshark"
  | vyprvpn => "vyprvpn"
  | windscribe => "windscribe"

/-- The name of a provider in one word. -/
def name : VpnProvider → String
  | cyberghost => "Cyberghost"
  | mullvad => "Mullvad"
  | nordvpn => "Nordvpn"
  | privateInternetAccess => "PrivateInternetAccess"
  | purevpn => "Purevpn"
  | surfshark => "Surfshark"
  | vyprvpn => "Vyprvpn"
  | windscribe => "Windscribe"

/-- The texts that select a provider. -/
def choices : List String :=
  all.map text

/-- The provider that a text selects. -/
def ofText? (s : String) : Option VpnProvider :=
  all.find? fun p => p.text == s

theorem ofText?_text (p : VpnProvider) : ofText? p.text = some p := by
  cases p <;> decide

end VpnProvider

end VpnGateway
