import VpnGateway.Proofs.CredentialBytes
import VpnGateway.Settings.Read

/-!
# The keys and the log of groups of settings

* `DnsOverTlsSettings.lookupKeys` and its neighbours: the keys that a group looks up;
* `DnsSettings.blames_read`, `Setting.blames_credential`: which of them an error names;
* `DnsSettings.logs_read`, `Setting.logs_vpnProvider`: what is logged about them.
-/

namespace VpnGateway

open Reading

/-- The keys of the settings of DNS over TLS. -/
def DnsOverTlsSettings.lookupKeys : List String :=
  [Key.dotProviders, Key.dotVerbosity, Key.dotVerbosityDetails, Key.dotValidationLogLevel,
   Key.blockMalicious, Key.blockNsa, Key.blockSurveillance, Key.blockAds, Key.unblock,
   Key.dotCaching, Key.dotPrivateAddress, Key.dotIpv6, Key.dnsUpdatePeriod]

/-- The keys of the settings of name resolution. -/
def DnsSettings.lookupKeys : List String :=
  Key.dnsOverTls :: DnsOverTlsSettings.lookupKeys ++ [Key.dnsPlaintextAddress, Key.dnsKeepNameserver]

/-- The keys of a credential. -/
def Setting.credentialKeys (key : String) : List String :=
  [Key.secretFile key, key]

/-! ## Errors -/

theorem DnsOverTlsSettings.blames_read : Blames DnsOverTlsSettings.read lookupKeys := by
  refine .bind (blames_list.of_mem (by decide)) fun _ => ?_
  refine .bind (blames_byte.of_mem (by decide)) fun _ => ?_
  refine .bind (blames_byte.of_mem (by decide)) fun _ => ?_
  refine .bind (blames_byte.of_mem (by decide)) fun _ => ?_
  refine .bind (blames_typed.of_mem (by decide)) fun _ => ?_
  refine .bind ((blames_renamed fun _ _ => blames_typed).mono (by decide)) fun _ => ?_
  refine .bind (blames_typed.of_mem (by decide)) fun _ => ?_
  refine .bind (blames_list.of_mem (by decide)) fun _ => ?_
  refine .bind (blames_typed.of_mem (by decide)) fun _ => ?_
  refine .bind (blames_list.of_mem (by decide)) fun _ => ?_
  refine .bind (blames_typed.of_mem (by decide)) fun _ => ?_
  exact .bind (blames_typed.of_mem (by decide)) fun _ => .pure _

theorem DnsSettings.blames_read : Blames DnsSettings.read lookupKeys := by
  refine .bind (.bind (blames_typed.of_mem (by decide)) fun on => ?_) fun _ =>
    .bind (blames_typed.of_mem (by decide)) fun _ => .pure _
  split
  · exact .bind (DnsOverTlsSettings.blames_read.mono (by decide)) fun _ => .pure _
  · exact .bind (blames_typed.of_mem (by decide)) fun _ => .pure _

theorem Setting.blames_vpnProvider : Blames Setting.vpnProvider [Key.vpnProvider] := by
  refine .bind blames_typed fun name => .bind (.note _ _ _) fun _ => ?_
  split
  · exact .pure _
  · exact .fail List.mem_cons_self

theorem Setting.blames_credential {key fallback : String} {kind : CredentialKind} :
    Blames (Setting.credential key kind fallback) (credentialKeys key) := by
  refine .bind blames_credentialBytes fun (bytes, _) => .liftExcept fun e he => ?_
  obtain ⟨_, -, rfl⟩ := readCredential_eq_error.1 (eq_error_of_verdict he)
  exact List.mem_cons_of_mem _ List.mem_cons_self

/-! ## Lines -/

variable {p : Log.Line → Prop}

theorem DnsOverTlsSettings.logs_read
    (hkey : ∀ key ∈ lookupKeys, ∀ origin, p (originLine key origin))
    (hstate : ∀ state, p (stateLine Setting.surveillanceAlias state)) :
    Logs DnsOverTlsSettings.read p := by
  refine .bind (logs_list (hkey _ (by decide))) fun _ => ?_
  refine .bind (logs_byte (hkey _ (by decide))) fun _ => ?_
  refine .bind (logs_byte (hkey _ (by decide))) fun _ => ?_
  refine .bind (logs_byte (hkey _ (by decide))) fun _ => ?_
  refine .bind (logs_typed (hkey _ (by decide))) fun _ => ?_
  refine .bind (logs_renamed (hkey _ (by decide)) (hkey _ (by decide)) hstate
    fun _ _ h => logs_typed h) fun _ => ?_
  refine .bind (logs_typed (hkey _ (by decide))) fun _ => ?_
  refine .bind (logs_list (hkey _ (by decide))) fun _ => ?_
  refine .bind (logs_typed (hkey _ (by decide))) fun _ => ?_
  refine .bind (logs_list (hkey _ (by decide))) fun _ => ?_
  refine .bind (logs_typed (hkey _ (by decide))) fun _ => ?_
  exact .bind (logs_typed (hkey _ (by decide))) fun _ => .pure _

theorem DnsSettings.logs_read (hkey : ∀ key ∈ lookupKeys, ∀ origin, p (originLine key origin))
    (hstate : ∀ state, p (stateLine Setting.surveillanceAlias state)) :
    Logs DnsSettings.read p := by
  refine .bind (.bind (logs_typed (hkey _ (by decide))) fun on => ?_) fun _ =>
    .bind (logs_typed (hkey _ (by decide))) fun _ => .pure _
  split
  · have hsub : DnsOverTlsSettings.lookupKeys ⊆ lookupKeys := by decide
    exact .bind (DnsOverTlsSettings.logs_read (fun key h => hkey key (hsub h)) hstate)
      fun _ => .pure _
  · exact .bind (logs_typed (hkey _ (by decide))) fun _ => .pure _

theorem Setting.logs_vpnProvider (hkey : ∀ origin, p (originLine Key.vpnProvider origin))
    (hname : ∀ name ∈ VpnProvider.choices, p ⟨.debug, .reader, "VPN provider: " ++ name⟩) :
    Logs Setting.vpnProvider p := by
  refine .bind_of (logs_typed hkey) ensures_choice fun name hmem =>
    .bind (.note (hname name hmem)) fun _ => ?_
  split
  · exact .pure _
  · exact .fail _

end VpnGateway
