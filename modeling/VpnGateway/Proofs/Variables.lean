import VpnGateway.Proofs.WellFormed

/-!
# Settings as variables

Well-formed settings are written as variables, one for each setting that counts, and these are read
back.

* `Settings.assignments`: the variables of settings, by groups;
* `Sets`: a map sets variables;
* `Reading.yields_commaList` and its neighbours: one setting is read back;
* **`Settings.read_assignments`**: all of them are.
-/

namespace VpnGateway

open Reading

/-! ## Writing -/

/-- The text of a truth value. -/
def onOffText (b : Bool) : String :=
  if b then "on" else "off"

/-- The variables of the settings of DNS over TLS. -/
def DnsOverTlsSettings.assignments (s : DnsOverTlsSettings) : List (String × String) :=
  [(Key.dotProviders, Text.commaJoin s.providers),
   (Key.dotVerbosity, toString s.verbosity.toNat),
   (Key.dotVerbosityDetails, toString s.verbosityDetails.toNat),
   (Key.dotValidationLogLevel, toString s.validationLogLevel.toNat),
   (Key.blockMalicious, onOffText s.blockMalicious),
   (Key.blockSurveillance, onOffText s.blockSurveillance),
   (Key.blockAds, onOffText s.blockAds),
   (Key.unblock, Text.commaJoin s.unblockedHostnames),
   (Key.dotCaching, onOffText s.caching),
   (Key.dotPrivateAddress, Text.commaJoin s.privateAddresses),
   (Key.dotIpv6, onOffText s.ipv6),
   (Key.dnsUpdatePeriod, s.updatePeriod.toText)]

/-- The variables that say how names are resolved. -/
def DnsResolution.assignments : DnsResolution → List (String × String)
  | overTls s => (Key.dnsOverTls, onOffText true) :: s.assignments
  | plaintext address =>
    [(Key.dnsOverTls, onOffText false), (Key.dnsPlaintextAddress, address.toText)]

/-- The variables of the settings of name resolution. -/
def DnsSettings.assignments (s : DnsSettings) : List (String × String) :=
  s.resolution.assignments ++ [(Key.dnsKeepNameserver, onOffText s.keepNameserver)]

/-- The variables of the choice of servers and of the credentials. -/
def CyberghostSettings.assignments (s : CyberghostSettings) : List (String × String) :=
  [(Key.cyberghostGroup, s.group), (Key.region, Text.commaJoin s.regions),
   (Key.clientKey, s.clientKey.toPem), (Key.clientCertificate, s.clientCertificate.toPem)]

/-- The variables of all settings. -/
def Settings.assignments (s : Settings) : List (String × String) :=
  (Key.vpnProvider, s.vpnProvider.text) :: s.dns.assignments ++
    (s.cyberghost.map (·.assignments)).getD []

/-! ## One setting -/

/-- The map sets the variables. -/
def Sets (map : String → Option String) (entries : List (String × String)) : Prop :=
  ∀ e ∈ entries, map e.1 = some e.2

section Setting

variable {key : String} {policy : Policy} {t : Surroundings} {map : String → Option String}

theorem yields_raw_of_set (ht : t.source = .ofMap map) {value : String}
    (hset : map key = some value) (hne : value ≠ "") : Yields (raw key policy) t value :=
  yields_raw ht (by rw [hset, resolve_set hne])

theorem yields_onOff (ht : t.source = .ofMap map) {b : Bool}
    (hset : map key = some (onOffText b)) : Yields (onOff key policy) t b := by
  have hne : onOffText b ≠ "" := by cases b <;> decide
  have hread : readOnOff key (onOffText b) = .ok b := by cases b <;> rfl
  exact yields_typed (yields_raw_of_set ht hset hne) (map_verdict_eq_ok.2 ⟨b, hread, rfl⟩) rfl

theorem yields_choice (ht : t.source = .ofMap map) {choices : List String} {value : String}
    (hset : map key = some value) (hne : value ≠ "") (hmem : value ∈ choices) :
    Yields (choice key choices policy) t value := by
  have hread : readChoice key choices value = .ok value := readChoice_eq_ok.2 ⟨rfl, hmem⟩
  exact yields_typed (yields_raw_of_set ht hset hne) (map_verdict_eq_ok.2 ⟨value, hread, rfl⟩) rfl

theorem yields_level (ht : t.source = .ofMap map) {min max level : UInt8}
    (hset : map key = some (toString level.toNat)) (h : min ≤ level ∧ level ≤ max) :
    Yields (byte key min max policy) t level :=
  yields_byte h (yields_raw_of_set ht hset Nat.repr_ne_empty)

theorem yields_duration (ht : t.source = .ofMap map) {d : Duration}
    (hset : map key = some d.toText) (h : d.nanoseconds < Duration.limit) :
    Yields (duration key policy) t d := by
  have hread := Duration.ofText_toText h
  have hne : d.toText ≠ "" := by
    intro he
    rw [he, Duration.ofText_empty] at hread
    cases hread
  refine yields_typed (yields_raw_of_set ht hset hne) (v := .duration d) ?_ rfl
  rw [Rule.apply, readDuration, hread]
  rfl

theorem yields_address (ht : t.source = .ofMap map) {a : Address}
    (hset : map key = some a.toText) : Yields (address key policy) t a := by
  have hread : readAddress key a.toText = .ok a := by rw [readAddress, Address.ofText?_toText]
  have hne : a.toText ≠ "" := by
    intro he
    have hn := Address.ofText?_toText a
    rw [he] at hn
    cases hn
  exact yields_typed (yields_raw_of_set ht hset hne) (map_verdict_eq_ok.2 ⟨a, hread, rfl⟩) rfl

/-- A list is read back from its comma join; the empty one needs a setting that may be unset. -/
theorem yields_commaList (ht : t.source = .ofMap map) (R : ListRule) {l : List String}
    (hset : map key = some (Text.commaJoin l)) (hpolicy : policy = .optional ∨ l ≠ [])
    (htoken : ∀ u, R.Accepts u → IsToken u) (h : ∀ u ∈ l, R.Accepts u) :
    Yields (list key R.rule policy) t l := by
  by_cases hl : l = []
  · have hopt : policy = .optional := hpolicy.resolve_right fun hne => hne hl
    rw [hl] at hset ⊢
    have hunset : resolve key policy (map key) = .ok ("", .unset) := by
      rw [hset, hopt]
      rfl
    exact yields_list_nil (yields_raw ht hunset)
  · have htokens : ∀ u ∈ l, IsToken u := fun u hu => htoken u (h u hu)
    have hne : Text.commaJoin l ≠ "" := IsToken.commaJoin_ne_empty hl htokens
    have hread : R.rule.apply key (Text.commaJoin l) = .ok (.list l) :=
      ListRule.apply_eq_list_iff.2 ⟨hl, fun u hu => ⟨(htokens u hu).not_mem, h u hu⟩, rfl⟩
    exact yields_list (yields_raw_of_set ht hset hne) hne hread

theorem yields_credential (ht : t.source = .ofMap map) {c : Credential}
    (hset : map key = some c.toPem) (hpath : map (Key.secretFile key) = none)
    (hfile : t.files (joinPath t.secretsDirectory (Text.lowercase key)) = .absent)
    (fallback : String) : Yields (Setting.credential key c.kind fallback) t c := by
  refine .bind (yields_credentialBytes ht hpath hfile hset c.toPem_ne_empty _) (.liftExcept ?_)
  rw [readCredential, c.extract_toPem]
  rfl

end Setting

/-! ## Groups -/

section Groups

variable {t : Surroundings} {map : String → Option String}

theorem DnsOverTlsSettings.yields_read {s : DnsOverTlsSettings} (h : s.WellFormed)
    (ht : t.source = .ofMap map) (hset : Sets map s.assignments) (hnsa : map Key.blockNsa = none) :
    Yields DnsOverTlsSettings.read t s := by
  simp only [Sets, assignments, List.forall_mem_cons] at hset
  obtain ⟨hproviders, hverbosity, hdetails, hvalidation, hmalicious, hsurveillance, hads, hunblock,
    hcaching, hprivate, hipv6, hperiod, -⟩ := hset
  have hunset : resolve Key.blockNsa .optional (map Key.blockNsa) = .ok ("", .unset) := by
    rw [hnsa]
    rfl
  have hformer : Yields (raw Key.blockNsa .optional) t "" := yields_raw ht hunset
  refine .bind (yields_commaList ht (.choices Resolver.names) hproviders (.inr h.providers_ne_nil)
    (fun _ => isToken_of_mem_names) fun p hp => Resolver.mem_names_iff.2 (h.providers p hp)) ?_
  refine .bind (yields_level ht hverbosity ⟨UInt8.zero_le, h.verbosity⟩) ?_
  refine .bind (yields_level ht hdetails ⟨UInt8.zero_le, h.verbosityDetails⟩) ?_
  refine .bind (yields_level ht hvalidation ⟨UInt8.zero_le, h.validationLogLevel⟩) ?_
  refine .bind (yields_onOff ht hmalicious) ?_
  refine .bind (yields_renamed hformer (yields_onOff ht hsurveillance)) ?_
  refine .bind (yields_onOff ht hads) ?_
  refine .bind (yields_commaList ht .hostnames hunblock (.inl rfl)
    (fun _ => isToken_of_isHostname) h.unblockedHostnames) ?_
  refine .bind (yields_onOff ht hcaching) ?_
  refine .bind (yields_commaList ht .networks hprivate (.inl rfl)
    (fun _ => isToken_of_network) h.privateAddresses) ?_
  refine .bind (yields_onOff ht hipv6) ?_
  exact .bind (yields_duration ht hperiod h.updatePeriod) (.pure s)

theorem DnsSettings.yields_read {s : DnsSettings}
    (h : ∀ d, s.overTls? = some d → d.WellFormed) (ht : t.source = .ofMap map)
    (hset : Sets map s.assignments) (hnsa : map Key.blockNsa = none) :
    Yields DnsSettings.read t s := by
  obtain ⟨resolution, keep⟩ := s
  simp only [Sets, assignments, List.forall_mem_append] at hset
  obtain ⟨hresolution, hkeep⟩ := hset
  refine .bind (a := resolution) ?_ (.bind (yields_onOff ht (hkeep _ List.mem_cons_self)) (.pure _))
  cases resolution with
  | overTls d =>
    simp only [DnsResolution.assignments, List.forall_mem_cons] at hresolution
    exact .bind (yields_onOff ht hresolution.1)
      (.bind (DnsOverTlsSettings.yields_read (h d rfl) ht hresolution.2 hnsa) (.pure _))
  | plaintext address =>
    simp only [DnsResolution.assignments, List.forall_mem_cons] at hresolution
    exact .bind (yields_onOff ht hresolution.1)
      (.bind (yields_address ht hresolution.2.1) (.pure _))

/-- No file stands where the secret of a credential is looked for. -/
def NoSecret (t : Surroundings) (key : String) : Prop :=
  t.files (joinPath t.secretsDirectory (Text.lowercase key)) = .absent

theorem CyberghostSettings.yields_read {s : CyberghostSettings} (h : s.WellFormed)
    (ht : t.source = .ofMap map) (hset : Sets map s.assignments)
    (hpath : ∀ key ∈ [Key.clientKey, Key.clientCertificate],
      map (Key.secretFile key) = none ∧ NoSecret t key) :
    Yields CyberghostSettings.read t s := by
  simp only [Sets, assignments, List.forall_mem_cons] at hset
  obtain ⟨hgroup, hregion, hkey, hcert, -⟩ := hset
  simp only [List.forall_mem_cons] at hpath
  obtain ⟨hkeyPath, hcertPath, -⟩ := hpath
  refine .bind (yields_choice ht hgroup ?_ h.group) ?_
  · rintro he
    exact absurd (he ▸ h.group) (by decide)
  refine .bind (yields_commaList ht (.choices Cyberghost.regions) hregion (.inl rfl)
    (fun _ => isToken_of_mem_regions) h.regions) ?_
  refine .bind (.bind .surroundings ?_) (.bind (.bind .surroundings ?_) (.pure s))
  -- what is read back has the kind that was asked for, which is that of the credential
  · have hread := yields_credential ht hkey hkeyPath.1 hkeyPath.2 t.clientKeyFile
    rwa [h.clientKey_kind] at hread
  · have hread := yields_credential ht hcert hcertPath.1 hcertPath.2 t.clientCertificateFile
    rwa [h.clientCertificate_kind] at hread

theorem yields_vpnProvider (ht : t.source = .ofMap map) {p : VpnProvider}
    (hset : map Key.vpnProvider = some p.text) : Yields Setting.vpnProvider t p := by
  have htext : p.text ≠ "" ∧ p.text ∈ VpnProvider.choices := by cases p <;> decide
  refine .bind (yields_choice ht hset htext.1 htext.2) (.bind (.note _ _ _) ?_)
  rw [VpnProvider.ofText?_text]
  exact .pure p

theorem Settings.yields_read {s : Settings} (h : s.WellFormed) (ht : t.source = .ofMap map)
    (hset : Sets map s.assignments) (hnsa : map Key.blockNsa = none)
    (hpath : ∀ key ∈ [Key.clientKey, Key.clientCertificate],
      map (Key.secretFile key) = none ∧ NoSecret t key) :
    Yields Settings.read t s := by
  obtain ⟨provider, dns, cyberghost⟩ := s
  simp only [Sets, assignments, List.cons_append, List.forall_mem_cons,
    List.forall_mem_append] at hset
  obtain ⟨hprovider, hdns, hcyberghost⟩ := hset
  refine .bind (yields_vpnProvider ht hprovider)
    (.bind (DnsSettings.yields_read h.overTls ht hdns hnsa) ?_)
  cases cyberghost with
  | none =>
    have hp : ¬ provider = .cyberghost := fun hp => absurd (h.cyberghost_iff.2 hp) (by simp)
    rw [if_neg hp]
    exact .pure _
  | some c =>
    have hp : provider = .cyberghost := h.cyberghost_iff.1 rfl
    rw [if_pos hp]
    exact .bind (CyberghostSettings.yields_read (h.cyberghost c rfl) ht hcyberghost hpath) (.pure _)

end Groups

/-! ## The map of the variables -/

/-- The variables as a map. -/
def Settings.map (s : Settings) (key : String) : Option String :=
  s.assignments.lookup key

theorem sets_lookup {entries : List (String × String)} (h : (entries.map Prod.fst).Nodup) :
    Sets (fun key => entries.lookup key) entries := by
  induction entries with
  | nil => exact fun _ he => absurd he List.not_mem_nil
  | cons e entries ih =>
    obtain ⟨key, value⟩ := e
    rw [List.map_cons, List.nodup_cons] at h
    intro d hd
    rcases List.mem_cons.1 hd with rfl | hd
    · exact List.lookup_cons_self
    · have hne : d.1 ≠ key := by
        intro he
        have hmem : d.1 ∈ entries.map Prod.fst := List.mem_map_of_mem (f := Prod.fst) hd
        exact h.1 (he ▸ hmem)
      change List.lookup d.1 ((key, value) :: entries) = _
      rw [List.lookup_cons, beq_false_of_ne hne]
      exact ih h.2 d hd

theorem lookup_eq_none {key : String} {entries : List (String × String)}
    (h : key ∉ entries.map Prod.fst) : entries.lookup key = none := by
  refine List.lookup_eq_none_iff.2 fun e he => ?_
  have hne : key ≠ e.1 := by
    rintro rfl
    exact h (List.mem_map_of_mem he)
  simpa using hne

/-- The keys of the variables of settings: with DNS over TLS or without it, and with the group of
Cyberghost or without it. -/
def Settings.keys (overTls cyberghost : Bool) : List String :=
  [Key.vpnProvider, Key.dnsOverTls] ++
    (if overTls then
      [Key.dotProviders, Key.dotVerbosity, Key.dotVerbosityDetails, Key.dotValidationLogLevel,
       Key.blockMalicious, Key.blockSurveillance, Key.blockAds, Key.unblock, Key.dotCaching,
       Key.dotPrivateAddress, Key.dotIpv6, Key.dnsUpdatePeriod]
     else [Key.dnsPlaintextAddress]) ++ [Key.dnsKeepNameserver] ++
    (if cyberghost then
      [Key.cyberghostGroup, Key.region, Key.clientKey, Key.clientCertificate]
     else [])

theorem Settings.keys_assignments (s : Settings) :
    ∃ overTls cyberghost, s.assignments.map Prod.fst = keys overTls cyberghost := by
  obtain ⟨provider, ⟨resolution, keep⟩, cyberghost⟩ := s
  refine ⟨match resolution with | .overTls _ => true | .plaintext _ => false,
    cyberghost.isSome, ?_⟩
  cases resolution <;> cases cyberghost <;> rfl

theorem Settings.keys_spec : ∀ overTls cyberghost, (keys overTls cyberghost).Nodup ∧
    ∀ key ∈ [Key.blockNsa, Key.secretFile Key.clientKey, Key.secretFile Key.clientCertificate],
      key ∉ keys overTls cyberghost := by decide +kernel

theorem Settings.sets_map (s : Settings) : Sets s.map s.assignments := by
  obtain ⟨overTls, cyberghost, h⟩ := s.keys_assignments
  exact sets_lookup (h ▸ (keys_spec overTls cyberghost).1)

/-- Keys that are only read because of what others are set to. -/
theorem Settings.map_eq_none (s : Settings) :
    ∀ key ∈ [Key.blockNsa, Key.secretFile Key.clientKey, Key.secretFile Key.clientCertificate],
      s.map key = none := by
  intro key hkey
  obtain ⟨overTls, cyberghost, h⟩ := s.keys_assignments
  exact lookup_eq_none (h ▸ (keys_spec overTls cyberghost).2 key hkey)

/-- **Well-formed settings are read back from their variables**, without a warning. -/
theorem Settings.read_assignments {s : Settings} (h : s.WellFormed) {t : Surroundings}
    (ht : t.source = .ofMap s.map) (hkey : NoSecret t Key.clientKey)
    (hcert : NoSecret t Key.clientCertificate) (j : Journal) :
    ∃ j', Settings.read t j = (.ok s, j') ∧ j'.warnings = j.warnings := by
  have hnone := s.map_eq_none
  simp only [List.forall_mem_cons] at hnone
  obtain ⟨hnsa, hkeyPath, hcertPath, -⟩ := hnone
  refine Settings.yields_read h ht s.sets_map hnsa ?_ j
  simp only [List.forall_mem_cons]
  exact ⟨⟨hkeyPath, hkey⟩, ⟨hcertPath, hcert⟩, fun _ h => absurd h List.not_mem_nil⟩

theorem Settings.read_assignments_cyberghost :
    let dot : DnsOverTlsSettings := ⟨["google", "quad9"], 5, 4, 2, true, true, false,
      ["example.com"], true, ["10.0.0.0/8", "fd00::1"], false, ⟨90⟩⟩
    let c : CyberghostSettings :=
      ⟨"NoSpy UDP Europe", [], ⟨.privateKey, [1, 2, 3]⟩, ⟨.certificate, []⟩⟩
    let s : Settings := ⟨.cyberghost, ⟨.overTls dot, true⟩, some c⟩
    s.WellFormed ∧ ∃ j', Settings.read { source := .ofMap s.map, files := fun _ => .absent } {} =
      (.ok s, j') ∧ j'.warnings = [] := by
  intro dot c s
  have hdot : dot.WellFormed := by
    refine ⟨by decide, by decide, by decide, by decide, by decide, ?_, ?_, by decide⟩
    all_goals decide +kernel
  have hc : c.WellFormed :=
    ⟨by decide, by decide, rfl, c.clientKey.isCanonical, rfl, c.clientCertificate.isCanonical⟩
  have h : s.WellFormed :=
    ⟨fun d hd => Option.some.inj hd ▸ hdot, ⟨fun _ => rfl, fun _ => rfl⟩,
      fun d hd => Option.some.inj hd ▸ hc⟩
  let t : Surroundings := { source := .ofMap s.map, files := fun _ => .absent }
  have hsecret : ∀ key, NoSecret t key := fun _ => rfl
  exact ⟨h, Settings.read_assignments (t := t) h rfl (hsecret _) (hsecret _) {}⟩

end VpnGateway
