import VpnGateway.Proofs.ClientKey
import VpnGateway.Proofs.DurationWords
import VpnGateway.Proofs.Pretty
import VpnGateway.Proofs.WellFormed

/-!
# What the document of settings tells

Every field of settings but the client key can be told from their document: lists item by item,
addresses as what they are, and durations to the nanosecond.

* `Json.leaves`, `Settings.leaves`, `Settings.leaves_document`: the fields of a document with their
  values, and those of settings;
* `DnsSettings.document_injective`, `CyberghostSettings.eq_of_document`: the groups;
* `Settings.document_eq_iff`: well-formed settings have one document if only their keys differ;
* **`Settings.compact_eq_iff_of_read`**, `Settings.pretty_eq_iff_of_read`: so have settings that were
  read, in compact and in indented form.
-/

namespace VpnGateway

/-! ## Fields -/

namespace Json

mutual

/-- The values in a document that are no records, each with the names of the fields around it. -/
def leaves : Json → List (List String × Json)
  | record fields => fieldLeaves fields
  | d => [([], d)]

/-- The values in the fields of a record. -/
def fieldLeaves : List (String × Json) → List (List String × Json)
  | [] => []
  | (name, value) :: fields =>
    value.leaves.map (fun leaf => (name :: leaf.1, leaf.2)) ++ fieldLeaves fields

end

end Json

/-- The values in the settings of name resolution. -/
def DnsSettings.leaves (s : DnsSettings) : List (List String × Json) :=
  (match s.resolution with
  | .plaintext address =>
    [(["dns", "resolution", "mode"], .text "plaintext"),
     (["dns", "resolution", "address"], .text address.toText)]
  | .overTls t =>
    [(["dns", "resolution", "mode"], .text "over_tls"),
     (["dns", "resolution", "providers"], .list (t.providers.map .text)),
     (["dns", "resolution", "verbosity"], .number t.verbosity.toNat),
     (["dns", "resolution", "verbosity_details"], .number t.verbosityDetails.toNat),
     (["dns", "resolution", "validation_log_level"], .number t.validationLogLevel.toNat),
     (["dns", "resolution", "block_malicious"], .bool t.blockMalicious),
     (["dns", "resolution", "block_surveillance"], .bool t.blockSurveillance),
     (["dns", "resolution", "block_ads"], .bool t.blockAds),
     (["dns", "resolution", "unblocked_hostnames"], .list (t.unblockedHostnames.map .text)),
     (["dns", "resolution", "caching"], .bool t.caching),
     (["dns", "resolution", "private_addresses"], .list (t.privateAddresses.map .text)),
     (["dns", "resolution", "ipv6"], .bool t.ipv6),
     (["dns", "resolution", "update_period"], .text t.updatePeriod.describe)]) ++
  [(["dns", "keep_nameserver"], .bool s.keepNameserver)]

/-- The values in the choice of servers. -/
def CyberghostSettings.leaves (s : CyberghostSettings) : List (List String × Json) :=
  [(["cyberghost", "group"], .text s.group),
   (["cyberghost", "regions"], .list (s.regions.map .text)),
   (["cyberghost", "client_certificate"], .text s.clientCertificate.payload)]

/-- The values in settings, but for the client key. -/
def Settings.leaves (s : Settings) : List (List String × Json) :=
  (["vpn_provider"], .text s.vpnProvider.text) ::
    (s.dns.leaves ++ (s.cyberghost.map CyberghostSettings.leaves).getD [])

/-- The document holds the values of the settings, each under its name. -/
theorem Settings.leaves_document (s : Settings) : s.document.leaves = s.leaves := by
  obtain ⟨provider, ⟨resolution, keep⟩, cyberghost⟩ := s
  cases resolution with
  | overTls t => cases cyberghost <;> rfl
  | plaintext address => cases cyberghost <;> rfl

/-! ## Values -/

theorem textList_injective : Function.Injective textList := by
  intro l l' h
  have htext : Function.Injective Json.text := fun _ _ => Json.text.inj
  exact List.map_injective_iff.2 htext (Json.list.inj h)

theorem byteNumber_injective : Function.Injective byteNumber :=
  fun _ _ h => UInt8.toNat_inj.1 (Json.number.inj h)

theorem Address.toText_injective : Function.Injective toText := by
  intro a a' h
  have hread := a.ofText?_toText
  rw [h, a'.ofText?_toText] at hread
  exact (Option.some.inj hread).symm

theorem VpnProvider.text_injective : Function.Injective text := by
  intro p p' h
  have hread := p.ofText?_text
  rw [h, p'.ofText?_text] at hread
  exact (Option.some.inj hread).symm

/-- A credential is told from its payload, if its kind is known. -/
theorem Credential.eq_of_payload {c c' : Credential} (hkind : c.kind = c'.kind)
    (h : c.payload = c'.payload) : c = c' := by
  have hder := c.decode?_payload
  rw [h, c'.decode?_payload] at hder
  obtain ⟨kind, der⟩ := c
  cases hkind
  cases hder
  rfl

/-! ## Groups -/

theorem DnsResolution.document_injective : Function.Injective document := by
  rintro (s | address) (s' | address') h
  · simp only [document, Json.record.injEq, List.cons.injEq, Prod.mk.injEq, Json.text.injEq,
      Json.bool.injEq, textList_injective.eq_iff, byteNumber_injective.eq_iff,
      Duration.describe_injective.eq_iff, true_and, and_true] at h
    cases s
    cases s'
    obtain ⟨rfl, rfl, rfl, rfl, rfl, rfl, rfl, rfl, rfl, rfl, rfl, rfl⟩ := h
    rfl
  · simp [document] at h
  · simp [document] at h
  · simp only [document, Json.record.injEq, List.cons.injEq, Prod.mk.injEq, Json.text.injEq,
      Address.toText_injective.eq_iff, true_and, and_true] at h
    rw [h]

theorem DnsSettings.document_injective : Function.Injective document := by
  rintro ⟨r, keep⟩ ⟨r', keep'⟩ h
  simp only [document, Json.record.injEq, List.cons.injEq, Prod.mk.injEq, Json.bool.injEq,
    DnsResolution.document_injective.eq_iff, true_and, and_true] at h
  obtain ⟨rfl, rfl⟩ := h
  rfl

/-- The choice of servers and the certificate are told from their document. -/
theorem CyberghostSettings.eq_of_document {c c' : CyberghostSettings}
    (hkind : c.clientCertificate.kind = c'.clientCertificate.kind) (h : c.document = c'.document)
    (k : Credential) : { c with clientKey := k } = { c' with clientKey := k } := by
  simp only [document, Json.record.injEq, List.cons.injEq, Prod.mk.injEq, Json.text.injEq,
    textList_injective.eq_iff, true_and, and_true] at h
  obtain ⟨hgroup, hregions, hpayload⟩ := h
  rw [hgroup, hregions, Credential.eq_of_payload hkind hpayload]

namespace Settings

variable {s s' : Settings}

@[simp] theorem document_withClientKey (s : Settings) (k : Credential) :
    (s.withClientKey k).document = s.document := by
  obtain ⟨provider, dns, cyberghost⟩ := s
  cases cyberghost <;> rfl

theorem eq_of_document (h : s.WellFormed) (h' : s'.WellFormed) (hdoc : s.document = s'.document)
    (k : Credential) : s.withClientKey k = s'.withClientKey k := by
  obtain ⟨provider, dns, cyberghost⟩ := s
  obtain ⟨provider', dns', cyberghost'⟩ := s'
  simp only [document, Json.record.injEq, List.cons_append, List.nil_append, List.cons.injEq,
    Prod.mk.injEq, Json.text.injEq, VpnProvider.text_injective.eq_iff,
    DnsSettings.document_injective.eq_iff, true_and] at hdoc
  obtain ⟨rfl, rfl, hgroup⟩ := hdoc
  cases cyberghost with
  | none =>
    cases cyberghost' with
    | none => rfl
    | some c' => cases hgroup
  | some c =>
    cases cyberghost' with
    | none => cases hgroup
    | some c' =>
      have hkind := (h.cyberghost c rfl).clientCertificate_kind.trans
        (h'.cyberghost c' rfl).clientCertificate_kind.symm
      have hc : c.document = c'.document := by simpa using hgroup
      simp only [withClientKey, Option.map_some, CyberghostSettings.eq_of_document hkind hc k]

/-- Well-formed settings have one document if nothing but the client key tells them apart, and only
then. -/
theorem document_eq_iff (h : s.WellFormed) (h' : s'.WellFormed) :
    s.document = s'.document ↔ ∀ k, s.withClientKey k = s'.withClientKey k := by
  refine ⟨eq_of_document h h', fun hkey => ?_⟩
  have hdoc := congrArg document (hkey ⟨.privateKey, []⟩)
  rwa [document_withClientKey, document_withClientKey] at hdoc

/-- The indented document loses nothing but the client key. -/
theorem pretty_eq_iff_of_read {t t' : Surroundings} {j j₁ j' j₁' : Journal}
    (h : Settings.read t j = (.ok s, j₁)) (h' : Settings.read t' j' = (.ok s', j₁')) :
    s.document.pretty = s'.document.pretty ↔ ∀ k, s.withClientKey k = s'.withClientKey k := by
  rw [Json.pretty_injective.eq_iff]
  exact document_eq_iff (ensures_read t j s j₁ h) (ensures_read t' j' s' j₁' h')

/-- **The compact document loses nothing but the client key.** -/
theorem compact_eq_iff_of_read {t t' : Surroundings} {j j₁ j' j₁' : Journal}
    (h : Settings.read t j = (.ok s, j₁)) (h' : Settings.read t' j' = (.ok s', j₁')) :
    s.document.compact = s'.document.compact ↔
      ∀ k, s.withClientKey k = s'.withClientKey k := by
  rw [Json.compact_injective.eq_iff]
  exact document_eq_iff (ensures_read t j s j₁ h) (ensures_read t' j' s' j₁' h')

/-- A source that sets nothing but the update period. -/
def periodSurroundings (period : String) : Surroundings where
  source := .ofMap fun key => [(Key.dnsUpdatePeriod, period)].lookup key
  files := fun _ => .absent

/-- Two client keys leave one document, and a nanosecond makes two. -/
theorem compact_eq_iff_of_read_nanosecond :
    (∃ a a', (Settings.read (keySurroundings "AQID") {}).1 = .ok a ∧
      (Settings.read (keySurroundings "BAUG") {}).1 = .ok a' ∧ a ≠ a' ∧
      a.document.compact = a'.document.compact) ∧
    ∃ a a', (Settings.read (periodSurroundings "24h") {}).1 = .ok a ∧
      (Settings.read (periodSurroundings "24h1ns") {}).1 = .ok a' ∧
      a.document.compact ≠ a'.document.compact := by
  let keyed (key : List UInt8) : Settings :=
    ⟨.cyberghost, ⟨.plaintext (.v4 ⟨1, 1, 1, 1⟩), false⟩,
      some ⟨"Premium UDP Europe", [], ⟨.privateKey, key⟩, ⟨.certificate, []⟩⟩⟩
  have hk : (Settings.read (keySurroundings "AQID") {}).1 = .ok (keyed [1, 2, 3]) := by
    decide +kernel
  have hk' : (Settings.read (keySurroundings "BAUG") {}).1 = .ok (keyed [4, 5, 6]) := by
    decide +kernel
  let updated (nanoseconds : Nat) : Settings :=
    ⟨.privateInternetAccess, ⟨.overTls ⟨["cloudflare"], 1, 0, 0, true, false, false, [], true, [],
      false, ⟨nanoseconds⟩⟩, false⟩, none⟩
  have hp : (Settings.read (periodSurroundings "24h") {}).1 = .ok (updated 86400000000000) := by
    decide +kernel
  have hp' : (Settings.read (periodSurroundings "24h1ns") {}).1 = .ok (updated 86400000000001) := by
    decide +kernel
  refine ⟨⟨_, _, hk, hk', by decide, ?_⟩, _, _, hp, hp', fun hcompact => ?_⟩
  · exact (compact_eq_iff_of_read (Reading.run_eq hk) (Reading.run_eq hk')).2 fun _ => rfl
  · have hsame := (compact_eq_iff_of_read (Reading.run_eq hp) (Reading.run_eq hp')).1 hcompact
    exact absurd (hsame ⟨.privateKey, []⟩) (by decide)

end Settings

end VpnGateway
