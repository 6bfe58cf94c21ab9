import VpnGateway.Proofs.ListRules
import VpnGateway.Proofs.Operations

/-!
# What errors are about

Reading all settings fails for what the variables hold, and never for what stands for a setting that
is not set. An error gives the key and the value that is to blame, and the value has the fault.

* `FormatFault.IsOf`, `IsHeld`, `SettingError.HasGrounds`: what is true if there is an error;
* `Getter.hasGrounds_of_value`: the errors that a getter makes of a text have grounds;
* `Item.plan`, `Item.passes_plan`: every default passes its own check;
* `Item.IsPlain.plan_error`: a setting fails as its getter does, not in what it does afterwards;
* **`Settings.hasGrounds_of_read`**: the errors of all settings have grounds.
-/

namespace VpnGateway

open Reading Setting

variable {map : String → Option String} {key value raw : String} {e : SettingError}

/-! ## Grounds -/

/-- The value has the fault. That the bytes are no text or that a rule gives no value of a type is a
fault of no value. -/
def FormatFault.IsOf (value : String) : FormatFault → Prop
  | notOnOff => value ≠ "on" ∧ value ≠ "off"
  | notDuration => Duration.ofText value = .error .malformed
  | durationOutOfRange => Duration.ofText value = .error .outOfRange
  | notAddress => Address.ofText? value = none
  | notNetwork => Network.ofText? value = none
  | notHostname => isHostname value = false
  | notUtf8 | otherType _ | stated _ => False

/-- The key is set, to the value or to a comma list with the value in it. -/
def IsHeld (map : String → Option String) (key value : String) : Prop :=
  ∃ raw, map key = some raw ∧ raw ≠ "" ∧ (value = raw ∨ value ∈ Text.commaTokens raw)

/-- The variables give a reason for the error. -/
def SettingError.HasGrounds (map : String → Option String) : SettingError → Prop
  | notAChoice key value choices => IsHeld map key value ∧ value ∉ choices
  | outOfRange key value min max =>
    IsHeld map key value ∧ ∀ n, Text.int64? value = some n → ¬(min ≤ n ∧ n ≤ max)
  | malformed key value fault => IsHeld map key value ∧ fault.IsOf value
  | missing key | noCredential key _ =>
    (key = Key.clientKey ∨ key = Key.clientCertificate) ∧
      map Key.vpnProvider = some VpnProvider.cyberghost.text
  | conflict deprecated replacement =>
    deprecated = Key.blockNsa ∧ replacement = Key.blockSurveillance ∧ ∃ former current,
      map deprecated = some former ∧ former ≠ "" ∧ map replacement = some current ∧
        current ≠ "" ∧ current ≠ former

theorem IsHeld.whole (h : map key = some raw) (hne : raw ≠ "") : IsHeld map key raw :=
  ⟨raw, h, hne, .inl rfl⟩

theorem IsHeld.token (h : map key = some raw) (hne : raw ≠ "")
    (hvalue : value ∈ Text.commaTokens raw) : IsHeld map key value :=
  ⟨raw, h, hne, .inr hvalue⟩

/-! ## Errors of rules -/

section Rules

variable (h : IsHeld map key value)
include h

theorem hasGrounds_readOnOff (he : readOnOff key value = .error e) : e.HasGrounds map := by
  obtain ⟨hvalue, rfl⟩ := readOnOff_eq_error.1 he
  exact ⟨h, hvalue⟩

theorem hasGrounds_readRange {min max : Int64} (he : readRange key min max value = .error e) :
    e.HasGrounds map := by
  obtain ⟨hvalue, rfl⟩ := readRange_eq_error.1 he
  exact ⟨h, hvalue⟩

theorem hasGrounds_readChoice {choices : List String} (he : readChoice key choices value = .error e) :
    e.HasGrounds map := by
  obtain ⟨hvalue, rfl⟩ := readChoice_eq_error.1 he
  exact ⟨h, hvalue⟩

theorem hasGrounds_readDuration (he : readDuration key value = .error (.error e)) :
    e.HasGrounds map := by
  rcases readDuration_eq_error.1 he with ⟨hvalue, rfl⟩ | ⟨hvalue, rfl⟩
  · exact ⟨h, hvalue⟩
  · exact ⟨h, hvalue⟩

theorem hasGrounds_readAddress (he : readAddress key value = .error e) : e.HasGrounds map := by
  obtain ⟨hvalue, rfl⟩ := readAddress_eq_error.1 he
  exact ⟨h, hvalue⟩

end Rules

/-- The rule is about comma lists. -/
def Rule.GivesList : Rule → Prop
  | choiceList _ | networks | hostnames => True
  | _ => False

theorem Rule.GivesList.exists_rule {rule : Rule} (h : rule.GivesList) :
    ∃ R : ListRule, R.rule = rule := by
  cases rule with
  | choiceList choices => exact ⟨.choices choices, rfl⟩
  | networks => exact ⟨.networks, rfl⟩
  | hostnames => exact ⟨.hostnames, rfl⟩
  | range _ _ | choice _ | onOff | duration | address | credential _ => exact h.elim

/-- A token that is not accepted has the fault that its error is about. -/
theorem ListRule.hasGrounds_refusal {R : ListRule} (h : IsHeld map key value)
    (hnot : ¬ R.Accepts value) : (R.refusal key value).HasGrounds map := by
  cases R with
  | choices cs => exact ⟨h, hnot⟩
  | networks => exact ⟨h, Option.not_isSome_iff_eq_none.1 hnot⟩
  | hostnames => exact ⟨h, Bool.eq_false_iff.2 hnot⟩

/-- What a rule about comma lists makes of a text is a list, or it is an error with grounds. -/
theorem Rule.GivesList.apply_cases {rule : Rule} (h : rule.GivesList) (hmap : map key = some raw)
    (hne : raw ≠ "") : (∃ l, rule.apply key raw = .ok (.list l)) ∨
      ∃ e, rule.apply key raw = .error (.error e) ∧ e.HasGrounds map := by
  obtain ⟨R, rfl⟩ := h.exists_rule
  cases happly : R.rule.apply key raw with
  | ok v =>
    obtain ⟨-, rfl⟩ := ListRule.apply_eq_ok_iff.1 happly
    exact .inl ⟨_, rfl⟩
  | error f =>
    obtain ⟨front, t, back, htokens, -, hnot, rfl⟩ := ListRule.apply_eq_error_iff.1 happly
    have hmem : t ∈ Text.commaTokens raw := by
      rw [htokens]
      exact List.mem_append_right front List.mem_cons_self
    exact .inr ⟨_, rfl, ListRule.hasGrounds_refusal (.token hmap hne hmem) hnot⟩

/-! ## Errors of getters -/

namespace Getter

variable {α : Type} {policy : Policy}

/-- The getter gives lists under rules about lists only. -/
def Sound : Getter α → Prop
  | list rule => rule.GivesList
  | _ => True

/-- **The errors that a getter makes of a text have grounds.** -/
theorem hasGrounds_of_value {g : Getter α} (hg : g.Sound) (hmap : map key = some raw)
    (hne : raw ≠ "") (he : g.value key raw = .error (.error e)) : e.HasGrounds map := by
  have hheld : IsHeld map key raw := .whole hmap hne
  cases g with
  | text => cases he
  | onOff => exact hasGrounds_readOnOff hheld (eq_error_of_verdict he)
  | integer min max => exact hasGrounds_readRange hheld (eq_error_of_verdict he)
  | choice choices => exact hasGrounds_readChoice hheld (eq_error_of_verdict he)
  | duration => exact hasGrounds_readDuration hheld he
  | address => exact hasGrounds_readAddress hheld (eq_error_of_verdict he)
  | list rule =>
    rw [value, if_neg hne] at he
    rcases Rule.GivesList.apply_cases hg hmap hne with ⟨l, hl⟩ | ⟨d, hd, hgrounds⟩
    · rw [hl] at he
      cases he
    · rw [hd] at he
      cases he
      exact hgrounds

/-- If what stands for a key that is not set passes, errors are about what it is set to. -/
theorem hasGrounds_of_result {g : Getter α} (hg : g.Sound)
    (hpasses : (g.result key policy .unset).isOk = true) {earlier : List String}
    (he : g.result key policy (Source.ofMap map earlier key) = .error (.error e)) :
    e.HasGrounds map := by
  rcases (Source.ofMap map earlier key).cases with
    ⟨lossy, hlossy⟩ | hvacant | ⟨raw, htext, hne⟩
  · exact absurd hlossy Source.ofMap_ne_notUtf8
  · have hunset : g.result key policy (Source.ofMap map earlier key) =
        g.result key policy .unset := by
      rw [result, result, found_vacant hvacant]
      rfl
    rw [hunset] at he
    rw [he] at hpasses
    cases hpasses
  · rw [htext, result, found_given hne] at he
    exact hasGrounds_of_value hg (Source.ofMap_eq_text_iff.1 htext) hne he

end Getter

/-! ## Plans of settings -/

/-- How the text of a setting is read, and what stands for it if it is not set. -/
structure Plan : Type 1 where
  {α : Type}
  getter : Getter α
  policy : Policy

namespace Setting.Item

/-- The plan of a setting; a credential has one for the variable that may hold it. -/
def plan : Item → Plan
  | vpnProvider => ⟨.choice VpnProvider.choices, .withDefault Default.vpnProvider⟩
  | dnsOverTls => ⟨.onOff, .withDefault Default.dnsOverTls⟩
  | dotProviders => ⟨.list (.choiceList Resolver.names), .withDefault Default.dotProviders⟩
  | dotVerbosity => ⟨.integer (wide 0) (wide 5), .withDefault Default.dotVerbosity⟩
  | dotVerbosityDetails => ⟨.integer (wide 0) (wide 4), .withDefault Default.dotVerbosityDetails⟩
  | dotValidationLogLevel =>
    ⟨.integer (wide 0) (wide 2), .withDefault Default.dotValidationLogLevel⟩
  | blockMalicious => ⟨.onOff, .withDefault Default.blockMalicious⟩
  | blockSurveillance => ⟨.onOff, .withDefault Default.blockSurveillance⟩
  | blockAds => ⟨.onOff, .withDefault Default.blockAds⟩
  | unblockedHostnames => ⟨.list .hostnames, .optional⟩
  | dotCaching => ⟨.onOff, .withDefault Default.dotCaching⟩
  | dotPrivateAddresses => ⟨.list .networks, .optional⟩
  | dotIpv6 => ⟨.onOff, .withDefault Default.dotIpv6⟩
  | dnsUpdatePeriod => ⟨.duration, .withDefault Default.dnsUpdatePeriod⟩
  | dnsPlaintextAddress => ⟨.address, .withDefault Default.dnsPlaintextAddress⟩
  | dnsKeepNameserver => ⟨.onOff, .withDefault Default.dnsKeepNameserver⟩
  | cyberghostGroup => ⟨.choice Cyberghost.groups, .withDefault Default.cyberghostGroup⟩
  | cyberghostRegions => ⟨.list (.choiceList Cyberghost.regions), .optional⟩
  | clientKey | clientCertificate => ⟨.text, .optional⟩

theorem sound_plan (item : Item) : item.plan.getter.Sound := by
  cases item <;> trivial

/-- **What stands for a setting that is not set passes the check of the setting.** -/
theorem passes_plan (item : Item) :
    (item.plan.getter.result item.key item.plan.policy .unset).isOk = true := by
  cases item <;> decide +kernel

end Setting.Item

/-- A byte fails as the integer does: an integer within the bounds has eight bits. -/
theorem Reading.integer_of_byte {s : Surroundings} {j j' : Journal} {min max : UInt8}
    {policy : Policy} {f : Failure} (h : byte key min max policy s j = (.error f, j')) :
    integer key (wide min) (wide max) policy s j = (.error f, j') := by
  rw [byte_eq] at h
  obtain ⟨hresult, hjournal⟩ := Prod.mk.inj h
  exact Prod.ext (except_map_eq_error.1 hresult) hjournal

/-- The provider fails as its choice does: every choice is a provider. -/
theorem Setting.choice_of_vpnProvider {s : Surroundings} {j j' : Journal} {f : Failure}
    (h : Setting.vpnProvider s j = (.error f, j')) :
    Reading.choice Key.vpnProvider VpnProvider.choices (.withDefault Default.vpnProvider) s j =
      (.error f, j') := by
  rcases bind_eq_error.1 h with h | ⟨name, j₁, hname, h⟩
  · exact h
  · obtain ⟨provider, -, rfl⟩ := List.mem_map.1 (ensures_choice s j name j₁ hname)
    rcases bind_eq_error.1 h with h | ⟨_, j₂, -, h⟩
    · cases h
    · rw [VpnProvider.ofText?_text] at h
      cases h

namespace Setting

variable {s : Surroundings} {j j' : Journal}

/-- **A setting with one key fails as its getter does**, and not in what it does afterwards. -/
theorem Item.IsPlain.plan_error {item : Item} (h : item.IsPlain) {f : Failure}
    (hr : item.read s j = (.error f, j')) :
    item.plan.getter.read item.key item.plan.policy s j = (.error f, j') := by
  cases item with
  | vpnProvider => exact choice_of_vpnProvider hr
  | dotVerbosity | dotVerbosityDetails | dotValidationLogLevel => exact integer_of_byte hr
  | blockSurveillance => exact absurd rfl h.1
  | clientKey => exact absurd rfl h.2.1
  | clientCertificate => exact absurd rfl h.2.2
  | _ => exact hr

/-! ## Errors of settings -/

theorem Item.IsPlain.hasGrounds {item : Item} (h : item.IsPlain) (hs : s.source = .ofMap map)
    (hr : item.read s j = (.error (.error e), j')) : e.HasGrounds map := by
  have hresult := item.plan.getter.read_fst item.key item.plan.policy s j
  rw [h.plan_error hr, hs] at hresult
  exact Getter.hasGrounds_of_result item.sound_plan item.passes_plan hresult.symm

/-- The errors of the setting that was renamed have grounds, under whichever key. -/
theorem hasGrounds_blockSurveillance (hs : s.source = .ofMap map)
    (hr : Setting.blockSurveillance s j = (.error (.error e), j')) : e.HasGrounds map := by
  have hanswer (earlier : List String) (key : String) :
      s.answer j.lookups earlier key = Source.ofMap map (j.lookups ++ earlier) key := by
    rw [Surroundings.answer, hs]
  obtain ⟨keys, r, hcourse⟩ :=
    Alias.exists_course surveillanceAlias Getter.onOff (s.answer j.lookups)
  have hresult := hcourse.runs_renamed.result
  have hrun : renamed surveillanceAlias Getter.onOff.read s j = (.error (.error e), j') := hr
  rw [hrun] at hresult
  cases hcourse with
  | formerNotUtf8 h | lastNotUtf8 _ _ _ h | currentNotUtf8 _ _ h =>
    rw [hanswer] at h
    exact absurd h Source.ofMap_ne_notUtf8
  | canonical h =>
    have hvalue := eq_error_of_map (eq_error_of_map hresult.symm)
    rw [hanswer] at hvalue
    exact Getter.hasGrounds_of_result (Item.sound_plan .blockSurveillance)
      (Item.passes_plan .blockSurveillance) hvalue
  | conflict h hformer h' hcurrent hne =>
    cases hresult
    rw [hanswer, Source.ofMap_eq_text_iff] at h h'
    exact ⟨rfl, rfl, _, _, h, hformer, h', hcurrent, hne⟩
  | lastVacant h hformer _ hlast =>
    rw [hanswer, Source.ofMap_eq_text_iff] at h
    rw [hanswer, Source.isVacant_ofMap_iff] at hlast
    exact absurd (hlast _ h) hformer
  | deprecated h hformer _ h' hlast =>
    rw [hanswer, Source.ofMap_eq_text_iff] at h'
    have hvalue := eq_error_of_map (eq_error_of_map hresult.symm)
    exact Getter.hasGrounds_of_value (Item.sound_plan .blockSurveillance) h' hlast hvalue

/-- With the variables of a map, the bytes of a credential are found or they are missing. -/
theorem eq_missing_of_credentialBytes {fallback : String} {f : Failure} (hs : s.source = .ofMap map)
    (hr : credentialBytes key (some fallback) s j = (.error f, j')) : f = .error (.missing key) := by
  have hlookup {key : String} {j j' : Journal} {f : Failure} :
      lookup key s j ≠ (.error f, j') := by
    have hyields : Yields (lookup key) s (map key) := yields_lookup hs
    obtain ⟨j₁, hok, -⟩ := hyields j
    rw [hok]
    nofun
  cases (credentialBytes_run key fallback s j).elim hr with
  | missing => rfl
  | noPath hpath =>
    rcases bind_eq_error.1 hpath with h | ⟨found, j₁, -, h⟩
    · exact absurd h hlookup
    · cases hfound : found.filter (· ≠ "") <;> rw [hfound] at h <;> cases h
  | unreadable _ _ hraw =>
    rcases bind_eq_error.1 hraw with h | ⟨found, j₁, -, h⟩
    · exact absurd h hlookup
    · unfold resolve at h
      cases hfound : found.filter (· ≠ "") <;> rw [hfound] at h <;> cases h

theorem hasGrounds_credential {fallback : String} {kind : CredentialKind} (hs : s.source = .ofMap map)
    (hkey : key = Key.clientKey ∨ key = Key.clientCertificate)
    (hprovider : map Key.vpnProvider = some VpnProvider.cyberghost.text)
    (hr : credential key kind fallback s j = (.error (.error e), j')) : e.HasGrounds map := by
  rcases bind_eq_error.1 hr with hr | ⟨⟨bytes, origin⟩, j₁, -, hr⟩
  · have hmissing := eq_missing_of_credentialBytes hs hr
    cases hmissing
    exact ⟨hkey, hprovider⟩
  · obtain ⟨_, -, rfl⟩ :=
      readCredential_eq_error.1 (eq_error_of_verdict (congrArg Prod.fst hr))
    exact ⟨hkey, hprovider⟩

/-- The errors of a setting have grounds; for the settings of Cyberghost, if it is the provider. -/
theorem Item.hasGrounds {item : Item} (hs : s.source = .ofMap map)
    (hprovider : item = .clientKey ∨ item = .clientCertificate →
      map Key.vpnProvider = some VpnProvider.cyberghost.text)
    (hr : item.read s j = (.error (.error e), j')) : e.HasGrounds map := by
  cases item with
  | blockSurveillance => exact hasGrounds_blockSurveillance hs hr
  | clientKey => exact hasGrounds_credential hs (.inl rfl) (hprovider (.inl rfl)) hr
  | clientCertificate => exact hasGrounds_credential hs (.inr rfl) (hprovider (.inr rfl)) hr
  | _ => exact IsPlain.hasGrounds (by decide) hs hr

end Setting

/-- A text that does not stand for the setting is the one that it is set to. -/
theorem Answer.eq_text_of_textOr {answer : Answer} {default text : String}
    (h : answer.textOr default = text) (hne : text ≠ default) : answer = .text text := by
  rcases answer.cases with ⟨lossy, rfl⟩ | hvacant | ⟨given, rfl, hgiven⟩
  · exact absurd h.symm hne
  · rw [textOr, hvacant.given?_eq] at h
    exact absurd h.symm hne
  · rw [textOr, given?_text hgiven] at h
    exact congrArg Answer.text h

/-- **Errors blame what the variables hold**: no default and no value that is made on the way. -/
theorem Settings.hasGrounds_of_read {s : Surroundings} {j j' : Journal}
    (h : Settings.read (s.withMap map) j = (.error (.error e), j')) : e.HasGrounds map := by
  obtain ⟨done, rest, hitems, hprogress, -⟩ := Settings.exists_progress (s.withMap map) j
  obtain ⟨before, last, j₁, rfl, -, hlast⟩ := hprogress.failed _ (congrArg Prod.fst h)
  have hmem : last ∈ Settings.items (s.withMap map) j.lookups := by
    rw [hitems]
    simp
  have hread : last.read (s.withMap map) j₁ =
      (.error (.error e), (Settings.read (s.withMap map) j).2) := by
    rw [Item.attempt_eq] at hlast
    rcases bind_eq_error.1 hlast with hread | ⟨_, _, -, hpure⟩
    · exact hread
    · cases hpure
  refine Item.hasGrounds rfl (fun hcredential => ?_) hread
  have hprovider : (Source.ofMap map j.lookups Key.vpnProvider).textOr Default.vpnProvider =
      VpnProvider.cyberghost.text := by
    by_contra hother
    obtain ⟨hkey, hcertificate⟩ := Item.ne_credential_of_mem_items hother last hmem
    exact hcredential.elim hkey hcertificate
  exact Source.ofMap_eq_text_iff.1 (Answer.eq_text_of_textOr hprovider (by decide))

/-- A list of resolvers of which the second one is not known. -/
def unknownResolverMap (key : String) : Option String :=
  [(Key.dotProviders, "cloudflare,nobody"), (Key.dotVerbosity, "9")].lookup key

/-- The unknown resolver is to blame, and not the verbosity that comes after it. -/
theorem Settings.hasGrounds_of_read_unknownResolver :
    let s : Surroundings := { source := .ofMap fun _ => none, files := fun _ => .absent }
    let e : SettingError := .notAChoice Key.dotProviders "nobody" Resolver.names
    (Settings.read (s.withMap unknownResolverMap) {}).1 = .error (.error e) ∧
      IsHeld unknownResolverMap Key.dotProviders "nobody" ∧ "nobody" ∉ Resolver.names := by
  intro s e
  have hr : (Settings.read (s.withMap unknownResolverMap) {}).1 = .error (.error e) := by
    decide +kernel
  exact ⟨hr, Settings.hasGrounds_of_read (run_eq hr)⟩

end VpnGateway
