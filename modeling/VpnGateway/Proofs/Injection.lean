import VpnGateway.Proofs.Controls
import VpnGateway.Proofs.DurationWords
import VpnGateway.Proofs.Grounds
import VpnGateway.Proofs.Session
import VpnGateway.Proofs.WellFormed
import VpnGateway.Settings.Report

/-!
# What is said of settings stays on its line

Whoever chooses the variables and the files does not choose what the log looks like: no text of
theirs ends a line or begins an escape sequence in the message of an error, in a warning, or in the
report about settings.

* `Getter.refuses_read`, `Item.refuses_read`: the errors of getters and of settings;
* `Reading.Warns`, `Settings.warns_read`: the new warnings;
* `Settings.noControls_report`: the report about well-formed settings;
* **`Settings.noControls_of_read`**: whatever is found, nothing that is said has a control character.
-/

namespace VpnGateway

open Reading Setting Text

/-- The message of an error has no control character. -/
def SettingError.IsOneLine (e : SettingError) : Prop :=
  NoControls e.message

variable {key : String} {α : Type}

/-! ## Errors of readings -/

namespace Reading

theorem noControls_found {policy : Policy} {answer : Answer} {e : SettingError}
    (hkey : NoControls key) (h : found key policy answer = .error e) : e.IsOneLine := by
  rcases answer.cases with ⟨lossy, rfl⟩ | hvacant | ⟨value, rfl, hvalue⟩
  · cases h
    exact noControls_malformed hkey (by decide)
  · rw [found_vacant hvacant] at h
    cases policy with
    | compulsory =>
      cases h
      exact noControls_missing hkey
    | optional | withDefault value => cases h
  · rw [found_given hvalue] at h
    cases h

end Reading

namespace Getter

/-- The choices that the messages of a getter list. -/
def choices : Getter α → List String
  | choice choices => choices
  | list rule => rule.choices
  | _ => []

variable {g : Getter α} (hkey : NoControls key) (hchoices : ∀ c ∈ g.choices, NoControls c)
include hkey hchoices

theorem noControls_of_value {raw : String} {e : SettingError}
    (h : g.value key raw = .error (.error e)) : e.IsOneLine := by
  cases g with
  | text => cases h
  | onOff => exact noControls_readOnOff hkey (eq_error_of_verdict h)
  | integer min max => exact noControls_readRange hkey (eq_error_of_verdict h)
  | choice choices => exact noControls_readChoice hkey hchoices (eq_error_of_verdict h)
  | duration => exact noControls_readDuration hkey h
  | address => exact noControls_readAddress hkey (eq_error_of_verdict h)
  | list rule =>
    rw [value] at h
    split at h
    · cases h
    · rcases except_bind_eq_error.1 h with h | ⟨v, -, h⟩
      · exact Rule.noControls_of_apply hkey hchoices h
      · split at h <;> cases h
        exact noControls_malformed hkey (.append (Rule.noControls_outline rule) (by decide))

theorem refuses_read (policy : Policy) : Refuses (g.read key policy) SettingError.IsOneLine := by
  intro s j e j' h
  have hresult := g.read_fst key policy s j
  rw [h, result] at hresult
  split at hresult
  · exact noControls_of_value hkey hchoices hresult.symm
  · next hfound =>
    cases hresult
    exact noControls_found hkey hfound

end Getter

namespace Reading

theorem refuses_renamed {a : Alias} {g : Getter α} (hformer : NoControls a.deprecated)
    (hnew : NoControls a.replacement) (hchoices : ∀ c ∈ g.choices, NoControls c) :
    Refuses (renamed a g.read) SettingError.IsOneLine := by
  have hraw {key : String} (hkey : NoControls key) (policy : Policy) :
      Refuses (raw key policy) SettingError.IsOneLine :=
    Getter.refuses_read (g := .text) hkey (fun c hc => absurd hc List.not_mem_nil) policy
  have hdetect : Refuses a.detect SettingError.IsOneLine := by
    refine .bind (hraw hformer _) fun former => ?_
    split
    · exact .pure _
    · refine .bind (hraw hnew _) fun current => ?_
      split
      · exact .fail (noControls_conflict hnew hformer)
      · exact .pure _
  refine .bind (.bind hdetect fun state => .bind (.note _ _ _) fun _ => ?_) fun resolved => ?_
  · cases state with
    | deprecatedPresent => exact .bind (Getter.refuses_read hformer hchoices _) fun _ => .pure _
    | canonicalOnly => exact .bind (Getter.refuses_read hnew hchoices _) fun _ => .pure _
  · split
    · exact .bind (.warn _) fun _ => .pure _
    · exact .pure _

theorem refuses_credential (hkey : NoControls key) (kind : CredentialKind) (fallback : String) :
    Refuses (credential key kind fallback) SettingError.IsOneLine := by
  refine .bind (fun s j e j' h => ?_) fun (bytes, _) => .liftExcept fun e h => ?_
  · cases (credentialBytes_run key fallback s j).elim h with
    | noPath => exact noControls_malformed (.append hkey (by decide)) (by decide)
    | unreadable => exact noControls_malformed hkey (by decide)
    | missing => exact noControls_missing hkey
  · exact noControls_readCredential hkey (eq_error_of_verdict h)

end Reading

namespace Setting.Item

theorem noControls_key (item : Item) : NoControls item.key := by
  cases item <;> decide

theorem noControls_plan (item : Item) : ∀ c ∈ item.plan.getter.choices, NoControls c := by
  cases item <;> decide +kernel

theorem refuses_read (item : Item) : Refuses item.read SettingError.IsOneLine := by
  cases item with
  | blockSurveillance =>
    exact refuses_renamed (by decide) (by decide) (noControls_plan .blockSurveillance)
  | clientKey => exact .bind .surroundings fun _ => refuses_credential (by decide) _ _
  | clientCertificate => exact .bind .surroundings fun _ => refuses_credential (by decide) _ _
  | _ =>
    exact fun s j e j' h =>
      Getter.refuses_read (noControls_key _) (noControls_plan _) _ s j e j'
        (IsPlain.plan_error (by decide) h)

theorem refuses_attemptAll (items : List Item) :
    Refuses (attemptAll items) SettingError.IsOneLine := by
  induction items with
  | nil => exact .pure ()
  | cons item items ih =>
    rw [attemptAll]
    refine .bind ?_ fun _ => ih
    rw [attempt_eq]
    exact .bind item.refuses_read fun _ => .pure ()

end Setting.Item

theorem Settings.refuses_read : Refuses Settings.read SettingError.IsOneLine := by
  intro s j e j' h
  have hfollows : Follows Settings.read s j (Settings.items s j.lookups) := Settings.follows_read
  have hall := hfollows.attempt_eq.symm.trans (attempt_of_error h)
  exact Item.refuses_attemptAll _ s j e j' hall

/-! ## Warnings -/

/-- Every new warning of the reading has no control character. -/
def Reading.Warns (m : Reading α) : Prop :=
  ∀ s j, ∀ d ∈ (m s j).2.warnings, d ∈ j.warnings ∨ NoControls d.message

/-- The warning about a renamed setting is fixed by its two keys. -/
theorem Resolution.eq_of_warning? {r : Resolution} {d : Deprecation} (h : r.warning? = some d) :
    d = ⟨r.renamed.deprecated, r.renamed.replacement⟩ := by
  unfold warning? at h
  split at h
  · exact (Option.some.inj h).symm
  · cases h

namespace Reading

theorem Warns.of_quiet {m : Reading α} (h : ∀ s, Quiet s m) : Warns m := by
  intro s j d hd
  rw [h s j] at hd
  exact .inl hd

theorem Warns.bind {β : Type} {m : Reading α} {f : α → Reading β} (hm : Warns m)
    (hf : ∀ a, Warns (f a)) : Warns (m >>= f) := by
  intro s j d hd
  cases h : m s j with
  | mk r j₁ =>
    have hfirst := hm s j
    rw [h] at hfirst
    cases r with
    | error e =>
      rw [bind_of_error h] at hd
      exact hfirst d hd
    | ok a =>
      rw [bind_of_ok h] at hd
      exact (hf a s j₁ d hd).elim (hfirst d) .inr

theorem warns_renamed {a : Alias} {read : String → Policy → Reading α}
    (hread : ∀ key policy, OfText key (read key policy)) (hformer : NoControls a.deprecated)
    (hnew : NoControls a.replacement) : Warns (renamed a read) := by
  intro s j d hd
  rw [warnings_renamed hread, List.mem_append, Option.mem_toList] at hd
  refine hd.imp_right fun hd => ?_
  rw [Resolution.eq_of_warning? hd]
  exact noControls_deprecation hformer hnew

theorem kept_warns : Kept @Warns where
  pure a := .of_quiet fun _ => (NoKey.pure a).quiet
  bind := Warns.bind
  plain _ hm _ _ := .of_quiet fun _ => hm.oneKey.quiet

end Reading

theorem Settings.warns_read : Warns Settings.read :=
  kept_read kept_warns (warns_renamed (fun _ _ => ofText_typed) (by decide) (by decide))
    (.of_quiet fun s => (built_quiet s).clientKey)
    (.of_quiet fun s => (built_quiet s).clientCertificate)

/-! ## The report -/

theorem noControls_commaWords {l : List String} (h : ∀ s ∈ l, NoControls s) :
    NoControls (commaWords l) :=
  .intercalate (by decide) h

namespace Duration

theorem noControls_describe (d : Duration) : NoControls d.describe := by
  rw [describe]
  split
  · decide
  · refine .intercalate (by decide) fun s hs => ?_
    obtain ⟨c, hc, rfl⟩ := List.mem_map.1 hs
    have hmem : c.2 ∈ measures := mem_of_mem_counts (List.mem_filter.1 hc).1
    have hnames : ∀ m ∈ measures, NoControls m.name ∧ NoControls m.plural := by decide
    refine .append (noControls_nat c.1) ?_
    split
    · exact (hnames c.2 hmem).2
    · exact (hnames c.2 hmem).1

end Duration

theorem DnsOverTlsSettings.noControls_lines {s : DnsOverTlsSettings} (h : s.WellFormed) :
    ∀ t ∈ s.lines, NoControls t := by
  have hnames : ∀ p ∈ Resolver.names, NoControls p := by decide +kernel
  have hproviders : NoControls (commaWords s.providers) :=
    noControls_commaWords fun p hp => hnames p (Resolver.mem_names_iff.2 (h.providers p hp))
  have hunblocked : NoControls (commaWords s.unblockedHostnames) :=
    noControls_commaWords fun t ht => noControls_of_isHostname (h.unblockedHostnames t ht)
  have hprivate : NoControls (commaWords s.privateAddresses) :=
    noControls_commaWords fun t ht => noControls_of_network (h.privateAddresses t ht)
  have hverbosity : NoControls ("  Verbosity: " ++ toString s.verbosity.toNat ++ " (details " ++
      toString s.verbosityDetails.toNat ++ ", validation " ++
      toString s.validationLogLevel.toNat ++ ")") :=
    .append (.append (.append (.append (.append (.append (by decide) (noControls_nat _))
      (by decide)) (noControls_nat _)) (by decide)) (noControls_nat _)) (by decide)
  have hperiod : NoControls (if s.updatePeriod.nanoseconds = 0 then "disabled"
      else s.updatePeriod.describe) := by
    split
    · decide
    · exact s.updatePeriod.noControls_describe
  have hflag {name : String} (hname : NoControls name) (b : Bool) : NoControls (name ++ toString b) :=
    hname.append (noControls_bool b)
  have hnone : ∀ t ∈ ([] : List String), NoControls t := fun _ ht => absurd ht List.not_mem_nil
  have hshown {l : List String} {t : String} (ht : NoControls t) :
      ∀ u ∈ (if l = [] then [] else [t]), NoControls u := by
    split
    · exact hnone
    · exact List.forall_mem_singleton.2 ht
  simp only [lines, List.forall_mem_append, List.forall_mem_cons]
  exact ⟨⟨⟨⟨⟨.append (by decide) hproviders, hverbosity, hflag (by decide) _,
    hflag (by decide) _, hflag (by decide) _, hnone⟩, hshown (.append (by decide) hunblocked)⟩,
    hflag (by decide) _, hnone⟩, hshown (.append (by decide) hprivate)⟩, hflag (by decide) _,
    .append (by decide) hperiod, hnone⟩

theorem DnsSettings.noControls_report {s : DnsSettings}
    (h : ∀ d, s.overTls? = some d → d.WellFormed) : ∀ l ∈ s.report, NoControls l.text := by
  have hresolution : ∀ t ∈ s.resolution.lines, NoControls t := by
    cases hr : s.resolution with
    | overTls d => exact DnsOverTlsSettings.noControls_lines (h d (by rw [overTls?, hr]))
    | plaintext address =>
      exact List.forall_mem_cons.2 ⟨by decide, List.forall_mem_singleton.2
        (.append (by decide) (noControls_toText address))⟩
  refine List.forall_mem_map.2 fun t ht => ?_
  rcases List.mem_append.1 ht with ht | ht
  · rcases List.mem_append.1 ht with ht | ht
    · rw [List.mem_singleton.1 ht]
      exact (by decide : NoControls "DNS Settings:")
    · exact hresolution t ht
  · rw [List.mem_singleton.1 ht]
    exact .append (by decide) (noControls_bool _)

theorem CyberghostSettings.noControls_report {s : CyberghostSettings} (h : s.WellFormed) :
    ∀ l ∈ s.report, NoControls l.text := by
  have hgroups : ∀ g ∈ Cyberghost.groups, NoControls g := by decide +kernel
  have hregions : ∀ r ∈ Cyberghost.regions, NoControls r := by decide +kernel
  have hchosen : NoControls (if s.regions = [] then "any" else commaWords s.regions) := by
    split
    · decide
    · exact noControls_commaWords fun r hr => hregions r (h.regions r hr)
  refine List.forall_mem_map.2 ?_
  simp only [List.forall_mem_cons]
  exact ⟨by decide, .append (by decide) (hgroups _ h.group), .append (by decide) hchosen, by decide,
    .append (.append (by decide) (noControls_nat _)) (by decide),
    fun _ ht => absurd ht List.not_mem_nil⟩

/-- **The report about well-formed settings holds no control character.** -/
theorem Settings.noControls_report {s : Settings} (h : s.WellFormed) :
    ∀ l ∈ s.report, NoControls l.text := by
  have hprovider : NoControls s.vpnProvider.text := by
    cases s.vpnProvider <;> decide
  have hcyberghost : ∀ l ∈ (s.cyberghost.map (·.report)).getD [], NoControls l.text := by
    cases hc : s.cyberghost with
    | none => exact fun _ hl => absurd hl List.not_mem_nil
    | some c => exact CyberghostSettings.noControls_report (h.cyberghost c hc)
  have htitle : NoControls "=== Settings ===" := by decide
  have hend : NoControls "================" := by decide
  have hnone : ∀ l ∈ ([] : List Log.Line), NoControls l.text :=
    fun _ hl => absurd hl List.not_mem_nil
  simp only [report, List.forall_mem_append, List.forall_mem_cons]
  exact ⟨⟨⟨⟨htitle, .append (by decide) hprovider, hnone⟩,
    DnsSettings.noControls_report h.overTls⟩, hcyberghost⟩, hend, hnone⟩

/-! ## All that is said -/

/-- **No text of others ends a line or begins an escape sequence** in errors, warnings or the report. -/
theorem Settings.noControls_of_read {s : Surroundings} {j j' : Journal} {r : Except Failure Settings}
    (h : Settings.read s j = (r, j')) :
    (∀ e, r = .error (.error e) → NoControls e.message) ∧
      (∀ d ∈ j'.warnings, d ∈ j.warnings ∨ NoControls d.message) ∧
      ∀ a, r = .ok a → ∀ l ∈ a.report, NoControls l.text := by
  refine ⟨fun e he => ?_, fun d hd => ?_, fun a ha => ?_⟩
  · subst he
    exact Settings.refuses_read s j e j' h
  · refine Settings.warns_read s j d ?_
    rw [h]
    exact hd
  · subst ha
    exact Settings.noControls_report (Settings.ensures_read s j a j' h)

/-- A setting under its former key, and one whose text would clear a terminal. -/
def clearingMap (key : String) : Option String :=
  [(Key.blockNsa, "on"), (Key.blockAds, "on\n\x1b[2J")].lookup key

theorem Settings.noControls_of_read_clearing :
    let s : Surroundings := { source := .ofMap clearingMap, files := fun _ => .absent }
    let e : SettingError := .malformed Key.blockAds "on\n\x1b[2J" .notOnOff
    (Settings.read s {}).1 = .error (.error e) ∧ ¬ NoControls "on\n\x1b[2J" ∧
      NoControls e.message ∧
      (Settings.read s {}).2.warnings = [⟨Key.blockNsa, Key.blockSurveillance⟩] ∧
      NoControls (Deprecation.mk Key.blockNsa Key.blockSurveillance).message := by
  intro s e
  have hr : (Settings.read s {}).1 = .error (.error e) := by decide +kernel
  have hw : (Settings.read s {}).2.warnings = [⟨Key.blockNsa, Key.blockSurveillance⟩] := by
    decide +kernel
  obtain ⟨herror, hwarning, -⟩ := Settings.noControls_of_read (run_eq hr)
  refine ⟨hr, by decide, herror e rfl, hw, ?_⟩
  refine (hwarning _ ?_).resolve_left List.not_mem_nil
  rw [hw]
  exact List.mem_singleton_self _

end VpnGateway
