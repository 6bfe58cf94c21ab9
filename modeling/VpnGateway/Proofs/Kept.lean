import VpnGateway.Proofs.Groups
import VpnGateway.Proofs.Order

/-!
# What groups of settings keep

A property of readings that sequences keep holds of a group of settings if it holds of each setting,
and most settings are alike: they have one key, and their errors name it.

* `Reading.Kept`: a property that sequences keep and that settings with one key have;
* `DnsSettings.kept_read`, **`Settings.kept_read`**: then groups have it if their other settings do;
* `Reading.Built`, `Built.credentialBytes`, `Built.resolve`: a property that the steps have, from which
  credentials and renamed settings are put together;
* `Reading.Quiet`, `Item.quiet_attempt`: the readings that give no warning.
-/

namespace VpnGateway

open Reading Setting

/-- A property of readings that sequences keep, and that the settings with one key have, each of
which takes the text of that key. -/
structure Reading.Kept (P : ∀ {α : Type}, Reading α → Prop) : Prop where
  pure : ∀ {α : Type} (a : α), P (Pure.pure a : Reading α)
  bind : ∀ {α β : Type} {m : Reading α} {f : α → Reading β}, P m → (∀ a, P (f a)) → P (m >>= f)
  plain : ∀ {α : Type} {m : Reading α} (item : Item), OfText item.key m →
    Blames m [item.key] → item.IsPlain → P m

variable {P : ∀ {α : Type}, Reading α → Prop}

theorem DnsOverTlsSettings.kept_read (h : Kept P) (hsurveillance : P Setting.blockSurveillance) :
    P DnsOverTlsSettings.read := by
  refine h.bind (h.plain .dotProviders ofText_list blames_list (by decide)) fun _ => ?_
  refine h.bind (h.plain .dotVerbosity ofText_byte blames_byte (by decide)) fun _ => ?_
  refine h.bind (h.plain .dotVerbosityDetails ofText_byte blames_byte (by decide)) fun _ => ?_
  refine h.bind (h.plain .dotValidationLogLevel ofText_byte blames_byte (by decide)) fun _ => ?_
  refine h.bind (h.plain .blockMalicious ofText_typed blames_typed (by decide)) fun _ => ?_
  refine h.bind hsurveillance fun _ => ?_
  refine h.bind (h.plain .blockAds ofText_typed blames_typed (by decide)) fun _ => ?_
  refine h.bind (h.plain .unblockedHostnames ofText_list blames_list (by decide)) fun _ => ?_
  refine h.bind (h.plain .dotCaching ofText_typed blames_typed (by decide)) fun _ => ?_
  refine h.bind (h.plain .dotPrivateAddresses ofText_list blames_list (by decide)) fun _ => ?_
  refine h.bind (h.plain .dotIpv6 ofText_typed blames_typed (by decide)) fun _ => ?_
  exact h.bind (h.plain .dnsUpdatePeriod ofText_typed blames_typed (by decide)) fun _ => h.pure _

theorem DnsSettings.kept_read (h : Kept P) (hsurveillance : P Setting.blockSurveillance) :
    P DnsSettings.read := by
  refine h.bind (h.bind (h.plain .dnsOverTls ofText_typed blames_typed (by decide)) fun on => ?_)
    fun _ => ?_
  · split
    · exact h.bind (DnsOverTlsSettings.kept_read h hsurveillance) fun _ => h.pure _
    · exact h.bind (h.plain .dnsPlaintextAddress ofText_typed blames_typed (by decide))
        fun _ => h.pure _
  · exact h.bind (h.plain .dnsKeepNameserver ofText_typed blames_typed (by decide)) fun _ => h.pure _

theorem CyberghostSettings.kept_read (h : Kept P) (hkey : P Setting.clientKey)
    (hcertificate : P Setting.clientCertificate) : P CyberghostSettings.read := by
  refine h.bind (h.plain .cyberghostGroup ofText_typed blames_typed (by decide)) fun _ => ?_
  refine h.bind (h.plain .cyberghostRegions ofText_list blames_list (by decide)) fun _ => ?_
  exact h.bind hkey fun _ => h.bind hcertificate fun _ => h.pure _

/-- **What sequences keep holds of all settings if it holds of those with more than one key.** -/
theorem Settings.kept_read (h : Kept P) (hsurveillance : P Setting.blockSurveillance)
    (hkey : P Setting.clientKey) (hcertificate : P Setting.clientCertificate) :
    P Settings.read := by
  refine h.bind (h.plain .vpnProvider ofText_vpnProvider blames_vpnProvider (by decide))
    fun provider => h.bind (DnsSettings.kept_read h hsurveillance) fun dns => ?_
  split
  · exact h.bind (CyberghostSettings.kept_read h hkey hcertificate) fun _ => h.pure _
  · exact h.pure _

/-! ## Properties that steps have -/

/-- A property of readings that sequences keep, and that their steps have: those that take the text of
a key, find a secret file or open a file, and those that depend on nothing. Of the keys, `K` holds. That
a warning is given is not among the steps. -/
structure Reading.Built (K : String → Prop) (P : ∀ {α : Type}, Reading α → Prop) : Prop where
  own : ∀ item : Item, K item.key
  former : K Key.blockNsa
  noKey : ∀ {α : Type} {m : Reading α}, NoKey m → P m
  bind : ∀ {α β : Type} {m : Reading α} {f : α → Reading β}, P m → (∀ a, P (f a)) → P (m >>= f)
  text : ∀ {key : String} (policy : Policy), K key → P (rawWithOrigin key policy)
  secretFilePath : ∀ {key : String}, K key → P (secretFilePath key)
  nonEmptyFile : ∀ path, P (nonEmptyFile path)
  clientKeyFile : ∀ {α : Type} {f : String → Reading α}, (∀ path, P (f path)) →
    P (surroundings >>= fun s => f s.clientKeyFile)
  clientCertificateFile : ∀ {α : Type} {f : String → Reading α}, (∀ path, P (f path)) →
    P (surroundings >>= fun s => f s.clientCertificateFile)

namespace Reading.Built

variable {K : String → Prop} {P : ∀ {α : Type}, Reading α → Prop} (h : Built K P) {α : Type}
  {key : String} {a : Alias} {read : String → Policy → Reading α}
include h

theorem ofText {m : Reading α} (hkey : K key) (hm : OfText key m) : P m := by
  obtain ⟨policy, f, rfl, hf⟩ := hm
  exact h.bind (h.text policy hkey) fun v => h.noKey (hf v)

theorem kept : Kept P where
  pure a := h.noKey (.pure a)
  bind := h.bind
  plain item hm _ _ := h.ofText (h.own item) hm

theorem credentialBytes (hkey : K key) (fallback : Option String) :
    P (credentialBytes key fallback) := by
  refine h.bind (h.secretFilePath hkey) fun path => h.bind (h.nonEmptyFile path) fun found => ?_
  split
  · exact h.noKey (.bind (.note _ _ _) fun _ => .pure _)
  · refine h.bind (h.text _ hkey) fun (value, origin) => ?_
    dsimp only
    split
    · exact h.noKey (.pure _)
    · split
      · exact h.noKey (.fail _)
      · refine h.bind (h.nonEmptyFile _) fun found => ?_
        split
        · exact h.noKey (.bind (.note _ _ _) fun _ => .pure _)
        · exact h.noKey (.fail _)

theorem credential (hkey : K key) (kind : CredentialKind) (fallback : String) :
    P (credential key kind fallback) :=
  h.bind (h.credentialBytes hkey _) fun _ => h.noKey (.liftExcept _)

theorem clientKey : P Setting.clientKey :=
  h.clientKeyFile fun path => h.credential (h.own .clientKey) .privateKey path

theorem clientCertificate : P Setting.clientCertificate :=
  h.clientCertificateFile fun path => h.credential (h.own .clientCertificate) .certificate path

theorem detect (hformer : K a.deprecated) (hnew : K a.replacement) : P a.detect := by
  refine h.bind (h.ofText hformer ofText_raw) fun former => ?_
  split
  · exact h.noKey (.pure _)
  · refine h.bind (h.ofText hnew ofText_raw) fun current => ?_
    split
    · exact h.noKey (.fail _)
    · exact h.noKey (.pure _)

theorem resolve (hformer : K a.deprecated) (hnew : K a.replacement)
    (hread : ∀ key policy, OfText key (read key policy)) : P (a.resolve read) := by
  refine h.bind (h.detect hformer hnew) fun state => h.bind (h.noKey (.note _ _ _)) fun _ => ?_
  cases state with
  | deprecatedPresent => exact h.bind (h.ofText hformer (hread _ _)) fun _ => h.noKey (.pure _)
  | canonicalOnly => exact h.bind (h.ofText hnew (hread _ _)) fun _ => h.noKey (.pure _)

theorem renamed (hwarn : ∀ d, P (warn d)) (hformer : K a.deprecated) (hnew : K a.replacement)
    (hread : ∀ key policy, OfText key (read key policy)) : P (renamed a read) := by
  refine h.bind (h.resolve hformer hnew hread) fun resolved => ?_
  split
  · exact h.bind (hwarn _) fun _ => h.noKey (.pure _)
  · exact h.noKey (.pure _)

theorem blockSurveillance (hwarn : ∀ d, P (warn d)) : P Setting.blockSurveillance :=
  h.renamed hwarn h.former (h.own .blockSurveillance) fun _ _ => ofText_typed

theorem item (hwarn : ∀ d, P (warn d)) (item : Item) : P item.read := by
  cases item with
  | blockSurveillance => exact h.blockSurveillance hwarn
  | clientKey => exact h.clientKey
  | clientCertificate => exact h.clientCertificate
  | _ => exact h.ofText (h.own _) (Item.IsPlain.ofText (by decide))

end Reading.Built

/-! ## Readings that give no warning -/

/-- In these surroundings the reading gives no warning. -/
def Reading.Quiet (s : Surroundings) {α : Type} (m : Reading α) : Prop :=
  ∀ j, (m s j).2.warnings = j.warnings

namespace Reading

variable {s : Surroundings} {α β : Type} {m : Reading α} {f : α → Reading β} {key path : String}

theorem NoKey.quiet (hm : NoKey m) : Quiet s m := by
  obtain ⟨r, lines, hm⟩ := hm
  intro j
  rw [hm]
  rfl

theorem OneKey.quiet (hm : OneKey key m) : Quiet s m :=
  hm.warnings_eq s

theorem Quiet.bind (hm : Quiet s m) (hf : ∀ a, Quiet s (f a)) : Quiet s (m >>= f) := by
  intro j
  have hwarnings := hm j
  cases h : m s j with
  | mk r j₁ =>
    rw [h] at hwarnings
    cases r with
    | error e => rw [bind_of_error h, hwarnings]
    | ok a => rw [bind_of_ok h, hf a, hwarnings]

theorem Quiet.attempt (hm : Quiet s m) : Quiet s m.attempt :=
  hm.bind fun _ => (NoKey.pure _).quiet

theorem quiet_surroundings : Quiet s surroundings := fun _ => rfl

theorem quiet_nonEmptyFile : Quiet s (nonEmptyFile path) := by
  intro j
  rw [nonEmptyFile_eq]
  split <;> rfl

theorem quiet_secretFilePath : Quiet s (secretFilePath key) := by
  refine .bind oneKey_lookup.quiet fun found => ?_
  split
  · exact (NoKey.pure _).quiet
  · exact .bind quiet_surroundings fun _ => (NoKey.pure _).quiet

theorem built_quiet (s : Surroundings) : Built (fun _ => True) (Quiet s) where
  own _ := trivial
  former := trivial
  noKey := NoKey.quiet
  bind := Quiet.bind
  text _ _ := oneKey_rawWithOrigin.quiet
  secretFilePath _ := quiet_secretFilePath
  nonEmptyFile _ := quiet_nonEmptyFile
  clientKeyFile hf := quiet_surroundings.bind fun s => hf s.clientKeyFile
  clientCertificateFile hf := quiet_surroundings.bind fun s => hf s.clientCertificateFile

end Reading

namespace Setting

variable {s : Surroundings}

/-- Only the setting that was renamed gives a warning. -/
theorem Item.quiet_attempt {item : Item} (h : item ≠ .blockSurveillance) :
    Quiet s item.attempt := by
  cases item with
  | blockSurveillance => exact absurd rfl h
  | clientKey => exact (built_quiet s).clientKey.attempt
  | clientCertificate => exact (built_quiet s).clientCertificate.attempt
  | _ => exact (IsPlain.oneKey (by decide)).quiet

theorem Item.quiet_attemptAll {items : List Item} (h : .blockSurveillance ∉ items) :
    Quiet s (attemptAll items) := by
  induction items with
  | nil => exact (NoKey.pure _).quiet
  | cons item items ih =>
    rw [List.mem_cons, not_or] at h
    exact .bind (quiet_attempt (Ne.symm h.1)) fun _ => ih h.2

end Setting

end VpnGateway
