import VpnGateway.Proofs.Kept

/-!
# Moving a value from the former key to the new one

A renamed setting means the same under both of its keys, to all settings as a whole.

* `SettingError.mapKey`, `Alias.newKey`: errors that name the new key in place of the former one;
* `Alias.moved`: the map in which the value stands under the new key;
* `Reading.Renames`, `Renames.bind`: readings that end alike with both maps, step by step;
* **`Settings.read_moved`**: all settings do, and different values under both keys are refused.
-/

namespace VpnGateway

open Reading Setting

/-! ## Keys of errors -/

/-- The error with another key. -/
def SettingError.mapKey (f : String → String) : SettingError → SettingError
  | missing key => missing (f key)
  | notAChoice key value choices => notAChoice (f key) value choices
  | outOfRange key value min max => outOfRange (f key) value min max
  | malformed key value fault => malformed (f key) value fault
  | noCredential key fault => noCredential (f key) fault
  | conflict deprecated replacement => conflict deprecated (f replacement)

/-- The failure with another key. -/
def Failure.mapKey (f : String → String) : Failure → Failure
  | error e => error (e.mapKey f)
  | brokenOff => brokenOff

theorem SettingError.mapKey_eq_self {f : String → String} {e : SettingError} (h : f e.key = e.key) :
    e.mapKey f = e := by
  cases e <;> simp only [mapKey, key] at h ⊢ <;> rw [h]

namespace Alias

variable (a : Alias)

/-- The new key in place of the former one. -/
def newKey (key : String) : String :=
  if key = a.deprecated then a.replacement else key

/-- The map where the former key is not set and the new one is set to a text. -/
def moved (value : String) (map : String → Option String) : String → Option String := fun key =>
  if key = a.deprecated then none
  else if key = a.replacement then some value
  else map key

variable {a}

theorem moved_of_ne {value key : String} {map : String → Option String}
    (hformer : key ≠ a.deprecated) (hnew : key ≠ a.replacement) : a.moved value map key = map key := by
  rw [moved, if_neg hformer, if_neg hnew]

end Alias

/-! ## Readings that end alike -/

/-- From wherever the two runs stand, they end with the same value, or with the same error but for
its key. -/
def Reading.Renames (s s' : Surroundings) {α : Type} (m : Reading α) : Prop :=
  ∀ j j', (m s' j').1 = (m s j).1.mapError (Failure.mapKey surveillanceAlias.newKey)

namespace Reading

variable {s s' : Surroundings} {α β : Type} {m : Reading α} {f : α → Reading β}

theorem Renames.bind (hm : Renames s s' m) (hf : ∀ a, Renames s s' (f a)) :
    Renames s s' (m >>= f) := by
  intro j j'
  have hresult := hm j j'
  cases h : m s j with
  | mk r j₁ =>
    cases h' : m s' j' with
    | mk r' j₁' =>
      rw [h, h'] at hresult
      cases r with
      | error e =>
        change r' = .error _ at hresult
        rw [hresult] at h'
        rw [bind_of_error h, bind_of_error h']
        rfl
      | ok a =>
        change r' = .ok a at hresult
        rw [hresult] at h'
        rw [bind_of_ok h, bind_of_ok h']
        exact hf a j₁ j₁'

theorem Renames.liftExcept {x : Except Failure α}
    (h : ∀ e, x = .error (.error e) → e.key ≠ Key.blockNsa) : Renames s s' (liftExcept x) := by
  intro j j'
  cases x with
  | ok a => rfl
  | error e =>
    cases e with
    | brokenOff => rfl
    | error e =>
      have hself : e.mapKey surveillanceAlias.newKey = e :=
        SettingError.mapKey_eq_self (if_neg (h e rfl))
      exact congrArg (fun e => Except.error (Failure.error e)) hself.symm

/-- A reading that ends in the same way with both maps, and never at the former key. -/
theorem Renames.of_eq {keys : List String} (h : ∀ j j', (m s' j').1 = (m s j).1)
    (hm : Blames m keys) (hkeys : Key.blockNsa ∉ keys) : Renames s s' m := by
  intro j j'
  have hlift : Renames s s' (Reading.liftExcept (m s j).1) :=
    .liftExcept fun e he hkey => hkeys (hkey ▸ hm s j e _ (run_eq he))
  exact (h j j').trans (hlift j j')

theorem Renames.pure (a : α) : Renames s s' (Pure.pure a) := fun _ _ => rfl

theorem Renames.note (level : Log.Level) (component : Log.Component) (text : String) :
    Renames s s' (note level component text) := fun _ _ => rfl

end Reading

/-! ## Settings with other keys -/

section Moved

variable {s : Surroundings} {map : String → Option String} {value : String}

theorem Surroundings.source_moved {key : String} (hformer : key ≠ Key.blockNsa)
    (hnew : key ≠ Key.blockSurveillance) (earlier earlier' : List String) :
    (s.withMap (surveillanceAlias.moved value map)).source earlier' key =
      (s.withMap map).source earlier key := by
  have hmap : surveillanceAlias.moved value map key = map key := Alias.moved_of_ne hformer hnew
  simp only [withMap, Source.ofMap, hmap]

namespace Reading

variable {α : Type} {m : Reading α} {key path : String}

theorem OneKey.renames (hm : OneKey key m) (hblames : Blames m [key]) (hformer : key ≠ Key.blockNsa)
    (hnew : key ≠ Key.blockSurveillance) :
    Renames (s.withMap map) (s.withMap (surveillanceAlias.moved value map)) m := by
  refine .of_eq (fun j j' => ?_) hblames fun h => hformer (List.mem_singleton.1 h).symm
  obtain ⟨r, lines, hm⟩ := hm
  rw [hm, hm, Surroundings.source_moved hformer hnew j.lookups]

theorem key_ne_of_isPlain {item : Item} (h : item.IsPlain) :
    item.key ≠ Key.blockNsa ∧ item.key ≠ Key.blockSurveillance := by
  cases item with
  | blockSurveillance => exact absurd rfl h.1
  | _ => decide

theorem kept_renames :
    Kept (Renames (s.withMap map) (s.withMap (surveillanceAlias.moved value map))) where
  pure := Renames.pure
  bind := Renames.bind
  plain _ hm hblames hitem :=
    hm.oneKey.renames hblames (key_ne_of_isPlain hitem).1 (key_ne_of_isPlain hitem).2

theorem renames_nonEmptyFile :
    Renames (s.withMap map) (s.withMap (surveillanceAlias.moved value map)) (nonEmptyFile path) := by
  intro j j'
  rw [nonEmptyFile_eq_bytes, nonEmptyFile_eq_bytes]
  rfl

theorem renames_secretFilePath (hformer : Key.secretFile key ≠ Key.blockNsa)
    (hnew : Key.secretFile key ≠ Key.blockSurveillance) :
    Renames (s.withMap map) (s.withMap (surveillanceAlias.moved value map))
      (secretFilePath key) := by
  refine .bind (oneKey_lookup.renames blames_lookup hformer hnew) fun found => ?_
  split
  · exact .pure _
  · exact fun _ _ => rfl

end Reading

/-- The key and the key of the secret file of a credential are not those of the renamed setting. -/
theorem Setting.renames_credential {key fallback : String} {kind : CredentialKind}
    (hkeys : Key.blockNsa ∉ credentialKeys key)
    (hkeys' : Key.blockSurveillance ∉ credentialKeys key) :
    Renames (s.withMap map) (s.withMap (surveillanceAlias.moved value map))
      (credential key kind fallback) := by
  simp only [credentialKeys, List.mem_cons, List.not_mem_nil, or_false, not_or] at hkeys hkeys'
  have hkey : Key.blockNsa ∉ [key] := fun h => hkeys.2 (List.mem_singleton.1 h)
  refine .bind (.bind (renames_secretFilePath (Ne.symm hkeys.1) (Ne.symm hkeys'.1)) fun path =>
    .bind renames_nonEmptyFile fun found => ?_) fun (bytes, _) => ?_
  · split
    · exact .bind (.note _ _ _) fun _ => .pure _
    · refine .bind (oneKey_rawWithOrigin.renames blames_rawWithOrigin (Ne.symm hkeys.2)
        (Ne.symm hkeys'.2)) fun (value, origin) => ?_
      dsimp only
      split
      · exact .pure _
      · refine .bind renames_nonEmptyFile fun found => ?_
        split
        · exact .bind (.note _ _ _) fun _ => .pure _
        · exact .of_eq (fun _ _ => rfl) (.fail List.mem_cons_self) hkey
  · refine .liftExcept fun e he => ?_
    obtain ⟨_, -, rfl⟩ := readCredential_eq_error.1 (eq_error_of_verdict he)
    exact Ne.symm hkeys.2

theorem Setting.renames_clientKey : Renames (s.withMap map)
    (s.withMap (surveillanceAlias.moved value map)) Setting.clientKey :=
  fun j j' => renames_credential (by decide) (by decide) j j'

theorem Setting.renames_clientCertificate : Renames (s.withMap map)
    (s.withMap (surveillanceAlias.moved value map)) Setting.clientCertificate :=
  fun j j' => renames_credential (by decide) (by decide) j j'

end Moved

/-! ## The setting that was renamed -/

namespace Setting

variable {s : Surroundings} {map : String → Option String} {value : String}

/-- The former key is set, and the new one is not set to another text. -/
structure FormerKeyCounts (map : String → Option String) (value : String) : Prop where
  ne_empty : value ≠ ""
  former : map Key.blockNsa = some value
  current : map Key.blockSurveillance = none ∨ map Key.blockSurveillance = some "" ∨
    map Key.blockSurveillance = some value

theorem source_of_some {key text : String} (h : map key = some text) (earlier : List String) :
    (s.withMap map).source earlier key = .text text := by
  simp only [Surroundings.withMap, Source.ofMap, h]

theorem source_of_none {key : String} (h : map key = none) (earlier : List String) :
    (s.withMap map).source earlier key = .unset := by
  simp only [Surroundings.withMap, Source.ofMap, h]

theorem runs_blockSurveillance_former (h : FormerKeyCounts map value) (j : Journal) :
    Runs Setting.blockSurveillance (s.withMap map) j
      [Key.blockNsa, Key.blockSurveillance, Key.blockNsa]
      (match readOnOff Key.blockNsa value with
        | .ok _ => [⟨Key.blockNsa, Key.blockSurveillance⟩]
        | .error _ => [])
      (verdict (readOnOff Key.blockNsa value)) := by
  have hcurrent : ((s.withMap map).answer j.lookups [Key.blockNsa] Key.blockSurveillance).IsVacant ∨
      (s.withMap map).answer j.lookups [Key.blockNsa] Key.blockSurveillance = .text value := by
    rcases h.current with hmap | hmap | hmap
    · exact .inl (.inl (source_of_none hmap _))
    · exact .inl (.inr (source_of_some hmap _))
    · exact .inr (source_of_some hmap _)
  have hcourse := Alias.Course.deprecated (a := surveillanceAlias) (g := .onOff)
    (source_of_some (s := s) h.former (j.lookups ++ [])) h.ne_empty hcurrent
    (source_of_some h.former _) h.ne_empty
  have hrun := hcourse.runs_renamed
  change Runs Setting.blockSurveillance _ _ _
    (Alias.warnings (_ <$> verdict (readOnOff Key.blockNsa value)))
    (_ <$> _ <$> verdict (readOnOff Key.blockNsa value)) at hrun
  cases hread : readOnOff Key.blockNsa value <;> rw [hread] at hrun <;> exact hrun

theorem runs_blockSurveillance_moved (h : FormerKeyCounts map value) (j : Journal) :
    Runs Setting.blockSurveillance (s.withMap (surveillanceAlias.moved value map)) j
      [Key.blockNsa, Key.blockSurveillance] []
      (verdict (readOnOff Key.blockSurveillance value)) := by
  have hformer : surveillanceAlias.moved value map Key.blockNsa = none := if_pos rfl
  have hnew : surveillanceAlias.moved value map Key.blockSurveillance = some value := by
    rw [Alias.moved, if_neg (by decide)]
    exact if_pos rfl
  have hvacant : ((s.withMap (surveillanceAlias.moved value map)).answer j.lookups []
      surveillanceAlias.deprecated).IsVacant := .inl (source_of_none hformer _)
  have hrun := (Alias.Course.canonical (a := surveillanceAlias) (g := .onOff) hvacant).runs_renamed
  have hanswer : (s.withMap (surveillanceAlias.moved value map)).answer j.lookups
      [surveillanceAlias.deprecated] surveillanceAlias.replacement = .text value :=
    source_of_some hnew _
  rw [hanswer, Getter.result, found_given h.ne_empty] at hrun
  change Runs Setting.blockSurveillance _ _ _
    (Alias.warnings (_ <$> verdict (readOnOff Key.blockSurveillance value)))
    (_ <$> _ <$> verdict (readOnOff Key.blockSurveillance value)) at hrun
  cases hread : readOnOff Key.blockSurveillance value <;> rw [hread] at hrun <;> exact hrun

theorem renames_blockSurveillance (h : FormerKeyCounts map value) :
    Renames (s.withMap map) (s.withMap (surveillanceAlias.moved value map))
      Setting.blockSurveillance := by
  intro j j'
  rw [(runs_blockSurveillance_moved h j').result, (runs_blockSurveillance_former h j).result]
  unfold readOnOff
  split
  · rfl
  · split <;> rfl

theorem quiet_blockSurveillance (h : FormerKeyCounts map value) :
    Quiet (s.withMap (surveillanceAlias.moved value map)) Setting.blockSurveillance := by
  intro j
  rw [(runs_blockSurveillance_moved h j).warnings, List.append_nil]

end Setting

/-! ## All settings -/

namespace Settings

variable {s : Surroundings} {map : String → Option String} {value : String} {j j' : Journal}

/-- With DNS over TLS on, these settings are read before the one that was renamed. -/
def itemsBefore : List Item :=
  [.vpnProvider, .dnsOverTls, .dotProviders, .dotVerbosity, .dotVerbosityDetails,
   .dotValidationLogLevel, .blockMalicious]

/-- The map says that DNS over TLS is on. -/
def OverTls (map : String → Option String) : Prop :=
  (Source.ofMap map [] Key.dnsOverTls).textOr Default.dnsOverTls = "on"

theorem exists_items_of_overTls (h : OverTls map) (earlier : List String) :
    ∃ after, items (s.withMap map) earlier = itemsBefore ++ .blockSurveillance :: after ∧
      .blockSurveillance ∉ after := by
  have hon : ((s.withMap map).source (earlier ++ [Key.vpnProvider]) Key.dnsOverTls).textOr
      Default.dnsOverTls = "on" := h
  unfold items DnsSettings.items
  rw [if_pos hon]
  split
  · exact ⟨_, rfl, by decide⟩
  · exact ⟨_, rfl, by decide⟩

theorem not_mem_items (h : ¬ OverTls map) (earlier : List String) :
    .blockSurveillance ∉ items (s.withMap map) earlier := by
  have hoff : ¬ ((s.withMap map).source (earlier ++ [Key.vpnProvider]) Key.dnsOverTls).textOr
      Default.dnsOverTls = "on" := h
  unfold items DnsSettings.items
  rw [if_neg hoff]
  split <;> decide

theorem overTls?_isSome_iff {settings : Settings}
    (hr : Settings.read (s.withMap map) j = (.ok settings, j')) :
    settings.dns.overTls?.isSome = true ↔ OverTls map := by
  obtain ⟨provider, j₁, -, hr⟩ := bind_eq_ok.1 hr
  obtain ⟨dns, j₂, hdns, hr⟩ := bind_eq_ok.1 hr
  have hsettings : settings.dns = dns := by
    split at hr
    · obtain ⟨_, _, -, hr⟩ := bind_eq_ok.1 hr
      cases hr
      rfl
    · cases hr
      rfl
  obtain ⟨resolution, j₃, hresolution, hkeep⟩ := bind_eq_ok.1 hdns
  obtain ⟨keep, j₄, -, hkeep⟩ := bind_eq_ok.1 hkeep
  obtain ⟨on, j₅, hon, hresolution⟩ := bind_eq_ok.1 hresolution
  have hiff : on = true ↔ OverTls map := by
    rw [Setting.dnsOverTls_eq_ok hon]
    exact decide_eq_true_iff
  rw [hsettings, ← hiff]
  cases hkeep
  split at hresolution <;> rename_i hif
  · obtain ⟨_, _, -, hresolution⟩ := bind_eq_ok.1 hresolution
    cases hresolution
    exact iff_of_true rfl hif
  · obtain ⟨_, _, -, hresolution⟩ := bind_eq_ok.1 hresolution
    cases hresolution
    exact iff_of_false nofun hif

/-- What happens up to the setting that was renamed, and what after it. -/
theorem exists_of_attemptAll_eq_ok {items more : List Item} {s : Surroundings}
    (h : Item.attemptAll (items ++ more) s j = (.ok (), j')) :
    ∃ j₁, Item.attemptAll items s j = (.ok (), j₁) ∧ Item.attemptAll more s j₁ = (.ok (), j') := by
  cases hitems : Item.attemptAll items s j with
  | mk r j₁ =>
    cases r with
    | error e =>
      rw [Item.attemptAll_append_of_error hitems] at h
      cases h
    | ok u => exact ⟨j₁, rfl, (Item.attemptAll_append_of_ok hitems).symm.trans h⟩

theorem warnings_blockSurveillance (h : FormerKeyCounts map value)
    (hr : Item.attempt .blockSurveillance (s.withMap map) j = (.ok (), j')) :
    j'.warnings = j.warnings ++ [⟨Key.blockNsa, Key.blockSurveillance⟩] := by
  obtain ⟨blocked, j₁, hblocked, hend⟩ := bind_eq_ok.1 hr
  cases hend
  have hrun := runs_blockSurveillance_former (s := s) h j
  have hresult := hrun.result
  have hwarnings := hrun.warnings
  rw [hblocked] at hresult hwarnings
  cases hread : readOnOff Key.blockNsa value with
  | error e =>
    rw [hread] at hresult
    cases hresult
  | ok b => rwa [hread] at hwarnings

theorem warnings_of_read (h : FormerKeyCounts map value) {settings : Settings}
    (hr : Settings.read (s.withMap map) j = (.ok settings, j')) :
    j'.warnings = j.warnings ++
      if settings.dns.overTls?.isSome then [⟨Key.blockNsa, Key.blockSurveillance⟩] else [] := by
  have hfollows : Follows Settings.read (s.withMap map) j (items (s.withMap map) j.lookups) :=
    Settings.follows_read
  have hall := hfollows.attempt_eq.symm.trans (attempt_of_ok hr)
  by_cases hon : OverTls map
  · rw [if_pos ((overTls?_isSome_iff hr).2 hon)]
    obtain ⟨after, hitems, hafter⟩ := exists_items_of_overTls (s := s) hon j.lookups
    rw [hitems] at hall
    obtain ⟨j₁, hbefore, hrest⟩ := exists_of_attemptAll_eq_ok hall
    obtain ⟨_, j₂, hsurveillance, hafter'⟩ := bind_eq_ok.1 hrest
    have hquiet : Quiet (s.withMap map) (Item.attemptAll itemsBefore) :=
      Item.quiet_attemptAll (by decide)
    have hfirst := hquiet j
    have hlast := Item.quiet_attemptAll (s := s.withMap map) hafter j₂
    rw [hbefore] at hfirst
    rw [hafter'] at hlast
    rw [hlast, warnings_blockSurveillance h hsurveillance, hfirst]
  · rw [if_neg fun hsome => hon ((overTls?_isSome_iff hr).1 hsome), List.append_nil]
    have hquiet :=
      Item.quiet_attemptAll (s := s.withMap map) (not_mem_items (s := s) hon j.lookups) j
    rwa [hall] at hquiet

/-- Different values under both keys are refused when the setting's turn comes. -/
theorem read_of_conflict {other : String} {j₁ : Journal} (hvalue : value ≠ "")
    (hformer : map Key.blockNsa = some value) (hcurrent : map Key.blockSurveillance = some other)
    (hother : other ≠ "") (hne : other ≠ value) (hon : OverTls map)
    (hbefore : Item.attemptAll itemsBefore (s.withMap map) j = (.ok (), j₁)) :
    (Settings.read (s.withMap map) j).1 =
      .error (.error (.conflict Key.blockNsa Key.blockSurveillance)) := by
  have hcourse : Alias.Course surveillanceAlias .onOff ((s.withMap map).answer j₁.lookups)
      [Key.blockNsa, Key.blockSurveillance]
      (.error (.error (.conflict Key.blockNsa Key.blockSurveillance))) :=
    .conflict (source_of_some hformer _) hvalue (source_of_some hcurrent _) hother hne
  have hitem := attempt_of_error (run_eq hcourse.runs_renamed.result)
  obtain ⟨after, hitems, -⟩ := exists_items_of_overTls (s := s) hon j.lookups
  have hfollows : Follows Settings.read (s.withMap map) j (items (s.withMap map) j.lookups) :=
    Settings.follows_read
  have hall := hfollows.attempt_eq
  rw [hitems, Item.attemptAll_append_of_ok hbefore] at hall
  have hread := hall.trans (bind_of_error hitem)
  cases hr : Settings.read (s.withMap map) j with
  | mk r j₂ =>
    cases r with
    | ok settings =>
      rw [attempt_of_ok hr] at hread
      cases hread
    | error e =>
      rw [attempt_of_error hr] at hread
      cases (Prod.mk.inj hread).1
      rfl

/-- **Moving a value from the former key to the new one changes nothing** but the key that an error
names and the warning. -/
theorem read_moved (s : Surroundings) (j : Journal) {map : String → Option String} {value : String}
    (hvalue : value ≠ "") (hformer : map Key.blockNsa = some value) :
    ((map Key.blockSurveillance = none ∨ map Key.blockSurveillance = some "" ∨
        map Key.blockSurveillance = some value) →
      (Settings.read (s.withMap (surveillanceAlias.moved value map)) j).1 =
        (Settings.read (s.withMap map) j).1.mapError (Failure.mapKey surveillanceAlias.newKey) ∧
      (Settings.read (s.withMap (surveillanceAlias.moved value map)) j).2.warnings = j.warnings ∧
      ∀ settings, (Settings.read (s.withMap map) j).1 = .ok settings →
        (Settings.read (s.withMap map) j).2.warnings = j.warnings ++
          if settings.dns.overTls?.isSome then [⟨Key.blockNsa, Key.blockSurveillance⟩] else []) ∧
    ∀ other j₁, map Key.blockSurveillance = some other → other ≠ "" → other ≠ value →
      OverTls map → Item.attemptAll itemsBefore (s.withMap map) j = (.ok (), j₁) →
        (Settings.read (s.withMap map) j).1 =
          .error (.error (.conflict Key.blockNsa Key.blockSurveillance)) := by
  refine ⟨fun hcurrent => ?_, fun other j₁ hcurrent hother hne hon hbefore =>
    read_of_conflict hvalue hformer hcurrent hother hne hon hbefore⟩
  have h : FormerKeyCounts map value := ⟨hvalue, hformer, hcurrent⟩
  refine ⟨?_, ?_, fun settings hr => warnings_of_read h (run_eq hr)⟩
  · exact Settings.kept_read kept_renames (renames_blockSurveillance h) renames_clientKey
      renames_clientCertificate j j
  · have hbuilt := built_quiet (s.withMap (surveillanceAlias.moved value map))
    exact Settings.kept_read hbuilt.kept (quiet_blockSurveillance h) hbuilt.clientKey
      hbuilt.clientCertificate j

/-- A map that sets the former key, and maybe the new one. -/
def formerKeyMap (current : Option String) : String → Option String := fun key =>
  if key = Key.blockNsa then some "on"
  else if key = Key.blockSurveillance then current
  else none

/-- Surroundings where nothing is set and no file is found. -/
def bareSurroundings : Surroundings where
  source := .ofMap fun _ => none
  files := fun _ => .absent

/-- The former key alone gives the same as the new one, and a warning; different values under both
are refused. -/
theorem read_moved_on :
    ∃ settings,
      (Settings.read (bareSurroundings.withMap (formerKeyMap none)) {}).1 = .ok settings ∧
      (Settings.read (bareSurroundings.withMap
        (surveillanceAlias.moved "on" (formerKeyMap none))) {}).1 = .ok settings ∧
      (Settings.read (bareSurroundings.withMap (formerKeyMap none)) {}).2.warnings =
        [⟨Key.blockNsa, Key.blockSurveillance⟩] ∧
      (Settings.read (bareSurroundings.withMap (formerKeyMap (some "off"))) {}).1 =
        .error (.error (.conflict Key.blockNsa Key.blockSurveillance)) := by
  let overTls : DnsOverTlsSettings :=
    ⟨["cloudflare"], 1, 0, 0, true, true, false, [], true, [], false, ⟨86400000000000⟩⟩
  let settings : Settings := ⟨.privateInternetAccess, ⟨.overTls overTls, false⟩, none⟩
  have hread : (Settings.read (bareSurroundings.withMap (formerKeyMap none)) {}).1 =
      .ok settings := by decide +kernel
  have hmoved := (@read_moved bareSurroundings {} (formerKeyMap none) "on" (by decide) rfl).1
    (.inl rfl)
  have hresult : (Item.attemptAll itemsBefore
      (bareSurroundings.withMap (formerKeyMap (some "off"))) {}).1 = .ok () := by decide +kernel
  obtain ⟨j₁, hbefore⟩ : ∃ j₁, Item.attemptAll itemsBefore
      (bareSurroundings.withMap (formerKeyMap (some "off"))) {} = (.ok (), j₁) :=
    ⟨_, run_eq hresult⟩
  have hconflict := (@read_moved bareSurroundings {} (formerKeyMap (some "off")) "on" (by decide)
    rfl).2 "off" j₁ rfl (by decide) (by decide) rfl hbefore
  refine ⟨settings, hread, ?_, hmoved.2.2 settings hread, hconflict⟩
  rw [hmoved.1, hread]
  rfl

end Settings

end VpnGateway
