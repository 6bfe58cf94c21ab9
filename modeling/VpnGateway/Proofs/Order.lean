import Mathlib.Data.List.Flatten
import Mathlib.Data.List.Infix
import Mathlib.Data.List.Nodup
import VpnGateway.Proofs.Footprint

/-!
# The order in which settings are read

Reading all settings is attempting them in turn until one fails. Which settings there are to attempt
is decided by two of them, the first two.

* `Setting.Item`: the settings, with their values, their keys and their files;
* `Item.attemptAll`, `Item.attempted`: settings in turn, and how far that goes;
* `Reading.Follows`, `Follows.bind`: a reading that attempts settings in turn, step by step;
* `Settings.items`, `Settings.follows_read`: **reading all settings is such a reading**;
* `Reading.Progress`, **`Settings.exists_progress`**: what that says about every run.
-/

namespace VpnGateway

/-! ## Settings as items -/

/-- A reading whose value is not kept. -/
def Reading.attempt {α : Type} (m : Reading α) : Reading Unit := do
  let _ ← m
  return ()

namespace Setting

/-- The settings, each of which is read as one. -/
inductive Item
  | vpnProvider | dnsOverTls | dotProviders | dotVerbosity | dotVerbosityDetails
  | dotValidationLogLevel | blockMalicious | blockSurveillance | blockAds | unblockedHostnames
  | dotCaching | dotPrivateAddresses | dotIpv6 | dnsUpdatePeriod | dnsPlaintextAddress
  | dnsKeepNameserver | cyberghostGroup | cyberghostRegions | clientKey | clientCertificate
  deriving DecidableEq, Repr

namespace Item

/-- Read the setting and do not keep its value. -/
def attempt : Item → Reading Unit
  | vpnProvider => Setting.vpnProvider.attempt
  | dnsOverTls => Setting.dnsOverTls.attempt
  | dotProviders => Setting.dotProviders.attempt
  | dotVerbosity => Setting.dotVerbosity.attempt
  | dotVerbosityDetails => Setting.dotVerbosityDetails.attempt
  | dotValidationLogLevel => Setting.dotValidationLogLevel.attempt
  | blockMalicious => Setting.blockMalicious.attempt
  | blockSurveillance => Setting.blockSurveillance.attempt
  | blockAds => Setting.blockAds.attempt
  | unblockedHostnames => Setting.unblockedHostnames.attempt
  | dotCaching => Setting.dotCaching.attempt
  | dotPrivateAddresses => Setting.dotPrivateAddresses.attempt
  | dotIpv6 => Setting.dotIpv6.attempt
  | dnsUpdatePeriod => Setting.dnsUpdatePeriod.attempt
  | dnsPlaintextAddress => Setting.dnsPlaintextAddress.attempt
  | dnsKeepNameserver => Setting.dnsKeepNameserver.attempt
  | cyberghostGroup => Setting.cyberghostGroup.attempt
  | cyberghostRegions => Setting.cyberghostRegions.attempt
  | clientKey => Setting.clientKey.attempt
  | clientCertificate => Setting.clientCertificate.attempt

/-- What a setting is when it has been read. -/
def Value : Item → Type
  | vpnProvider => VpnProvider
  | dnsOverTls | blockMalicious | blockSurveillance | blockAds | dotCaching | dotIpv6
  | dnsKeepNameserver => Bool
  | dotProviders | unblockedHostnames | dotPrivateAddresses | cyberghostRegions => List String
  | dotVerbosity | dotVerbosityDetails | dotValidationLogLevel => UInt8
  | dnsUpdatePeriod => Duration
  | dnsPlaintextAddress => Address
  | cyberghostGroup => String
  | clientKey | clientCertificate => Credential

/-- Read the setting. -/
def read : (item : Item) → Reading item.Value
  | vpnProvider => Setting.vpnProvider
  | dnsOverTls => Setting.dnsOverTls
  | dotProviders => Setting.dotProviders
  | dotVerbosity => Setting.dotVerbosity
  | dotVerbosityDetails => Setting.dotVerbosityDetails
  | dotValidationLogLevel => Setting.dotValidationLogLevel
  | blockMalicious => Setting.blockMalicious
  | blockSurveillance => Setting.blockSurveillance
  | blockAds => Setting.blockAds
  | unblockedHostnames => Setting.unblockedHostnames
  | dotCaching => Setting.dotCaching
  | dotPrivateAddresses => Setting.dotPrivateAddresses
  | dotIpv6 => Setting.dotIpv6
  | dnsUpdatePeriod => Setting.dnsUpdatePeriod
  | dnsPlaintextAddress => Setting.dnsPlaintextAddress
  | dnsKeepNameserver => Setting.dnsKeepNameserver
  | cyberghostGroup => Setting.cyberghostGroup
  | cyberghostRegions => Setting.cyberghostRegions
  | clientKey => Setting.clientKey
  | clientCertificate => Setting.clientCertificate

theorem attempt_eq (item : Item) : item.attempt = item.read.attempt := by
  cases item <;> rfl

/-- The key of the setting; if it was renamed, the new one. -/
def key : Item → String
  | vpnProvider => Key.vpnProvider
  | dnsOverTls => Key.dnsOverTls
  | dotProviders => Key.dotProviders
  | dotVerbosity => Key.dotVerbosity
  | dotVerbosityDetails => Key.dotVerbosityDetails
  | dotValidationLogLevel => Key.dotValidationLogLevel
  | blockMalicious => Key.blockMalicious
  | blockSurveillance => Key.blockSurveillance
  | blockAds => Key.blockAds
  | unblockedHostnames => Key.unblock
  | dotCaching => Key.dotCaching
  | dotPrivateAddresses => Key.dotPrivateAddress
  | dotIpv6 => Key.dotIpv6
  | dnsUpdatePeriod => Key.dnsUpdatePeriod
  | dnsPlaintextAddress => Key.dnsPlaintextAddress
  | dnsKeepNameserver => Key.dnsKeepNameserver
  | cyberghostGroup => Key.cyberghostGroup
  | cyberghostRegions => Key.region
  | clientKey => Key.clientKey
  | clientCertificate => Key.clientCertificate

variable (s : Surroundings)

/-- The keys that are looked up for the setting, after those of `earlier`. -/
def keys (earlier : List String) : Item → List String
  | blockSurveillance => surveillanceAlias.lookupKeys (s.answer earlier)
  | clientKey => s.credentialKeys Key.clientKey earlier
  | clientCertificate => s.credentialKeys Key.clientCertificate earlier
  | item => [item.key]

/-- The files that are opened for the setting, after the keys of `earlier` were looked up. -/
def paths (earlier : List String) : Item → List String
  | clientKey => s.credentialPaths Key.clientKey s.clientKeyFile earlier
  | clientCertificate => s.credentialPaths Key.clientCertificate s.clientCertificateFile earlier
  | _ => []

/-! ## Settings in turn -/

/-- Attempt settings in turn; the first that fails is the last that is attempted. -/
def attemptAll : List Item → Reading Unit
  | [] => pure ()
  | item :: items => do
    item.attempt
    attemptAll items

/-- The settings that are attempted in turn, up to the first that fails. -/
def attempted : List Item → Journal → List Item
  | [], _ => []
  | item :: items, j => item :: match item.attempt s j with
    | (.ok (), j₁) => attempted items j₁
    | (.error _, _) => []

/-- The keys that are looked up for settings in turn. -/
def keysInTurn (earlier : List String) : List Item → List String
  | [] => []
  | item :: items => item.keys s earlier ++ keysInTurn (earlier ++ item.keys s earlier) items

/-- The files that are opened for settings in turn. -/
def pathsInTurn (earlier : List String) : List Item → List String
  | [] => []
  | item :: items => item.paths s earlier ++ pathsInTurn (earlier ++ item.keys s earlier) items

variable {s} {items more : List Item} {item : Item} {j j₁ : Journal} {e : Failure}

theorem attemptAll_append_of_ok (h : attemptAll items s j = (.ok (), j₁)) :
    attemptAll (items ++ more) s j = attemptAll more s j₁ := by
  induction items generalizing j with
  | nil =>
    cases h
    rfl
  | cons item items ih =>
    obtain ⟨_, j₂, hitem, hitems⟩ := Reading.bind_eq_ok.1 h
    exact (Reading.bind_of_ok hitem).trans (ih hitems)

theorem attemptAll_append_of_error (h : attemptAll items s j = (.error e, j₁)) :
    attemptAll (items ++ more) s j = (.error e, j₁) := by
  induction items generalizing j with
  | nil => cases h
  | cons item items ih =>
    rcases Reading.bind_eq_error.1 h with hitem | ⟨_, j₂, hitem, hitems⟩
    · exact Reading.bind_of_error hitem
    · exact (Reading.bind_of_ok hitem).trans (ih hitems)

theorem attempted_append_of_ok (h : attemptAll items s j = (.ok (), j₁)) :
    attempted s (items ++ more) j = items ++ attempted s more j₁ := by
  induction items generalizing j with
  | nil =>
    cases h
    rfl
  | cons item items ih =>
    obtain ⟨_, j₂, hitem, hitems⟩ := Reading.bind_eq_ok.1 h
    rw [List.cons_append, attempted, hitem, List.cons_append]
    exact congrArg _ (ih hitems)

theorem attempted_append_of_error (h : attemptAll items s j = (.error e, j₁)) :
    attempted s (items ++ more) j = attempted s items j := by
  induction items generalizing j with
  | nil => cases h
  | cons item items ih =>
    rw [List.cons_append, attempted, attempted]
    rcases Reading.bind_eq_error.1 h with hitem | ⟨_, j₂, hitem, hitems⟩
    · rw [hitem]
    · rw [hitem]
      exact congrArg _ (ih hitems)

theorem attempted_of_ok (h : attemptAll items s j = (.ok (), j₁)) :
    attempted s items j = items := by
  have happend : attempted s (items ++ []) j = items ++ attempted s [] j₁ :=
    attempted_append_of_ok h
  rwa [attempted, List.append_nil] at happend

/-- Settings in turn: all of them without a failure, or some of them and then the one that fails. -/
theorem exists_attempted (s : Surroundings) (items : List Item) (j : Journal) :
    ∃ rest, items = attempted s items j ++ rest ∧
      (∀ j', attemptAll items s j = (.ok (), j') → rest = []) ∧
      ∀ e j', attemptAll items s j = (.error e, j') → ∃ before last j₁,
        attempted s items j = before ++ [last] ∧ attemptAll before s j = (.ok (), j₁) ∧
          last.attempt s j₁ = (.error e, j') := by
  induction items generalizing j with
  | nil => exact ⟨[], rfl, fun _ _ => rfl, nofun⟩
  | cons item items ih =>
    rw [attempted]
    cases hitem : item.attempt s j with
    | mk r j₁ =>
      cases r with
      | error d =>
        have hall : attemptAll (item :: items) s j = (.error d, j₁) := Reading.bind_of_error hitem
        refine ⟨items, rfl, fun j' h => ?_, fun e j' h => ?_⟩
        · rw [hall] at h
          cases h
        · rw [hall] at h
          cases h
          exact ⟨[], item, j, rfl, rfl, hitem⟩
      | ok u =>
        have hall : attemptAll (item :: items) s j = attemptAll items s j₁ :=
          Reading.bind_of_ok hitem
        obtain ⟨rest, hrest, hok, herror⟩ := ih j₁
        refine ⟨rest, congrArg _ hrest, fun j' h => hok j' (hall ▸ h), fun e j' h => ?_⟩
        obtain ⟨before, last, j₂, hbefore, hall', hlast⟩ := herror e j' (hall ▸ h)
        exact ⟨item :: before, last, j₂, congrArg _ hbefore,
          (Reading.bind_of_ok hitem).trans hall', hlast⟩

end Item

end Setting

/-! ## What each setting depends on -/

namespace Reading

variable {α β : Type} {m : Reading α} {f : α → Reading β} {s : Surroundings} {j j₁ : Journal}
  {key : String}

theorem attempt_of_ok {a : α} (h : m s j = (.ok a, j₁)) : m.attempt s j = (.ok (), j₁) :=
  bind_of_ok h

theorem attempt_of_error {e : Failure} (h : m s j = (.error e, j₁)) :
    m.attempt s j = (.error e, j₁) :=
  bind_of_error h

theorem attempt_snd (m : Reading α) (s : Surroundings) (j : Journal) :
    (m.attempt s j).2 = (m s j).2 := by
  cases h : m s j with
  | mk r j₁ =>
    cases r with
    | ok a => rw [attempt_of_ok h]
    | error e => rw [attempt_of_error h]

theorem attempt_bind_of_ok {a : α} (h : m s j = (.ok a, j₁)) :
    (m >>= f).attempt s j = (f a).attempt s j₁ := by
  have hbind : (m >>= f) s j = f a s j₁ := bind_of_ok h
  cases hf : f a s j₁ with
  | mk r j₂ =>
    rw [hf] at hbind
    cases r with
    | ok b => rw [attempt_of_ok hf, attempt_of_ok hbind]
    | error e => rw [attempt_of_error hf, attempt_of_error hbind]

theorem OneKey.attempt (h : OneKey key m) : OneKey key m.attempt :=
  h.bind fun _ => .pure _

theorem Reads.attempt {keys paths : List String} (h : Reads m s j keys paths) :
    Reads m.attempt s j keys paths :=
  h.bind fun _ _ _ => (NoKey.pure _).reads

end Reading

namespace Setting

open Reading

variable {s : Surroundings} {j : Journal}

theorem ofText_vpnProvider : OfText Key.vpnProvider Setting.vpnProvider := by
  refine ofText_typed.bind fun name => .bind (.note _ _ _) fun _ => ?_
  split
  · exact .pure _
  · exact .fail _

theorem oneKey_vpnProvider : OneKey Key.vpnProvider Setting.vpnProvider :=
  ofText_vpnProvider.oneKey

theorem reads_credential {key fallback : String} {kind : CredentialKind} :
    Reads (credential key kind fallback) s j (s.credentialKeys key j.lookups)
      (s.credentialPaths key fallback j.lookups) :=
  (reads_credentialBytes key fallback).bind fun _ _ _ => (NoKey.liftExcept _).reads

theorem reads_clientKey : Reads clientKey s j (s.credentialKeys Key.clientKey j.lookups)
    (s.credentialPaths Key.clientKey s.clientKeyFile j.lookups) := by
  refine ⟨reads_credential.lookups, fun s' hs' => ?_⟩
  change credential _ _ s'.clientKeyFile s' j = credential _ _ s.clientKeyFile s j
  rw [hs'.clientKeyFile]
  exact reads_credential.congr s' hs'

theorem reads_clientCertificate :
    Reads clientCertificate s j (s.credentialKeys Key.clientCertificate j.lookups)
      (s.credentialPaths Key.clientCertificate s.clientCertificateFile j.lookups) := by
  refine ⟨reads_credential.lookups, fun s' hs' => ?_⟩
  change credential _ _ s'.clientCertificateFile s' j =
    credential _ _ s.clientCertificateFile s j
  rw [hs'.clientCertificateFile]
  exact reads_credential.congr s' hs'

theorem reads_blockSurveillance : Reads blockSurveillance s j
    (surveillanceAlias.lookupKeys (s.answer j.lookups)) [] :=
  reads_renamed surveillanceAlias .onOff

namespace Item

/-- The setting has one key, and no file. -/
def IsPlain (item : Item) : Prop :=
  item ≠ blockSurveillance ∧ item ≠ clientKey ∧ item ≠ clientCertificate

instance (item : Item) : Decidable item.IsPlain :=
  inferInstanceAs (Decidable (_ ∧ _))

theorem IsPlain.ofText {item : Item} (h : item.IsPlain) : OfText item.key item.read := by
  cases item with
  | vpnProvider => exact ofText_vpnProvider
  | dnsOverTls | blockMalicious | blockAds | dotCaching | dotIpv6 | dnsUpdatePeriod
  | dnsPlaintextAddress | dnsKeepNameserver | cyberghostGroup => exact ofText_typed
  | dotProviders | unblockedHostnames | dotPrivateAddresses | cyberghostRegions =>
    exact ofText_list
  | dotVerbosity | dotVerbosityDetails | dotValidationLogLevel => exact ofText_byte
  | blockSurveillance => exact absurd rfl h.1
  | clientKey => exact absurd rfl h.2.1
  | clientCertificate => exact absurd rfl h.2.2

theorem IsPlain.oneKey {item : Item} (h : item.IsPlain) : OneKey item.key item.attempt := by
  rw [attempt_eq]
  exact h.ofText.oneKey.attempt

/-- **A setting depends on its keys and its files.** -/
theorem reads_attempt (item : Item) :
    Reads item.attempt s j (item.keys s j.lookups) (item.paths s j.lookups) := by
  cases item with
  | blockSurveillance => exact reads_blockSurveillance.attempt
  | clientKey => exact reads_clientKey.attempt
  | clientCertificate => exact reads_clientCertificate.attempt
  | _ => exact (IsPlain.oneKey (by decide)).reads

/-- The keys that are looked up are those of the settings that are attempted. -/
theorem lookups_attemptAll (items : List Item) (j : Journal) : (attemptAll items s j).2.lookups =
    j.lookups ++ keysInTurn s j.lookups (attempted s items j) := by
  induction items generalizing j with
  | nil => exact (List.append_nil _).symm
  | cons item items ih =>
    have hitem := (reads_attempt (s := s) (j := j) item).lookups
    rw [attempted, keysInTurn]
    cases h : item.attempt s j with
    | mk r j₁ =>
      rw [h] at hitem
      cases r with
      | error e =>
        rw [attemptAll, bind_of_error h, keysInTurn, List.append_nil]
        exact hitem
      | ok u =>
        rw [attemptAll, bind_of_ok h, ih j₁, hitem, List.append_assoc]

theorem pathsInTurn_append (earlier : List String) (items more : List Item) :
    pathsInTurn s earlier (items ++ more) = pathsInTurn s earlier items ++
      pathsInTurn s (earlier ++ keysInTurn s earlier items) more := by
  induction items generalizing earlier with
  | nil => rw [keysInTurn, List.append_nil]; rfl
  | cons item items ih =>
    rw [List.cons_append, pathsInTurn, ih, pathsInTurn, keysInTurn, List.append_assoc,
      List.append_assoc]

theorem keysInTurn_append (earlier : List String) (items more : List Item) :
    keysInTurn s earlier (items ++ more) = keysInTurn s earlier items ++
      keysInTurn s (earlier ++ keysInTurn s earlier items) more := by
  induction items generalizing earlier with
  | nil => rw [keysInTurn, List.append_nil]; rfl
  | cons item items ih =>
    rw [List.cons_append, keysInTurn, ih, keysInTurn, List.append_assoc, List.append_assoc]

end Item

end Setting

/-! ## Readings that follow settings -/

namespace Reading

open Setting Setting.Item

variable {α β : Type} {m : Reading α} {f : α → Reading β} {s : Surroundings} {j : Journal}
  {item : Item} {items more : List Item}

/-- From the journal on, the reading attempts the settings in turn, and depends on nothing but the
keys and files of those that are attempted. -/
structure Follows (m : Reading α) (s : Surroundings) (j : Journal) (items : List Item) : Prop where
  attempt_eq : m.attempt s j = attemptAll items s j
  congr : ∀ s', s.Agrees s' j.lookups (keysInTurn s j.lookups (attempted s items j))
    (pathsInTurn s j.lookups (attempted s items j)) → m s' j = m s j

namespace Follows

theorem pure (a : α) : Follows (Pure.pure a) s j [] :=
  ⟨rfl, fun _ _ => rfl⟩

theorem of_item (h : item.attempt = m.attempt)
    (hm : Reads m s j (item.keys s j.lookups) (item.paths s j.lookups)) : Follows m s j [item] := by
  refine ⟨?_, fun s' hs' => hm.congr s' ?_⟩
  · rw [← h, attemptAll]
    cases hitem : item.attempt s j with
    | mk r j₁ =>
      cases r with
      | error e => rw [bind_of_error hitem]
      | ok u => rw [bind_of_ok hitem]; rfl
  · have hattempted : attempted s [item] j = [item] := by
      rw [attempted]
      split <;> rfl
    rw [hattempted, keysInTurn, pathsInTurn] at hs'
    exact hs'.left

/-- **One reading after another attempts their settings one after another.** -/
theorem bind (hm : Follows m s j items)
    (hf : ∀ a j₁, m s j = (.ok a, j₁) → Follows (f a) s j₁ more) :
    Follows (m >>= f) s j (items ++ more) := by
  cases h : m s j with
  | mk r j₁ =>
    cases r with
    | error e =>
      have hitems : attemptAll items s j = (.error e, j₁) :=
        hm.attempt_eq.symm.trans (attempt_of_error h)
      refine ⟨?_, fun s' hs' => ?_⟩
      · rw [attempt_of_error (bind_of_error h), attemptAll_append_of_error hitems]
      · rw [attempted_append_of_error hitems] at hs'
        rw [bind_of_error h, bind_of_error ((hm.congr s' hs').trans h)]
    | ok a =>
      have hitems : attemptAll items s j = (.ok (), j₁) :=
        hm.attempt_eq.symm.trans (attempt_of_ok h)
      have hlookups : j₁.lookups = j.lookups ++ keysInTurn s j.lookups items := by
        have hall := lookups_attemptAll (s := s) items j
        rwa [hitems, attempted_of_ok hitems] at hall
      have hmore := hf a j₁ h
      refine ⟨?_, fun s' hs' => ?_⟩
      · rw [attemptAll_append_of_ok hitems, ← hmore.attempt_eq, attempt_bind_of_ok h]
      · rw [attempted_append_of_ok hitems, keysInTurn_append, pathsInTurn_append,
          ← hlookups] at hs'
        have h' : m s' j = (.ok a, j₁) := by
          refine (hm.congr s' ?_).trans h
          rw [attempted_of_ok hitems]
          exact hs'.left
        rw [bind_of_ok h, bind_of_ok h']
        refine hmore.congr s' ?_
        have hright := hs'.right
        rwa [← hlookups] at hright

/-- A setting is read, and then what follows its value. -/
theorem cons (h : item.attempt = m.attempt)
    (hm : Reads m s j (item.keys s j.lookups) (item.paths s j.lookups))
    (hf : ∀ a j₁, m s j = (.ok a, j₁) → Follows (f a) s j₁ more) :
    Follows (m >>= f) s j (item :: more) :=
  (of_item h hm).bind hf

theorem map (hm : Follows m s j items) (g : α → β) :
    Follows (m >>= fun a => Pure.pure (g a)) s j items := by
  rw [← List.append_nil items]
  exact hm.bind fun a _ _ => .pure (g a)

end Follows

end Reading

/-! ## All settings -/

open Reading Setting

/-- The text that an answer gives to a setting for which a text stands. -/
def Answer.textOr (answer : Answer) (default : String) : String :=
  answer.given?.getD default

theorem Reading.eq_textOr_of_found {key default value : String} {origin : Origin} {answer : Answer}
    (h : found key (.withDefault default) answer = .ok (value, origin)) :
    value = answer.textOr default := by
  rcases answer.cases with ⟨lossy, rfl⟩ | hvacant | ⟨text, rfl, hne⟩
  · cases h
  · rw [found_vacant hvacant] at h
    cases h
    rw [Answer.textOr, hvacant.given?_eq]
    rfl
  · rw [found_given hne] at h
    cases h
    rw [Answer.textOr, Answer.given?_text hne]
    rfl

variable {s : Surroundings} {j j₁ : Journal}

/-- A value that a getter gives is the one it makes of the text. -/
theorem Getter.value_of_read {α : Type} {g : Getter α} {key default : String} {a : α}
    (h : g.read key (.withDefault default) s j = (.ok a, j₁)) :
    g.value key ((s.source j.lookups key).textOr default) = .ok a := by
  have hresult := g.read_fst key (.withDefault default) s j
  rw [h, result] at hresult
  cases hf : found key (.withDefault default) (s.source j.lookups key) with
  | error e =>
    rw [hf] at hresult
    cases hresult
  | ok v =>
    rw [hf] at hresult
    rw [← eq_textOr_of_found hf]
    exact hresult.symm

/-- Whether DNS over TLS is on is decided by the text. -/
theorem Setting.dnsOverTls_eq_ok {on : Bool} (h : Setting.dnsOverTls s j = (.ok on, j₁)) :
    on = decide ((s.source j.lookups Key.dnsOverTls).textOr Default.dnsOverTls = "on") := by
  have hvalue : verdict (readOnOff Key.dnsOverTls _) = .ok on :=
    Getter.value_of_read (g := .onOff) h
  unfold readOnOff at hvalue
  split at hvalue
  · rename_i hon
    cases hvalue
    exact (decide_eq_true hon).symm
  · rename_i hon
    split at hvalue <;> cases hvalue
    exact (decide_eq_false hon).symm

/-- Whether the provider is Cyberghost is decided by the text. -/
theorem Setting.vpnProvider_eq_ok {provider : VpnProvider}
    (h : Setting.vpnProvider s j = (.ok provider, j₁)) : provider = .cyberghost ↔
      (s.source j.lookups Key.vpnProvider).textOr Default.vpnProvider =
        VpnProvider.cyberghost.text := by
  obtain ⟨name, j₂, hname, hrest⟩ := bind_eq_ok.1 h
  obtain ⟨_, j₃, -, hprovider⟩ := bind_eq_ok.1 hrest
  have hvalue : verdict (readChoice Key.vpnProvider VpnProvider.choices _) = .ok name :=
    Getter.value_of_read (g := .choice VpnProvider.choices) hname
  have htext : name = (s.source j.lookups Key.vpnProvider).textOr Default.vpnProvider := by
    unfold readChoice at hvalue
    split at hvalue <;> cases hvalue
    rfl
  rw [← htext]
  cases hname : VpnProvider.ofText? name with
  | none =>
    rw [hname] at hprovider
    cases hprovider
  | some p =>
    rw [hname] at hprovider
    cases hprovider
    have hp : provider.text = name := by
      have hfind := List.find?_some hname
      exact eq_of_beq hfind
    refine ⟨fun h => by rw [← hp, h], fun h => ?_⟩
    rw [h, VpnProvider.ofText?_text] at hname
    exact (Option.some.inj hname).symm

/-- The settings of DNS over TLS, in order. -/
def DnsOverTlsSettings.items : List Item :=
  [.dotProviders, .dotVerbosity, .dotVerbosityDetails, .dotValidationLogLevel, .blockMalicious,
   .blockSurveillance, .blockAds, .unblockedHostnames, .dotCaching, .dotPrivateAddresses, .dotIpv6,
   .dnsUpdatePeriod]

/-- The settings of name resolution, in order; whether DNS over TLS is on decides which they are. -/
def DnsSettings.items (s : Surroundings) (earlier : List String) : List Item :=
  .dnsOverTls ::
    (if (s.source earlier Key.dnsOverTls).textOr Default.dnsOverTls = "on"
      then DnsOverTlsSettings.items else [.dnsPlaintextAddress]) ++
    [.dnsKeepNameserver]

/-- The settings of Cyberghost, in order. -/
def CyberghostSettings.items : List Item :=
  [.cyberghostGroup, .cyberghostRegions, .clientKey, .clientCertificate]

/-- All settings, in order; those of Cyberghost only if it is the provider. -/
def Settings.items (s : Surroundings) (earlier : List String) : List Item :=
  .vpnProvider :: DnsSettings.items s (earlier ++ [Key.vpnProvider]) ++
    if (s.source earlier Key.vpnProvider).textOr Default.vpnProvider = VpnProvider.cyberghost.text
      then CyberghostSettings.items else []

theorem DnsOverTlsSettings.follows_read : Follows DnsOverTlsSettings.read s j items := by
  refine .cons rfl oneKey_list.reads fun _ _ _ => ?_
  refine .cons rfl oneKey_byte.reads fun _ _ _ => ?_
  refine .cons rfl oneKey_byte.reads fun _ _ _ => ?_
  refine .cons rfl oneKey_byte.reads fun _ _ _ => ?_
  refine .cons rfl oneKey_typed.reads fun _ _ _ => ?_
  refine .cons rfl reads_blockSurveillance fun _ _ _ => ?_
  refine .cons rfl oneKey_typed.reads fun _ _ _ => ?_
  refine .cons rfl oneKey_list.reads fun _ _ _ => ?_
  refine .cons rfl oneKey_typed.reads fun _ _ _ => ?_
  refine .cons rfl oneKey_list.reads fun _ _ _ => ?_
  refine .cons rfl oneKey_typed.reads fun _ _ _ => ?_
  exact .cons rfl oneKey_typed.reads fun _ _ _ => .pure _

theorem DnsSettings.follows_read : Follows DnsSettings.read s j (items s j.lookups) := by
  refine .bind ?_ fun resolution j₁ _ => .cons rfl oneKey_typed.reads fun _ _ _ => .pure _
  refine .cons rfl oneKey_typed.reads fun on j₁ hon => ?_
  rw [Setting.dnsOverTls_eq_ok hon]
  split <;> rename_i h
  · rw [if_pos (of_decide_eq_true h)]
    exact DnsOverTlsSettings.follows_read.map _
  · rw [if_neg fun hon => h (decide_eq_true hon)]
    exact .cons rfl oneKey_typed.reads fun _ _ _ => .pure _

theorem CyberghostSettings.follows_read : Follows CyberghostSettings.read s j items := by
  refine .cons rfl oneKey_typed.reads fun _ _ _ => ?_
  refine .cons rfl oneKey_list.reads fun _ _ _ => ?_
  refine .cons rfl reads_clientKey fun _ _ _ => ?_
  exact .cons rfl reads_clientCertificate fun _ _ _ => .pure _

/-- **Reading all settings attempts them in order.** -/
theorem Settings.follows_read : Follows Settings.read s j (items s j.lookups) := by
  refine .cons rfl oneKey_vpnProvider.reads fun provider j₁ hprovider => ?_
  have hlookups := oneKey_vpnProvider.lookups_eq s j
  rw [hprovider] at hlookups
  have hcyberghost := Setting.vpnProvider_eq_ok hprovider
  rw [← hlookups]
  refine DnsSettings.follows_read.bind fun dns j₂ _ => ?_
  split <;> rename_i h
  · rw [if_pos (hcyberghost.1 h)]
    exact CyberghostSettings.follows_read.map _
  · rw [if_neg fun htext => h (hcyberghost.2 htext)]
    exact .pure _

/-! ## Keys that are looked up -/

namespace Setting.Item

/-- The keys that a setting may look up. -/
def allKeys : Item → List String
  | blockSurveillance => [Key.blockNsa, Key.blockSurveillance]
  | clientKey => [Key.secretFile Key.clientKey, Key.clientKey]
  | clientCertificate => [Key.secretFile Key.clientCertificate, Key.clientCertificate]
  | item => [item.key]

/-- All settings in one row. -/
def row : List Item :=
  [vpnProvider, dnsOverTls] ++ DnsOverTlsSettings.items ++
    [dnsPlaintextAddress, dnsKeepNameserver] ++ CyberghostSettings.items

theorem nodup_row : row.Nodup := by decide

theorem nodup_allKeys : (row.flatMap allKeys).Nodup := by decide +kernel

theorem items_sublist_row (s : Surroundings) (earlier : List String) :
    (Settings.items s earlier).Sublist row := by
  unfold Settings.items DnsSettings.items
  split <;> split <;> decide

variable {item : Item} {items : List Item} (earlier : List String)

theorem sublist_credentialKeys (key : String) :
    (s.credentialKeys key earlier).Sublist [Key.secretFile key, key] := by
  have hone : [Key.secretFile key].Sublist [Key.secretFile key, key] :=
    List.sublist_append_left [Key.secretFile key] [key]
  unfold Surroundings.credentialKeys
  split
  · exact hone
  · split
    · exact hone
    · exact List.Sublist.refl _

theorem keys_sublist (h : item ≠ blockSurveillance) :
    (item.keys s earlier).Sublist item.allKeys := by
  cases item with
  | blockSurveillance => exact absurd rfl h
  | clientKey | clientCertificate => exact sublist_credentialKeys earlier _
  | _ => exact List.Sublist.refl _

/-- The former key is looked up a second time, or neither key is. -/
theorem keys_blockSurveillance :
    (blockSurveillance.keys s earlier).Sublist blockSurveillance.allKeys ∨
      blockSurveillance.keys s earlier =
        [Key.blockNsa, Key.blockSurveillance, Key.blockNsa] := by
  have hone : [Key.blockNsa].Sublist [Key.blockNsa, Key.blockSurveillance] :=
    List.sublist_append_left [Key.blockNsa] [Key.blockSurveillance]
  change (surveillanceAlias.lookupKeys _).Sublist _ ∨ surveillanceAlias.lookupKeys _ = _
  unfold Alias.lookupKeys
  split
  · exact .inl hone
  · split
    · exact .inl (List.Sublist.refl _)
    · exact .inl (List.Sublist.refl _)
    · split
      · exact .inr rfl
      · exact .inl (List.Sublist.refl _)

theorem keysInTurn_sublist (h : blockSurveillance ∉ items) :
    (keysInTurn s earlier items).Sublist (items.flatMap allKeys) := by
  induction items generalizing earlier with
  | nil => exact List.Sublist.refl _
  | cons item items ih =>
    rw [List.mem_cons, not_or] at h
    rw [keysInTurn, List.flatMap_cons]
    exact (keys_sublist earlier (Ne.symm h.1)).append (ih _ h.2)

variable {d r : String} {l before after : List String}

/-- In a list without repetitions, nothing stands before and after something else. -/
theorem count_of_nodup (h : l.Nodup) {key : String} (hkey : key ∈ l) :
    l.count key = if key = d ∧ [d, r, d] <:+: l then 2 else 1 := by
  rw [if_neg fun hd => ?_]
  · exact List.count_eq_one_of_mem h hkey
  · have hagain := hd.2.sublist.nodup h
    simp at hagain

/-- The same for a list with one repetition. -/
theorem count_of_again (h : (before ++ [d, r] ++ after).Nodup) {key : String}
    (hkey : key ∈ before ++ [d, r, d] ++ after) : (before ++ [d, r, d] ++ after).count key =
      if key = d ∧ [d, r, d] <:+: before ++ [d, r, d] ++ after then 2 else 1 := by
  have hinfix : [d, r, d] <:+: before ++ [d, r, d] ++ after := ⟨before, after, rfl⟩
  have hsplit : before ++ [d, r, d] ++ after = before ++ [d, r] ++ d :: after := by
    rw [List.append_assoc, List.append_assoc]
    rfl
  have hperm : (before ++ [d, r, d] ++ after).Perm (d :: (before ++ [d, r] ++ after)) :=
    hsplit ▸ List.perm_middle
  have hd : d ∈ before ++ [d, r] ++ after := by simp
  have hmem : key ∈ before ++ [d, r] ++ after := by
    rcases List.mem_cons.1 (hperm.mem_iff.1 hkey) with rfl | hmem
    · exact hd
    · exact hmem
  rw [hperm.count_eq, List.count_cons, List.count_eq_one_of_mem h hmem]
  by_cases hkd : key = d
  · rw [if_pos (beq_iff_eq.2 hkd.symm), if_pos ⟨hkd, hinfix⟩]
  · rw [if_neg fun h => hkd (beq_iff_eq.1 h).symm, if_neg fun h => hkd h.1]

/-- **No key is looked up twice, but for the former key of a renamed setting that counts.** -/
theorem count_keysInTurn (h : items.Sublist row) {key : String}
    (hkey : key ∈ keysInTurn s earlier items) : (keysInTurn s earlier items).count key =
      if key = Key.blockNsa ∧
        [Key.blockNsa, Key.blockSurveillance, Key.blockNsa] <:+: keysInTurn s earlier items
      then 2 else 1 := by
  have hnodup : (items.flatMap allKeys).Nodup := (h.flatMap allKeys).nodup nodup_allKeys
  by_cases hmem : blockSurveillance ∈ items
  · obtain ⟨before, after, rfl⟩ := List.append_of_mem hmem
    -- the setting that was renamed is neither before nor after itself
    have hitems := h.nodup nodup_row
    have hbefore : blockSurveillance ∉ before :=
      fun h => (List.nodup_append.1 hitems).2.2 _ h _ List.mem_cons_self rfl
    have hafter : blockSurveillance ∉ after := (List.nodup_cons.1 (List.nodup_append.1 hitems).2.1).1
    have hkeys := keysInTurn_append (s := s) earlier before (blockSurveillance :: after)
    rw [keysInTurn, ← List.append_assoc] at hkeys
    rw [List.flatMap_append, List.flatMap_cons, ← List.append_assoc] at hnodup
    rw [hkeys] at hkey ⊢
    have hfirst := keysInTurn_sublist (s := s) earlier hbefore
    have hlast := fun earlier => keysInTurn_sublist (s := s) earlier hafter
    rcases keys_blockSurveillance (s := s) (earlier ++ keysInTurn s earlier before) with
      hsub | htwice
    · exact count_of_nodup (((hfirst.append hsub).append (hlast _)).nodup hnodup) hkey
    · rw [htwice] at hkey ⊢
      exact count_of_again (((hfirst.append_right _).append (hlast _)).nodup hnodup) hkey
  · exact count_of_nodup ((keysInTurn_sublist earlier hmem).nodup hnodup) hkey

/-! ## Files that are opened -/

theorem pathsInTurn_eq_nil (h : ∀ item ∈ items, item ≠ clientKey ∧ item ≠ clientCertificate) :
    pathsInTurn s earlier items = [] := by
  induction items generalizing earlier with
  | nil => rfl
  | cons item items ih =>
    have hitem := h item List.mem_cons_self
    rw [pathsInTurn, ih _ fun item hmem => h item (List.mem_cons_of_mem _ hmem), List.append_nil]
    cases item with
    | clientKey => exact absurd rfl hitem.1
    | clientCertificate => exact absurd rfl hitem.2
    | _ => rfl

theorem ne_credential_of_mem_items {earlier : List String}
    (h : (s.source earlier Key.vpnProvider).textOr Default.vpnProvider ≠
      VpnProvider.cyberghost.text) :
    ∀ item ∈ Settings.items s earlier, item ≠ clientKey ∧ item ≠ clientCertificate := by
  unfold Settings.items DnsSettings.items
  rw [if_neg h]
  split <;> decide

end Setting.Item

/-! ## Every run -/

open Setting.Item

/-- How far a reading comes that attempts settings in turn: it attempts those of `done`, and does not
come to those of `rest`. -/
structure Reading.Progress {α : Type} (m : Reading α) (s : Surroundings) (j : Journal)
    (done rest : List Item) : Prop where
  /-- It looks up the keys of `done` in order, and nothing else. -/
  lookups : (m s j).2.lookups = j.lookups ++ keysInTurn s j.lookups done
  /-- If it gives a value, it has come to all settings. -/
  finished : ∀ a, (m s j).1 = .ok a → rest = []
  /-- If it fails, then as the last setting of `done` does, after those before it have succeeded. -/
  failed : ∀ e, (m s j).1 = .error e → ∃ before last j₁, done = before ++ [last] ∧
    attemptAll before s j = (.ok (), j₁) ∧ last.attempt s j₁ = (.error e, (m s j).2)
  /-- It goes the same way wherever what it has looked up and opened is the same. -/
  settled : ∀ s', s.Agrees s' j.lookups (keysInTurn s j.lookups done)
    (pathsInTurn s j.lookups done) → m s' j = m s j

theorem Reading.Follows.progress {α : Type} {m : Reading α} {items : List Item}
    (h : Follows m s j items) : ∃ done rest, items = done ++ rest ∧ Progress m s j done rest := by
  obtain ⟨rest, hrest, hok, herror⟩ := exists_attempted s items j
  have hlookups := lookups_attemptAll (s := s) items j
  rw [← h.attempt_eq] at hlookups hok herror
  refine ⟨_, rest, hrest, ?_, fun a ha => ?_, fun e he => ?_, h.congr⟩
  · cases hm : m s j with
    | mk r j₁ =>
      cases r with
      | ok a => rwa [attempt_of_ok hm] at hlookups
      | error e => rwa [attempt_of_error hm] at hlookups
  · exact hok _ (attempt_of_ok (run_eq ha))
  · exact herror e _ (attempt_of_error (run_eq he))

/-- **Every run of all settings attempts some of them in order**, and asks for nothing else. -/
theorem Settings.exists_progress (s : Surroundings) (j : Journal) :
    ∃ done rest, items s j.lookups = done ++ rest ∧ Progress Settings.read s j done rest ∧
      keysInTurn s j.lookups done <+: keysInTurn s j.lookups (items s j.lookups) ∧
      (∀ key ∈ keysInTurn s j.lookups done, (keysInTurn s j.lookups done).count key =
        if key = Key.blockNsa ∧ [Key.blockNsa, Key.blockSurveillance, Key.blockNsa] <:+:
          keysInTurn s j.lookups done then 2 else 1) ∧
      ((s.source j.lookups Key.vpnProvider).textOr Default.vpnProvider ≠
        VpnProvider.cyberghost.text → pathsInTurn s j.lookups done = []) := by
  have hfollows : Follows Settings.read s j (items s j.lookups) := Settings.follows_read
  obtain ⟨done, rest, hitems, hprogress⟩ := hfollows.progress
  have hdone : done.Sublist row := by
    refine List.Sublist.trans ?_ (items_sublist_row s j.lookups)
    rw [hitems]
    exact List.sublist_append_left done rest
  refine ⟨done, rest, hitems, hprogress, ?_, fun key hkey => count_keysInTurn j.lookups hdone hkey,
    fun hprovider => pathsInTurn_eq_nil j.lookups fun item hitem => ?_⟩
  · rw [hitems, keysInTurn_append]
    exact List.prefix_append _ _
  · refine ne_credential_of_mem_items hprovider item ?_
    rw [hitems]
    exact List.mem_append_left _ hitem

end VpnGateway
