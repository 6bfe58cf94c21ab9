import VpnGateway.Proofs.Groups
import VpnGateway.Proofs.Shows

/-!
# What a failed reading of the client key shows

A payload is not shown as such, but the texts around it may hold it.

* `LogShows`, `Exposes`: bytes are shown by the log, or by an error or the log;
* `Shown`: the texts that a failed reading of the client key takes from its surroundings;
* `logShows_credentialBytes`: what the search for the key leaves in the log;
* `shows_fault_iff`, `shows_search_iff`: what the error says of the key;
* **`exposes_iff`**: a part of a payload is exposed by these texts alone;
* **`exposes_oneLine`**: a key that has lost its line ends is exposed;
* `exposes_notUtf8`: so is a variable that is no text.
-/

namespace VpnGateway

open Reading

variable {b : List UInt8} {s : Surroundings} {j j' : Journal}

/-- A line of the log shows the bytes. -/
def LogShows (j : Journal) (b : List UInt8) : Prop :=
  ∃ l ∈ j.log, Shows l.brief b

/-- A failed reading shows the bytes, in the wording of its error or in a line of the log. -/
def Exposes (e : SettingError) (j : Journal) (b : List UInt8) : Prop :=
  Shows e.message b ∨ LogShows j b

/-- The paths that the search for the client key names. -/
inductive PathShown (s : Surroundings) (j : Journal) : String → Prop
  /-- Where the secret file is looked for. -/
  | secretFile {path : String} {j₁ : Journal}
      (hpath : secretFilePath Key.clientKey s j = (.ok path, j₁)) : PathShown s j path
  /-- The file of last resort, when nothing else is found. -/
  | fallback {path : String} {origin : Origin} {j₁ j₂ j₃ : Journal}
      (hpath : secretFilePath Key.clientKey s j = (.ok path, j₁))
      (hfile : nonEmptyFile path s j₁ = (.ok none, j₂))
      (hraw : rawWithOrigin Key.clientKey .optional s j₂ = (.ok ("", origin), j₃)) :
      PathShown s j s.clientKeyFile

/-- The texts that the wording of a fault quotes of the bytes of a credential. -/
inductive FramingQuote (r : List UInt8) : String → Prop
  /-- The label of a section without an end. -/
  | label {label : List UInt8} (h : Pem.firstSection r = .error (.missingEnd label)) :
      FramingQuote r (Text.quoted (Text.utf8Lossy label))
  /-- A line that begins a section and does not end as it should. -/
  | line {line : List UInt8} (h : Pem.firstSection r = .error (.illegalStart line)) :
      FramingQuote r (Text.quoted (Text.utf8Lossy line))

/-- The texts that a failed reading of the client key shows. -/
inductive Shown (s : Surroundings) (j : Journal) : String → Prop
  | path {path : String} (h : PathShown s j path) : Shown s j path
  /-- What can be read of a variable that is no text. -/
  | notText {key lossy : String} {j₁ : Journal}
      (h : credentialBytes Key.clientKey (some s.clientKeyFile) s j =
        (.error (.error (.malformed key lossy .notUtf8)), j₁)) : Shown s j (Text.quoted lossy)
  /-- What a fault quotes of the bytes that were found. -/
  | framing {r : List UInt8} {origin : Origin} {t : String} {j₁ : Journal}
      (h : credentialBytes Key.clientKey (some s.clientKeyFile) s j = (.ok (r, origin), j₁))
      (hq : FramingQuote r t) : Shown s j t

/-! ## The log -/

theorem logShows_add {l : Log.Line} : LogShows (j.add l) b ↔ LogShows j b ∨ Shows l.brief b := by
  simp only [LogShows, Journal.add, List.mem_append, List.mem_singleton]
  refine ⟨fun ⟨m, hm, hs⟩ => ?_, fun h => ?_⟩
  · rcases hm with hm | rfl
    · exact .inl ⟨m, hm, hs⟩
    · exact .inr hs
  · rcases h with ⟨m, hm, hs⟩ | hs
    · exact ⟨m, .inl hm, hs⟩
    · exact ⟨l, .inr rfl, hs⟩

/-- Lines that show nothing do not count. -/
theorem logShows_iff_of_logs {α : Type} {m : Reading α} {r : Except Failure α}
    (hm : Logs m fun l => ¬ Shows l.brief b) (h : m s j = (r, j')) :
    LogShows j' b ↔ LogShows j b := by
  obtain ⟨new, hlog, hnew⟩ := hm s j
  rw [h] at hlog
  change j'.log = j.log ++ new at hlog
  rw [LogShows, LogShows, hlog]
  refine ⟨fun ⟨l, hl, hs⟩ => ?_, fun ⟨l, hl, hs⟩ => ⟨l, List.mem_append_left new hl, hs⟩⟩
  exact ⟨l, (List.mem_append.1 hl).resolve_right fun hl => hnew l hl hs, hs⟩

theorem shows_brief (hb : LongBase64 b) (l : Log.Line) : Shows l.brief b ↔ Shows l.text b := by
  rw [Log.Line.brief]
  exact hb.shows_append_left (by cases l.level <;> decide)

theorem length_originLine_lt {key : String} (h : key.toList.length ≤ 30) (origin : Origin) :
    (originLine key origin).brief.toList.length < 64 := by
  have horigin : origin.text.toList.length ≤ 11 := by cases origin <;> decide
  change ("DEBUG" ++ " " ++ (key ++ " resolved from " ++ origin.text)).toList.length < 64
  rw [String.toList_append, String.toList_append, String.toList_append, String.toList_append,
    List.length_append, List.length_append, List.length_append, List.length_append]
  change 5 + 1 + (_ + 15 + _) < 64
  omega

theorem not_shows_originLine (hb : LongBase64 b) {key : String} (h : key.toList.length ≤ 30)
    (origin : Origin) : ¬ Shows (originLine key origin).brief b :=
  hb.not_shows (length_originLine_lt h origin)

theorem logs_secretFilePath {key : String} {p : Log.Line → Prop} : Logs (secretFilePath key) p := by
  refine .bind logs_lookup fun found => ?_
  split
  · exact .pure _
  · exact .bind .surroundings fun _ => .pure _

theorem logShows_nonEmptyFile (hb : LongBase64 b) {path : String} {found : Option (List UInt8)}
    (h : nonEmptyFile path s j = (.ok found, j')) :
    LogShows j' b ↔ LogShows j b ∨ found = none ∧ Shows path b := by
  rw [nonEmptyFile_eq] at h
  split at h
  all_goals cases h
  · rw [logShows_add, shows_brief hb, hb.shows_append_right (by decide),
      hb.shows_append_left (by decide), and_iff_right rfl]
  · rename_i error _
    rw [logShows_add, shows_brief hb, String.append_assoc,
      hb.shows_append_right (by cases error <;> decide +kernel), hb.shows_append_left (by decide),
      and_iff_right rfl]
  · rw [logShows_add, shows_brief hb, hb.shows_append_right (by decide),
      hb.shows_append_left (by decide), and_iff_right rfl]
  · simp

theorem logShows_secretFilePath {r : Except Failure String}
    (h : secretFilePath Key.clientKey s j = (r, j')) : LogShows j' b ↔ LogShows j b :=
  logShows_iff_of_logs logs_secretFilePath h

theorem logShows_rawWithOrigin (hb : LongBase64 b) {r : Except Failure (String × Origin)}
    (h : rawWithOrigin Key.clientKey .optional s j = (r, j')) : LogShows j' b ↔ LogShows j b :=
  logShows_iff_of_logs (logs_rawWithOrigin (not_shows_originLine hb (by decide))) h

theorem logShows_foundLine (hb : LongBase64 b) {how path : String}
    (h : EndsApart (Key.clientKey ++ how)) :
    LogShows (j.add (foundLine Key.clientKey how path)) b ↔ LogShows j b ∨ Shows path b := by
  rw [logShows_add, shows_brief hb]
  exact or_congr_right (hb.shows_append_left h)

/-- Which paths are named, by what the first steps of the search find. -/
theorem exists_pathShown_iff {path : String} {found : Option (List UInt8)} {j₁ j₂ : Journal}
    (hpath : secretFilePath Key.clientKey s j = (.ok path, j₁))
    (hfile : nonEmptyFile path s j₁ = (.ok found, j₂)) :
    (∃ t, PathShown s j t ∧ Shows t b) ↔ Shows path b ∨ Shows s.clientKeyFile b ∧ found = none ∧
      ∃ origin j₃, rawWithOrigin Key.clientKey .optional s j₂ = (.ok ("", origin), j₃) := by
  refine ⟨fun ⟨t, ht, hs⟩ => ?_, fun h => ?_⟩
  · cases ht with
    | secretFile hpath' =>
      cases hpath.symm.trans hpath'
      exact .inl hs
    | fallback hpath' hfile' hraw =>
      cases hpath.symm.trans hpath'
      cases hfile.symm.trans hfile'
      exact .inr ⟨hs, rfl, _, _, hraw⟩
  · rcases h with hs | ⟨hs, rfl, origin, j₃, hraw⟩
    · exact ⟨path, .secretFile hpath, hs⟩
    · exact ⟨s.clientKeyFile, .fallback hpath hfile hraw, hs⟩

/-- The search for the client key leaves the paths that it names in the log, and nothing else. -/
theorem logShows_credentialBytes (hb : LongBase64 b) {r : Except Failure (List UInt8 × Origin)}
    (h : credentialBytes Key.clientKey (some s.clientKeyFile) s j = (r, j')) :
    LogShows j' b ↔ LogShows j b ∨ ∃ path, PathShown s j path ∧ Shows path b := by
  -- each way the search ends rewrites the log step by step, from its end to its start
  cases (credentialBytes_run Key.clientKey s.clientKeyFile s j).elim h with
  | noPath hpath =>
    rw [logShows_secretFilePath hpath]
    refine (or_iff_left ?_).symm
    rintro ⟨path, hp, -⟩
    cases hp with
    | secretFile hpath' => cases hpath.symm.trans hpath'
    | fallback hpath' => cases hpath.symm.trans hpath'
  | secretFile hpath hfile =>
    rw [logShows_foundLine hb (by decide), logShows_nonEmptyFile hb hfile,
      logShows_secretFilePath hpath, exists_pathShown_iff hpath hfile]
    simp
  | unreadable hpath hfile hraw =>
    rw [logShows_rawWithOrigin hb hraw, logShows_nonEmptyFile hb hfile,
      logShows_secretFilePath hpath, exists_pathShown_iff hpath hfile, hraw]
    simp
  | environment hpath hfile hraw hne =>
    rw [logShows_rawWithOrigin hb hraw, logShows_nonEmptyFile hb hfile,
      logShows_secretFilePath hpath, exists_pathShown_iff hpath hfile, hraw]
    simp [hne]
  | fallbackFile hpath hfile hraw hfallback =>
    rw [logShows_foundLine hb (by decide), logShows_nonEmptyFile hb hfallback,
      logShows_rawWithOrigin hb hraw, logShows_nonEmptyFile hb hfile,
      logShows_secretFilePath hpath, exists_pathShown_iff hpath hfile, hraw]
    simp [or_assoc]
  | missing hpath hfile hraw hfallback =>
    rw [logShows_nonEmptyFile hb hfallback, logShows_rawWithOrigin hb hraw,
      logShows_nonEmptyFile hb hfile, logShows_secretFilePath hpath,
      exists_pathShown_iff hpath hfile, hraw]
    simp [or_assoc]

/-! ## The error -/

theorem length_message_lt (f : Base64.Fault) : f.message.toList.length < 64 := by
  cases f with
  | invalidCharacter x =>
    have hx : (toString x.toNat).toList.length ≤ 3 := by
      rw [Nat.toString_eq_ofList_toDigits, String.toList_ofList]
      exact (Nat.length_toDigits_le_iff (by decide) (by decide)).2
        (Nat.lt_trans (n := x.toNat) x.toNat_lt (by decide))
    change ("InvalidCharacter(" ++ toString x.toNat ++ ")").toList.length < 64
    rw [String.toList_append, String.toList_append, List.length_append, List.length_append]
    change 17 + _ + 1 < 64
    omega
  | prematurePadding | invalidTrailingPadding => decide

theorem length_otherSection_lt (found : Pem.Label) (wanted : CredentialKind) :
    (Credential.Fault.otherSection found wanted).message.toList.length < 64 := by
  have hfound : (Credential.foundName found).toList.length ≤ 19 := by cases found <;> decide
  have hwanted : wanted.text.toList.length ≤ 11 := by cases wanted <;> decide
  change ("found a " ++ Credential.foundName found ++ " block instead of " ++
    wanted.text).toList.length < 64
  rw [String.toList_append, String.toList_append, String.toList_append, List.length_append,
    List.length_append, List.length_append]
  change 8 + _ + 18 + _ < 64
  omega

/-- What the wording of a fault quotes. -/
def Pem.Fault.quotation? : Pem.Fault → Option String
  | missingEnd label => some (Text.quoted (Text.utf8Lossy label))
  | illegalStart line => some (Text.quoted (Text.utf8Lossy line))
  | body _ => none

theorem framingQuote_iff {r : List UInt8} {t : String} :
    FramingQuote r t ↔ ∃ f, Pem.firstSection r = .error f ∧ f.quotation? = some t := by
  refine ⟨fun h => ?_, fun ⟨f, hf, ht⟩ => ?_⟩
  · cases h with
    | label h => exact ⟨_, h, rfl⟩
    | line h => exact ⟨_, h, rfl⟩
  · cases f with
    | missingEnd label =>
      cases ht
      exact .label hf
    | illegalStart line =>
      cases ht
      exact .line hf
    | body f => cases ht

theorem shows_pemFault_iff (hb : LongBase64 b) (f : Pem.Fault) :
    Shows f.message b ↔ ∃ t, f.quotation? = some t ∧ Shows t b := by
  cases f with
  | missingEnd label =>
    change Shows ("section end " ++ Text.quoted (Text.utf8Lossy label) ++ " missing") b ↔ _
    rw [hb.shows_append_right (by decide), hb.shows_append_left (by decide)]
    simp [Pem.Fault.quotation?]
  | illegalStart line =>
    change Shows ("illegal section start: " ++ Text.quoted (Text.utf8Lossy line)) b ↔ _
    rw [hb.shows_append_left (by decide)]
    simp [Pem.Fault.quotation?]
  | body f =>
    refine iff_of_false (hb.not_shows (length_message_lt f)) ?_
    rintro ⟨t, ht, -⟩
    cases ht

/-- Of the bytes of a credential, its error shows what framing faults quote. -/
theorem shows_fault_iff (hb : LongBase64 b) {r : List UInt8} {kind : CredentialKind}
    {fault : Credential.Fault} (h : Credential.extract r kind = .error fault) :
    Shows fault.message b ↔ ∃ t, FramingQuote r t ∧ Shows t b := by
  simp only [framingQuote_iff]
  unfold Credential.extract at h
  cases hr : Pem.firstSection r with
  | error f =>
    rw [hr] at h
    cases h
    change Shows f.message b ↔ _
    rw [shows_pemFault_iff hb]
    simp
  | ok found =>
    -- the section was read, so what is wrong with it is its label, and that is short
    refine iff_of_false (hb.not_shows ?_) (by simp)
    rw [hr] at h
    cases found with
    | none =>
      cases h
      cases kind <;> decide
    | some section' =>
      obtain ⟨label, der⟩ := section'
      dsimp only at h
      split at h
      · cases h
      · cases h
        exact length_otherSection_lt label kind

theorem shows_notUtf8_iff (hb : LongBase64 b) {key lossy : String}
    (hkey : key = Key.clientKey ∨ key = Key.secretFile Key.clientKey) :
    Shows (SettingError.malformed key lossy .notUtf8).message b ↔ Shows (Text.quoted lossy) b := by
  have htail : StartsApart
      (" for " ++ (key ++ (" is not valid: " ++ FormatFault.notUtf8.message))) := by
    rcases hkey with rfl | rfl <;> decide +kernel
  change Shows ("value " ++ Text.quoted lossy ++ " for " ++ key ++ " is not valid: " ++
    FormatFault.notUtf8.message) b ↔ _
  rw [String.append_assoc, String.append_assoc, String.append_assoc, String.append_assoc,
    hb.shows_append_left (by decide), hb.shows_append_right htail]

/-! ## The client key -/

theorem clientKey_eq : Setting.clientKey s j =
    Setting.credential Key.clientKey .privateKey s.clientKeyFile s j := rfl

/-- What is shown, by what the search for the key comes to. -/
theorem exists_shown_iff {r : Except Failure (List UInt8 × Origin)}
    (h : credentialBytes Key.clientKey (some s.clientKeyFile) s j = (r, j')) :
    (∃ t, Shown s j t ∧ Shows t b) ↔ (∃ path, PathShown s j path ∧ Shows path b) ∨
      (∃ key lossy, r = .error (.error (.malformed key lossy .notUtf8)) ∧
        Shows (Text.quoted lossy) b) ∨
      ∃ bytes origin, r = .ok (bytes, origin) ∧ ∃ t, FramingQuote bytes t ∧ Shows t b := by
  refine ⟨fun ⟨t, ht, hs⟩ => ?_, fun hd => ?_⟩
  · cases ht with
    | path hp => exact .inl ⟨t, hp, hs⟩
    | notText h' =>
      cases h.symm.trans h'
      exact .inr (.inl ⟨_, _, rfl, hs⟩)
    | framing h' hq =>
      cases h.symm.trans h'
      exact .inr (.inr ⟨_, _, rfl, t, hq, hs⟩)
  · rcases hd with ⟨path, hp, hs⟩ | ⟨key, lossy, rfl, hs⟩ | ⟨bytes, origin, rfl, t, hq, hs⟩
    · exact ⟨path, .path hp, hs⟩
    · exact ⟨_, .notText h, hs⟩
    · exact ⟨t, .framing h hq, hs⟩

theorem shows_noCredential_iff (hb : LongBase64 b) (fault : Credential.Fault) :
    Shows (SettingError.noCredential Key.clientKey fault).message b ↔ Shows fault.message b :=
  hb.shows_append_left (by decide +kernel)

/-- The error of a search that finds nothing quotes a variable that is no text. -/
theorem shows_search_iff (hb : LongBase64 b) {e : SettingError}
    (h : credentialBytes Key.clientKey (some s.clientKeyFile) s j = (.error (.error e), j')) :
    Shows e.message b ↔ ∃ key lossy, e = .malformed key lossy .notUtf8 ∧
      Shows (Text.quoted lossy) b := by
  have hquoted : ∀ {key lossy : String}, key = Key.clientKey ∨ key = Key.secretFile Key.clientKey →
      (Shows (SettingError.malformed key lossy .notUtf8).message b ↔ ∃ key' lossy',
        SettingError.malformed key lossy .notUtf8 = .malformed key' lossy' .notUtf8 ∧
          Shows (Text.quoted lossy') b) := by
    intro key lossy hkey
    rw [shows_notUtf8_iff hb hkey]
    refine ⟨fun hs => ⟨key, lossy, rfl, hs⟩, fun ⟨_, _, he, hs⟩ => ?_⟩
    cases he
    exact hs
  cases (credentialBytes_run Key.clientKey s.clientKeyFile s j).elim h with
  | noPath hpath => exact hquoted (.inr rfl)
  | unreadable hpath hfile hraw => exact hquoted (.inl rfl)
  | missing hpath hfile hraw hfallback =>
    refine iff_of_false (hb.not_shows (by decide +kernel)) ?_
    rintro ⟨_, _, he, -⟩
    cases he

/-- A part of a payload is exposed by the texts that are shown, and by nothing else. -/
theorem exposes_clientKey (hb : LongBase64 b) {e : SettingError} (hj : ¬ LogShows j b)
    (h : Setting.clientKey s j = (.error (.error e), j')) :
    Exposes e j' b ↔ ∃ t, Shown s j t ∧ Shows t b := by
  rw [clientKey_eq] at h
  rcases bind_eq_error.1 h with h | ⟨⟨r, origin⟩, j₁, hbytes, h⟩
  · rw [exists_shown_iff h, Exposes, logShows_credentialBytes hb h, or_iff_right hj,
      shows_search_iff hb h, or_comm]
    simp
  · cases hf : Credential.extract r .privateKey with
    | ok c =>
      simp only [readCredential, hf] at h
      cases h
    | error fault =>
      simp only [readCredential, hf] at h
      cases h
      rw [exists_shown_iff hbytes, Exposes, logShows_credentialBytes hb hbytes, or_iff_right hj,
        shows_noCredential_iff hb, shows_fault_iff hb hf, or_comm]
      simp

/-! ## What is exposed -/

/-- Why a key on one line is not read. -/
def oneLineError (c : Credential) : SettingError :=
  .noCredential Key.clientKey (.unreadable (.missingEnd c.oneLineLabel))

theorem extract_oneLine (c : Credential) :
    Credential.extract c.oneLine .privateKey = .error (.unreadable (.missingEnd c.oneLineLabel)) := by
  rw [Credential.extract, c.firstSection_oneLine]

theorem clientKey_oneLine {c : Credential} {origin : Origin} {j₁ : Journal}
    (h : credentialBytes Key.clientKey (some s.clientKeyFile) s j = (.ok (c.oneLine, origin), j₁)) :
    Setting.clientKey s j = (.error (.error (oneLineError c)), j₁) := by
  rw [clientKey_eq, Setting.credential, bind_of_ok h]
  simp only [readCredential, extract_oneLine]
  rfl

/-- **A key that has lost its line ends is exposed**, wherever it is found. -/
theorem exposes_oneLine {c : Credential} (hb : LongBase64 (Base64.encode c.der)) (j : Journal) :
    Exposes (oneLineError c) j (Base64.encode c.der) := by
  refine .inl ?_
  rw [oneLineError, shows_noCredential_iff hb, shows_fault_iff hb (extract_oneLine c)]
  exact ⟨_, .label c.firstSection_oneLine,
    hb.shows_quoted_utf8Lossy c.encode_infix_oneLineLabel⟩

/-- **A variable that is no text is exposed**, once the search comes to it. -/
theorem exposes_notUtf8 {env : Environment} (ht : s.source = .ofEnvironment env)
    {bytes : List UInt8} (hvalue : env.value? Key.clientKey = some bytes)
    (hutf8 : Text.utf8Text? bytes = none) (hb : LongBase64 b) (hpart : b <:+: bytes)
    {path : String} {j₁ j₂ : Journal} (hpath : secretFilePath Key.clientKey s j = (.ok path, j₁))
    (hfile : nonEmptyFile path s j₁ = (.ok none, j₂)) :
    ∃ e j', Setting.clientKey s j = (.error (.error e), j') ∧ Exposes e j' b := by
  have hanswer : s.source j₂.lookups Key.clientKey = .notUtf8 (Text.utf8Lossy bytes) := by
    simp only [ht, Source.ofEnvironment, hvalue, Answer.ofBytes, hutf8]
  obtain ⟨j₃, hraw⟩ := rawWithOrigin_of_notUtf8 .optional hanswer
  have hsearch : credentialBytes Key.clientKey (some s.clientKeyFile) s j =
      (.error (.error (.malformed Key.clientKey (Text.utf8Lossy bytes) .notUtf8)), j₃) := by
    rw [credentialBytes, bind_of_ok hpath, bind_of_ok hfile]
    exact bind_of_error hraw
  refine ⟨_, j₃, ?_, .inl ((shows_notUtf8_iff hb (.inl rfl)).2 (hb.shows_quoted_utf8Lossy hpart))⟩
  rw [clientKey_eq]
  exact bind_of_error hsearch

/-! ## All settings -/

/-- What is read before the client key leaves nothing of a payload in the log. -/
theorem logShows_vpnProvider (hb : LongBase64 b) {r : Except Failure VpnProvider}
    (h : Setting.vpnProvider s j = (r, j')) : LogShows j' b ↔ LogShows j b := by
  have hnames : ∀ name ∈ VpnProvider.choices, name.toList.length < 64 := by decide
  refine logShows_iff_of_logs
    (Setting.logs_vpnProvider (not_shows_originLine hb (by decide)) fun name hname => ?_) h
  rw [shows_brief hb, hb.shows_append_left (by decide)]
  exact hb.not_shows (hnames name hname)

theorem logShows_dns (hb : LongBase64 b) {r : Except Failure DnsSettings}
    (h : DnsSettings.read s j = (r, j')) : LogShows j' b ↔ LogShows j b := by
  have hkeys : ∀ key ∈ DnsSettings.lookupKeys, key.toList.length ≤ 30 := by decide
  refine logShows_iff_of_logs (DnsSettings.logs_read
    (fun key hkey => not_shows_originLine hb (hkeys key hkey)) fun state => ?_) h
  exact hb.not_shows (by cases state <;> decide +kernel)

/-- A reading of all settings that fails for the client key fails where it reads that key, and has
left nothing of a payload in the log before. -/
theorem clientKey_of_read (hb : LongBase64 b) (hj : ¬ LogShows j b) {e : SettingError}
    (h : Settings.read s j = (.error (.error e), j'))
    (hkey : e.key ∈ Setting.credentialKeys Key.clientKey) :
    ∃ j₁, ¬ LogShows j₁ b ∧ Setting.clientKey s j₁ = (.error (.error e), j') := by
  -- the error names the client key, so no reading of another key has failed
  have hother : ∀ {keys : List String}, (∀ key ∈ keys, key ∉ Setting.credentialKeys Key.clientKey) →
      ¬ e.key ∈ keys := fun hkeys he => hkeys _ he hkey
  rcases bind_eq_error.1 h with h | ⟨provider, j₁, h₁, h⟩
  · exact absurd (Setting.blames_vpnProvider s j e j' h) (hother (by decide))
  rw [← logShows_vpnProvider hb h₁] at hj
  rcases bind_eq_error.1 h with h | ⟨dns, j₂, h₂, h⟩
  · exact absurd (DnsSettings.blames_read s j₁ e j' h) (hother (by decide))
  rw [← logShows_dns hb h₂] at hj
  split at h
  · rcases bind_eq_error.1 h with h | ⟨c, j₃, -, h⟩
    · rcases bind_eq_error.1 h with h | ⟨group, j₃, h₃, h⟩
      · exact absurd (blames_typed s j₂ e j' h) (hother (by decide))
      rw [← logShows_iff_of_logs (logs_typed (not_shows_originLine hb (by decide))) h₃] at hj
      rcases bind_eq_error.1 h with h | ⟨regions, j₄, h₄, h⟩
      · exact absurd (blames_list s j₃ e j' h) (hother (by decide))
      rw [← logShows_iff_of_logs (logs_list (not_shows_originLine hb (by decide))) h₄] at hj
      rcases bind_eq_error.1 h with h | ⟨clientKey, j₅, -, h⟩
      · exact ⟨j₄, hj, h⟩
      rcases bind_eq_error.1 h with h | ⟨clientCertificate, j₆, -, h⟩
      · exact absurd (Setting.blames_credential s j₅ e j' h) (hother (by decide))
      · cases h
    · cases h
  · cases h

theorem not_logShows_of_log_eq_nil (h : j.log = []) : ¬ LogShows j b := by
  rintro ⟨l, hl, -⟩
  rw [h] at hl
  exact absurd hl List.not_mem_nil

/-! ## A key on one line -/

/-- The variables of a client key that has lost its line ends. -/
def Credential.oneLineMap (c : Credential) (key : String) : Option String :=
  List.lookup key [(Key.vpnProvider, VpnProvider.cyberghost.text), (Key.dnsOverTls, "off"),
    (Key.clientKey, asciiText c.oneLine)]

/-- The surroundings with these variables and without files. -/
def Surroundings.withOneLine (c : Credential) : Surroundings where
  source := .ofMap c.oneLineMap
  files := fun _ => .absent

/-- A private key of 48 bytes. -/
def Credential.zeros : Credential where
  kind := .privateKey
  der := List.replicate 48 0

theorem longBase64_zeros : LongBase64 (Base64.encode Credential.zeros.der) :=
  ⟨by decide +kernel, _, rfl⟩

theorem credentialBytes_withOneLine (c : Credential) (j : Journal) :
    ∃ j', credentialBytes Key.clientKey (some (Surroundings.withOneLine c).clientKeyFile)
      (.withOneLine c) j = (.ok (c.oneLine, .environment), j') := by
  have hbytes := Text.utf8Bytes_asciiText c.isAscii_oneLine
  have hne : Credential.asciiText c.oneLine ≠ "" := by
    intro he
    rw [he] at hbytes
    exact c.oneLine_ne_nil hbytes.symm
  have hsource : (Surroundings.withOneLine c).source = .ofMap c.oneLineMap := rfl
  have hpath : c.oneLineMap (Key.secretFile Key.clientKey) = none := rfl
  have hvalue : c.oneLineMap Key.clientKey = some (Credential.asciiText c.oneLine) := rfl
  have hyields := yields_credentialBytes hsource hpath rfl hvalue hne
    (some (Surroundings.withOneLine c).clientKeyFile)
  rw [hbytes] at hyields
  obtain ⟨j', h, -⟩ := hyields j
  exact ⟨j', h⟩

theorem read_withOneLine (c : Credential) :
    ∃ j', Settings.read (.withOneLine c) {} = (.error (.error (oneLineError c)), j') := by
  obtain ⟨j₁, hprovider⟩ : ∃ j', Setting.vpnProvider (.withOneLine c) {} =
      (.ok .cyberghost, j') := ⟨_, rfl⟩
  obtain ⟨dns, j₂, hdns⟩ : ∃ dns j', DnsSettings.read (.withOneLine c) j₁ = (.ok dns, j') :=
    ⟨_, _, rfl⟩
  obtain ⟨group, j₃, hgroup⟩ : ∃ group j', Setting.cyberghostGroup (.withOneLine c) j₂ =
      (.ok group, j') := ⟨_, _, rfl⟩
  obtain ⟨regions, j₄, hregions⟩ : ∃ regions j', Setting.cyberghostRegions (.withOneLine c) j₃ =
      (.ok regions, j') := ⟨_, _, rfl⟩
  obtain ⟨j', h⟩ := credentialBytes_withOneLine c j₄
  have hcyberghost : CyberghostSettings.read (.withOneLine c) j₂ =
      (.error (.error (oneLineError c)), j') := by
    rw [CyberghostSettings.read, bind_of_ok hgroup, bind_of_ok hregions]
    exact bind_of_error (clientKey_oneLine h)
  refine ⟨j', ?_⟩
  rw [Settings.read, bind_of_ok hprovider, bind_of_ok hdns, if_pos rfl]
  exact bind_of_error hcyberghost

/-! ## The result -/

/-- **A failed reading of the client key exposes a part of a payload if and only if one of the texts
that it shows does**, alone or among all settings. -/
theorem exposes_iff (hb : LongBase64 b) (hj : j.log = []) :
    (∀ e j', Setting.clientKey s j = (.error (.error e), j') →
      (Exposes e j' b ↔ ∃ t, Shown s j t ∧ Shows t b)) ∧
    ∀ e j', Settings.read s j = (.error (.error e), j') →
      e.key ∈ Setting.credentialKeys Key.clientKey →
        ∃ j₁, Setting.clientKey s j₁ = (.error (.error e), j') ∧
          (Exposes e j' b ↔ ∃ t, Shown s j₁ t ∧ Shows t b) := by
  have hquiet := not_logShows_of_log_eq_nil (b := b) hj
  refine ⟨fun e j' h => exposes_clientKey hb hquiet h, fun e j' h hkey => ?_⟩
  obtain ⟨j₁, hj₁, h₁⟩ := clientKey_of_read hb hquiet h hkey
  exact ⟨j₁, h₁, exposes_clientKey hb hj₁ h₁⟩

theorem exposes_iff_zeros :
    let b := Base64.encode Credential.zeros.der
    (∃ e j', Setting.clientKey (.withOneLine .zeros) {} = (.error (.error e), j') ∧
      (Exposes e j' b ↔ ∃ t, Shown (.withOneLine .zeros) {} t ∧ Shows t b)) ∧
    ∃ e j', Settings.read (.withOneLine .zeros) {} = (.error (.error e), j') ∧
      e.key ∈ Setting.credentialKeys Key.clientKey ∧
        ∃ j₁, Setting.clientKey (.withOneLine .zeros) j₁ = (.error (.error e), j') ∧
          (Exposes e j' b ↔ ∃ t, Shown (.withOneLine .zeros) j₁ t ∧ Shows t b) := by
  intro b
  have hiff := exposes_iff (s := .withOneLine .zeros) longBase64_zeros (j := {}) rfl
  obtain ⟨j₁, hbytes⟩ := credentialBytes_withOneLine .zeros {}
  have hkey := clientKey_oneLine hbytes
  obtain ⟨j', hread⟩ := read_withOneLine .zeros
  have hmem : (oneLineError .zeros).key ∈ Setting.credentialKeys Key.clientKey := by decide
  exact ⟨⟨_, j₁, hkey, hiff.1 _ j₁ hkey⟩, _, j', hread, hmem, hiff.2 _ j' hread hmem⟩

/-- A part of a payload is exposed: that of a key on one line. -/
theorem exists_exposed : ¬ ∀ s r origin j₁ e j' b,
    credentialBytes Key.clientKey (some s.clientKeyFile) s {} = (.ok (r, origin), j₁) →
      b <:+: r → LongBase64 b → Setting.clientKey s {} = (.error (.error e), j') →
        ¬ Exposes e j' b := by
  intro hsecret
  obtain ⟨j₁, hbytes⟩ := credentialBytes_withOneLine .zeros {}
  exact hsecret _ _ _ _ _ _ _ hbytes (Credential.encode_infix_oneLine .zeros) longBase64_zeros
    (clientKey_oneLine hbytes) (exposes_oneLine longBase64_zeros j₁)

end VpnGateway
