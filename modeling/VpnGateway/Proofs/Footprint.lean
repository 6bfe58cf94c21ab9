import VpnGateway.Proofs.RenamedSettings
import VpnGateway.Settings.Read

/-!
# What a reading depends on

A reading looks up keys and opens files, and nothing else of its surroundings can change it. What it
looks up may differ from run to run, so the footprint belongs to a run and not to a reading.

* `Surroundings.Agrees`: other surroundings say the same to a list of lookups and of paths;
* `Reading.Reads`, `Reads.bind_of_ok`: the keys and the paths that a run depends on, step by step;
* `Surroundings.credentialKeys`, `Surroundings.credentialPaths`: those of a credential;
* `Reading.reads_renamed`, **`Reading.reads_credentialBytes`**: the readings with more than one key.
-/

namespace VpnGateway

/-! ## Surroundings that agree -/

/-- The surroundings `s'` keep credentials in the same places as `s`. To the lookups of `keys` in
turn, after those of `earlier`, they say the same, and so they do about the files at `paths`. -/
structure Surroundings.Agrees (s s' : Surroundings) (earlier keys paths : List String) : Prop where
  secretsDirectory : s'.secretsDirectory = s.secretsDirectory
  clientKeyFile : s'.clientKeyFile = s.clientKeyFile
  clientCertificateFile : s'.clientCertificateFile = s.clientCertificateFile
  source : ∀ before key, before ++ [key] <+: keys →
    s'.source (earlier ++ before) key = s.source (earlier ++ before) key
  files : ∀ path ∈ paths, s'.files path = s.files path

namespace Surroundings.Agrees

variable {s s' : Surroundings} {earlier keys keys' paths paths' : List String} {key : String}

theorem left (h : s.Agrees s' earlier (keys ++ keys') (paths ++ paths')) :
    s.Agrees s' earlier keys paths where
  secretsDirectory := h.secretsDirectory
  clientKeyFile := h.clientKeyFile
  clientCertificateFile := h.clientCertificateFile
  source before key hkey := h.source before key (hkey.trans (List.prefix_append _ _))
  files path hpath := h.files path (List.mem_append_left _ hpath)

theorem right (h : s.Agrees s' earlier (keys ++ keys') (paths ++ paths')) :
    s.Agrees s' (earlier ++ keys) keys' paths' where
  secretsDirectory := h.secretsDirectory
  clientKeyFile := h.clientKeyFile
  clientCertificateFile := h.clientCertificateFile
  source before key hkey := by
    rw [List.append_assoc]
    refine h.source (keys ++ before) key ?_
    rw [List.append_assoc]
    exact (List.prefix_append_right_inj keys).2 hkey
  files path hpath := h.files path (List.mem_append_right _ hpath)

theorem source_singleton (h : s.Agrees s' earlier [key] paths) :
    s'.source earlier key = s.source earlier key := by
  have hsource := h.source [] key List.prefix_rfl
  rwa [List.append_nil] at hsource

end Surroundings.Agrees

/-! ## Runs and what they depend on -/

namespace Reading

variable {α β : Type} {m : Reading α} {f : α → Reading β} {s : Surroundings} {j j₁ : Journal}
  {key : String} {keys keys' paths paths' : List String}

/-- From the journal on, the reading looks up the keys, and with what is said to them and what is
found at the paths, all that it does is settled. -/
structure Reads (m : Reading α) (s : Surroundings) (j : Journal) (keys paths : List String) :
    Prop where
  lookups : (m s j).2.lookups = j.lookups ++ keys
  congr : ∀ s', s.Agrees s' j.lookups keys paths → m s' j = m s j

theorem NoKey.reads (hm : NoKey m) : Reads m s j [] [] := by
  obtain ⟨r, lines, hm⟩ := hm
  exact ⟨by rw [hm, List.append_nil]; rfl, fun s' _ => by rw [hm, hm]⟩

theorem OneKey.reads (hm : OneKey key m) : Reads m s j [key] [] :=
  ⟨hm.lookups_eq s j, fun _ h => hm.congr h.source_singleton⟩

namespace Reads

theorem warn (d : Deprecation) : Reads (warn d) s j [] [] :=
  ⟨(List.append_nil _).symm, fun _ _ => rfl⟩

theorem bind_of_ok {a : α} (hm : Reads m s j keys paths) (h : m s j = (.ok a, j₁))
    (hf : Reads (f a) s j₁ keys' paths') :
    Reads (m >>= f) s j (keys ++ keys') (paths ++ paths') := by
  have hlookups := hm.lookups
  rw [h] at hlookups
  refine ⟨?_, fun s' hs' => ?_⟩
  · rw [Reading.bind_of_ok h, hf.lookups, hlookups, List.append_assoc]
  · have h' : m s' j = (.ok a, j₁) := (hm.congr s' hs'.left).trans h
    rw [Reading.bind_of_ok h', Reading.bind_of_ok h]
    refine hf.congr s' ?_
    rw [hlookups]
    exact hs'.right

theorem bind_of_error {e : Failure} (hm : Reads m s j keys paths) (h : m s j = (.error e, j₁)) :
    Reads (m >>= f) s j keys paths := by
  have hlookups := hm.lookups
  rw [h] at hlookups
  refine ⟨?_, fun s' hs' => ?_⟩
  · rw [Reading.bind_of_error h, hlookups]
  · rw [Reading.bind_of_error h, Reading.bind_of_error ((hm.congr s' hs').trans h)]

/-- What follows depends on nothing more. -/
theorem bind (hm : Reads m s j keys paths)
    (hf : ∀ a j₁, m s j = (.ok a, j₁) → Reads (f a) s j₁ [] []) :
    Reads (m >>= f) s j keys paths := by
  cases h : m s j with
  | mk r j₁ =>
    cases r with
    | error e => exact hm.bind_of_error h
    | ok a =>
      have hread := hm.bind_of_ok h (hf a j₁ h)
      rwa [List.append_nil, List.append_nil] at hread

end Reads

/-! ## Renamed settings -/

/-- With no files to read, a sequence depends on some keys if its steps do. -/
theorem exists_reads_bind (hm : ∃ keys, Reads m s j keys [])
    (hf : ∀ a j₁, m s j = (.ok a, j₁) → ∃ keys, Reads (f a) s j₁ keys []) :
    ∃ keys, Reads (m >>= f) s j keys [] := by
  obtain ⟨keys, hm⟩ := hm
  cases h : m s j with
  | mk r j₁ =>
    cases r with
    | error e => exact ⟨keys, hm.bind_of_error h⟩
    | ok a =>
      obtain ⟨keys', hf⟩ := hf a j₁ h
      exact ⟨keys ++ keys', hm.bind_of_ok h hf⟩

theorem exists_reads_detect (a : Alias) : ∃ keys, Reads a.detect s j keys [] := by
  refine exists_reads_bind ⟨_, oneKey_raw.reads⟩ fun former j₁ _ => ?_
  split
  · exact ⟨_, (NoKey.pure _).reads⟩
  · refine ⟨_, (oneKey_raw.bind fun current => ?_).reads⟩
    split
    · exact .fail _
    · exact .pure _

theorem exists_reads_renamed (a : Alias) (g : Getter α) :
    ∃ keys, Reads (renamed a g.read) s j keys [] := by
  refine exists_reads_bind (exists_reads_bind (exists_reads_detect a) fun state j₁ _ =>
    exists_reads_bind ⟨_, (NoKey.note _ _ _).reads⟩ fun _ j₂ _ => ?_) fun resolved j₁ _ => ?_
  · cases state
    · exact ⟨_, ((g.oneKey_read _ _).bind fun _ => .pure _).reads⟩
    · exact ⟨_, ((g.oneKey_read _ _).bind fun _ => .pure _).reads⟩
  · refine ⟨[], ?_⟩
    split
    · exact (Reads.warn _).bind fun _ _ _ => (NoKey.pure _).reads
    · exact (NoKey.pure _).reads

/-- **A renamed setting depends on the keys that its resolution looks up.** -/
theorem reads_renamed (a : Alias) (g : Getter α) :
    Reads (renamed a g.read) s j (a.lookupKeys (s.answer j.lookups)) [] := by
  obtain ⟨keys, hreads⟩ := exists_reads_renamed (s := s) (j := j) a g
  obtain ⟨keys', r, hcourse⟩ := a.exists_course g (s.answer j.lookups)
  have hkeys : keys = keys' :=
    List.append_cancel_left (hreads.lookups.symm.trans hcourse.runs_renamed.lookups)
  rwa [← hcourse.keys_eq, ← hkeys]

/-! ## Credentials -/

end Reading

/-- The bytes to read, if there are any. -/
def FileStatus.bytes? : FileStatus → Option (List UInt8)
  | .content (b :: bytes) => some (b :: bytes)
  | _ => none

/-- What is logged about a file without bytes to read. -/
def FileStatus.remarks (path : String) : FileStatus → List Log.Line
  | .absent => [⟨.debug, .files, "File " ++ path ++ " does not exist"⟩]
  | .unreadable error => [⟨.debug, .files,
      "Cannot read file " ++ path ++ ": " ++ (GatewayError.file error).message⟩]
  | .content [] => [⟨.debug, .files, "File " ++ path ++ " is empty"⟩]
  | .content (_ :: _) => []

theorem Reading.nonEmptyFile_eq_bytes (path : String) (s : Surroundings) (j : Journal) :
    nonEmptyFile path s j = (.ok (s.files path).bytes?, j.addAll ((s.files path).remarks path)) := by
  rw [nonEmptyFile_eq]
  cases s.files path with
  | absent | unreadable error => rfl
  | content bytes =>
    cases bytes with
    | nil => rfl
    | cons b bytes => exact congrArg (Prod.mk _) j.addAll_nil.symm

instance (a : Answer) : Decidable a.IsVacant :=
  inferInstanceAs (Decidable (_ ∨ _))

namespace Surroundings

variable (s : Surroundings) (key : String)

/-- Where the secret file of a credential is, if the answer for its key is no failure. -/
def secretPath? : Answer → Option String
  | .notUtf8 _ => none
  | answer => some (answer.given?.getD (joinPath s.secretsDirectory (Text.lowercase key)))

/-- The keys that are looked up for a credential: its own key only if its secret file gives
nothing. -/
def credentialKeys (earlier : List String) : List String :=
  match s.secretPath? key (s.source earlier (Key.secretFile key)) with
  | none => [Key.secretFile key]
  | some path => match (s.files path).bytes? with
    | some _ => [Key.secretFile key]
    | none => [Key.secretFile key, key]

/-- The files that are opened for a credential: the one of last resort only if neither its secret
file nor its key gives anything. -/
def credentialPaths (fallback : String) (earlier : List String) : List String :=
  match s.secretPath? key (s.source earlier (Key.secretFile key)) with
  | none => []
  | some path => match (s.files path).bytes? with
    | some _ => [path]
    | none =>
      if (s.source (earlier ++ [Key.secretFile key]) key).IsVacant then [path, fallback] else [path]

end Surroundings

namespace Reading

open Surroundings

variable {s : Surroundings} {j j₁ : Journal} {key path fallback : String}

theorem reads_secretFilePath : Reads (secretFilePath key) s j [Key.secretFile key] [] := by
  refine oneKey_lookup.reads.bind fun found j₁ _ => ?_
  split
  · exact (NoKey.pure _).reads
  · refine ⟨(List.append_nil _).symm, fun s' hs' => ?_⟩
    change (Except.ok (joinPath s'.secretsDirectory _), _) =
      (Except.ok (joinPath s.secretsDirectory _), _)
    rw [hs'.secretsDirectory]

theorem secretFilePath_of_some
    (h : s.secretPath? key (s.source j.lookups (Key.secretFile key)) = some path) :
    secretFilePath key s j = (.ok path, j.asked (Key.secretFile key)) := by
  have hlookup := lookup_eq (Key.secretFile key) s j
  cases ha : s.source j.lookups (Key.secretFile key) with
  | notUtf8 lossy =>
    rw [ha] at h
    cases h
  | unset =>
    rw [ha] at h hlookup
    cases h
    exact bind_of_ok hlookup
  | text value =>
    rw [ha] at h hlookup
    rw [secretFilePath, bind_of_ok hlookup]
    by_cases hv : value = ""
    · subst hv
      cases h
      rfl
    · have hfilter : (some value).filter (fun v => decide (v ≠ "")) = some value := by
        simp [Option.filter, hv]
      simp only [secretPath?, Answer.given?_text hv, Option.getD_some, Option.some.injEq] at h
      rw [hfilter, h]
      rfl

theorem secretFilePath_of_none
    (h : s.secretPath? key (s.source j.lookups (Key.secretFile key)) = none) :
    ∃ e, secretFilePath key s j = (.error e, j.asked (Key.secretFile key)) := by
  have hlookup := lookup_eq (Key.secretFile key) s j
  cases ha : s.source j.lookups (Key.secretFile key) with
  | unset | text value =>
    rw [ha] at h
    cases h
  | notUtf8 lossy =>
    rw [ha] at hlookup
    exact ⟨_, bind_of_error hlookup⟩

theorem reads_nonEmptyFile : Reads (nonEmptyFile path) s j [] [path] := by
  refine ⟨?_, fun s' hs' => ?_⟩
  · rw [nonEmptyFile_eq_bytes, List.append_nil]
    rfl
  · rw [nonEmptyFile_eq_bytes, nonEmptyFile_eq_bytes, hs'.files path List.mem_cons_self]

/-- An optional setting whose key is not set has the empty text. -/
theorem rawWithOrigin_of_vacant (h : (s.source j.lookups key).IsVacant) :
    rawWithOrigin key .optional s j =
      (.ok ("", .unset), (j.asked key).add (originLine key .unset)) := by
  rw [rawWithOrigin_eq, found_vacant h]
  rfl

/-- An optional setting whose key is set has a text that is not empty, or none. -/
theorem ne_empty_of_rawWithOrigin {value : String} {origin : Origin}
    (h : ¬ (s.source j.lookups key).IsVacant)
    (hr : rawWithOrigin key .optional s j = (.ok (value, origin), j₁)) : value ≠ "" := by
  rw [rawWithOrigin_eq] at hr
  rcases (s.source j.lookups key).cases with ⟨lossy, ha⟩ | hvacant | ⟨text, ha, hne⟩
  · rw [ha] at hr
    cases hr
  · exact absurd hvacant h
  · rw [ha, found_given hne] at hr
    cases hr
    exact hne

/-- **The search for a credential depends on its keys and its files**, and on no more of them than
it needs. -/
theorem reads_credentialBytes (key fallback : String) :
    Reads (credentialBytes key (some fallback)) s j (s.credentialKeys key j.lookups)
      (s.credentialPaths key fallback j.lookups) := by
  rw [credentialKeys, credentialPaths]
  cases hpath : s.secretPath? key (s.source j.lookups (Key.secretFile key)) with
  | none =>
    obtain ⟨e, he⟩ := secretFilePath_of_none hpath
    exact reads_secretFilePath.bind_of_error he
  | some path =>
    have hfile := nonEmptyFile_eq_bytes path s (j.asked (Key.secretFile key))
    dsimp only
    cases hbytes : (s.files path).bytes? with
    | some bytes =>
      rw [hbytes] at hfile
      refine reads_secretFilePath.bind_of_ok (secretFilePath_of_some hpath) ?_
      refine reads_nonEmptyFile.bind_of_ok hfile ?_
      exact ((NoKey.note _ _ _).bind fun _ => .pure _).reads
    | none =>
      rw [hbytes] at hfile
      dsimp only
      by_cases hvacant : (s.source (j.lookups ++ [Key.secretFile key]) key).IsVacant
      · rw [if_pos hvacant]
        refine reads_secretFilePath.bind_of_ok (secretFilePath_of_some hpath) ?_
        refine reads_nonEmptyFile.bind_of_ok hfile ?_
        refine oneKey_rawWithOrigin.reads.bind_of_ok (rawWithOrigin_of_vacant hvacant) ?_
        refine reads_nonEmptyFile.bind fun found j₂ _ => ?_
        split
        · exact ((NoKey.note _ _ _).bind fun _ => .pure _).reads
        · exact (NoKey.fail _).reads
      · rw [if_neg hvacant]
        refine reads_secretFilePath.bind_of_ok (secretFilePath_of_some hpath) ?_
        refine reads_nonEmptyFile.bind_of_ok hfile ?_
        refine oneKey_rawWithOrigin.reads.bind fun (value, origin) j₂ hr => ?_
        dsimp only
        rw [if_pos (ne_empty_of_rawWithOrigin hvacant hr)]
        exact (NoKey.pure _).reads

end Reading

end VpnGateway
