import VpnGateway.Proofs.Getters

/-!
# Where the bytes of credentials are found

* `Reading.blames_credentialBytes`: the keys that are to blame if they are not found;
* `Reading.yields_credentialBytes`: without a secret file, they are those of the variable;
* `Reading.CredentialRun`, **`Reading.credentialBytes_run`**: how the search for them can end.
-/

namespace VpnGateway

/-- A journal with one more line. -/
def Journal.add (j : Journal) (l : Log.Line) : Journal :=
  { j with log := j.log ++ [l] }

namespace Reading

variable {key path : String} {keys : List String} {s : Surroundings} {j j' : Journal}

theorem blames_nonEmptyFile : Blames (nonEmptyFile path) keys := by
  refine .bind .surroundings fun s => ?_
  split
  · exact .bind (.note _ _ _) fun _ => .pure _
  · exact .bind (.note _ _ _) fun _ => .pure _
  · exact .bind (.note _ _ _) fun _ => .pure _
  · exact .pure _

theorem blames_secretFilePath : Blames (secretFilePath key) [Key.secretFile key] := by
  refine .bind blames_lookup fun found => ?_
  split
  · exact .pure _
  · exact .bind .surroundings fun _ => .pure _

theorem blames_credentialBytes {fallback : Option String} :
    Blames (credentialBytes key fallback) [Key.secretFile key, key] := by
  refine .bind (blames_secretFilePath.mono (by simp)) fun path =>
    .bind blames_nonEmptyFile fun found => ?_
  split
  · exact .bind (.note _ _ _) fun _ => .pure _
  · refine .bind (blames_rawWithOrigin.mono (by simp)) fun (value, origin) => ?_
    dsimp only
    split
    · exact .pure _
    · split
      · exact .fail (by simp [SettingError.key])
      · refine .bind blames_nonEmptyFile fun found => ?_
        split
        · exact .bind (.note _ _ _) fun _ => .pure _
        · exact .fail (by simp [SettingError.key])

theorem yields_nonEmptyFile (h : s.files path = .absent) : Yields (nonEmptyFile path) s none := by
  refine .bind .surroundings ?_
  rw [h]
  exact .bind (.note _ _ _) (.pure _)

variable {map : String → Option String}

theorem yields_secretFilePath (hs : s.source = .ofMap map)
    (hkey : map (Key.secretFile key) = none) :
    Yields (secretFilePath key) s (joinPath s.secretsDirectory (Text.lowercase key)) := by
  refine .bind (yields_lookup hs) ?_
  rw [hkey]
  exact .bind .surroundings (.pure _)

/-- Without a secret file, the bytes of a credential are those of its variable. -/
theorem yields_credentialBytes (hs : s.source = .ofMap map)
    (hpath : map (Key.secretFile key) = none)
    (hfile : s.files (joinPath s.secretsDirectory (Text.lowercase key)) = .absent)
    {value : String} (hkey : map key = some value) (hne : value ≠ "") (fallback : Option String) :
    Yields (credentialBytes key fallback) s (Text.utf8Bytes value, .environment) := by
  refine .bind (yields_secretFilePath hs hpath) (.bind (yields_nonEmptyFile hfile) ?_)
  refine .bind (yields_rawWithOrigin hs (by rw [hkey, resolve_set hne])) ?_
  dsimp only
  rw [if_pos hne]
  exact .pure _

/-! ## How the search can end -/

/-- The line that says that a credential was found in a file, in the words `how`. -/
def foundLine (key how path : String) : Log.Line :=
  ⟨.debug, .source, key ++ how ++ path⟩

theorem nonEmptyFile_eq (path : String) (s : Surroundings) (j : Journal) :
    nonEmptyFile path s j = match s.files path with
      | .absent => (.ok none, j.add ⟨.debug, .files, "File " ++ path ++ " does not exist"⟩)
      | .unreadable error => (.ok none, j.add ⟨.debug, .files,
          "Cannot read file " ++ path ++ ": " ++ (GatewayError.file error).message⟩)
      | .content [] => (.ok none, j.add ⟨.debug, .files, "File " ++ path ++ " is empty"⟩)
      | .content (b :: bytes) => (.ok (some (b :: bytes)), j) := by
  have hs : surroundings s j = (.ok s, j) := rfl
  rw [nonEmptyFile, bind_of_ok hs]
  cases h : s.files path with
  | absent => rfl
  | unreadable error => rfl
  | content bytes => cases bytes <;> rfl

theorem lookup_eq_error {f : Failure} (h : lookup key s j = (.error f, j')) :
    ∃ lossy, f = .error (.malformed key lossy .notUtf8) := by
  rcases bind_eq_error.1 h with h | ⟨answer, j₁, -, h⟩
  · cases h
  · cases answer with
    | unset => cases h
    | text value => cases h
    | notUtf8 lossy =>
      cases h
      exact ⟨lossy, rfl⟩

theorem secretFilePath_eq_error {f : Failure} (h : secretFilePath key s j = (.error f, j')) :
    ∃ lossy, f = .error (.malformed (Key.secretFile key) lossy .notUtf8) := by
  rcases bind_eq_error.1 h with h | ⟨found, j₁, -, h⟩
  · exact lookup_eq_error h
  · cases hf : found.filter (· ≠ "") with
    | none =>
      rw [hf] at h
      cases h
    | some path =>
      rw [hf] at h
      cases h

/-- An optional setting has no text only if what it is set to is none. -/
theorem rawWithOrigin_eq_error {f : Failure}
    (h : rawWithOrigin key .optional s j = (.error f, j')) :
    ∃ lossy, f = .error (.malformed key lossy .notUtf8) := by
  rcases bind_eq_error.1 h with h | ⟨found, j₁, -, h⟩
  · exact lookup_eq_error h
  · unfold resolve at h
    cases hf : found.filter (· ≠ "") with
    | none =>
      rw [hf] at h
      cases h
    | some value =>
      rw [hf] at h
      cases h

theorem rawWithOrigin_of_notUtf8 {lossy : String} (policy : Policy)
    (h : s.source j.lookups key = .notUtf8 lossy) :
    ∃ j', rawWithOrigin key policy s j = (.error (.error (.malformed key lossy .notUtf8)), j') := by
  have hask : ask key s j = (.ok (.notUtf8 lossy), { j with lookups := j.lookups ++ [key] }) := by
    rw [ask, h]
  have hlookup : lookup key s j = (.error (.error (.malformed key lossy .notUtf8)),
      { j with lookups := j.lookups ++ [key] }) := by
    rw [lookup, bind_of_ok hask]
    rfl
  exact ⟨_, bind_of_error hlookup⟩

/-- How the search for the bytes of a credential ends, with what each step of it found. -/
inductive CredentialRun (key fallback : String) (s : Surroundings) (j : Journal) :
    Except Failure (List UInt8 × Origin) → Journal → Prop
  | noPath {lossy : String} {j₁ : Journal}
      (hpath : secretFilePath key s j =
        (.error (.error (.malformed (Key.secretFile key) lossy .notUtf8)), j₁)) :
      CredentialRun key fallback s j
        (.error (.error (.malformed (Key.secretFile key) lossy .notUtf8))) j₁
  | secretFile {path : String} {bytes : List UInt8} {j₁ j₂ : Journal}
      (hpath : secretFilePath key s j = (.ok path, j₁))
      (hfile : nonEmptyFile path s j₁ = (.ok (some bytes), j₂)) :
      CredentialRun key fallback s j (.ok (bytes, .secretFile))
        (j₂.add (foundLine key " resolved from secret file " path))
  | unreadable {path lossy : String} {j₁ j₂ j₃ : Journal}
      (hpath : secretFilePath key s j = (.ok path, j₁))
      (hfile : nonEmptyFile path s j₁ = (.ok none, j₂))
      (hraw : rawWithOrigin key .optional s j₂ =
        (.error (.error (.malformed key lossy .notUtf8)), j₃)) :
      CredentialRun key fallback s j (.error (.error (.malformed key lossy .notUtf8))) j₃
  | environment {path value : String} {origin : Origin} {j₁ j₂ j₃ : Journal}
      (hpath : secretFilePath key s j = (.ok path, j₁))
      (hfile : nonEmptyFile path s j₁ = (.ok none, j₂))
      (hraw : rawWithOrigin key .optional s j₂ = (.ok (value, origin), j₃)) (hne : value ≠ "") :
      CredentialRun key fallback s j (.ok (Text.utf8Bytes value, origin)) j₃
  | fallbackFile {path : String} {origin : Origin} {bytes : List UInt8} {j₁ j₂ j₃ j₄ : Journal}
      (hpath : secretFilePath key s j = (.ok path, j₁))
      (hfile : nonEmptyFile path s j₁ = (.ok none, j₂))
      (hraw : rawWithOrigin key .optional s j₂ = (.ok ("", origin), j₃))
      (hfallback : nonEmptyFile fallback s j₃ = (.ok (some bytes), j₄)) :
      CredentialRun key fallback s j (.ok (bytes, .file))
        (j₄.add (foundLine key " resolved from file " fallback))
  | missing {path : String} {origin : Origin} {j₁ j₂ j₃ j₄ : Journal}
      (hpath : secretFilePath key s j = (.ok path, j₁))
      (hfile : nonEmptyFile path s j₁ = (.ok none, j₂))
      (hraw : rawWithOrigin key .optional s j₂ = (.ok ("", origin), j₃))
      (hfallback : nonEmptyFile fallback s j₃ = (.ok none, j₄)) :
      CredentialRun key fallback s j (.error (.error (.missing key))) j₄

theorem nonEmptyFile_ne_error {f : Failure} : nonEmptyFile path s j ≠ (.error f, j') := by
  rw [nonEmptyFile_eq]
  split <;> simp

/-- **The search for the bytes of a credential ends in one of six ways.** -/
theorem credentialBytes_run (key fallback : String) (s : Surroundings) (j : Journal) :
    Ends (credentialBytes key (some fallback)) s j (CredentialRun key fallback s j) := by
  refine .bind (fun f j₁ hpath => ?_) fun path j₁ hpath => ?_
  · obtain ⟨lossy, rfl⟩ := secretFilePath_eq_error hpath
    exact .noPath hpath
  refine .bind (fun f j₂ hfile => absurd hfile nonEmptyFile_ne_error) fun found j₂ hfile => ?_
  cases found with
  | some bytes => exact .secretFile hpath hfile
  | none =>
    refine .bind (fun f j₃ hraw => ?_) fun (value, origin) j₃ hraw => ?_
    · obtain ⟨lossy, rfl⟩ := rawWithOrigin_eq_error hraw
      exact .unreadable hpath hfile hraw
    dsimp only
    by_cases hne : value ≠ ""
    · rw [if_pos hne]
      exact .environment hpath hfile hraw hne
    · rw [if_neg hne]
      rw [Decidable.not_not] at hne
      rw [hne] at hraw
      refine .bind (fun f j₄ hfallback => absurd hfallback nonEmptyFile_ne_error)
        fun found j₄ hfallback => ?_
      cases found with
      | some bytes => exact .fallbackFile hpath hfile hraw hfallback
      | none => exact .missing hpath hfile hraw hfallback

end Reading

end VpnGateway
