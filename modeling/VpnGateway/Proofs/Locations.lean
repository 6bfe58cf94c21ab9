import Mathlib.Data.List.Nodup
import VpnGateway.Proofs.Footprint

/-!
# The locations of a credential

A credential is searched for in its secret file, then under its key, then in a file of last resort. The
search is a row of looks, one location after the other, which ends at the first that holds bytes or
whose lookup fails.

* `Location`, `Location.inOrder`: the locations;
* `Search`, `Search.held`: what each of them holds;
* `Search.first?`, `Search.visited`: the location that decides, and those that are looked at;
* `Reading.look`, `Reading.credentialBytes_eq_firstOf`: the search as a row of looks;
* `Reading.look_eq`, `Reading.reads_look`: what one location gives, and what it depends on;
* **`Reading.firstOf_run`**, `Reading.credentialBytes_search`: a row of locations, and all of them.
-/

namespace VpnGateway

/-- Where a credential may be kept. -/
inductive Location
  | secretFile | environment | fallbackFile
  deriving DecidableEq

namespace Location

/-- The locations in the order of the search. -/
def inOrder : List Location := [secretFile, environment, fallbackFile]

/-- The locations before another one. -/
def before (l : Location) : List Location := inOrder.takeWhile fun l' => l' ≠ l

/-- The origin that names a location. -/
def origin : Location → Origin
  | secretFile => .secretFile
  | environment => .environment
  | fallbackFile => .file

theorem before_eq {l : Location} {front back : List Location} (h : inOrder = front ++ l :: back) :
    l.before = front := by
  have hnodup : (front ++ l :: back).Nodup := h ▸ by decide
  have hne : ∀ l' ∈ front, decide (l' ≠ l) = true := by
    intro l' hl'
    exact decide_eq_true ((List.nodup_append.1 hnodup).2.2 l' hl' l List.mem_cons_self)
  rw [before, h, List.takeWhile_append_of_pos hne, List.takeWhile_cons_of_neg (by simp),
    List.append_nil]

end Location

open Location

/-- The text that the key is set to, if it counts as set, unless its bytes are no text. -/
def Answer.setting? (key : String) : Answer → Except SettingError (Option String)
  | .notUtf8 lossy => .error (.malformed key lossy .notUtf8)
  | answer => .ok answer.given?

theorem Answer.setting?_text {key value : String} (h : value ≠ "") :
    (Answer.text value).setting? key = .ok (some value) :=
  congrArg Except.ok (Answer.given?_text h)

theorem Answer.IsVacant.setting?_eq {a : Answer} (h : a.IsVacant) (key : String) :
    a.setting? key = .ok none := by
  rcases h with rfl | rfl <;> rfl

theorem Answer.setting?_eq_error {a : Answer} {key : String} {e : SettingError}
    (h : a.setting? key = .error e) : ∃ lossy, e = .malformed key lossy .notUtf8 := by
  cases a with
  | notUtf8 lossy =>
    cases h
    exact ⟨lossy, rfl⟩
  | unset => cases h
  | text value => cases h

/-- A search for the bytes of a credential, after some lookups. -/
structure Search where
  surroundings : Surroundings
  earlier : List String
  key : String
  fallback : Option String

namespace Search

variable (q : Search)

/-- The key that may name the secret file. -/
def pathKey : String := q.key ++ "_SECRETFILE"

/-- The path of the secret file: what its key says, or the key in lower case in the directory of
secrets. -/
def secretPath : Except SettingError String :=
  (fun path => path.getD (joinPath q.surroundings.secretsDirectory (Text.lowercase q.key))) <$>
    (q.surroundings.source q.earlier q.pathKey).setting? q.pathKey

/-- The bytes that a location holds, if there are any, unless its lookup fails. -/
def held : Location → Except SettingError (Option (List UInt8))
  | .secretFile => (fun path => (q.surroundings.files path).bytes?) <$> q.secretPath
  | .environment => Option.map Text.utf8Bytes <$>
      (q.surroundings.source (q.earlier ++ [q.pathKey]) q.key).setting? q.key
  | .fallbackFile => .ok (q.fallback.bind fun path => (q.surroundings.files path).bytes?)

/-- The keys that are looked up for a location. -/
def keys : Location → List String
  | .secretFile => [q.pathKey]
  | .environment => [q.key]
  | .fallbackFile => []

/-- The files that are opened for a location. -/
def paths : Location → List String
  | .secretFile => q.secretPath.toOption.toList
  | .environment => []
  | .fallbackFile => q.fallback.toList

/-- The location is passed over. -/
def IsVacant (l : Location) : Prop :=
  q.held l = .ok none

instance : DecidablePred q.IsVacant := fun _ => inferInstanceAs (Decidable (_ = _))

theorem not_isVacant_of_held {q : Search} {l : Location}
    {r : Except SettingError (Option (List UInt8))} (h : q.held l = r) (hr : r ≠ .ok none) :
    ¬ q.IsVacant l := by
  rw [IsVacant, h]
  exact hr

/-- The first location that holds bytes or whose lookup fails. -/
def first? : Option Location :=
  inOrder.find? fun l => ¬ q.IsVacant l

/-- The locations of a row up to the first that is not passed over. -/
def upTo : List Location → List Location
  | [] => []
  | l :: ls => l :: (if q.IsVacant l then upTo ls else [])

/-- The locations that are looked at. -/
def visited : List Location :=
  q.upTo inOrder

end Search

namespace Reading

/-- Look at a file, and log in the words `how` that it holds a credential. -/
def lookInto (key how : String) (origin : Origin) (path : String) :
    Reading (Option (List UInt8 × Origin)) := do
  match ← nonEmptyFile path with
  | some bytes =>
    note .debug .source (key ++ how ++ path)
    return some (bytes, origin)
  | none => return none

/-- Look at one location. -/
def look (key : String) (fallback : Option String) :
    Location → Reading (Option (List UInt8 × Origin))
  | .secretFile => do
    lookInto key " resolved from secret file " .secretFile (← secretFilePath key)
  | .environment => do
    let (value, origin) ← rawWithOrigin key .optional
    return if value ≠ "" then some (Text.utf8Bytes value, origin) else none
  | .fallbackFile =>
    match fallback with
    | none => return none
    | some path => lookInto key " resolved from file " .file path

/-- Look at one location after the other. -/
def firstOf (key : String) (fallback : Option String) :
    List Location → Reading (List UInt8 × Origin)
  | [] => fail (.missing key)
  | l :: ls => do
    match ← look key fallback l with
    | some v => return v
    | none => firstOf key fallback ls

theorem credentialBytes_eq_firstOf (key : String) (fallback : Option String) :
    credentialBytes key fallback = firstOf key fallback inOrder := by
  simp only [inOrder, firstOf, look, lookInto, bind_assoc]
  unfold credentialBytes
  -- both sides take the same steps, and part only on what is found
  refine congrArg (secretFilePath key >>= ·) (funext fun path => ?_)
  refine congrArg (nonEmptyFile path >>= ·) (funext fun found => ?_)
  cases found with
  | some bytes => rfl
  | none =>
    refine congrArg (rawWithOrigin key .optional >>= ·) (funext fun (value, origin) => ?_)
    by_cases hne : value ≠ ""
    · simp only [if_pos hne]
      rfl
    · simp only [if_neg hne]
      cases fallback with
      | none => rfl
      | some path =>
        simp only [pure_bind, bind_assoc]
        refine congrArg (nonEmptyFile path >>= ·) (funext fun found => ?_)
        cases found <;> rfl

/-! ## One location -/

section

variable {key how path : String} {origin : Origin} {s : Surroundings} {j : Journal}

theorem lookInto_eq : (lookInto key how origin path s j).1 =
    .ok ((s.files path).bytes?.map fun bytes => (bytes, origin)) := by
  rw [lookInto, bind_of_ok (nonEmptyFile_eq_bytes path s j)]
  cases (s.files path).bytes? <;> rfl

theorem reads_lookInto : Reads (lookInto key how origin path) s j [] [path] := by
  refine reads_nonEmptyFile.bind fun found j₁ _ => ?_
  cases found with
  | some bytes => exact ((NoKey.note _ _ _).bind fun _ => .pure _).reads
  | none => exact (NoKey.pure _).reads

end

theorem secretFilePath_eq (q : Search) {j : Journal} (hj : j.lookups = q.earlier) :
    secretFilePath q.key q.surroundings j =
      (verdict q.secretPath, j.asked q.pathKey) := by
  have hkey : q.pathKey = Key.secretFile q.key := rfl
  rw [Search.secretPath, ← hj, hkey]
  cases ha : q.surroundings.source j.lookups (Key.secretFile q.key) with
  | notUtf8 lossy =>
    have hlookup := lookup_eq (Key.secretFile q.key) q.surroundings j
    rw [ha] at hlookup
    exact bind_of_error hlookup
  | unset => exact secretFilePath_of_some (by rw [ha]; rfl)
  | text value => exact secretFilePath_of_some (by rw [ha]; rfl)

/-- **What one location gives** is what it holds, with the origin that names it. -/
theorem look_eq (q : Search) (l : Location) {j : Journal}
    (hj : j.lookups = q.earlier ++ l.before.flatMap q.keys) :
    (look q.key q.fallback l q.surroundings j).1 =
      verdict (Option.map (fun bytes => (bytes, l.origin)) <$> q.held l) := by
  cases l with
  | secretFile =>
    have hsecret := secretFilePath_eq q (hj.trans (List.append_nil _))
    rw [look, Search.held]
    cases hpath : q.secretPath with
    | error e =>
      rw [hpath] at hsecret
      rw [bind_of_error hsecret]
      rfl
    | ok path =>
      rw [hpath] at hsecret
      rw [bind_of_ok hsecret, lookInto_eq]
      rfl
  | environment =>
    have hlookups : j.lookups = q.earlier ++ [q.pathKey] := hj
    rw [look, Search.held, ← hlookups]
    have hraw := rawWithOrigin_eq q.key .optional q.surroundings j
    rcases (q.surroundings.source j.lookups q.key).cases with
      ⟨lossy, ha⟩ | hvacant | ⟨value, ha, hne⟩
    · rw [ha] at hraw ⊢
      rw [bind_of_error hraw]
      rfl
    · rw [hvacant.setting?_eq, bind_of_ok (rawWithOrigin_of_vacant hvacant)]
      rfl
    · rw [ha, found_given hne] at hraw
      rw [ha, Answer.setting?_text hne, bind_of_ok hraw]
      simp only [if_pos hne]
      rfl
  | fallbackFile =>
    rw [Search.held]
    cases q.fallback with
    | none => rfl
    | some path => exact lookInto_eq

/-- A location depends on its own keys and files. -/
theorem reads_look (q : Search) (l : Location) {j : Journal}
    (hj : j.lookups = q.earlier ++ l.before.flatMap q.keys) :
    Reads (look q.key q.fallback l) q.surroundings j (q.keys l) (q.paths l) := by
  cases l with
  | secretFile =>
    have hsecret := secretFilePath_eq q (hj.trans (List.append_nil _))
    rw [Search.paths]
    cases hpath : q.secretPath with
    | error e =>
      rw [hpath] at hsecret
      exact reads_secretFilePath.bind_of_error hsecret
    | ok path =>
      rw [hpath] at hsecret
      exact reads_secretFilePath.bind_of_ok hsecret reads_lookInto
  | environment => exact (oneKey_rawWithOrigin.bind fun _ => .pure _).reads
  | fallbackFile =>
    rw [Search.paths]
    cases q.fallback with
    | none => exact (NoKey.pure _).reads
    | some path => exact reads_lookInto

end Reading

/-! ## A row of locations -/

/-- What a search comes to with the location that decides. -/
def Search.found (q : Search) : Option Location → Except SettingError (List UInt8 × Origin)
  | none => .error (.missing q.key)
  | some l => do
    match ← q.held l with
    | some bytes => .ok (bytes, l.origin)
    | none => .error (.missing q.key)

namespace Reading

section

variable {q : Search} {l : Location} {front ls : List Location} {j j₁ : Journal}

/-- The lookups of one location make up the journal that the next one starts from. -/
theorem lookups_after_look (hj : j.lookups = q.earlier ++ l.before.flatMap q.keys)
    {r : Except Failure (Option (List UInt8 × Origin))}
    (h : look q.key q.fallback l q.surroundings j = (r, j₁)) :
    j₁.lookups = q.earlier ++ (l.before ++ [l]).flatMap q.keys := by
  have hlookups := (reads_look q l hj).lookups
  rw [h] at hlookups
  rw [hlookups, hj, List.flatMap_append, List.flatMap_singleton, List.append_assoc]

/-- **A row of locations gives what the first of them gives that is not passed over**, and depends on
the locations up to this one. -/
theorem firstOf_run (hls : inOrder = front ++ ls)
    (hj : j.lookups = q.earlier ++ front.flatMap q.keys) :
    (firstOf q.key q.fallback ls q.surroundings j).1 =
        verdict (q.found (ls.find? fun l => ¬ q.IsVacant l)) ∧
      Reads (firstOf q.key q.fallback ls) q.surroundings j
        ((q.upTo ls).flatMap q.keys) ((q.upTo ls).flatMap q.paths) := by
  -- on the rest of the row: the journal holds the lookups of the locations that were passed over
  induction ls generalizing front j with
  | nil => exact ⟨rfl, (NoKey.fail _).reads⟩
  | cons l ls ih =>
    rw [← before_eq hls] at hj hls
    have hreads := reads_look q l hj
    have hlook := run_eq (look_eq q l hj)
    rw [firstOf, Search.upTo]
    cases hheld : q.held l with
    | error e =>
      have hl : ¬ q.IsVacant l := Search.not_isVacant_of_held hheld nofun
      rw [hheld] at hlook
      rw [if_neg hl, List.find?_cons_of_pos (by simpa using hl), Search.found, hheld]
      refine ⟨?_, ?_⟩
      · rw [bind_of_error hlook]
        rfl
      · rw [List.flatMap_singleton, List.flatMap_singleton]
        exact hreads.bind_of_error hlook
    | ok content =>
      rw [hheld] at hlook
      cases content with
      | some bytes =>
        have hl : ¬ q.IsVacant l := Search.not_isVacant_of_held hheld nofun
        rw [if_neg hl, List.find?_cons_of_pos (by simpa using hl), Search.found, hheld]
        refine ⟨?_, ?_⟩
        · rw [bind_of_ok hlook]
          rfl
        · exact hreads.bind_of_ok hlook (NoKey.pure (bytes, l.origin)).reads
      | none =>
        have hl : q.IsVacant l := hheld
        have hnext := ih (hls.trans (List.append_cons _ _ _)) (lookups_after_look hj hlook)
        rw [if_pos hl, List.find?_cons_of_neg (by simpa using hl), bind_of_ok hlook]
        exact ⟨hnext.1, hreads.bind_of_ok hlook hnext.2⟩

end

/-- **The search gives what the first location gives that is not passed over**, and depends on the
locations up to this one. -/
theorem credentialBytes_search (s : Surroundings) (j : Journal) (key : String)
    (fallback : Option String) :
    let q : Search := ⟨s, j.lookups, key, fallback⟩
    (credentialBytes key fallback s j).1 = verdict (q.found q.first?) ∧
      Reads (credentialBytes key fallback) s j (q.visited.flatMap q.keys)
        (q.visited.flatMap q.paths) := by
  intro q
  have hj : j.lookups = q.earlier ++ ([] : List Location).flatMap q.keys :=
    (List.append_nil _).symm
  rw [credentialBytes_eq_firstOf]
  exact firstOf_run (List.nil_append _).symm hj

end Reading

end VpnGateway
