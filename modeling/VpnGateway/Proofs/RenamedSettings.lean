import VpnGateway.Proofs.Answers

/-!
# Renamed settings when answers change

A renamed setting is looked up under its two keys, and under the former one up to twice. The source
may answer each time as it likes.

* `Reading.Runs`, `Runs.bind`: what a reading does from a journal on, step by step;
* `Getter`, `Getter.value`, **`Getter.read_eq`**: the getters of typed values;
* `Alias.Course`: the ways that a resolution can go, with the keys that it looks up;
* **`Alias.course_iff`**: it goes in one of these ways, for all answers and getters.
-/

namespace VpnGateway

/-! ## Runs -/

namespace Reading

variable {α β : Type} {m : Reading α} {f : α → Reading β} {s : Surroundings} {j : Journal}
  {keys keys' : List String} {new new' : List Deprecation} {r r' : Except Failure α}

/-- From the journal on, the reading looks up the keys, gives the warnings `new`, and ends with
`r`. -/
structure Runs (m : Reading α) (s : Surroundings) (j : Journal) (keys : List String)
    (new : List Deprecation) (r : Except Failure α) : Prop where
  result : (m s j).1 = r
  lookups : (m s j).2.lookups = j.lookups ++ keys
  warnings : (m s j).2.warnings = j.warnings ++ new

namespace Runs

theorem liftExcept (x : Except Failure α) : Runs (liftExcept x) s j [] [] x :=
  ⟨rfl, (List.append_nil _).symm, (List.append_nil _).symm⟩

theorem pure (a : α) : Runs (Pure.pure a) s j [] [] (.ok a) := .liftExcept (.ok a)

theorem fail (e : SettingError) : Runs (fail e : Reading α) s j [] [] (.error (.error e)) :=
  .liftExcept (.error (.error e))

theorem note (level : Log.Level) (component : Log.Component) (text : String) :
    Runs (note level component text) s j [] [] (.ok ()) :=
  ⟨rfl, (List.append_nil _).symm, (List.append_nil _).symm⟩

theorem warn (d : Deprecation) : Runs (warn d) s j [] [d] (.ok ()) :=
  ⟨rfl, (List.append_nil _).symm, rfl⟩

/-- What follows a value goes on from the keys that were looked up for it. -/
theorem bind {a : α} {r : Except Failure β} (hm : Runs m s j keys new (.ok a))
    (hf : ∀ j₁ : Journal, j₁.lookups = j.lookups ++ keys → Runs (f a) s j₁ keys' new' r) :
    Runs (m >>= f) s j (keys ++ keys') (new ++ new') r := by
  have h : m s j = (.ok a, (m s j).2) := run_eq hm.result
  have hrest := hf (m s j).2 hm.lookups
  refine ⟨?_, ?_, ?_⟩ <;> rw [bind_of_ok h]
  · exact hrest.result
  · rw [hrest.lookups, hm.lookups, List.append_assoc]
  · rw [hrest.warnings, hm.warnings, List.append_assoc]

theorem bind_error {e : Failure} (hm : Runs m s j keys new (.error e)) :
    Runs (m >>= f) s j keys new (.error e) := by
  have h : m s j = (.error e, (m s j).2) := run_eq hm.result
  refine ⟨?_, ?_, ?_⟩ <;> rw [bind_of_error h]
  · exact hm.lookups
  · exact hm.warnings

/-- A value that is only put into another form. -/
theorem map (h : α → β) (hm : Runs m s j keys new r) :
    Runs (m >>= fun a => Pure.pure (h a)) s j keys new (h <$> r) := by
  cases r with
  | error e => exact hm.bind_error
  | ok a =>
    have hrun := hm.bind (f := fun a => Pure.pure (h a)) fun _ _ => .pure (h a)
    rwa [List.append_nil, List.append_nil] at hrun

/-- A reading runs in one way. -/
theorem unique (h : Runs m s j keys new r) (h' : Runs m s j keys' new' r') :
    keys = keys' ∧ r = r' :=
  ⟨List.append_cancel_left (h.lookups.symm.trans h'.lookups), h.result.symm.trans h'.result⟩

end Runs

end Reading

/-! ## Getters -/

/-- The ways to read a setting as a value of a type. -/
inductive Getter : Type → Type
  /-- As it is written. -/
  | text : Getter String
  | onOff : Getter Bool
  | integer (min max : Int64) : Getter Int64
  | choice (choices : List String) : Getter String
  | duration : Getter Duration
  | address : Getter Address
  /-- A comma list under a rule, where the empty text is the empty list. -/
  | list (rule : Rule) : Getter (List String)

namespace Getter

open Reading (raw typed validated otherType found OneKey raw_eq bind_of_ok bind_of_error)

variable {α : Type}

/-- The reading of a getter. -/
def read : Getter α → String → Policy → Reading α
  | text => Reading.raw
  | onOff => Reading.onOff
  | integer min max => fun key => Reading.integer key min max
  | choice choices => fun key => Reading.choice key choices
  | duration => Reading.duration
  | address => Reading.address
  | list rule => fun key => Reading.list key rule

/-- What a getter makes of the text of a key. -/
def value : Getter α → String → String → Except Failure α
  | text, _, raw => .ok raw
  | onOff, key, raw => verdict (readOnOff key raw)
  | integer min max, key, raw => verdict (readRange key min max raw)
  | choice choices, key, raw => verdict (readChoice key choices raw)
  | duration, key, raw => readDuration key raw
  | address, key, raw => verdict (readAddress key raw)
  | list rule, key, raw =>
    if raw = "" then .ok []
    else rule.apply key raw >>= fun v => match v.list? with
      | some l => .ok l
      | none => .error (.error (otherType key rule))

/-- What a getter makes of the answer for a key. -/
def result (g : Getter α) (key : String) (policy : Policy) (a : Answer) : Except Failure α :=
  match found key policy a with
  | .ok (raw, _) => g.value key raw
  | .error e => .error (.error e)

variable (g : Getter α) (key : String) (policy : Policy)

/-- A value under a rule is what the rule's reader makes of the text. -/
theorem typed_eq {rule : Rule} {project : Value → Option α} {inject : α → Value}
    {x : String → Except Failure α} (happly : ∀ raw, rule.apply key raw = inject <$> x raw)
    (hproject : ∀ a, project (inject a) = some a) :
    typed key rule policy project = raw key policy >>= fun raw => Reading.liftExcept (x raw) := by
  funext s j
  cases h : raw key policy s j with
  | mk r j₁ =>
    cases r with
    | error e => rw [bind_of_error h, typed, validated, bind_of_error (bind_of_error h)]
    | ok raw =>
      have hv : validated key rule policy s j = (rule.apply key raw, j₁) := bind_of_ok h
      rw [bind_of_ok h, typed]
      rw [happly] at hv
      cases hx : x raw with
      | error e =>
        rw [hx] at hv
        exact bind_of_error hv
      | ok a =>
        rw [hx] at hv
        refine (bind_of_ok hv).trans ?_
        rw [hproject]
        rfl

theorem list_eq (rule : Rule) : Reading.list key rule policy =
    raw key policy >>= fun raw => Reading.liftExcept ((list rule).value key raw) := by
  funext s j
  cases h : raw key policy s j with
  | mk r j₁ =>
    cases r with
    | error e => rw [bind_of_error h, Reading.list, bind_of_error h]
    | ok raw =>
      rw [bind_of_ok h, Reading.list, bind_of_ok h, value]
      split
      · rfl
      · cases hv : rule.apply key raw with
        | error e => rfl
        | ok v => cases v <;> rfl

/-- **A getter reads the text of the key, and then makes of it what it makes.** -/
theorem read_eq : g.read key policy =
    raw key policy >>= fun raw => Reading.liftExcept (g.value key raw) := by
  cases g with
  | text =>
    funext s j
    cases h : raw key policy s j with
    | mk r j₁ =>
      simp only [read, value, Bind.bind, h]
      cases r <;> rfl
  | onOff => exact typed_eq key policy (fun _ => rfl) fun _ => rfl
  | integer min max => exact typed_eq key policy (fun _ => rfl) fun _ => rfl
  | choice choices => exact typed_eq key policy (fun _ => rfl) fun _ => rfl
  | duration => exact typed_eq key policy (fun _ => rfl) fun _ => rfl
  | address => exact typed_eq key policy (fun _ => rfl) fun _ => rfl
  | list rule => exact list_eq key policy rule

theorem oneKey_read : OneKey key (g.read key policy) := by
  rw [read_eq]
  exact Reading.oneKey_raw.bind fun _ => .liftExcept _

/-- How a getter ends is decided by the answer for its key. -/
theorem read_fst (s : Surroundings) (j : Journal) :
    (g.read key policy s j).1 = g.result key policy (s.source j.lookups key) := by
  have h := raw_eq key policy s j
  rw [read_eq, result]
  cases hf : found key policy (s.source j.lookups key) with
  | ok v =>
    rw [hf] at h
    rw [bind_of_ok h]
    rfl
  | error e =>
    rw [hf] at h
    rw [bind_of_error h]

theorem runs_read (s : Surroundings) (j : Journal) : Reading.Runs (g.read key policy) s j [key] []
    (g.result key policy (s.source j.lookups key)) :=
  ⟨g.read_fst key policy s j, (g.oneKey_read key policy).lookups_eq s j,
    by rw [(g.oneKey_read key policy).warnings_eq, List.append_nil]⟩

end Getter

namespace Reading

variable {s : Surroundings} {j : Journal} {key : String}

theorem runs_raw_notUtf8 {lossy : String} (h : s.source j.lookups key = .notUtf8 lossy) :
    Runs (raw key .optional) s j [key] [] (.error (.error (.malformed key lossy .notUtf8))) := by
  have hrun := Getter.text.runs_read key .optional s j
  rwa [h] at hrun

theorem runs_raw_vacant (h : (s.source j.lookups key).IsVacant) :
    Runs (raw key .optional) s j [key] [] (.ok "") := by
  have hrun := Getter.text.runs_read key .optional s j
  rwa [Getter.result, found_vacant h] at hrun

theorem runs_raw_given {value : String} (h : s.source j.lookups key = .text value)
    (hne : value ≠ "") : Runs (raw key .optional) s j [key] [] (.ok value) := by
  have hrun := Getter.text.runs_read key .optional s j
  rwa [h, Getter.result, found_given hne] at hrun

end Reading

/-! ## Resolutions -/

/-- What the source says about a key after the keys of `earlier` and more keys. -/
def Surroundings.answer (s : Surroundings) (earlier more : List String) (key : String) : Answer :=
  s.source (earlier ++ more) key

namespace Alias

open Reading

variable {α : Type} (a : Alias) (g : Getter α)

/-- How a resolution goes: the keys that are looked up, and how it ends. What is said about a key
after other keys were looked up is given by `answer`. -/
inductive Course (answer : List String → String → Answer) :
    List String → Except Failure (Resolved α) → Prop
  /-- The former key is set to what is no text. -/
  | formerNotUtf8 {lossy : String} (h : answer [] a.deprecated = .notUtf8 lossy) :
      Course answer [a.deprecated] (.error (.error (.malformed a.deprecated lossy .notUtf8)))
  /-- The former key is not set: the new one is read as if it had never been renamed. -/
  | canonical (h : (answer [] a.deprecated).IsVacant) :
      Course answer [a.deprecated, a.replacement]
        ((fun value => ⟨value, .canonicalOnly, none⟩) <$>
          g.result a.replacement a.policy (answer [a.deprecated] a.replacement))
  /-- The former key is set, and the new one is set to what is no text. -/
  | currentNotUtf8 {former lossy : String} (h : answer [] a.deprecated = .text former)
      (hformer : former ≠ "") (hcurrent : answer [a.deprecated] a.replacement = .notUtf8 lossy) :
      Course answer [a.deprecated, a.replacement]
        (.error (.error (.malformed a.replacement lossy .notUtf8)))
  /-- The two keys are set to different texts. -/
  | conflict {former current : String} (h : answer [] a.deprecated = .text former)
      (hformer : former ≠ "") (h' : answer [a.deprecated] a.replacement = .text current)
      (hcurrent : current ≠ "") (hne : current ≠ former) :
      Course answer [a.deprecated, a.replacement]
        (.error (.error (.conflict a.deprecated a.replacement)))
  /-- The former key counts, and is then set to what is no text. -/
  | lastNotUtf8 {former lossy : String} (h : answer [] a.deprecated = .text former)
      (hformer : former ≠ "")
      (hcurrent : (answer [a.deprecated] a.replacement).IsVacant ∨
        answer [a.deprecated] a.replacement = .text former)
      (hlast : answer [a.deprecated, a.replacement] a.deprecated = .notUtf8 lossy) :
      Course answer [a.deprecated, a.replacement, a.deprecated]
        (.error (.error (.malformed a.deprecated lossy .notUtf8)))
  /-- The former key counts, and is then not set any more. -/
  | lastVacant {former : String} (h : answer [] a.deprecated = .text former)
      (hformer : former ≠ "")
      (hcurrent : (answer [a.deprecated] a.replacement).IsVacant ∨
        answer [a.deprecated] a.replacement = .text former)
      (hlast : (answer [a.deprecated, a.replacement] a.deprecated).IsVacant) :
      Course answer [a.deprecated, a.replacement, a.deprecated]
        (.error (.error (.missing a.deprecated)))
  /-- The former key counts, and the text that it is set to in the end is read. -/
  | deprecated {former last : String} (h : answer [] a.deprecated = .text former)
      (hformer : former ≠ "")
      (hcurrent : (answer [a.deprecated] a.replacement).IsVacant ∨
        answer [a.deprecated] a.replacement = .text former)
      (h' : answer [a.deprecated, a.replacement] a.deprecated = .text last) (hlast : last ≠ "") :
      Course answer [a.deprecated, a.replacement, a.deprecated]
        ((fun value => ⟨value, .deprecatedPresent, some ⟨a.deprecated, a.replacement⟩⟩) <$>
          g.value a.deprecated last)

/-- Whatever the answers are, a resolution goes in some way. -/
theorem exists_course (answer : List String → String → Answer) :
    ∃ keys r, Course a g answer keys r := by
  rcases (answer [] a.deprecated).cases with ⟨lossy, h⟩ | h | ⟨former, h, hformer⟩
  · exact ⟨_, _, .formerNotUtf8 h⟩
  · exact ⟨_, _, .canonical h⟩
  have hlast : (answer [a.deprecated] a.replacement).IsVacant ∨
      answer [a.deprecated] a.replacement = .text former → ∃ keys r, Course a g answer keys r := by
    intro hcurrent
    rcases (answer [a.deprecated, a.replacement] a.deprecated).cases with
      ⟨lossy, hlast⟩ | hlast | ⟨last, h', hlast⟩
    · exact ⟨_, _, .lastNotUtf8 h hformer hcurrent hlast⟩
    · exact ⟨_, _, .lastVacant h hformer hcurrent hlast⟩
    · exact ⟨_, _, .deprecated h hformer hcurrent h' hlast⟩
  rcases (answer [a.deprecated] a.replacement).cases with
    ⟨lossy, hcurrent⟩ | hcurrent | ⟨current, h', hcurrent⟩
  · exact ⟨_, _, .currentNotUtf8 h hformer hcurrent⟩
  · exact hlast (.inl hcurrent)
  · by_cases hne : current = former
    · exact hlast (.inr (hne ▸ h'))
    · exact ⟨_, _, .conflict h hformer h' hcurrent hne⟩

variable {a g} {s : Surroundings} {j : Journal}

theorem runs_detect_vacant (h : (s.source j.lookups a.deprecated).IsVacant) :
    Runs a.detect s j [a.deprecated] [] (.ok .canonicalOnly) :=
  (runs_raw_vacant h).bind (f := fun former => if former = "" then _ else _) fun _ _ => .pure _

/-- With the former key set, the new one is looked up too. -/
theorem runs_detect_given {former : String} {r : Except Failure String} {r' : Except Failure State}
    (h : s.source j.lookups a.deprecated = .text former) (hformer : former ≠ "")
    (hcurrent : ∀ j₁ : Journal, j₁.lookups = j.lookups ++ [a.deprecated] →
      Runs (raw a.replacement .optional) s j₁ [a.replacement] [] r)
    (hr : (r >>= fun current => if current ≠ "" ∧ current ≠ former then
      .error (.error (.conflict a.deprecated a.replacement)) else .ok .deprecatedPresent) = r') :
    Runs a.detect s j [a.deprecated, a.replacement] [] r' := by
  subst hr
  refine (runs_raw_given h hformer).bind (f := fun former => if former = "" then _ else _)
    fun j₁ hj₁ => ?_
  rw [if_neg hformer]
  have hrun := hcurrent j₁ hj₁
  cases r with
  | error e => exact hrun.bind_error
  | ok current =>
    change Runs _ s j₁ ([a.replacement] ++ []) ([] ++ [])
      (if current ≠ "" ∧ current ≠ former then _ else _)
    refine hrun.bind fun _ _ => ?_
    split
    · exact .fail _
    · exact .pure _

/-- The former key counts if the new one is not set, or set to the same text. -/
theorem runs_detect_present {former : String} (h : s.source j.lookups a.deprecated = .text former)
    (hformer : former ≠ "")
    (hcurrent : (s.answer j.lookups [a.deprecated] a.replacement).IsVacant ∨
      s.answer j.lookups [a.deprecated] a.replacement = .text former) :
    Runs a.detect s j [a.deprecated, a.replacement] [] (.ok .deprecatedPresent) := by
  rcases hcurrent with hcurrent | hcurrent
  · exact runs_detect_given h hformer (fun j₁ hj₁ => runs_raw_vacant (hj₁ ▸ hcurrent)) rfl
  · refine runs_detect_given h hformer (fun j₁ hj₁ => runs_raw_given (hj₁ ▸ hcurrent) hformer) ?_
    change (if former ≠ "" ∧ former ≠ former then _ else _) = _
    rw [if_neg fun hne => hne.2 rfl]

/-- If the former key counts, the setting is read under it as one that must be set. -/
theorem runs_resolve_present {former : String} (h : s.source j.lookups a.deprecated = .text former)
    (hformer : former ≠ "")
    (hcurrent : (s.answer j.lookups [a.deprecated] a.replacement).IsVacant ∨
      s.answer j.lookups [a.deprecated] a.replacement = .text former) :
    Runs (a.resolve g.read) s j [a.deprecated, a.replacement, a.deprecated] []
      ((fun value => ⟨value, .deprecatedPresent, some ⟨a.deprecated, a.replacement⟩⟩) <$>
        g.result a.deprecated .compulsory
          (s.answer j.lookups [a.deprecated, a.replacement] a.deprecated)) := by
  change Runs _ s j ([a.deprecated, a.replacement] ++ ([] ++ [a.deprecated])) ([] ++ ([] ++ [])) _
  refine (runs_detect_present h hformer hcurrent).bind fun j₁ hj₁ => ?_
  refine (Runs.note _ _ _).bind fun j₂ hj₂ => ?_
  have hlookups : j₂.lookups = j.lookups ++ [a.deprecated, a.replacement] := by
    rw [hj₂, hj₁, List.append_nil]
  rw [Surroundings.answer, ← hlookups]
  exact (g.runs_read a.deprecated .compulsory s j₂).map _

theorem runs_resolve_canonical (h : (s.source j.lookups a.deprecated).IsVacant) :
    Runs (a.resolve g.read) s j [a.deprecated, a.replacement] []
      ((fun value => ⟨value, .canonicalOnly, none⟩) <$>
        g.result a.replacement a.policy (s.answer j.lookups [a.deprecated] a.replacement)) := by
  change Runs _ s j ([a.deprecated] ++ ([] ++ [a.replacement])) ([] ++ ([] ++ [])) _
  refine (runs_detect_vacant h).bind fun j₁ hj₁ => ?_
  refine (Runs.note _ _ _).bind fun j₂ hj₂ => ?_
  have hlookups : j₂.lookups = j.lookups ++ [a.deprecated] := by
    rw [hj₂, hj₁, List.append_nil]
  rw [Surroundings.answer, ← hlookups]
  exact (g.runs_read a.replacement a.policy s j₂).map _

/-- A resolution runs in the way that the answers say. -/
theorem Course.runs {keys : List String} {r : Except Failure (Resolved α)}
    (h : Course a g (s.answer j.lookups) keys r) : Runs (a.resolve g.read) s j keys [] r := by
  have hnil : s.source j.lookups a.deprecated = s.answer j.lookups [] a.deprecated := by
    rw [Surroundings.answer, List.append_nil]
  cases h with
  | formerNotUtf8 h => exact .bind_error (.bind_error (runs_raw_notUtf8 (hnil.trans h)))
  | canonical h => exact runs_resolve_canonical (hnil ▸ h)
  | currentNotUtf8 h hformer hcurrent =>
    refine .bind_error (runs_detect_given (hnil.trans h) hformer
      (fun j₁ hj₁ => runs_raw_notUtf8 (hj₁ ▸ hcurrent)) rfl)
  | conflict h hformer h' hcurrent hne =>
    refine .bind_error (runs_detect_given (hnil.trans h) hformer
      (fun j₁ hj₁ => runs_raw_given (hj₁ ▸ h') hcurrent) ?_)
    exact if_pos ⟨hcurrent, hne⟩
  | lastNotUtf8 h hformer hcurrent hlast =>
    have hrun := runs_resolve_present (g := g) (hnil.trans h) hformer hcurrent
    rwa [hlast] at hrun
  | lastVacant h hformer hcurrent hlast =>
    have hrun := runs_resolve_present (g := g) (hnil.trans h) hformer hcurrent
    rwa [Getter.result, found_vacant hlast] at hrun
  | deprecated h hformer hcurrent h' hlast =>
    have hrun := runs_resolve_present (g := g) (hnil.trans h) hformer hcurrent
    rwa [Getter.result, h', found_given hlast] at hrun

/-- The keys that a resolution looks up. -/
def lookupKeys (a : Alias) (answer : List String → String → Answer) : List String :=
  match answer [] a.deprecated with
  | .notUtf8 _ => [a.deprecated]
  | former => match former.given?, answer [a.deprecated] a.replacement with
    | none, _ | some _, .notUtf8 _ => [a.deprecated, a.replacement]
    | some former, current =>
      if current.given? = none ∨ current.given? = some former
      then [a.deprecated, a.replacement, a.deprecated]
      else [a.deprecated, a.replacement]

theorem Course.keys_eq {answer : List String → String → Answer} {keys : List String}
    {r : Except Failure (Resolved α)} (h : Course a g answer keys r) :
    keys = a.lookupKeys answer := by
  cases h with
  | formerNotUtf8 h => rw [lookupKeys, h]
  | canonical h =>
    rw [lookupKeys]
    rcases h with h | h <;> simp [h, Answer.given?]
  | currentNotUtf8 h hformer hcurrent => simp [lookupKeys, h, Answer.given?, hformer, hcurrent]
  | conflict h hformer h' hcurrent hne =>
    simp [lookupKeys, h, h', Answer.given?, hformer, hcurrent, hne]
  | lastNotUtf8 h hformer hcurrent hlast
  | lastVacant h hformer hcurrent hlast
  | deprecated h hformer hcurrent hlast =>
    rcases hcurrent with (hcurrent | hcurrent) | hcurrent <;>
      simp [lookupKeys, h, hcurrent, Answer.given?, hformer]

/-- The warnings of a setting that was renamed. -/
def warnings : Except Failure (Resolved α) → List Deprecation
  | .ok resolved => resolved.warning.toList
  | .error _ => []

/-- A renamed setting goes as its resolution does, and gives the warning. -/
theorem Course.runs_renamed {keys : List String} {r : Except Failure (Resolved α)}
    (h : Course a g (s.answer j.lookups) keys r) :
    Runs (renamed a g.read) s j keys (warnings r) (Resolved.value <$> r) := by
  have hrun := h.runs
  cases r with
  | error e => exact hrun.bind_error
  | ok resolved =>
    obtain ⟨value, state, warning⟩ := resolved
    rw [← List.append_nil keys]
    refine hrun.bind fun j₁ _ => ?_
    cases warning with
    | none => exact .pure value
    | some d => exact (Runs.warn d).bind fun _ _ => .pure value

/-- **A resolution goes in the way that the answers say, and in no other.** -/
theorem course_iff (keys : List String) (r : Except Failure (Resolved α)) :
    Course a g (s.answer j.lookups) keys r ↔ Runs (a.resolve g.read) s j keys [] r := by
  refine ⟨Course.runs, fun h => ?_⟩
  obtain ⟨keys', r', h'⟩ := exists_course a g (s.answer j.lookups)
  obtain ⟨rfl, rfl⟩ := h.unique h'.runs
  exact h'

end Alias

end VpnGateway
