import Mathlib.Tactic.Choose
import VpnGateway.Proofs.CredentialBytes

/-!
# What one answer decides

A setting that has one key is decided by what the source says about that key: its value or its
error, and the lines that are logged.

* `Answer.IsVacant`, `Answer.given?`: what counts as not set, and the text of what is set;
* `Reading.looked`, `Reading.lookup_eq`: what an answer makes of a lookup;
* `Reading.found`, **`Reading.rawWithOrigin_eq`**: what it makes of a setting;
* `Reading.NoKey`, `Reading.OneKey`: the readings that ask for nothing, and for one key;
* `Reading.OfText`, `Reading.ofText_typed` and its neighbours: the readings that take the text of one
  setting, which therefore ask for one key.
-/

namespace VpnGateway

/-! ## Answers -/

/-- The key counts as not set. -/
def Answer.IsVacant (a : Answer) : Prop :=
  a = .unset ∨ a = .text ""

/-- The text that the key is set to, if it counts as set. -/
def Answer.given? : Answer → Option String
  | .text value => if value = "" then none else some value
  | _ => none

/-- An answer is no text, or it is vacant, or it gives a text. -/
theorem Answer.cases (a : Answer) :
    (∃ lossy, a = .notUtf8 lossy) ∨ a.IsVacant ∨ ∃ value, a = .text value ∧ value ≠ "" := by
  cases a with
  | notUtf8 lossy => exact .inl ⟨lossy, rfl⟩
  | unset => exact .inr (.inl (.inl rfl))
  | text value =>
    by_cases h : value = ""
    · exact .inr (.inl (.inr (by rw [h])))
    · exact .inr (.inr ⟨value, rfl, h⟩)

theorem Answer.IsVacant.given?_eq {a : Answer} (h : a.IsVacant) : a.given? = none := by
  rcases h with rfl | rfl <;> rfl

theorem Answer.given?_text {value : String} (h : value ≠ "") :
    (Answer.text value).given? = some value := if_neg h

/-! ## Maps -/

/-- The surroundings with the answers of a map. -/
def Surroundings.withMap (s : Surroundings) (map : String → Option String) : Surroundings :=
  { s with source := .ofMap map }

namespace Source

variable {map : String → Option String} {earlier : List String} {key value : String}

theorem ofMap_ne_notUtf8 {lossy : String} : ofMap map earlier key ≠ .notUtf8 lossy := by
  unfold ofMap
  split <;> nofun

theorem ofMap_eq_text_iff : ofMap map earlier key = .text value ↔ map key = some value := by
  unfold ofMap
  cases map key <;> simp

/-- A map leaves a key vacant if it sets it to nothing but the empty text. -/
theorem isVacant_ofMap_iff :
    (ofMap map earlier key).IsVacant ↔ ∀ value, map key = some value → value = "" := by
  unfold ofMap Answer.IsVacant
  cases map key <;> simp

end Source

/-! ## Journals -/

namespace Journal

/-- A journal with one more lookup. -/
def asked (j : Journal) (key : String) : Journal :=
  { j with lookups := j.lookups ++ [key] }

/-- A journal with more lines. -/
def addAll (j : Journal) (lines : List Log.Line) : Journal :=
  { j with log := j.log ++ lines }

theorem addAll_nil (j : Journal) : j.addAll [] = j := by
  rw [addAll, List.append_nil]

theorem addAll_addAll (j : Journal) (lines more : List Log.Line) :
    (j.addAll lines).addAll more = j.addAll (lines ++ more) := by
  rw [addAll, addAll, addAll, List.append_assoc]

end Journal

namespace Reading

variable {α β : Type} {m : Reading α} {f : α → Reading β} {s s' : Surroundings} {j : Journal}
  {key : String} {policy : Policy}

/-- A run is its result and its journal. -/
theorem run_eq {r : Except Failure α} (h : (m s j).1 = r) : m s j = (r, (m s j).2) :=
  Prod.ext h rfl

/-! ## Texts -/

/-- What an answer makes of a setting under a policy. -/
def found (key : String) (policy : Policy) : Answer → Except SettingError (String × Origin)
  | .unset => resolve key policy none
  | .text value => resolve key policy (some value)
  | .notUtf8 lossy => .error (.malformed key lossy .notUtf8)

theorem found_given {value : String} (h : value ≠ "") :
    found key policy (.text value) = .ok (value, .environment) := resolve_set h

theorem found_vacant {a : Answer} (h : a.IsVacant) :
    found key policy a = resolve key policy none := by
  rcases h with rfl | rfl
  · rfl
  · simp [found, resolve, Option.filter]

theorem ask_eq (key : String) (s : Surroundings) (j : Journal) :
    ask key s j = (.ok (s.source j.lookups key), j.asked key) := rfl

/-- What an answer makes of a lookup. -/
def looked (key : String) : Answer → Except Failure (Option String)
  | .unset => .ok none
  | .text value => .ok (some value)
  | .notUtf8 lossy => .error (.error (.malformed key lossy .notUtf8))

theorem lookup_eq (key : String) (s : Surroundings) (j : Journal) :
    lookup key s j = (looked key (s.source j.lookups key), j.asked key) := by
  rw [lookup, bind_of_ok (ask_eq key s j)]
  cases s.source j.lookups key <;> rfl

/-- The text of a setting is decided by the answer for its key. -/
theorem rawWithOrigin_eq (key : String) (policy : Policy) (s : Surroundings) (j : Journal) :
    rawWithOrigin key policy s j = match found key policy (s.source j.lookups key) with
      | .ok (value, origin) => (.ok (value, origin), (j.asked key).add (originLine key origin))
      | .error e => (.error (.error e), j.asked key) := by
  have hlookup := lookup_eq key s j
  have hset : ∀ text : Option String, lookup key s j = (.ok text, j.asked key) →
      rawWithOrigin key policy s j = match resolve key policy text with
        | .ok (value, origin) => (.ok (value, origin), (j.asked key).add (originLine key origin))
        | .error e => (.error (.error e), j.asked key) := by
    intro text h
    rw [rawWithOrigin, bind_of_ok h]
    cases resolve key policy text <;> rfl
  cases h : s.source j.lookups key <;> rw [h] at hlookup
  · exact hset none hlookup
  · exact hset (some _) hlookup
  · exact bind_of_error hlookup

theorem raw_eq (key : String) (policy : Policy) (s : Surroundings) (j : Journal) :
    raw key policy s j = match found key policy (s.source j.lookups key) with
      | .ok (value, origin) => (.ok value, (j.asked key).add (originLine key origin))
      | .error e => (.error (.error e), j.asked key) := by
  have h := rawWithOrigin_eq key policy s j
  cases hf : found key policy (s.source j.lookups key) with
  | ok v =>
    rw [hf] at h
    exact bind_of_ok h
  | error e =>
    rw [hf] at h
    exact bind_of_error h

/-! ## Readings that ask for nothing, and for one key -/

/-- The reading asks for nothing: it ends in one way and logs the same lines everywhere. -/
def NoKey (m : Reading α) : Prop :=
  ∃ r lines, ∀ s j, m s j = (r, j.addAll lines)

/-- The reading asks for one key, and the answer decides how it ends and what it logs. -/
def OneKey (key : String) (m : Reading α) : Prop :=
  ∃ (r : Answer → Except Failure α) (lines : Answer → List Log.Line), ∀ s j,
    m s j = (r (s.source j.lookups key), (j.asked key).addAll (lines (s.source j.lookups key)))

namespace NoKey

theorem liftExcept (x : Except Failure α) : NoKey (liftExcept x) :=
  ⟨x, [], fun _ j => by rw [j.addAll_nil]; rfl⟩

theorem pure (a : α) : NoKey (Pure.pure a : Reading α) := .liftExcept (.ok a)

theorem fail (e : SettingError) : NoKey (fail e : Reading α) := .liftExcept (.error (.error e))

theorem note (level : Log.Level) (component : Log.Component) (text : String) :
    NoKey (note level component text) := ⟨.ok (), [⟨level, component, text⟩], fun _ _ => rfl⟩

theorem bind (hm : NoKey m) (hf : ∀ a, NoKey (f a)) : NoKey (m >>= f) := by
  obtain ⟨r, lines, hm⟩ := hm
  cases r with
  | error e => exact ⟨.error e, lines, fun s j => bind_of_error (hm s j)⟩
  | ok a =>
    obtain ⟨r, more, hf⟩ := hf a
    refine ⟨r, lines ++ more, fun s j => ?_⟩
    rw [bind_of_ok (hm s j), hf, Journal.addAll_addAll]

end NoKey

namespace OneKey

/-- What follows the answer asks for nothing more. -/
theorem bind (hm : OneKey key m) (hf : ∀ a, NoKey (f a)) : OneKey key (m >>= f) := by
  obtain ⟨r, lines, hm⟩ := hm
  have h : ∀ answer, ∃ r' more, ∀ s j, s.source j.lookups key = answer →
      (m >>= f) s j = (r', (j.asked key).addAll more) := by
    intro answer
    cases hr : r answer with
    | error e =>
      refine ⟨.error e, lines answer, fun s j hs => bind_of_error ?_⟩
      rw [hm, hs, hr]
    | ok a =>
      obtain ⟨r', more, hf⟩ := hf a
      refine ⟨r', lines answer ++ more, fun s j hs => ?_⟩
      have ha := hm s j
      rw [hs, hr] at ha
      rw [bind_of_ok ha, hf, Journal.addAll_addAll]
  choose r' more h using h
  exact ⟨r', more, fun s j => h _ s j rfl⟩

theorem lookups_eq (hm : OneKey key m) (s : Surroundings) (j : Journal) :
    (m s j).2.lookups = j.lookups ++ [key] := by
  obtain ⟨r, lines, hm⟩ := hm
  rw [hm]
  rfl

theorem warnings_eq (hm : OneKey key m) (s : Surroundings) (j : Journal) :
    (m s j).2.warnings = j.warnings := by
  obtain ⟨r, lines, hm⟩ := hm
  rw [hm]
  rfl

/-- Only the answer for the key matters. -/
theorem congr (hm : OneKey key m) (h : s'.source j.lookups key = s.source j.lookups key) :
    m s' j = m s j := by
  obtain ⟨r, lines, hm⟩ := hm
  rw [hm, hm, h]

end OneKey

theorem oneKey_lookup : OneKey key (lookup key) :=
  ⟨looked key, fun _ => [], fun s j => by rw [lookup_eq, Journal.addAll_nil]⟩

theorem oneKey_rawWithOrigin : OneKey key (rawWithOrigin key policy) := by
  refine ⟨fun a => verdict (found key policy a), fun a => match found key policy a with
    | .ok v => [originLine key v.2]
    | .error _ => [], fun s j => ?_⟩
  rw [rawWithOrigin_eq]
  cases h : found key policy (s.source j.lookups key) with
  | ok v => simp only [h]; rfl
  | error e => simp only [h, Journal.addAll_nil]; rfl

/-! ## Readings of one text -/

theorem id_map (m : Reading α) : id <$> m = m := by
  funext s j
  cases h : m s j with
  | mk r j₁ =>
    cases r with
    | ok a =>
      simp only [Functor.map, h]
      rfl
    | error e => simp only [Functor.map, h]

theorem bind_assoc {γ : Type} (m : Reading α) (f : α → Reading β) (g : β → Reading γ) :
    m >>= f >>= g = m >>= fun a => f a >>= g := by
  funext s j
  cases h : m s j with
  | mk r j₁ => cases r <;> simp only [Bind.bind, h]

instance : LawfulMonad Reading :=
  .mk' Reading id_map (fun _ _ => rfl) Reading.bind_assoc

/-- The reading takes the text of a setting, and goes on with it without asking for more. -/
def OfText (key : String) (m : Reading α) : Prop :=
  ∃ policy f, m = rawWithOrigin key policy >>= f ∧ ∀ v, NoKey (f v)

theorem OfText.bind (hm : OfText key m) (hf : ∀ a, NoKey (f a)) : OfText key (m >>= f) := by
  obtain ⟨policy, g, rfl, hg⟩ := hm
  exact ⟨policy, _, bind_assoc _ g f, fun v => (hg v).bind hf⟩

theorem OfText.oneKey (hm : OfText key m) : OneKey key m := by
  obtain ⟨policy, g, rfl, hg⟩ := hm
  exact oneKey_rawWithOrigin.bind hg

theorem ofText_raw : OfText key (raw key policy) :=
  ⟨policy, _, rfl, fun _ => .pure _⟩

theorem ofText_validated {rule : Rule} : OfText key (validated key rule policy) :=
  ofText_raw.bind fun _ => .liftExcept _

theorem ofText_typed {rule : Rule} {project : Value → Option α} :
    OfText key (typed key rule policy project) := by
  refine ofText_validated.bind fun v => ?_
  split
  · exact .pure _
  · exact .fail _

theorem ofText_list {rule : Rule} : OfText key (list key rule policy) := by
  refine ofText_raw.bind fun value => ?_
  split
  · exact .pure _
  · refine .bind (.liftExcept _) fun v => ?_
    split
    · exact .pure _
    · exact .fail _

theorem ofText_byte {min max : UInt8} : OfText key (byte key min max policy) := by
  refine ofText_typed.bind fun n => ?_
  split
  · exact .pure _
  · exact .fail _

theorem oneKey_raw : OneKey key (raw key policy) := ofText_raw.oneKey

theorem oneKey_typed {rule : Rule} {project : Value → Option α} :
    OneKey key (typed key rule policy project) := ofText_typed.oneKey

theorem oneKey_list {rule : Rule} : OneKey key (list key rule policy) := ofText_list.oneKey

theorem oneKey_byte {min max : UInt8} : OneKey key (byte key min max policy) := ofText_byte.oneKey

end Reading

end VpnGateway
