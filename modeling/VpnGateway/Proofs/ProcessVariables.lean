import VpnGateway.Proofs.Ascii
import VpnGateway.Proofs.EmptyValues

/-!
# The variables of a process

The variables of a process are a map, but for those whose bytes are no text. A reader that looks up
one of these stops there with an error, and no default or other key stands in for it.

* `IsVariableName`: the keys that can be names of variables;
* `Environment.namedValues`, `Environment.value?_eq`: the variables as names with values;
* `Environment.texts`: the map of those that are texts;
* `Reading.Outcome`, `Outcome.bind`: a reading does with the map what it does with the process, or it
  stops at the first variable that is no text, step by step;
* `Surroundings.built_outcome`: the steps of operations do;
* **`Request.run_withEnvironment`**: so does a reader, whatever it is asked for one after the other.
-/

namespace VpnGateway

open Reading Setting Text

/-! ## Names and values -/

/-- The key can be the name of a variable: it is not empty, and holds neither an equals sign nor a
NUL. -/
def IsVariableName (key : String) : Prop :=
  key ≠ "" ∧ '=' ∉ key.toList ∧ '\x00' ∉ key.toList

instance (key : String) : Decidable (IsVariableName key) :=
  inferInstanceAs (Decidable (_ ∧ _))

theorem IsVariableName.secretFile {key : String} (h : IsVariableName key) :
    IsVariableName (Key.secretFile key) := by
  obtain ⟨hne, heq, hnul⟩ := h
  simp only [IsVariableName, Key.secretFile, String.toList_append, List.mem_append, not_or]
  refine ⟨fun hempty => hne ?_, ⟨heq, by decide⟩, hnul, by decide⟩
  exact (String.append_eq_empty_iff.1 hempty).1

theorem IsVariableName.not_mem_utf8Bytes {key : String} (h : IsVariableName key) :
    61 ∉ utf8Bytes key :=
  fun hmem => h.2.1 (asciiChar_mem_of_mem (by decide) hmem)

namespace Environment

/-- The name and the value of a variable, from the text that holds both. -/
def nameAndValue (line : List UInt8) : List UInt8 × List UInt8 :=
  (line.takeWhile (· ≠ 61), (line.dropWhile (· ≠ 61)).tail)

/-- The variables of a process, each with its name and its value. -/
def namedValues (env : Environment) : List (List UInt8 × List UInt8) :=
  env.map fun entry => nameAndValue (utf8Bytes entry.1 ++ 61 :: entry.2)

/-- The map of the variables of a process that are texts. -/
def texts (env : Environment) (key : String) : Option String :=
  (env.namedValues.lookup (utf8Bytes key)).bind utf8Text?

/-- The variable is a text, or it is not set. -/
def Readable (env : Environment) (key : String) : Prop :=
  ∀ bytes ∈ env.value? key, utf8Text? bytes ≠ none

instance (env : Environment) (key : String) : Decidable (env.Readable key) :=
  inferInstanceAs (Decidable (∀ bytes ∈ env.value? key, utf8Text? bytes ≠ none))

theorem nameAndValue_append {name : List UInt8} (hname : 61 ∉ name) (value : List UInt8) :
    nameAndValue (name ++ 61 :: value) = (name, value) := by
  have hne : ∀ b ∈ name, decide (b ≠ 61) = true := fun b hb =>
    decide_eq_true fun heq => hname (heq ▸ hb)
  rw [nameAndValue, List.takeWhile_append_of_pos hne, List.dropWhile_append_of_pos hne]
  exact congrArg (·, value) (List.append_nil name)

/-- A name without an equals sign begins a line if it is the whole name there. -/
theorem isPrefixOf_line_iff {name name' : List UInt8} (hname : 61 ∉ name) (hname' : 61 ∉ name')
    (value : List UInt8) : (name ++ [61]).isPrefixOf (name' ++ 61 :: value) = true ↔
      name = name' := by
  rw [List.isPrefixOf_iff_prefix]
  constructor
  · rintro ⟨rest, hrest⟩
    rw [List.append_assoc] at hrest
    have hsame := congrArg nameAndValue hrest
    rw [nameAndValue_append hname', List.singleton_append, nameAndValue_append hname] at hsame
    exact congrArg Prod.fst hsame
  · rintro rfl
    exact ⟨value, List.append_assoc ..⟩

/-- What is found under the name of a variable is its value. -/
theorem value?_eq (env : Environment) {key : String} (h : IsVariableName key) :
    env.value? key = env.namedValues.lookup (utf8Bytes key) := by
  rw [value?, if_neg (not_or.2 ⟨h.1, h.2.2⟩)]
  induction env with
  | nil => rfl
  | cons entry env ih =>
    have hmem : 61 ∈ utf8Bytes entry.1 ++ 61 :: entry.2 := List.mem_append_cons_self
    obtain ⟨name, value, hline, hname⟩ := List.eq_append_cons_of_mem hmem
    have hcons : namedValues (entry :: env) = (name, value) :: namedValues env := by
      rw [namedValues, List.map_cons, hline, nameAndValue_append hname]
      rfl
    rw [List.findSome?_cons, ih, hcons, List.lookup_cons, hline]
    dsimp only
    by_cases hkey : utf8Bytes key = name
    · rw [if_pos ((isPrefixOf_line_iff h.not_mem_utf8Bytes hname value).2 hkey), hkey]
      simp
    · rw [if_neg fun hprefix =>
        hkey ((isPrefixOf_line_iff h.not_mem_utf8Bytes hname value).1 hprefix),
        beq_false_of_ne hkey]

/-- The map of texts says the same as the process about a name whose value is a text. -/
theorem ofMap_texts {env : Environment} {key : String} (h : IsVariableName key)
    (hreadable : env.Readable key) (earlier : List String) :
    Source.ofMap env.texts earlier key = Source.ofEnvironment env earlier key := by
  rw [Source.ofMap, Source.ofEnvironment, texts, ← value?_eq env h]
  cases hbytes : env.value? key with
  | none => rfl
  | some bytes =>
    cases htext : utf8Text? bytes with
    | none => exact absurd htext (hreadable bytes hbytes)
    | some text => simp [htext, Answer.ofBytes]

/-- What the process says about a variable that is no text. -/
theorem ofEnvironment_of_notUtf8 {env : Environment} {key : String} {bytes : List UInt8}
    (hbytes : env.value? key = some bytes) (htext : utf8Text? bytes = none)
    (earlier : List String) :
    Source.ofEnvironment env earlier key = .notUtf8 (utf8Lossy bytes) := by
  simp only [Source.ofEnvironment, hbytes, Answer.ofBytes, htext]

theorem readable_or (env : Environment) (key : String) :
    env.Readable key ∨ ∃ bytes, env.value? key = some bytes ∧ utf8Text? bytes = none := by
  by_cases h : env.Readable key
  · exact .inl h
  · simp only [Readable, not_forall, not_not, exists_prop] at h
    exact .inr h

end Environment

/-- The surroundings with the variables of a process. -/
def Surroundings.withEnvironment (s : Surroundings) (env : Environment) : Surroundings :=
  { s with source := .ofEnvironment env }

/-! ## Readings that do the same, or stop -/

/-- The error that the bytes of a variable are no text. -/
def notUtf8Error (key : String) (bytes : List UInt8) : Failure :=
  .error (.malformed key (utf8Lossy bytes) .notUtf8)

namespace Reading

variable {env : Environment} {s : Surroundings} {α β : Type} {m : Reading α} {f : α → Reading β}
  {j : Journal} {key path : String}

/-- With the variables of a process, a reading does the same as with the map of those that are texts,
or it stops at the first that is no text. -/
inductive Outcome (env : Environment) (s : Surroundings) (m : Reading α) (j : Journal) : Prop
  | same (keys : List String)
      (lookups : (m (s.withEnvironment env) j).2.lookups = j.lookups ++ keys)
      (readable : ∀ key ∈ keys, env.Readable key)
      (run_eq : m (s.withEnvironment env) j = m (s.withMap env.texts) j)
  | stopped (before : List String) (key : String) (bytes : List UInt8)
      (lookups : (m (s.withEnvironment env) j).2.lookups = j.lookups ++ (before ++ [key]))
      (readable : ∀ key ∈ before, env.Readable key)
      (value : env.value? key = some bytes) (notUtf8 : utf8Text? bytes = none)
      (result : (m (s.withEnvironment env) j).1 = .error (notUtf8Error key bytes))

theorem Outcome.bind (hm : Outcome env s m j) (hf : ∀ a j, Outcome env s (f a) j) :
    Outcome env s (m >>= f) j := by
  cases h : m (s.withEnvironment env) j with
  | mk r j₁ =>
    cases hm with
    | stopped before key bytes hlookups hreadable hvalue htext hresult =>
      rw [h] at hlookups hresult
      cases hresult
      have hbind := bind_of_error (f := f) h
      exact .stopped before key bytes (by rw [hbind, hlookups]) hreadable hvalue htext
        (by rw [hbind])
    | same keys hlookups hreadable hrun =>
      rw [h] at hlookups hrun
      cases r with
      | error e =>
        have hbind := bind_of_error (f := f) h
        have hbind' := bind_of_error (f := f) hrun.symm
        exact .same keys (by rw [hbind, hlookups]) hreadable (by rw [hbind, hbind'])
      | ok a =>
        have hbind := bind_of_ok (f := f) h
        have hbind' := bind_of_ok (f := f) hrun.symm
        have hall {keys' : List String} (hkeys' : ∀ key ∈ keys', env.Readable key) :
            ∀ key ∈ keys ++ keys', env.Readable key := fun key hkey =>
          (List.mem_append.1 hkey).elim (hreadable key) (hkeys' key)
        cases hf a j₁ with
        | same keys' hlookups' hreadable' hrun' =>
          refine .same (keys ++ keys') ?_ (hall hreadable') (by rw [hbind, hbind', hrun'])
          rw [hbind, hlookups', hlookups, List.append_assoc]
        | stopped before key bytes hlookups' hreadable' hvalue htext hresult =>
          refine .stopped (keys ++ before) key bytes ?_ (hall hreadable') hvalue htext
            (by rw [hbind, hresult])
          rw [hbind, hlookups', hlookups, List.append_assoc, List.append_assoc]

/-- If all that was looked up are texts, the run is that with the map. -/
theorem Outcome.run_eq_of_readable (h : Outcome env s m j)
    (hreadable : ∀ key ∈ (m (s.withEnvironment env) j).2.lookups, env.Readable key) :
    (∀ key ∈ j.lookups, env.Readable key) ∧
      m (s.withEnvironment env) j = m (s.withMap env.texts) j := by
  cases h with
  | same keys hlookups _ hrun =>
    rw [hlookups] at hreadable
    exact ⟨fun key hkey => hreadable key (List.mem_append_left _ hkey), hrun⟩
  | stopped before key bytes hlookups _ hvalue htext _ =>
    rw [hlookups] at hreadable
    exact absurd htext (hreadable key (by simp) bytes hvalue)

/-- If the first that is no text was looked up, the run ended with an error about it. -/
theorem Outcome.result_of_not_readable (h : Outcome env s m j)
    (hreadable : ∀ key ∈ j.lookups, env.Readable key)
    (hkey : key ∈ (m (s.withEnvironment env) j).2.lookups) (hnot : ¬env.Readable key) :
    ∃ bytes, env.value? key = some bytes ∧ utf8Text? bytes = none ∧
      (m (s.withEnvironment env) j).1 = .error (notUtf8Error key bytes) := by
  cases h with
  | same keys hlookups hkeys _ =>
    rw [hlookups, List.mem_append] at hkey
    exact absurd (hkey.elim (hreadable key) (hkeys key)) hnot
  | stopped before last bytes hlookups hbefore hvalue htext hresult =>
    rw [hlookups, List.mem_append, List.mem_append, List.mem_singleton] at hkey
    obtain rfl : key = last := by
      rcases hkey with hkey | hkey | hkey
      · exact absurd (hreadable key hkey) hnot
      · exact absurd (hbefore key hkey) hnot
      · exact hkey
    exact ⟨bytes, hvalue, htext, hresult⟩

/-- A reading that looks nothing up and does the same in both. -/
theorem Outcome.of_eq (hlookups : (m (s.withEnvironment env) j).2.lookups = j.lookups)
    (hrun : m (s.withEnvironment env) j = m (s.withMap env.texts) j) : Outcome env s m j :=
  .same [] (hlookups.trans (List.append_nil _).symm) nofun hrun

theorem NoKey.outcome (hm : NoKey m) : Outcome env s m j := by
  obtain ⟨r, lines, hm⟩ := hm
  refine .of_eq ?_ ?_
  · rw [hm]
    rfl
  · rw [hm, hm]

theorem outcome_surroundings {g : Surroundings → β}
    (hg : g (s.withMap env.texts) = g (s.withEnvironment env)) {f : β → Reading α}
    (hf : ∀ b, Outcome env s (f b) j) : Outcome env s (surroundings >>= fun s => f (g s)) j := by
  cases hf (g (s.withEnvironment env)) with
  | same keys hlookups hreadable hsame =>
    refine .same keys ?_ hreadable ?_
    · rw [surroundings_bind, hlookups]
    · rw [surroundings_bind, surroundings_bind, hg, hsame]
  | stopped before key bytes hlookups hreadable hvalue htext hresult =>
    refine .stopped before key bytes ?_ hreadable hvalue htext ?_
    · rw [surroundings_bind, hlookups]
    · rw [surroundings_bind, hresult]

theorem outcome_lookup (hkey : IsVariableName key) : Outcome env s (lookup key) j := by
  rcases env.readable_or key with hreadable | ⟨bytes, hbytes, htext⟩
  · refine .same [key] (oneKey_lookup.lookups_eq _ j) (by simpa using hreadable) ?_
    rw [lookup_eq, lookup_eq]
    have hanswer := Environment.ofMap_texts hkey hreadable j.lookups
    simp only [Surroundings.withMap, Surroundings.withEnvironment, hanswer]
  · refine .stopped [] key bytes (oneKey_lookup.lookups_eq _ j) nofun hbytes htext ?_
    rw [lookup_eq]
    have hanswer := Environment.ofEnvironment_of_notUtf8 hbytes htext j.lookups
    simp only [Surroundings.withEnvironment, hanswer]
    rfl

theorem outcome_rawWithOrigin (hkey : IsVariableName key) (policy : Policy) :
    Outcome env s (rawWithOrigin key policy) j := by
  refine (outcome_lookup hkey).bind fun found j => ?_
  split
  · exact (NoKey.fail _).outcome
  · exact (NoKey.bind (.note _ _ _) fun _ => .pure _).outcome

theorem outcome_secretFilePath (hkey : IsVariableName key) :
    Outcome env s (secretFilePath key) j := by
  refine (outcome_lookup hkey.secretFile).bind fun found j => ?_
  split
  · exact (NoKey.pure _).outcome
  · exact outcome_surroundings (g := Surroundings.secretsDirectory)
      (f := fun dir => pure (joinPath dir (lowercase key))) rfl fun _ => (NoKey.pure _).outcome

theorem outcome_nonEmptyFile : Outcome env s (nonEmptyFile path) j := by
  refine .of_eq ?_ ?_
  · rw [nonEmptyFile_eq_bytes]
    rfl
  · rw [nonEmptyFile_eq_bytes, nonEmptyFile_eq_bytes]
    rfl

/-- The steps of operations do the same with the map, or stop. -/
theorem built_outcome (env : Environment) (s : Surroundings) :
    Built IsVariableName fun m => ∀ j, Outcome env s m j where
  own item := by cases item <;> decide
  former := by decide
  noKey hm _ := hm.outcome
  bind hm hf j := (hm j).bind hf
  text policy hkey _ := outcome_rawWithOrigin hkey policy
  secretFilePath hkey _ := outcome_secretFilePath hkey
  nonEmptyFile _ _ := outcome_nonEmptyFile
  clientKeyFile hf j := outcome_surroundings rfl fun path => hf path j
  clientCertificateFile hf j := outcome_surroundings rfl fun path => hf path j

end Reading

/-! ## Requests in turn -/

namespace Request

variable {α : Type}

/-- The keys that a request is given. -/
def keys : Request α → List String
  | ask op => op.keys
  | warnings | takeWarnings => []

/-- What a reader has done after requests in turn, whatever the answers were. -/
def journalAfter (s : Surroundings) (requests : List (Σ α : Type, Request α)) : Journal :=
  requests.foldl (fun j r => (r.2.run s j).2) {}

variable {env : Environment} {s : Surroundings}

theorem journalAfter_append (requests : List (Σ α : Type, Request α)) (request : Request α) :
    journalAfter s (requests ++ [⟨α, request⟩]) = (request.run s (journalAfter s requests)).2 := by
  rw [journalAfter, List.foldl_append]
  rfl

theorem outcome_run (request : Request α) (hkeys : ∀ key ∈ request.keys, IsVariableName key)
    (j : Journal) : Outcome env s request.run j := by
  cases request with
  | ask op => exact op.built (built_outcome env s) (fun _ _ => .of_eq rfl rfl) hkeys j
  | warnings => exact .of_eq rfl rfl
  | takeWarnings => exact .of_eq rfl rfl

/-- As long as nothing that was looked up is no text, all that was done is the same with the map. -/
theorem journalAfter_eq {requests : List (Σ α : Type, Request α)}
    (hkeys : ∀ r ∈ requests, ∀ key ∈ r.2.keys, IsVariableName key)
    (hreadable : ∀ key ∈ (journalAfter (s.withEnvironment env) requests).lookups,
      env.Readable key) :
    journalAfter (s.withEnvironment env) requests = journalAfter (s.withMap env.texts) requests := by
  induction requests using List.reverseRecOn with
  | nil => rfl
  | append_singleton requests request ih =>
    obtain ⟨α, request⟩ := request
    rw [journalAfter_append] at hreadable
    have hrequest : Outcome env s request.run (journalAfter (s.withEnvironment env) requests) :=
      request.outcome_run (hkeys ⟨α, request⟩ (by simp)) _
    obtain ⟨hbefore, hrun⟩ := hrequest.run_eq_of_readable hreadable
    have hsame := ih (fun r hr => hkeys r (List.mem_append_left _ hr)) hbefore
    rw [journalAfter_append, journalAfter_append, hrun, hsame]

/-- **The variables of a process are a map, and what is no text is never passed over**: a request that
looks it up fails. -/
theorem run_withEnvironment (env : Environment) (s : Surroundings)
    (requests : List (Σ α : Type, Request α)) (request : Request α)
    (hkeys : ∀ r ∈ requests, ∀ key ∈ r.2.keys, IsVariableName key)
    (hkeys' : ∀ key ∈ request.keys, IsVariableName key) :
    let before := journalAfter (s.withEnvironment env) requests
    let run := request.run (s.withEnvironment env) before
    ((∀ key ∈ run.2.lookups, env.Readable key) →
      run = request.run (s.withMap env.texts) (journalAfter (s.withMap env.texts) requests)) ∧
    ((∀ key ∈ before.lookups, env.Readable key) →
      ∀ key ∈ run.2.lookups, ¬env.Readable key →
        ∃ bytes, env.value? key = some bytes ∧ utf8Text? bytes = none ∧
          run.1 = .error (.error (.malformed key (utf8Lossy bytes) .notUtf8))) := by
  intro before run
  have hrequest : Outcome env s request.run before := request.outcome_run hkeys' before
  refine ⟨fun hreadable => ?_, fun hbefore key hkey hnot => ?_⟩
  · obtain ⟨hbefore, hrun⟩ := hrequest.run_eq_of_readable hreadable
    rw [← journalAfter_eq hkeys hbefore]
    exact hrun
  · exact hrequest.result_of_not_readable hbefore hkey hnot

/-- The switch is a text, and the former key of blocked surveillance is not. -/
def illFormedEnvironment : Environment :=
  [(Key.dnsOverTls, utf8Bytes "off"), (Key.blockNsa, [255])]

/-- The switch is read as with a map; then the former key is no text, and the default of blocked
surveillance does not stand in for it. -/
theorem run_withEnvironment_blockNsa :
    let s : Surroundings :=
      { source := .ofMap fun _ => none, files := fun _ => .absent }
    let process := s.withEnvironment illFormedEnvironment
    let map := s.withMap illFormedEnvironment.texts
    (ask (.setting .dnsOverTls)).run process {} = (ask (.setting .dnsOverTls)).run map {} ∧
    ((ask (.setting .blockSurveillance)).run process
        (journalAfter process [⟨Bool, ask (.setting .dnsOverTls)⟩])).1 =
      .error (.error (.malformed Key.blockNsa "\uFFFD" .notUtf8)) := by
  intro s process map
  have hswitch := run_withEnvironment illFormedEnvironment s [] (ask (.setting .dnsOverTls))
    (by decide) (by decide)
  have hrenamed := run_withEnvironment illFormedEnvironment s [⟨Bool, ask (.setting .dnsOverTls)⟩]
    (ask (.setting .blockSurveillance)) (by decide) (by decide)
  refine ⟨hswitch.1 (by decide +kernel), ?_⟩
  obtain ⟨bytes, hbytes, -, hresult⟩ := hrenamed.2 (by decide +kernel) Key.blockNsa
    (by decide +kernel) (by decide +kernel)
  obtain rfl : [255] = bytes := by
    have hvalue : illFormedEnvironment.value? Key.blockNsa = some [255] := by decide +kernel
    exact Option.some.inj (hvalue.symm.trans hbytes)
  have hlossy : utf8Lossy [255] = "\uFFFD" := by decide +kernel
  rwa [hlossy] at hresult

end Request

end VpnGateway
