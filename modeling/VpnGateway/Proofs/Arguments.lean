import VpnGateway.CommandLine.Arguments
import VpnGateway.Proofs.RuleErrors

/-!
# What words ask for

The words of a command line are read one after the other, and an option may wait for its value. So
what one word does is settled only by a later one, and a word cannot be taken out of a row without a
look at those around it.

* `Scan.words_eq_ok_cons`: accepted words, one at a time;
* `Scan.words_of_settle`: an option with its value may be counted in at once;
* `Scan.json_words_iff`: a document is wished for if and only if there is a word `--json`;
* `withoutLevel`: words without those that give the log level;
* **`Scan.words_withoutLevel`**: these are accepted as well, and give all other options.
-/

namespace VpnGateway.CommandLine

variable {g g' : Given} {s s' : Scan} {word : String} {words : List String}

/-! ## Options given -/

namespace Given

theorem put_eq_ok {o : Valued} {value : String} (h : g.put o value = .ok g') :
    g.value o = .none ∧
      g' = { g with value := fun o' => if o' = o then some value else g.value o' } := by
  rw [put] at h
  split at h
  · cases h
  · next hnew =>
    cases h
    exact ⟨Option.not_isSome_iff_eq_none.1 hnew, rfl⟩

theorem putJson_eq_ok (h : g.putJson = .ok g') : g' = { g with json := true } := by
  rw [putJson] at h
  split at h
  · cases h
  · cases h
    rfl

/-- The options given, but for the log level. -/
def withoutLevel (g : Given) : Given :=
  { g with value := fun o => if o = .logLevel then .none else g.value o }

theorem withoutLevel_put_level {value : String} (h : g.put .logLevel value = .ok g') :
    g'.withoutLevel = g.withoutLevel := by
  rw [(put_eq_ok h).2]
  refine congrArg (Given.mk · g.json) (funext fun o => ?_)
  cases o <;> rfl

theorem put_withoutLevel {o : Valued} (ho : o ≠ .logLevel) {value : String}
    (h : g.put o value = .ok g') : g.withoutLevel.put o value = .ok g'.withoutLevel := by
  obtain ⟨hnew, rfl⟩ := put_eq_ok h
  have hnew' : g.withoutLevel.value o = .none := (if_neg ho).trans hnew
  rw [put, hnew']
  refine congrArg (fun v => Except.ok (Given.mk v g.json)) (funext fun o' => ?_)
  cases o with
  | logLevel => exact absurd rfl ho
  | secretsDirectory => cases o' <;> rfl

theorem putJson_withoutLevel (h : g.putJson = .ok g') :
    g.withoutLevel.putJson = .ok g'.withoutLevel := by
  have hjson : g.withoutLevel.json = g.json := rfl
  rw [putJson] at h ⊢
  rw [hjson]
  split at h
  · cases h
  · next hnew =>
    cases h
    rw [if_neg hnew]
    rfl

end Given

/-! ## Words one at a time -/

namespace Scan

/-- Two dashes alone are the last word. -/
theorem words_dashes_eq_ok (h : s.words ("--" :: words) = .ok g) : words = [] ∧ s.settle = .ok g := by
  rw [Scan.words, if_pos rfl] at h
  split at h
  · next hwords => exact ⟨hwords, h⟩
  · cases h

/-- Any other word is followed by the rest. -/
theorem words_eq_ok_cons (hword : word ≠ "--") :
    s.words (word :: words) = .ok g ↔ ∃ s', s.word word = .ok s' ∧ s'.words words = .ok g := by
  rw [Scan.words, if_neg hword, except_bind_eq_ok]

/-- A scan that can be settled waits for no value. -/
theorem pending_of_settle (h : s.settle = .ok g) (o : Valued) : s.pending ≠ some (o, none) := by
  intro hpending
  rw [settle, hpending] at h
  cases h

theorem plain_of_complete {text : String} (h : ∀ o, s.pending ≠ some (o, none)) :
    s.plain text = .error (.error .unexpectedArgument) := by
  rw [plain]
  split
  · next o hpending => exact absurd hpending (h o)
  · rfl

/-- A plain word is the value of the option before it. -/
theorem plain_eq_ok {text : String} (h : s.plain text = .ok s') :
    ∃ o, s.pending = some (o, none) ∧ s' = { s with pending := some (o, some text) } := by
  rw [plain] at h
  split at h
  · next o hpending =>
    cases h
    exact ⟨o, hpending, rfl⟩
  · cases h

theorem short_ne_ok {letters : List Char} : s.short letters ≠ .ok s' := by
  intro h
  unfold short at h
  split at h
  · obtain ⟨_, _, h⟩ := except_bind_eq_ok.1 h
    cases h
  · obtain ⟨_, _, h⟩ := except_bind_eq_ok.1 h
    cases h
  · cases h

/-- A long word settles what is before it. -/
theorem long_eq_ok_iff {name : String} {value : Option String} :
    s.long name value = .ok s' ↔ ∃ g, s.settle = .ok g ∧
      ((∃ o, Valued.ofName? name = some o ∧ value = none ∧ s' = ⟨g, some (o, none)⟩) ∨
      (∃ o v g', Valued.ofName? name = some o ∧ value = some v ∧ g.put o v = .ok g' ∧
        s' = ⟨g', none⟩) ∨
      ∃ g', name = "json" ∧ value = none ∧ g.putJson = .ok g' ∧ s' = ⟨g', none⟩) := by
  constructor
  · intro h
    unfold long at h
    split at h
    · next o ho =>
      obtain ⟨g, hg, h⟩ := except_bind_eq_ok.1 h
      cases h
      exact ⟨g, hg, .inl ⟨o, ho, rfl, rfl⟩⟩
    · next o v ho =>
      obtain ⟨g, hg, h⟩ := except_bind_eq_ok.1 h
      obtain ⟨g', hg', h⟩ := except_bind_eq_ok.1 h
      cases h
      exact ⟨g, hg, .inr (.inl ⟨o, v, g', ho, rfl, hg', rfl⟩)⟩
    · split at h
      · cases h
      split at h
      · cases h
      next hvalue =>
      obtain ⟨g, hg, h⟩ := except_bind_eq_ok.1 h
      split at h
      · next hjson =>
        obtain ⟨g', hg', h⟩ := except_bind_eq_ok.1 h
        cases h
        exact ⟨g, hg, .inr (.inr ⟨g', hjson, Option.not_isSome_iff_eq_none.1 hvalue, hg', rfl⟩)⟩
      · cases h
  · rintro ⟨g, hg, ⟨o, ho, rfl, rfl⟩ | ⟨o, v, g', ho, rfl, hg', rfl⟩ | ⟨g', rfl, rfl, hg', rfl⟩⟩
    · simp only [long, ho]
      exact except_bind_eq_ok.2 ⟨g, hg, rfl⟩
    · simp only [long, ho]
      exact except_bind_eq_ok.2 ⟨g, hg, except_bind_eq_ok.2 ⟨g', hg', rfl⟩⟩
    · exact except_bind_eq_ok.2 ⟨g, hg, except_bind_eq_ok.2 ⟨g', hg', rfl⟩⟩

theorem settle_of_word (h : s.word word = .ok s') (hs : ∀ o, s.pending ≠ some (o, none)) :
    ∃ g, s.settle = .ok g := by
  unfold Scan.word at h
  split at h
  · obtain ⟨g, hg, -⟩ := long_eq_ok_iff.1 h
    exact ⟨g, hg⟩
  · exact absurd h short_ne_ok
  · rw [plain_of_complete hs] at h
    cases h

/-- An option that has its value may be counted in before the next word. -/
theorem word_of_settle (h : s.settle = .ok g) : s.word word = Scan.word ⟨g, none⟩ word := by
  have hg : settle ⟨g, none⟩ = .ok g := rfl
  unfold Scan.word
  split
  · simp only [long, h, hg]
  · simp only [short, h, hg]
  · rw [plain_of_complete (pending_of_settle h), plain_of_complete (pending_of_settle hg)]

theorem words_of_settle (h : s.settle = .ok g) : s.words words = Scan.words ⟨g, none⟩ words := by
  cases words with
  | nil => exact h
  | cons word words => rw [Scan.words, Scan.words, word_of_settle h, h]; rfl

theorem settle_of_words (h : s.words words = .ok g) (hs : ∀ o, s.pending ≠ some (o, none)) :
    ∃ g', s.settle = .ok g' := by
  cases words with
  | nil => exact ⟨g, h⟩
  | cons word words =>
    by_cases hword : word = "--"
    · subst hword
      exact ⟨g, (words_dashes_eq_ok h).2⟩
    · obtain ⟨s', hs', -⟩ := (words_eq_ok_cons hword).1 h
      exact settle_of_word hs' hs

end Scan

/-! ## The log level -/

/-- What a word says of the log level, if it is about that: a value, or that the next word is
the value. -/
def levelWord (word : String) : Option (Option String) :=
  match Word.ofText word with
  | .long name value => if Valued.ofName? name = some .logLevel then some value else none
  | _ => none

/-- Words without those that give the log level. At the start its value may be awaited. -/
def withoutLevel : Bool → List String → List String
  | _, [] => []
  | true, _ :: words => withoutLevel false words
  | false, word :: words =>
    match levelWord word with
    | some value => withoutLevel value.isNone words
    | none => word :: withoutLevel false words

theorem levelWord_eq_some {value : Option String} (h : levelWord word = some value) :
    ∃ name, Word.ofText word = .long name value ∧ Valued.ofName? name = some .logLevel := by
  rw [levelWord] at h
  split at h
  · next name value' hform =>
    split at h
    · next hname =>
      cases h
      exact ⟨name, hform, hname⟩
    · cases h
  · cases h

theorem ofName?_of_levelWord {name : String} {value : Option String} (h : levelWord word = none)
    (hform : Word.ofText word = .long name value) : Valued.ofName? name ≠ some .logLevel := by
  intro hname
  rw [levelWord, hform] at h
  simp only [if_pos hname] at h
  cases h

namespace Scan

/-- What is pending is not the log level. -/
def IsApart (s : Scan) : Prop :=
  ∀ value, s.pending ≠ some (.logLevel, value)

/-- The words so far without those that give the log level. -/
def withoutLevel (s : Scan) : Scan :=
  ⟨s.given.withoutLevel, s.pending⟩

theorem isApart_none : IsApart ⟨g, none⟩ := fun _ h => by cases h

theorem settle_withoutLevel (hs : s.IsApart) (h : s.settle = .ok g) :
    s.withoutLevel.settle = .ok g.withoutLevel := by
  obtain ⟨given, pending⟩ := s
  cases pending with
  | none =>
    cases h
    rfl
  | some p =>
    obtain ⟨o, value⟩ := p
    have ho : o ≠ .logLevel := fun ho => hs value (by rw [ho])
    cases value with
    | none => cases h
    | some value => exact Given.put_withoutLevel ho h

/-- A word that is not about the log level does the same without it. -/
theorem word_withoutLevel (hs : s.IsApart) (hword : levelWord word = none)
    (h : s.word word = .ok s') : s.withoutLevel.word word = .ok s'.withoutLevel ∧ s'.IsApart := by
  unfold Scan.word at h ⊢
  split at h
  · next name value hform =>
    have hname := ofName?_of_levelWord hword hform
    have hne {o : Valued} (ho : Valued.ofName? name = some o) : o ≠ .logLevel :=
      fun h => hname (by rw [ho, h])
    obtain ⟨g, hg, h⟩ := long_eq_ok_iff.1 h
    have hg := settle_withoutLevel hs hg
    rcases h with ⟨o, ho, rfl, rfl⟩ | ⟨o, v, g', ho, rfl, hg', rfl⟩ | ⟨g', rfl, rfl, hg', rfl⟩
    · refine ⟨long_eq_ok_iff.2 ⟨_, hg, .inl ⟨o, ho, rfl, rfl⟩⟩, fun value h => hne ho ?_⟩
      exact congrArg Prod.fst (Option.some.inj h)
    · have hput := Given.put_withoutLevel (hne ho) hg'
      exact ⟨long_eq_ok_iff.2 ⟨_, hg, .inr (.inl ⟨o, v, _, ho, rfl, hput, rfl⟩)⟩, isApart_none⟩
    · have hput := Given.putJson_withoutLevel hg'
      exact ⟨long_eq_ok_iff.2 ⟨_, hg, .inr (.inr ⟨_, rfl, rfl, hput, rfl⟩)⟩, isApart_none⟩
  · exact absurd h short_ne_ok
  · obtain ⟨o, ho, rfl⟩ := plain_eq_ok h
    refine ⟨?_, fun value h => hs none ?_⟩
    · simp only [plain, withoutLevel, ho]
    · cases h
      exact ho

/-- An option that waits for its value is followed by a plain word. -/
theorem word_of_pending {o : Valued} (hs : s.pending = some (o, none))
    (h : s.word word = .ok s') : ∃ value, s' = { s with pending := some (o, some value) } := by
  unfold Scan.word at h
  split at h
  · obtain ⟨g, hg, -⟩ := long_eq_ok_iff.1 h
    exact absurd hs (pending_of_settle hg o)
  · exact absurd h short_ne_ok
  · next text _ =>
    obtain ⟨o', ho', rfl⟩ := plain_eq_ok h
    obtain rfl : o = o' := congrArg Prod.fst (Option.some.inj (hs.symm.trans ho'))
    exact ⟨text, rfl⟩

/-- **Words without those that give the log level are accepted, and give all other options.** -/
theorem words_withoutLevel (h : s.words words = .ok g) :
    (s.IsApart →
      s.withoutLevel.words (CommandLine.withoutLevel false words) = .ok g.withoutLevel) ∧
    (s.pending = some (.logLevel, none) →
      Scan.words ⟨s.given.withoutLevel, none⟩ (CommandLine.withoutLevel true words) =
        .ok g.withoutLevel) := by
  induction words generalizing s with
  | nil =>
    exact ⟨fun hs => settle_withoutLevel hs h, fun hs => absurd hs (pending_of_settle h _)⟩
  | cons word words ih =>
    by_cases hword : word = "--"
    · subst hword
      obtain ⟨rfl, hg⟩ := words_dashes_eq_ok h
      exact ⟨fun hs => settle_withoutLevel hs hg, fun hs => absurd hs (pending_of_settle hg _)⟩
    obtain ⟨s₁, hs₁, h⟩ := (words_eq_ok_cons hword).1 h
    refine ⟨fun hs => ?_, fun hs => ?_⟩
    · cases hlevel : levelWord word with
      | none =>
        obtain ⟨hrest, hapart⟩ := word_withoutLevel hs hlevel hs₁
        rw [CommandLine.withoutLevel, hlevel]
        exact (words_eq_ok_cons hword).2 ⟨_, hrest, (ih h).1 hapart⟩
      | some value =>
        obtain ⟨name, hform, hname⟩ := levelWord_eq_some hlevel
        rw [Scan.word, hform] at hs₁
        obtain ⟨g₀, hg₀, hs₁⟩ := long_eq_ok_iff.1 hs₁
        rw [CommandLine.withoutLevel, hlevel, words_of_settle (settle_withoutLevel hs hg₀)]
        rcases hs₁ with ⟨o, ho, rfl, rfl⟩ | ⟨o, v, g₁, ho, rfl, hg₁, rfl⟩ | ⟨g₁, rfl, -⟩
        · cases hname.symm.trans ho
          exact (ih h).2 rfl
        · cases hname.symm.trans ho
          rw [← Given.withoutLevel_put_level hg₁]
          exact (ih h).1 isApart_none
        · cases hname
    · obtain ⟨value, rfl⟩ := word_of_pending hs hs₁
      obtain ⟨g₁, hg₁⟩ := settle_of_words h fun o ho => by cases ho
      rw [words_of_settle hg₁] at h
      rw [← Given.withoutLevel_put_level (g := s.given) hg₁]
      exact (ih h).1 isApart_none

/-! ## The document -/

theorem json_settle (h : s.settle = .ok g) : g.json = s.given.json := by
  unfold settle at h
  split at h
  · cases h
    rfl
  · cases h
  · rw [(Given.put_eq_ok h).2]

end Scan

/-- A long word without a value is two dashes and its name. -/
theorem Word.eq_of_ofText {name : String} (h : Word.ofText word = .long name none) :
    word = "--" ++ name := by
  unfold Word.ofText at h
  split at h
  · next rest hword =>
    split at h
    · next hrest =>
      cases h
      have hall : rest.takeWhile (· ≠ '=') = rest := by
        have happend := List.takeWhile_append_dropWhile (p := (· ≠ '=')) (l := rest)
        rwa [hrest, List.append_nil] at happend
      refine String.toList_inj.1 ?_
      rw [hall, hword, String.toList_append]
      exact congrArg ('-' :: '-' :: ·) String.toList_ofList.symm
    · cases h
  · cases h
  · cases h

namespace Scan

theorem json_word (h : s.word word = .ok s') :
    s'.given.json = true ↔ s.given.json = true ∨ word = "--json" := by
  unfold Scan.word at h
  split at h
  · next name value hform =>
    obtain ⟨g, hg, h⟩ := long_eq_ok_iff.1 h
    have hne {o : Valued} (ho : Valued.ofName? name = some o) : word ≠ "--json" := by
      rintro rfl
      cases hform
      cases ho
    rw [← json_settle hg]
    rcases h with ⟨o, ho, rfl, rfl⟩ | ⟨o, v, g', ho, rfl, hg', rfl⟩ | ⟨g', rfl, rfl, hg', rfl⟩
    · exact (or_iff_left (hne ho)).symm
    · rw [(Given.put_eq_ok hg').2]
      exact (or_iff_left (hne ho)).symm
    · rw [Given.putJson_eq_ok hg']
      exact iff_of_true rfl (.inr (Word.eq_of_ofText hform))
  · exact absurd h short_ne_ok
  · next text hform =>
    obtain ⟨o, ho, rfl⟩ := plain_eq_ok h
    refine (or_iff_left ?_).symm
    rintro rfl
    cases hform

/-- **A document is wished for if and only if there is a word for it.** -/
theorem json_words_iff (h : s.words words = .ok g) :
    g.json = true ↔ s.given.json = true ∨ "--json" ∈ words := by
  induction words generalizing s with
  | nil => rw [json_settle h, or_iff_left List.not_mem_nil]
  | cons word words ih =>
    by_cases hword : word = "--"
    · subst hword
      obtain ⟨rfl, hg⟩ := words_dashes_eq_ok h
      rw [json_settle hg]
      exact (or_iff_left (by decide)).symm
    · obtain ⟨s₁, hs₁, h⟩ := (words_eq_ok_cons hword).1 h
      rw [ih h, json_word hs₁, List.mem_cons, or_assoc, eq_comm (a := word)]

end Scan

end VpnGateway.CommandLine
