import Mathlib.Data.List.Basic
import Mathlib.Data.List.Forall2
import Mathlib.Data.List.TakeWhile
import VpnGateway.Proofs.Duration

/-!
# Texts of durations as rows of tokens

A text that is read as a duration is a row of words, each the writing of a token, and it is such a row
in one way only: a word ends where a digit or a point begins the next one.

* `Duration.TimeUnit.spellings`, `Duration.TimeUnit.length`: how a unit is written, how long it lasts;
* `Duration.Token.Written`: the words that write a token;
* `Duration.token?_append`, `Duration.exists_word`: the token in front is that of the word in front;
* `Duration.Tiling`: a text as a row of words;
* **`Duration.tokens?_eq_some_iff`**: the tokens of a text are those of its row;
* **`Duration.Tiling.unique`**: a text is no other row.
-/

namespace VpnGateway.Duration

open Text (isDecimalDigit)

/-! ## Words -/

/-- The ways to write a unit. -/
def TimeUnit.spellings : TimeUnit → List (List Char)
  | nanosecond => [['n', 's']]
  | microsecond => [['u', 's'], ['µ', 's']]
  | millisecond => [['m', 's']]
  | second => [['s']]
  | minute => [['m']]
  | hour => [['h']]

/-- How many nanoseconds a unit lasts. -/
def TimeUnit.length : TimeUnit → Nat
  | nanosecond => 1
  | microsecond => Nat.pow 10 3
  | millisecond => Nat.pow 10 6
  | second => Nat.pow 10 9
  | minute => 60 * Nat.pow 10 9
  | hour => 3600 * Nat.pow 10 9

/-- The words that write a token: digits of any script and a unit after them, perhaps with a point
after, among or before the digits. -/
inductive Token.Written : Token → List Char → Prop
  | plain {whole spelling : List Char} {unit : TimeUnit} (hne : whole ≠ [])
      (hwhole : ∀ c ∈ whole, isDecimalDigit c = true) (hunit : spelling ∈ unit.spellings) :
      Written ⟨whole, [], unit⟩ (whole ++ spelling)
  | pointed {whole fraction spelling : List Char} {unit : TimeUnit}
      (hne : ¬ (whole = [] ∧ fraction = [])) (hwhole : ∀ c ∈ whole, isDecimalDigit c = true)
      (hfraction : ∀ c ∈ fraction, isDecimalDigit c = true) (hunit : spelling ∈ unit.spellings) :
      Written ⟨whole, fraction, unit⟩ (whole ++ '.' :: (fraction ++ spelling))

/-- The text is empty, or begins with a digit or a point, as a word does. -/
def Begins : List Char → Prop
  | [] => True
  | c :: _ => isDecimalDigit c = true ∨ c = '.'

theorem Token.Written.begins {t : Token} {word : List Char} (h : t.Written word)
    (rest : List Char) : Begins (word ++ rest) := by
  cases h with
  | plain hne hwhole hunit =>
    obtain ⟨c, cs, rfl⟩ := List.exists_cons_of_ne_nil hne
    exact .inl (hwhole c List.mem_cons_self)
  | @pointed whole fraction _ _ hne hwhole hfraction hunit =>
    cases whole with
    | nil => exact .inr rfl
    | cons c cs => exact .inl (hwhole c List.mem_cons_self)

/-- The digits of a token are digits of some script. -/
theorem Token.Written.digits {t : Token} {word : List Char} (h : t.Written word) :
    (∀ c ∈ t.whole, isDecimalDigit c = true) ∧ ∀ c ∈ t.fraction, isDecimalDigit c = true := by
  cases h with
  | plain hne hwhole hunit => exact ⟨hwhole, by simp⟩
  | pointed hne hwhole hfraction hunit => exact ⟨hwhole, hfraction⟩

/-! ## The word in front -/

theorem unit?_append {u : TimeUnit} {spelling rest : List Char} (h : spelling ∈ u.spellings)
    (hrest : Begins rest) : unit? (spelling ++ rest) = some (u, rest) := by
  cases u with
  | nanosecond | millisecond | second | hour =>
    cases List.mem_singleton.1 h
    rfl
  | microsecond => rcases List.mem_pair.1 h with rfl | rfl <;> rfl
  | minute =>
    cases List.mem_singleton.1 h
    cases rest with
    | nil => rfl
    | cons c rest =>
      -- what follows does not begin with the second letter of a millisecond
      have hc : c ≠ 's' := by
        rintro rfl
        rcases hrest with h | h <;> exact absurd h (by decide)
      exact unit?.eq_6 _ fun cs h => hc (List.cons.inj h).1

theorem exists_spelling {cs : List Char} {r : TimeUnit × List Char} (h : unit? cs = some r) :
    ∃ spelling ∈ r.1.spellings, cs = spelling ++ r.2 := by
  unfold unit? at h
  split at h
  case h_8 => cases h
  all_goals
    cases h
    simp [TimeUnit.spellings]

/-- A unit begins with a letter. -/
theorem exists_letter {u : TimeUnit} {spelling : List Char} (h : spelling ∈ u.spellings) :
    ∃ c cs, spelling = c :: cs ∧ isDecimalDigit c = false ∧ c ≠ '.' := by
  have hall : u.spellings.all (fun s => s.head?.any fun c => !isDecimalDigit c && c != '.') := by
    cases u <;> decide
  obtain ⟨c, hc, hletter⟩ := (Option.any_eq_true _ _).1 (List.all_eq_true.1 hall spelling h)
  obtain ⟨cs, rfl⟩ := List.head?_eq_some_iff.1 hc
  exact ⟨c, cs, rfl, by simpa using hletter⟩

theorem takeWhile_digits {digits : List Char} (h : ∀ c ∈ digits, isDecimalDigit c = true) {c : Char}
    (hc : isDecimalDigit c = false) (rest : List Char) :
    (digits ++ c :: rest).takeWhile isDecimalDigit = digits := by
  rw [List.takeWhile_append_of_pos h, List.takeWhile_cons_of_neg (by simp [hc]), List.append_nil]

theorem dropWhile_digits {digits : List Char} (h : ∀ c ∈ digits, isDecimalDigit c = true) {c : Char}
    (hc : isDecimalDigit c = false) (rest : List Char) :
    (digits ++ c :: rest).dropWhile isDecimalDigit = c :: rest := by
  rw [List.dropWhile_append_of_pos h, List.dropWhile_cons_of_neg (by simp [hc])]

/-- The token of the word in front is read, if another word or nothing follows. -/
theorem token?_append {t : Token} {word rest : List Char} (h : t.Written word)
    (hrest : Begins rest) : token? (word ++ rest) = some (t, rest) := by
  cases h with
  | plain hne hwhole hunit =>
    obtain ⟨c, cs, rfl, hdigit, hpoint⟩ := exists_letter hunit
    have hread := unit?_append hunit hrest
    rw [List.append_assoc]
    rw [List.cons_append] at hread ⊢
    rw [token?, takeWhile_digits hwhole hdigit, dropWhile_digits hwhole hdigit]
    split
    · rename_i heq
      exact absurd (List.cons.inj heq).1 hpoint
    · rw [if_neg hne, hread, Option.map_some]
  | pointed hne hwhole hfraction hunit =>
    have hpoint : isDecimalDigit '.' = false := by decide
    obtain ⟨c, cs, rfl, hdigit, -⟩ := exists_letter hunit
    have hread := unit?_append hunit hrest
    rw [List.append_assoc, List.cons_append, List.append_assoc]
    rw [List.cons_append] at hread ⊢
    rw [token?, takeWhile_digits hwhole hpoint, dropWhile_digits hwhole hpoint]
    simp only [takeWhile_digits hfraction hdigit, dropWhile_digits hfraction hdigit, if_neg hne,
      hread, Option.map_some]

theorem isDecimalDigit_of_mem_takeWhile {cs : List Char} :
    ∀ c ∈ cs.takeWhile isDecimalDigit, isDecimalDigit c = true :=
  fun _ hc => List.mem_takeWhile_imp hc

/-- A token that is read is that of a word in front. -/
theorem exists_word {cs : List Char} {r : Token × List Char} (h : token? cs = some r) :
    ∃ word, r.1.Written word ∧ cs = word ++ r.2 := by
  have hcs := List.takeWhile_append_dropWhile (p := isDecimalDigit) (l := cs)
  unfold token? at h
  dsimp only at h
  split at h
  · rename_i after heq
    have hafter := List.takeWhile_append_dropWhile (p := isDecimalDigit) (l := after)
    split at h
    · cases h
    · rename_i hne
      obtain ⟨u, hu, rfl⟩ := Option.map_eq_some_iff.1 h
      obtain ⟨spelling, hspelling, hrest⟩ := exists_spelling hu
      refine ⟨_, .pointed hne isDecimalDigit_of_mem_takeWhile isDecimalDigit_of_mem_takeWhile
        hspelling, ?_⟩
      rw [List.append_assoc, List.cons_append, List.append_assoc, ← hrest, hafter, ← heq, hcs]
  · split at h
    · cases h
    · rename_i hne
      obtain ⟨u, hu, rfl⟩ := Option.map_eq_some_iff.1 h
      obtain ⟨spelling, hspelling, hrest⟩ := exists_spelling hu
      refine ⟨_, .plain hne isDecimalDigit_of_mem_takeWhile hspelling, ?_⟩
      rw [List.append_assoc, ← hrest, hcs]

/-! ## Rows of words -/

theorem begins_flatten {tokens : List Token} {words : List (List Char)}
    (h : List.Forall₂ Token.Written tokens words) : Begins words.flatten := by
  cases h with
  | nil => trivial
  | cons hword _ => exact hword.begins _

theorem tokens?_flatten {tokens : List Token} {words : List (List Char)}
    (h : List.Forall₂ Token.Written tokens words) : tokens? words.flatten = some tokens := by
  induction h with
  | nil => exact tokens?_nil
  | cons hword hrest ih =>
    rw [List.flatten_cons, tokens?_of_token? (token?_append hword (begins_flatten hrest)), ih,
      Option.map_some]

/-- The tokens and the text tell the words: each word is what its token takes off the text. -/
theorem words_unique {tokens : List Token} {words words' : List (List Char)}
    (h : List.Forall₂ Token.Written tokens words) (h' : List.Forall₂ Token.Written tokens words')
    (hflatten : words.flatten = words'.flatten) : words = words' := by
  induction h generalizing words' with
  | nil =>
    cases h'
    rfl
  | @cons t word ts words hword hrest ih =>
    obtain ⟨word', words', hword', hrest', rfl⟩ := List.forall₂_cons_left_iff.1 h'
    rw [List.flatten_cons, List.flatten_cons] at hflatten
    have hread := token?_append hword (begins_flatten hrest)
    rw [hflatten, token?_append hword' (begins_flatten hrest')] at hread
    obtain ⟨-, hrests⟩ := Prod.mk.inj (Option.some.inj hread)
    rw [hrests] at hflatten
    rw [ih hrest' hrests.symm, List.append_cancel_right hflatten]

/-- A text as a row of words, each of which writes a token. -/
@[ext]
structure Tiling (cs : List Char) where
  words : List (List Char)
  tokens : List Token
  written : List.Forall₂ Token.Written tokens words
  flatten : words.flatten = cs

namespace Tiling

variable {cs : List Char}

theorem tokens?_eq (row : Tiling cs) : tokens? cs = some row.tokens := by
  have h := tokens?_flatten row.written
  rwa [row.flatten] at h

/-- **A text is a row of words in one way only.** -/
theorem unique (row other : Tiling cs) : other = row := by
  have htokens : other.tokens = row.tokens :=
    Option.some.inj (other.tokens?_eq.symm.trans row.tokens?_eq)
  have hother := other.written
  rw [htokens] at hother
  exact Tiling.ext (words_unique hother row.written (other.flatten.trans row.flatten.symm)) htokens

end Tiling

/-- The digits of a row are digits of some script. -/
theorem digits_of_forall₂ {tokens : List Token} {words : List (List Char)}
    (h : List.Forall₂ Token.Written tokens words) : ∀ t ∈ tokens,
      (∀ c ∈ t.whole, isDecimalDigit c = true) ∧ ∀ c ∈ t.fraction, isDecimalDigit c = true := by
  induction h with
  | nil => simp
  | cons hword _ ih => exact List.forall_mem_cons.2 ⟨hword.digits, ih⟩

/-- **The tokens of a text are those of its row.** -/
theorem tokens?_eq_some_iff {cs : List Char} {ts : List Token} :
    tokens? cs = some ts ↔ ∃ row : Tiling cs, row.tokens = ts := by
  refine ⟨fun h => ?_, fun ⟨row, htokens⟩ => htokens ▸ row.tokens?_eq⟩
  induction cs using tokens?.induct generalizing ts with
  | case1 =>
    rw [tokens?_nil] at h
    cases h
    exact ⟨⟨[], [], .nil, rfl⟩, rfl⟩
  | case2 cs hne hn =>
    rw [tokens?_of_token?_eq_none hne hn] at h
    cases h
  | case3 cs hne r hr ih =>
    rw [tokens?_of_token? hr] at h
    obtain ⟨us, hus, rfl⟩ := Option.map_eq_some_iff.1 h
    obtain ⟨row, rfl⟩ := ih hus
    obtain ⟨word, hword, hcs⟩ := exists_word hr
    refine ⟨⟨word :: row.words, r.1 :: row.tokens, .cons hword row.written, ?_⟩, rfl⟩
    rw [List.flatten_cons, row.flatten, hcs]

end VpnGateway.Duration
