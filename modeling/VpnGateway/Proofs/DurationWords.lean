import VpnGateway.Duration.Words
import VpnGateway.Text.Numeral

/-!
# Durations in words are read back

The words of a duration say how often each unit fits, and what they leave out does not fit at all. So
the counts, each times the length of its unit, add up to the duration.

* `Duration.countsValue_counts`: what the counts come to, with what they leave;
* `Duration.wordValue`, `Duration.wordsValue`: the nanoseconds that words stand for;
* **`Duration.wordsValue_describe`**: they are those of the duration;
* `Duration.describe_injective`: no two durations have the same words.
-/

namespace VpnGateway.Duration

open Text

/-! ## Counts -/

/-- The nanoseconds of a unit with its count. -/
def countValue (c : Nat × Measure) : Nat :=
  c.1 * c.2.size

/-- What counts come to. -/
def countsValue (l : List (Nat × Measure)) : Nat :=
  l.foldr (fun c n => countValue c + n) 0

theorem countsValue_cons (c : Nat × Measure) (l : List (Nat × Measure)) :
    countsValue (c :: l) = countValue c + countsValue l := rfl

/-- The counts come to the duration, but for what the last unit leaves. -/
theorem countsValue_counts (ms : List Measure) (n : Nat) :
    countsValue (counts ms n) + ms.foldl (fun rest m => rest % m.size) n = n := by
  induction ms generalizing n with
  | nil => exact Nat.zero_add n
  | cons m ms ih =>
    have hrest := ih (n % m.size)
    have hfirst : n / m.size * m.size + n % m.size = n := Nat.div_add_mod' n m.size
    simp only [counts, countsValue_cons, List.foldl_cons, countValue] at hrest ⊢
    omega

/-- A nanosecond leaves nothing. -/
theorem countsValue_measures (n : Nat) : countsValue (counts measures n) = n := by
  have hcounts := countsValue_counts measures n
  have hrest : measures.foldl (fun rest m => rest % m.size) n = 0 := Nat.mod_one _
  rwa [hrest, Nat.add_zero] at hcounts

theorem countsValue_filter (l : List (Nat × Measure)) :
    countsValue (l.filter fun c => c.1 ≠ 0) = countsValue l := by
  induction l with
  | nil => rfl
  | cons c l ih =>
    by_cases hc : c.1 = 0
    · have hvalue : countValue c = 0 := by rw [countValue, hc, Nat.zero_mul]
      rw [List.filter_cons_of_neg (by simp [hc]), countsValue_cons, hvalue, Nat.zero_add, ih]
    · rw [List.filter_cons_of_pos (by simp [hc]), countsValue_cons, countsValue_cons, ih]

theorem mem_of_mem_counts {ms : List Measure} {n : Nat} {c : Nat × Measure} (h : c ∈ counts ms n) :
    c.2 ∈ ms := by
  induction ms generalizing n with
  | nil => cases h
  | cons m ms ih =>
    rcases List.mem_cons.1 h with rfl | h
    · exact List.mem_cons_self
    · exact List.mem_cons_of_mem m (ih h)

/-! ## Words -/

/-- The length of the unit with this name, zero if there is none. -/
def nameSize (name : List Char) : Nat :=
  ((measures.find? fun m => name = m.name.toList ∨ name = m.plural.toList).map Measure.size).getD 0

/-- The nanoseconds that a number with the name of a unit stands for. -/
def wordValue (word : List Char) : Nat :=
  Nat.ofDigitChars 10 (word.takeWhile Char.isDigit) 0 * nameSize (word.dropWhile Char.isDigit)

/-- The nanoseconds that words with spaces in between stand for. -/
def wordsValue (text : String) : Nat :=
  (text.toList.splitOn ' ').foldr (fun word n => wordValue word + n) 0

theorem nameSize_measures : ∀ m ∈ measures,
    nameSize m.name.toList = m.size ∧ nameSize m.plural.toList = m.size := by
  decide +kernel

/-- No name of a unit begins with a digit, or has a space. -/
theorem names_measures : ∀ m ∈ measures, ∀ name ∈ [m.name, m.plural],
    name.toList.head?.any Char.isDigit = false ∧ ' ' ∉ name.toList := by
  decide +kernel

variable {c : Nat × Measure}

/-- A unit with its count is its digits, and one of the names of the unit. -/
theorem exists_countText (c : Nat × Measure) : ∃ name ∈ [c.2.name, c.2.plural],
    (countText c).toList = Nat.toDigits 10 c.1 ++ name.toList := by
  rw [countText, String.toList_append, Nat.toString_eq_repr, Nat.toList_repr]
  split
  · exact ⟨c.2.plural, by simp, rfl⟩
  · exact ⟨c.2.name, by simp, rfl⟩

theorem wordValue_countText (h : c.2 ∈ measures) : wordValue (countText c).toList = countValue c := by
  obtain ⟨name, hname, htext⟩ := exists_countText c
  have hdigit := (names_measures c.2 h name hname).1
  have hsize : nameSize name.toList = c.2.size := by
    obtain ⟨hsingular, hplural⟩ := nameSize_measures c.2 h
    rcases List.mem_cons.1 hname with rfl | hname
    · exact hsingular
    · rw [List.mem_singleton.1 hname]
      exact hplural
  rw [wordValue, htext, takeWhile_toDigits hdigit, dropWhile_toDigits hdigit, hsize,
    Nat.ofDigitChars_ten_toDigits, countValue]

theorem space_not_mem_countText (h : c.2 ∈ measures) : ' ' ∉ (countText c).toList := by
  obtain ⟨name, hname, htext⟩ := exists_countText c
  rw [htext, List.mem_append]
  rintro (hspace | hspace)
  · exact absurd (isDigit_of_mem_toDigits hspace) (by decide)
  · exact (names_measures c.2 h name hname).2 hspace

theorem wordsValue_map {l : List (Nat × Measure)} (h : ∀ c ∈ l, c.2 ∈ measures) :
    (l.map fun c => (countText c).toList).foldr (fun word n => wordValue word + n) 0 =
      countsValue l := by
  induction l with
  | nil => rfl
  | cons c l ih =>
    obtain ⟨hc, hl⟩ := List.forall_mem_cons.1 h
    rw [List.map_cons, List.foldr_cons, ih hl, wordValue_countText hc, countsValue_cons]

/-- The words of counts stand for what the counts come to. -/
theorem wordsValue_intercalate {l : List (Nat × Measure)} (hne : l ≠ [])
    (h : ∀ c ∈ l, c.2 ∈ measures) :
    wordsValue (" ".intercalate (l.map countText)) = countsValue l := by
  have hsplit : (" ".intercalate (l.map countText)).toList.splitOn ' ' =
      l.map fun c => (countText c).toList := by
    rw [String.toList_intercalate, List.map_map]
    refine List.splitOn_intercalate _ (fun word hword => ?_) (by simpa using hne)
    obtain ⟨c, hc, rfl⟩ := List.mem_map.1 hword
    exact space_not_mem_countText (h c hc)
  rw [wordsValue, hsplit, wordsValue_map h]

/-- **The words of a duration stand for its nanoseconds.** -/
theorem wordsValue_describe (d : Duration) : wordsValue d.describe = d.nanoseconds := by
  rw [describe]
  split
  · next hzero =>
    rw [hzero]
    decide +kernel
  · next hnonzero =>
    have hvalue : countsValue ((counts measures d.nanoseconds).filter fun c => c.1 ≠ 0) =
        d.nanoseconds := by
      rw [countsValue_filter, countsValue_measures]
    rw [wordsValue_intercalate ?_ fun c hc => mem_of_mem_counts (List.mem_filter.1 hc).1, hvalue]
    intro hnil
    rw [hnil] at hvalue
    exact hnonzero hvalue.symm

/-- No two durations have the same words. -/
theorem describe_injective : Function.Injective describe := by
  rintro ⟨n⟩ ⟨n'⟩ h
  have hvalue := congrArg wordsValue h
  rw [wordsValue_describe, wordsValue_describe] at hvalue
  exact congrArg mk hvalue

end VpnGateway.Duration
