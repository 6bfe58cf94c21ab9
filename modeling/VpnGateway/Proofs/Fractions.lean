import Mathlib.Algebra.Order.Floor.Semifield
import Mathlib.Data.Rat.Floor
import Mathlib.Tactic.FieldSimp
import Mathlib.Tactic.Linarith
import Mathlib.Tactic.Positivity
import Mathlib.Tactic.Ring
import VpnGateway.Proofs.DurationValue

/-!
# Digits past the eighteenth

A fraction is cut after 18 digits, which are finer than a nanosecond of any unit. What is cut off comes
to less than a nanosecond, so it shows in at most the last one: it does where the whole fraction reaches
a whole number of nanoseconds that the first 18 digits do not reach. For minutes and hours, whose
length is no power of ten, there are such fractions.

* `Duration.Token.exact`, `Duration.Token.exactNanoseconds`: what all digits of a token come to;
* `Duration.Token.Carries`: the digits that are cut off carry over to a whole nanosecond;
* `Duration.exactNanoseconds_eq_add`: they make up one nanosecond or none;
* `Duration.minute_or_hour_of_carries`: and none, but for minutes and hours with more than 18 digits;
* **`readDuration_eq_exact_sub_carries`**: a duration lacks a nanosecond for each token that carries.
-/

namespace VpnGateway

namespace Duration

/-! ## Exact values -/

/-- The number that digits after a point denote. -/
def fractionValue (digits : List Char) : ℚ :=
  (Nat.ofDigitChars 10 digits 0 : ℕ) / (Nat.pow 10 digits.length : ℕ)

/-- The number of a token with all its digits. -/
def Token.exact (t : Token) : ℚ :=
  (Nat.ofDigitChars 10 t.whole 0 : ℕ) + fractionValue t.fraction

/-- The number of a token with the digits that count. -/
def Token.shortened (t : Token) : ℚ :=
  (Nat.ofDigitChars 10 t.whole 0 : ℕ) + fractionValue t.digits

/-- The whole nanoseconds of a token with all its digits. -/
def Token.exactNanoseconds (t : Token) : Nat :=
  ⌊t.exact * (t.unit.length : ℕ)⌋₊

/-- Some whole number of nanoseconds is reached by all digits and not by those that count. -/
def Token.Carries (t : Token) : Prop :=
  ∃ n : ℕ, t.shortened * (t.unit.length : ℕ) < n ∧ (n : ℚ) ≤ t.exact * (t.unit.length : ℕ)

theorem floor_mul (whole part scale size : ℕ) :
    ⌊((whole : ℚ) + (part : ℚ) / (scale : ℚ)) * (size : ℚ)⌋₊ = whole * size + part * size / scale := by
  have h : ((whole : ℚ) + (part : ℚ) / (scale : ℚ)) * (size : ℚ) =
      ((part * size : ℕ) : ℚ) / (scale : ℚ) + ((whole * size : ℕ) : ℚ) := by
    push_cast
    ring
  rw [h, Nat.floor_add_natCast (by positivity), Nat.floor_div_eq_div, Nat.add_comm]

/-- What a token comes to is the whole nanoseconds of the digits that count. -/
theorem nanoseconds_eq_floor (t : Token) : t.nanoseconds = ⌊t.shortened * (t.unit.length : ℕ)⌋₊ :=
  (floor_mul ..).symm

theorem exactNanoseconds_eq (t : Token) :
    t.exactNanoseconds = Nat.ofDigitChars 10 t.whole 0 * t.unit.length +
      Nat.ofDigitChars 10 t.fraction 0 * t.unit.length / Nat.pow 10 t.fraction.length :=
  floor_mul ..

theorem fractionValue_nonneg (digits : List Char) : 0 ≤ fractionValue digits := by
  unfold fractionValue
  positivity

theorem fractionValue_lt_one {digits : List Char} (h : ∀ c ∈ digits, c.isDigit = true) :
    fractionValue digits < 1 := by
  have hlt := ofDigitChars_lt h 0
  rw [Nat.zero_add, Nat.one_mul] at hlt
  have hpos : (0 : ℚ) < (Nat.pow 10 digits.length : ℕ) := by
    exact_mod_cast Nat.pow_pos (by decide)
  rw [fractionValue, div_lt_one hpos]
  exact_mod_cast hlt

theorem pow_ten_pos (k : Nat) : (0 : ℚ) < (Nat.pow 10 k : ℕ) := by
  exact_mod_cast Nat.pow_pos (by decide)

theorem fractionValue_append (front back : List Char) :
    fractionValue (front ++ back) =
      fractionValue front + fractionValue back / (Nat.pow 10 front.length : ℕ) := by
  have hnumber : Nat.ofDigitChars 10 (front ++ back) 0 =
      Nat.pow 10 back.length * Nat.ofDigitChars 10 front 0 + Nat.ofDigitChars 10 back 0 := by
    rw [Nat.ofDigitChars_append]
    exact Nat.ofDigitChars_eq_ofDigitChars_zero
  have hscale : Nat.pow 10 (front.length + back.length) =
      Nat.pow 10 front.length * Nat.pow 10 back.length := Nat.pow_add ..
  have hfront := (pow_ten_pos front.length).ne'
  have hback := (pow_ten_pos back.length).ne'
  unfold fractionValue
  rw [List.length_append, hnumber, hscale]
  generalize Nat.pow 10 front.length = p at *
  generalize Nat.pow 10 back.length = q at *
  push_cast
  field_simp

theorem exact_eq (t : Token) :
    t.exact = t.shortened + fractionValue (t.fraction.drop 18) / (Nat.pow 10 t.digits.length : ℕ) := by
  have hfraction : t.fraction = t.digits ++ t.fraction.drop 18 := (List.take_append_drop 18 _).symm
  rw [Token.exact, Token.shortened, add_assoc, ← fractionValue_append, ← hfraction]

theorem shortened_nonneg (t : Token) : 0 ≤ t.shortened :=
  add_nonneg (Nat.cast_nonneg _) (fractionValue_nonneg _)

theorem exact_nonneg (t : Token) : 0 ≤ t.exact :=
  add_nonneg (Nat.cast_nonneg _) (fractionValue_nonneg _)

/-! ## What is cut off -/

theorem carries_iff (t : Token) : t.Carries ↔ t.nanoseconds < t.exactNanoseconds := by
  have hsize : (0 : ℚ) ≤ (t.unit.length : ℕ) := Nat.cast_nonneg _
  have hshort : 0 ≤ t.shortened * (t.unit.length : ℕ) := mul_nonneg (shortened_nonneg t) hsize
  have hexact : 0 ≤ t.exact * (t.unit.length : ℕ) := mul_nonneg (exact_nonneg t) hsize
  rw [nanoseconds_eq_floor, Token.exactNanoseconds]
  unfold Token.Carries
  simp only [← Nat.floor_lt hshort, ← Nat.le_floor_iff hexact]
  exact ⟨fun ⟨_, hlt, hle⟩ => Nat.lt_of_lt_of_le hlt hle, fun h => ⟨_, h, Nat.le_refl _⟩⟩

instance : DecidablePred Token.Carries := fun t => decidable_of_iff _ (carries_iff t).symm

theorem exact_eq_shortened {t : Token} (h : t.fraction.length ≤ 18) : t.exact = t.shortened := by
  have hnil : fractionValue [] = 0 := by simp [fractionValue]
  rw [exact_eq, List.drop_eq_nil_of_le h, hnil, zero_div, add_zero]

theorem length_digits {t : Token} (h : 18 < t.fraction.length) : t.digits.length = 18 := by
  rw [Token.digits, List.length_take]
  omega

/-- The digits that are cut off come to less than one in the last place. -/
theorem cutOff_lt_one {t : Token} (h : ∀ c ∈ t.fraction, c.isDigit = true) :
    (t.exact - t.shortened) * (Nat.pow 10 18 : ℕ) < 1 := by
  by_cases hlength : t.fraction.length ≤ 18
  · rw [exact_eq_shortened hlength, sub_self, zero_mul]
    exact one_pos
  · have hrest := fractionValue_lt_one fun c hc => h c (List.mem_of_mem_drop (i := 18) hc)
    rw [exact_eq, length_digits (Nat.lt_of_not_le hlength), add_sub_cancel_left,
      div_mul_cancel₀ _ (pow_ten_pos 18).ne']
    exact hrest

theorem shortened_le_exact (t : Token) : t.shortened ≤ t.exact := by
  rw [exact_eq]
  exact le_add_of_nonneg_right (div_nonneg (fractionValue_nonneg _) (Nat.cast_nonneg _))

theorem nanoseconds_le_exact (t : Token) : t.nanoseconds ≤ t.exactNanoseconds := by
  rw [nanoseconds_eq_floor]
  exact Nat.floor_le_floor (mul_le_mul_of_nonneg_right (shortened_le_exact t) (Nat.cast_nonneg _))

theorem exactNanoseconds_le {t : Token} (h : ∀ c ∈ t.fraction, c.isDigit = true) :
    t.exactNanoseconds ≤ t.nanoseconds + 1 := by
  have hsize : ((t.unit.length : ℕ) : ℚ) ≤ (Nat.pow 10 18 : ℕ) := by
    exact_mod_cast Nat.le_trans (t.unit.size_eq_length ▸ t.unit.size_le) (by decide)
  have hcut : (t.exact - t.shortened) * (t.unit.length : ℕ) < 1 :=
    calc (t.exact - t.shortened) * (t.unit.length : ℕ)
        ≤ (t.exact - t.shortened) * (Nat.pow 10 18 : ℕ) :=
          mul_le_mul_of_nonneg_left hsize (sub_nonneg.2 (shortened_le_exact t))
      _ < 1 := cutOff_lt_one h
  have hshort : 0 ≤ t.shortened * (t.unit.length : ℕ) :=
    mul_nonneg (shortened_nonneg t) (Nat.cast_nonneg _)
  rw [nanoseconds_eq_floor, Token.exactNanoseconds, ← Nat.floor_add_one hshort]
  apply Nat.floor_le_floor
  linarith

/-- **What is cut off makes up one nanosecond or none.** -/
theorem exactNanoseconds_eq_add {t : Token} (h : ∀ c ∈ t.fraction, c.isDigit = true) :
    t.exactNanoseconds = t.nanoseconds + if t.Carries then 1 else 0 := by
  have hle := exactNanoseconds_le h
  have hge := nanoseconds_le_exact t
  by_cases hc : t.Carries
  · have hlt := (carries_iff t).1 hc
    rw [if_pos hc]
    omega
  · have hnot := Nat.not_lt.1 (mt (carries_iff t).2 hc)
    rw [if_neg hc]
    omega

/-- A token with 18 digits that count is a whole number in the last place. -/
theorem shortened_mul {t : Token} (h : t.digits.length = 18) :
    t.shortened * (Nat.pow 10 18 : ℕ) =
      (Nat.ofDigitChars 10 t.whole 0 * Nat.pow 10 18 + Nat.ofDigitChars 10 t.digits 0 : ℕ) := by
  rw [Token.shortened, fractionValue, h, add_mul, div_mul_cancel₀ _ (pow_ten_pos 18).ne']
  push_cast
  rfl

/-- If a nanosecond is a whole number of steps in the last place, what is cut off does not reach one. -/
theorem not_carries_of_dvd {t : Token} (h : ∀ c ∈ t.fraction, c.isDigit = true)
    (hdvd : t.unit.length ∣ Nat.pow 10 18) : ¬ t.Carries := by
  rintro ⟨n, hlt, hle⟩
  by_cases hlength : t.fraction.length ≤ 18
  · rw [exact_eq_shortened hlength] at hle
    exact absurd hle (not_le.2 hlt)
  · obtain ⟨steps, hsteps⟩ := hdvd
    have hscale : ((Nat.pow 10 18 : ℕ) : ℚ) = (t.unit.length : ℕ) * (steps : ℚ) := by
      exact_mod_cast hsteps
    have hpos : (0 : ℚ) < steps := by
      exact_mod_cast Nat.pos_of_dvd_of_pos (Dvd.intro_left _ hsteps.symm) (Nat.pow_pos (by decide))
    obtain ⟨k, hk⟩ : ∃ k : ℕ, t.shortened * (Nat.pow 10 18 : ℕ) = k :=
      ⟨_, shortened_mul (length_digits (Nat.lt_of_not_le hlength))⟩
    have hcut := cutOff_lt_one h
    rw [sub_mul, hk] at hcut
    -- in steps, the digits that count stand at `k`, all digits before `k + 1`, and `n` in between
    have hlow : (k : ℚ) < (n : ℚ) * steps :=
      calc (k : ℚ) = t.shortened * (t.unit.length : ℕ) * steps := by rw [← hk, hscale, mul_assoc]
        _ < n * steps := mul_lt_mul_of_pos_right hlt hpos
    have hhigh : (n : ℚ) * steps < k + 1 :=
      calc (n : ℚ) * steps ≤ t.exact * (t.unit.length : ℕ) * steps :=
            mul_le_mul_of_nonneg_right hle hpos.le
        _ = t.exact * (Nat.pow 10 18 : ℕ) := by rw [hscale, mul_assoc]
        _ < k + 1 := by linarith
    have hlow' : k < n * steps := by exact_mod_cast hlow
    have hhigh' : n * steps < k + 1 := by exact_mod_cast hhigh
    omega

/-- **Only minutes and hours with more than 18 digits after the point carry.** -/
theorem minute_or_hour_of_carries {t : Token} (h : ∀ c ∈ t.fraction, c.isDigit = true)
    (hc : t.Carries) : (t.unit = .minute ∨ t.unit = .hour) ∧ 18 < t.fraction.length := by
  constructor
  · cases hunit : t.unit with
    | minute => exact .inl rfl
    | hour => exact .inr rfl
    | nanosecond | microsecond | millisecond | second =>
      refine absurd hc (not_carries_of_dvd h ?_)
      rw [hunit]
      decide
  · by_contra hlength
    obtain ⟨n, hlt, hle⟩ := hc
    rw [exact_eq_shortened (Nat.le_of_not_lt hlength)] at hle
    exact absurd hle (not_le.2 hlt)

/-! ## Rows of tokens -/

/-- What a row comes to with all digits. -/
theorem sum_exactNanoseconds {ts : List Token} (h : ∀ t ∈ ts, ∀ c ∈ t.fraction, c.isDigit = true) :
    (ts.map Token.exactNanoseconds).sum =
      (ts.map Token.nanoseconds).sum + ts.countP fun t => t.Carries := by
  induction ts with
  | nil => rfl
  | cons t ts ih =>
    rw [List.forall_mem_cons] at h
    rw [List.map_cons, List.map_cons, List.sum_cons, List.sum_cons, List.countP_cons, ih h.2,
      exactNanoseconds_eq_add h.1]
    simp only [decide_eq_true_eq]
    omega

/-- An hour's fraction of which all 19 digits reach a nanosecond and the first 18 do not. -/
def fineText : String := "0.0000000000002777778h"

def fineToken : Token := ⟨['0'], "0000000000002777778".toList, .hour⟩

theorem tokens?_fineText : tokens? fineText.toList = some [fineToken] := by
  have h : token? fineText.toList = some (fineToken, []) := by decide +kernel
  rw [tokens?_of_token? h, tokens?_nil]
  rfl

theorem digits_fineText :
    ∀ c ∈ fineText.toList, Text.isDecimalDigit c = true → c.isDigit = true := by
  have hall : fineText.toList.all fun c => !Text.isDecimalDigit c || c.isDigit := by decide
  intro c hc hdigit
  simpa [hdigit] using List.all_eq_true.1 hall c hc

end Duration

/-- **A duration lacks a nanosecond for each token that carries**, which only minutes and hours with
more than 18 digits after the point do. -/
theorem readDuration_eq_exact_sub_carries {key raw : String} {d : Duration}
    (hascii : ∀ c ∈ raw.toList, Text.isDecimalDigit c = true → c.isDigit = true)
    (h : readDuration key raw = .ok d) :
    raw = "0" ∧ d = ⟨0⟩ ∨ ∃ row : Duration.Tiling raw.toList, row.words ≠ [] ∧
      d.nanoseconds + row.tokens.countP (fun t => t.Carries) =
        (row.tokens.map Duration.Token.exactNanoseconds).sum ∧
      (d.nanoseconds = (row.tokens.map Duration.Token.exactNanoseconds).sum ↔
        ∀ t ∈ row.tokens, ¬ t.Carries) ∧
      ∀ t ∈ row.tokens, t.Carries →
        (t.unit = .minute ∨ t.unit = .hour) ∧ 18 < t.fraction.length := by
  rcases Duration.ofChars_eq_ok_iff.1 (readDuration_eq_ok.1 h) with ⟨hzero, hd⟩ | ⟨row, hne, -, hsum, -⟩
  · exact .inl ⟨String.toList_inj.1 hzero, hd⟩
  · have hdigits : ∀ t ∈ row.tokens, ∀ c ∈ t.fraction, c.isDigit = true := fun t ht c hc =>
      hascii c (Duration.mem_tokens? row.tokens?_eq t ht hc)
        ((Duration.digits_of_forall₂ row.written t ht).2 c hc)
    have hexact := Duration.sum_exactNanoseconds hdigits
    rw [hsum] at hexact
    refine .inr ⟨row, hne, hexact.symm, ?_, fun t ht =>
      Duration.minute_or_hour_of_carries (hdigits t ht)⟩
    have hcount : row.tokens.countP (fun t => t.Carries) = 0 ↔ ∀ t ∈ row.tokens, ¬ t.Carries := by
      simp [List.countP_eq_zero]
    rw [hexact, ← hcount]
    omega

theorem readDuration_fineText (key : String) : readDuration key Duration.fineText = .ok ⟨0⟩ := by
  rw [readDuration_eq_ok, Duration.ofText, Duration.ofChars, if_neg (by decide),
    Duration.tokens?_fineText]
  decide

theorem readDuration_eq_exact_sub_carries_fineText :
    (∀ c ∈ Duration.fineText.toList, Text.isDecimalDigit c = true → c.isDigit = true) ∧
      readDuration "DNS_UPDATE_PERIOD" Duration.fineText = .ok ⟨0⟩ ∧
      ∃ row : Duration.Tiling Duration.fineText.toList,
        0 + row.tokens.countP (fun t => t.Carries) =
          (row.tokens.map Duration.Token.exactNanoseconds).sum := by
  refine ⟨Duration.digits_fineText, readDuration_fineText _, ?_⟩
  rcases readDuration_eq_exact_sub_carries Duration.digits_fineText
    (readDuration_fineText "DNS_UPDATE_PERIOD") with ⟨h, -⟩ | ⟨row, -, h, -⟩
  · exact absurd h (by decide)
  · exact ⟨row, h⟩

/-- The digits past the eighteenth may count: here they make up the only nanosecond there is. -/
theorem readDuration_ne_exact :
    (∀ c ∈ Duration.fineText.toList, Text.isDecimalDigit c = true → c.isDigit = true) ∧
      readDuration "DNS_UPDATE_PERIOD" Duration.fineText = .ok ⟨0⟩ ∧
      ∃ row : Duration.Tiling Duration.fineText.toList,
        (∀ other : Duration.Tiling Duration.fineText.toList, other = row) ∧
        (row.tokens.map Duration.Token.exactNanoseconds).sum = 1 := by
  refine ⟨Duration.digits_fineText, readDuration_fineText _, ?_⟩
  obtain ⟨row, htokens⟩ := Duration.tokens?_eq_some_iff.1 Duration.tokens?_fineText
  refine ⟨row, row.unique, ?_⟩
  rw [htokens, List.map_singleton, List.sum_singleton, Duration.exactNanoseconds_eq]
  decide

end VpnGateway
