import Mathlib.Algebra.GroupWithZero.Nat
import VpnGateway.Proofs.Ascii
import VpnGateway.Proofs.RuleErrors
import VpnGateway.Proofs.Tokens

/-!
# The value of a duration

The value of a text is the sum of what its tokens come to, and no product or sum on the way is out of
range unless the whole is. Of a fraction the first 18 bytes count, and they have to be ASCII digits; a
whole part has to be ASCII throughout.

* `Duration.Token.IsReadable`, `Duration.Token.nanoseconds`: what a token comes to, in numbers without
  a bound;
* `Duration.digits_take_iff`, `Duration.cut?_eq_some_iff`: a fraction that is cut to digits;
* `Duration.value_eq_ok_iff`, `Duration.total_eq_ok_iff`: one token, and a row of them;
* `Duration.ofChars_eq_ok_iff`: the whole text;
* **`readDuration_eq_ok_iff`**: the texts of a duration, and what the error says of any other.
-/

namespace VpnGateway

namespace Duration

/-! ## Digits and their bytes -/

theorem toNat_le_of_isDigit {c : Char} (h : c.isDigit = true) : c.val.toNat ≤ 57 := by
  simp only [Char.isDigit, Bool.and_eq_true, decide_eq_true_eq] at h
  exact UInt32.le_iff_toNat_le.1 h.2

theorem utf8Size_of_isDigit {c : Char} (h : c.isDigit = true) : c.utf8Size = 1 := by
  rw [Char.utf8Size_eq_one_iff, UInt32.le_iff_toNat_le]
  exact Nat.le_trans (toNat_le_of_isDigit h) (by decide)

theorem isDigit_asciiChar {b : UInt8} (h : b < 128) :
    (Text.asciiChar b).isDigit = true ↔ 0x30 ≤ b ∧ b ≤ 0x39 := by
  have hnat : (Text.asciiChar b).val.toNat = b.toNat := Text.toNat_asciiChar h
  simp only [Char.isDigit, Bool.and_eq_true, decide_eq_true_eq, ge_iff_le, UInt32.le_iff_toNat_le,
    UInt8.le_iff_toNat_le, hnat]
  exact Iff.rfl

/-- The first bytes of a text are digits if its first characters are. -/
theorem digits_take_iff (room : Nat) (cs : List Char) :
    (∀ b ∈ (cs.flatMap String.utf8EncodeChar).take room, 0x30 ≤ b ∧ b ≤ 0x39) ↔
      ∀ c ∈ cs.take room, c.isDigit = true := by
  induction cs generalizing room with
  | nil => simp
  | cons c cs ih =>
    cases room with
    | zero => simp
    | succ room =>
      obtain ⟨b, bs, hbytes⟩ := List.exists_cons_of_ne_nil (String.utf8EncodeChar_ne_nil (c := c))
      by_cases hb : b < 128
      · have hc : c = Text.asciiChar b :=
          Text.eq_asciiChar_of_mem hb (hbytes ▸ List.mem_cons_self)
        rw [List.flatMap_cons, hc, Text.utf8EncodeChar_asciiChar hb, List.singleton_append,
          List.take_succ_cons, List.take_succ_cons, List.forall_mem_cons, List.forall_mem_cons, ih,
          isDigit_asciiChar hb]
      · -- the first byte of the character is no ASCII digit, and neither is the character
        rw [List.flatMap_cons, hbytes, List.cons_append, List.take_succ_cons, List.take_succ_cons,
          List.forall_mem_cons, List.forall_mem_cons]
        refine ⟨fun h => ?_, fun h => ?_⟩
        · exact absurd (UInt8.lt_of_le_of_lt h.1.2 (by decide)) hb
        · have hone := String.utf8EncodeChar_eq_singleton (utf8Size_of_isDigit h.1)
          rw [hbytes] at hone
          have hle := toNat_le_of_isDigit h.1
          refine absurd (UInt8.lt_iff_toNat_lt.2 ?_) hb
          rw [(List.cons.inj hone).1, UInt32.toNat_toUInt8]
          simp only [UInt8.reduceToNat]
          omega

/-- A fraction that begins with digits is cut to them. -/
theorem cut?_of_digits {room : Nat} {cs : List Char} (h : ∀ c ∈ cs.take room, c.isDigit = true) :
    cut? room cs = some (cs.take room) := by
  induction cs generalizing room with
  | nil => cases room <;> rfl
  | cons c cs ih =>
    cases room with
    | zero => rfl
    | succ room =>
      rw [List.take_succ_cons, List.forall_mem_cons] at h
      have hsize := utf8Size_of_isDigit h.1
      rw [cut?, if_pos (by omega), hsize, Nat.add_sub_cancel, ih h.2, List.take_succ_cons,
        Option.map_some]

/-- What a fraction is cut to is its first characters, if it is digits. -/
theorem take_eq_of_cut? {room : Nat} {cs digits : List Char} (hcut : cut? room cs = some digits)
    (h : ∀ c ∈ digits, c.isDigit = true) : cs.take room = digits := by
  induction cs generalizing room digits with
  | nil => cases room <;> simpa [cut?] using hcut
  | cons c cs ih =>
    cases room with
    | zero => simpa [cut?] using hcut
    | succ room =>
      rw [cut?] at hcut
      split at hcut
      · obtain ⟨ds, hds, rfl⟩ := Option.map_eq_some_iff.1 hcut
        rw [List.forall_mem_cons] at h
        rw [utf8Size_of_isDigit h.1, Nat.add_sub_cancel] at hds
        rw [List.take_succ_cons, ih hds h.2]
      · cases hcut

/-! ## Tokens -/

/-- What counts of a token is ASCII: its whole part, and the first 18 bytes of its fraction. -/
structure Token.IsReadable (t : Token) : Prop where
  whole : ∀ c ∈ t.whole, c.isDigit = true
  fraction : ∀ b ∈ (Text.utf8Bytes (String.ofList t.fraction)).take 18, 0x30 ≤ b ∧ b ≤ 0x39

/-- The digits of a fraction that count. -/
def Token.digits (t : Token) : List Char :=
  t.fraction.take 18

/-- What a token comes to, without a bound on any number. -/
def Token.nanoseconds (t : Token) : Nat :=
  Nat.ofDigitChars 10 t.whole 0 * t.unit.length +
    Nat.ofDigitChars 10 t.digits 0 * t.unit.length / Nat.pow 10 t.digits.length

theorem Token.isReadable_iff {t : Token} :
    t.IsReadable ↔ (∀ c ∈ t.whole, c.isDigit = true) ∧ ∀ c ∈ t.digits, c.isDigit = true := by
  have hbytes := digits_take_iff 18 (String.ofList t.fraction).toList
  rw [String.toList_ofList] at hbytes
  have h : (∀ b ∈ (Text.utf8Bytes (String.ofList t.fraction)).take 18, 0x30 ≤ b ∧ b ≤ 0x39) ↔
      ∀ c ∈ t.digits, c.isDigit = true := by
    rw [Text.utf8Bytes, String.toList_ofList]
    exact hbytes
  exact ⟨fun hr => ⟨hr.whole, h.1 hr.fraction⟩, fun hr => ⟨hr.1, h.2 hr.2⟩⟩

theorem bounded_eq_ok_iff {n m : Nat} : bounded n = .ok m ↔ n = m ∧ m < bound := by
  unfold bounded
  by_cases h : n < bound
  · rw [if_pos h]
    refine ⟨fun he => ?_, fun he => by rw [he.1]⟩
    cases he
    exact ⟨rfl, h⟩
  · rw [if_neg h]
    exact ⟨fun he => (by cases he), fun ⟨he, hlt⟩ => absurd (he ▸ hlt) h⟩

theorem number_eq_ok_iff {cs : List Char} {n : Nat} :
    number cs = .ok n ↔
      (∀ c ∈ cs, c.isDigit = true) ∧ Nat.ofDigitChars 10 cs 0 = n ∧ n < bound := by
  unfold number Text.natural?
  by_cases hne : cs = []
  · rw [if_pos hne, hne]
    refine ⟨fun h => ?_, fun ⟨_, h, _⟩ => by rw [← h]; rfl⟩
    cases h
    exact ⟨by simp, rfl, by decide⟩
  · rw [if_neg hne]
    by_cases hall : cs.all Char.isDigit = true
    · rw [if_pos ⟨hne, hall⟩]
      exact bounded_eq_ok_iff.trans (iff_and_self.2 fun _ => List.all_eq_true.1 hall)
    · rw [if_neg fun h => hall h.2]
      exact ⟨fun h => (by cases h), fun h => absurd (List.all_eq_true.2 h.1) hall⟩

/-- Values are computed with the lengths of the units. -/
theorem TimeUnit.size_eq_length (u : TimeUnit) : u.size = u.length := by
  cases u with
  | nanosecond | microsecond | millisecond | second | minute | hour => rfl

theorem TimeUnit.length_pos (u : TimeUnit) : 0 < u.length := by
  cases u <;> decide

/-- **A token has a value if it is readable and in range.** -/
theorem value_eq_ok_iff {t : Token} {n : Nat} :
    t.value = .ok n ↔ t.IsReadable ∧ t.nanoseconds = n ∧ n < bound := by
  rw [Token.isReadable_iff]
  unfold Token.value
  rw [except_bind_eq_ok, TimeUnit.size_eq_length]
  constructor
  · rintro ⟨whole, hwhole, h⟩
    split at h
    · cases h
    · rename_i digits hcut
      obtain ⟨fraction, hfraction, h⟩ := except_bind_eq_ok.1 h
      obtain ⟨high, hhigh, h⟩ := except_bind_eq_ok.1 h
      obtain ⟨hw, rfl, -⟩ := number_eq_ok_iff.1 hwhole
      obtain ⟨hd, rfl, -⟩ := number_eq_ok_iff.1 hfraction
      obtain ⟨rfl, -⟩ := bounded_eq_ok_iff.1 hhigh
      have hdigits : t.digits = digits := take_eq_of_cut? hcut hd
      rw [← hdigits] at hd h
      exact ⟨⟨hw, hd⟩, bounded_eq_ok_iff.1 h⟩
  · rintro ⟨⟨hw, hd⟩, rfl, hlt⟩
    have hcut : cut? fractionBytes t.fraction = some t.digits := cut?_of_digits hd
    -- both numbers are in range, since the units are not shorter than a nanosecond
    have hhigh : Nat.ofDigitChars 10 t.whole 0 * t.unit.length < bound :=
      Nat.lt_of_le_of_lt (Nat.le_add_right _ _) hlt
    have hwhole : Nat.ofDigitChars 10 t.whole 0 < bound :=
      Nat.lt_of_le_of_lt (Nat.le_mul_of_pos_right _ t.unit.length_pos) hhigh
    have hfraction : Nat.ofDigitChars 10 t.digits 0 < bound := by
      have hten := ofDigitChars_lt hd 0
      rw [Nat.zero_add, Nat.one_mul] at hten
      have hlength : t.digits.length ≤ 18 := List.length_take_le ..
      calc Nat.ofDigitChars 10 t.digits 0 < Nat.pow 10 t.digits.length := hten
        _ ≤ Nat.pow 10 18 := Nat.pow_le_pow_right (by decide) hlength
        _ < bound := by decide
    refine ⟨_, number_eq_ok_iff.2 ⟨hw, rfl, hwhole⟩, ?_⟩
    rw [hcut]
    exact except_bind_eq_ok.2 ⟨_, number_eq_ok_iff.2 ⟨hd, rfl, hfraction⟩,
      except_bind_eq_ok.2 ⟨_, bounded_eq_ok_iff.2 ⟨rfl, hhigh⟩, bounded_eq_ok_iff.2 ⟨rfl, hlt⟩⟩⟩

/-! ## Rows of tokens -/

/-- **The sum of a row is in range throughout if its end is.** -/
theorem total_eq_ok_iff {sum : Nat} (hsum : sum < bound) {ts : List Token} {n : Nat} :
    total sum ts = .ok n ↔
      (∀ t ∈ ts, t.IsReadable) ∧ sum + (ts.map Token.nanoseconds).sum = n ∧ n < bound := by
  induction ts generalizing sum with
  | nil =>
    rw [total, List.map_nil, List.sum_nil, Nat.add_zero]
    constructor
    · intro h
      cases h
      exact ⟨by simp, rfl, hsum⟩
    · rintro ⟨-, rfl, -⟩
      rfl
  | cons t ts ih =>
    rw [List.forall_mem_cons, List.map_cons, List.sum_cons, ← Nat.add_assoc]
    constructor
    · intro h
      obtain ⟨v, hv, h⟩ := except_bind_eq_ok.1 h
      obtain ⟨next, hnext, h⟩ := except_bind_eq_ok.1 h
      obtain ⟨ht, rfl, -⟩ := value_eq_ok_iff.1 hv
      obtain ⟨rfl, hlt⟩ := bounded_eq_ok_iff.1 hnext
      obtain ⟨hts, hn⟩ := (ih hlt).1 h
      exact ⟨⟨ht, hts⟩, hn⟩
    · rintro ⟨⟨ht, hts⟩, hn, hlt⟩
      have hnext : sum + t.nanoseconds < bound := by omega
      have hv : t.nanoseconds < bound := by omega
      exact total_cons_eq_ok (value_eq_ok_iff.2 ⟨ht, rfl, hv⟩)
        (bounded_eq_ok_iff.2 ⟨rfl, hnext⟩) ((ih hnext).2 ⟨hts, hn, hlt⟩)

/-- The row of a text has tokens if it has words. -/
theorem Tiling.tokens_ne_nil_iff {cs : List Char} (row : Tiling cs) :
    row.tokens ≠ [] ↔ row.words ≠ [] := by
  have h := row.written.length_eq
  rw [← List.length_pos_iff, ← List.length_pos_iff, h]

/-- A text that is a row of words is as long as its words come to. -/
theorem ofChars_of_row {cs : List Char} (row : Tiling cs) (hne : row.words ≠ []) {d : Duration} :
    ofChars cs = .ok d ↔ (∀ t ∈ row.tokens, t.IsReadable) ∧
      (row.tokens.map Token.nanoseconds).sum = d.nanoseconds ∧ d.nanoseconds < limit := by
  have htokens := row.tokens?_eq
  have hz : cs ≠ ['0'] := by
    rintro rfl
    rw [tokens?_zero] at htokens
    cases htokens
  unfold ofChars
  rw [if_neg hz]
  split
  · rename_i hnone
    rw [hnone] at htokens
    cases htokens
  · rename_i hnil
    rw [hnil] at htokens
    exact absurd (Option.some.inj htokens).symm (row.tokens_ne_nil_iff.2 hne)
  · rename_i ts _ hsome
    rw [hsome] at htokens
    obtain rfl : ts = row.tokens := Option.some.inj htokens
    have hzero : (0 : Nat) < bound := by decide
    rw [except_bind_eq_ok]
    constructor
    · rintro ⟨n, hn, h⟩
      obtain ⟨hreadable, hsum, -⟩ := (total_eq_ok_iff hzero).1 hn
      rw [Nat.zero_add] at hsum
      split at h
      · rename_i hlt
        cases h
        exact ⟨hreadable, hsum, hlt⟩
      · cases h
    · rintro ⟨hreadable, hsum, hlt⟩
      have hbound : d.nanoseconds < bound := Nat.lt_trans hlt (by decide)
      have hn : 0 + (row.tokens.map Token.nanoseconds).sum = d.nanoseconds := by
        rw [Nat.zero_add, hsum]
      exact ⟨d.nanoseconds, (total_eq_ok_iff hzero).2 ⟨hreadable, hn, hbound⟩, if_pos hlt⟩

/-- A text with a value is `0` alone or a row of words. -/
theorem exists_row_of_ofChars {cs : List Char} (hz : cs ≠ ['0']) {d : Duration}
    (h : ofChars cs = .ok d) : ∃ row : Tiling cs, row.words ≠ [] := by
  unfold ofChars at h
  rw [if_neg hz] at h
  split at h
  · cases h
  · cases h
  · rename_i ts hts hsome
    obtain ⟨row, rfl⟩ := tokens?_eq_some_iff.1 hsome
    exact ⟨row, row.tokens_ne_nil_iff.1 hts⟩

/-- **The texts of a duration.** -/
theorem ofChars_eq_ok_iff {cs : List Char} {d : Duration} :
    ofChars cs = .ok d ↔ cs = ['0'] ∧ d = ⟨0⟩ ∨
      ∃ row : Tiling cs, row.words ≠ [] ∧ (∀ t ∈ row.tokens, t.IsReadable) ∧
        (row.tokens.map Token.nanoseconds).sum = d.nanoseconds ∧ d.nanoseconds < limit := by
  constructor
  · intro h
    by_cases hz : cs = ['0']
    · rw [ofChars, if_pos hz] at h
      exact .inl ⟨hz, (Except.ok.inj h).symm⟩
    · obtain ⟨row, hne⟩ := exists_row_of_ofChars hz h
      exact .inr ⟨row, hne, (ofChars_of_row row hne).1 h⟩
  · rintro (⟨hz, rfl⟩ | ⟨row, hne, h⟩)
    · rw [ofChars, if_pos hz]
    · exact (ofChars_of_row row hne).2 h

end Duration

section

variable {key raw : String} {d : Duration}

theorem readDuration_eq_ok : readDuration key raw = .ok d ↔ Duration.ofText raw = .ok d := by
  unfold readDuration
  cases Duration.ofText raw with
  | ok d' => simp
  | error fault => cases fault <;> simp

/-- **The texts of a duration** are `0` alone and the rows of words, each of them rounded down on its
own, whose sum is in range. -/
theorem readDuration_eq_ok_iff (key raw : String) :
    (∀ d, readDuration key raw = .ok d ↔ raw = "0" ∧ d = ⟨0⟩ ∨
      ∃ row : Duration.Tiling raw.toList, (∀ other : Duration.Tiling raw.toList, other = row) ∧
        row.words ≠ [] ∧ (∀ t ∈ row.tokens, t.IsReadable) ∧
        (row.tokens.map Duration.Token.nanoseconds).sum = d.nanoseconds ∧
        d.nanoseconds ≤ Nat.pow 2 64 - 1) ∧
      ∀ e, readDuration key raw = .error (.error e) → ∃ fault, e = .malformed key raw fault := by
  refine ⟨fun d => ?_, fun e he => ?_⟩
  · have hzero : raw.toList = ['0'] ↔ raw = "0" := by
      rw [← String.toList_inj]
      rfl
    have hlimit : d.nanoseconds < Duration.limit ↔ d.nanoseconds ≤ Nat.pow 2 64 - 1 :=
      Nat.lt_iff_le_pred (by decide)
    rw [readDuration_eq_ok, Duration.ofText, Duration.ofChars_eq_ok_iff, hzero, hlimit]
    refine or_congr_right (exists_congr fun row => ?_)
    exact (and_iff_right row.unique).symm
  · rcases readDuration_eq_error.1 he with ⟨-, rfl⟩ | ⟨-, rfl⟩
    · exact ⟨_, rfl⟩
    · exact ⟨_, rfl⟩

end

end VpnGateway
