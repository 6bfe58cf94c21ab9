/-!
# Decimal numerals

Reading integers from ASCII digits. Leading zeros are allowed, blanks and separators are not, and no
length is too long: a bound is a matter of the value read.

* `natural?`: one or more digits;
* `unsigned?`, `integer?`: with one sign in front;
* `int64?`: integers of 64 bits;
* `IsNatural`, `IsUnsigned`, `IsInteger`: what characters write, said without a reader;
* `natural?_eq_some_iff`, `unsigned?_eq_some_iff`, `integer?_eq_some_iff`, `int64?_eq_some_iff`: each
  reader accepts what is written so, and reads the number that is written;
* `natural?_toDigits`: what is written in base ten is read back;
* `takeWhile_toDigits`, `dropWhile_toDigits`: and it ends where no digit follows.
-/

namespace VpnGateway.Text

/-- The number that a non-empty row of ASCII digits denotes. -/
def natural? (cs : List Char) : Option Nat :=
  if cs ≠ [] ∧ cs.all Char.isDigit then some (Nat.ofDigitChars 10 cs 0) else none

/-- A number, with one plus sign in front or none. -/
def unsigned? : List Char → Option Nat
  | '+' :: cs => natural? cs
  | cs => natural? cs

/-- An integer, with one sign in front or none. -/
def integer? : List Char → Option Int
  | '-' :: cs => (natural? cs).map fun n => -(n : Int)
  | cs => (unsigned? cs).map Int.ofNat

/-- An integer that 64 bits hold. -/
def int64? (s : String) : Option Int64 :=
  (integer? s.toList).bind fun n =>
    if Int64.minValue.toInt ≤ n ∧ n ≤ Int64.maxValue.toInt then some (Int64.ofInt n) else none

/-! ## What the readers accept -/

section Accepted

variable {cs : List Char} {n : Nat} {z : Int}

/-- The characters are digits, one at least, and write `n` in base ten. -/
structure IsNatural (cs : List Char) (n : Nat) : Prop where
  ne_nil : cs ≠ []
  isDigit : ∀ c ∈ cs, c.isDigit = true
  value : Nat.ofDigitChars 10 cs 0 = n

/-- The characters write `n`, with one plus sign in front or none. -/
inductive IsUnsigned : List Char → Nat → Prop
  | bare {cs : List Char} {n : Nat} (h : IsNatural cs n) : IsUnsigned cs n
  | plus {cs : List Char} {n : Nat} (h : IsNatural cs n) : IsUnsigned ('+' :: cs) n

/-- The characters write `z`, with one sign in front or none. -/
inductive IsInteger : List Char → Int → Prop
  | unsigned {cs : List Char} {n : Nat} (h : IsUnsigned cs n) : IsInteger cs n
  | minus {cs : List Char} {n : Nat} (h : IsNatural cs n) : IsInteger ('-' :: cs) (-n)

theorem IsNatural.isDigit_head {c : Char} (h : IsNatural (c :: cs) n) : c.isDigit = true :=
  h.isDigit c List.mem_cons_self

theorem natural?_eq_some_iff : natural? cs = some n ↔ IsNatural cs n := by
  unfold natural?
  rw [Option.ite_none_right_eq_some, List.all_eq_true, Option.some.injEq]
  exact ⟨fun ⟨⟨hne, hd⟩, hn⟩ => ⟨hne, hd, hn⟩, fun h => ⟨⟨h.ne_nil, h.isDigit⟩, h.value⟩⟩

theorem unsigned?_eq_some_iff : unsigned? cs = some n ↔ IsUnsigned cs n := by
  constructor
  · intro h
    unfold unsigned? at h
    split at h
    · exact .plus (natural?_eq_some_iff.1 h)
    · exact .bare (natural?_eq_some_iff.1 h)
  · intro h
    cases h with
    | bare h =>
      have hplus : ∀ rest, cs = '+' :: rest → False := by
        rintro rest rfl
        exact absurd h.isDigit_head (by decide)
      rw [unsigned?.eq_2 _ hplus, natural?_eq_some_iff]
      exact h
    | plus h => exact natural?_eq_some_iff.2 h

theorem integer?_eq_some_iff : integer? cs = some z ↔ IsInteger cs z := by
  constructor
  · intro h
    unfold integer? at h
    split at h
    · obtain ⟨_, hz, rfl⟩ := Option.map_eq_some_iff.1 h
      obtain ⟨n, hn, hcast⟩ := Option.bind_eq_some_iff.1 hz
      cases hcast
      exact .minus (natural?_eq_some_iff.1 hn)
    · obtain ⟨n, hn, rfl⟩ := Option.map_eq_some_iff.1 h
      exact .unsigned (unsigned?_eq_some_iff.1 hn)
  · intro h
    cases h with
    | unsigned h =>
      have hminus : ∀ rest, cs = '-' :: rest → False := by
        rintro rest rfl
        cases h with
        | bare h => exact absurd h.isDigit_head (by decide)
      rw [integer?.eq_2 _ hminus, unsigned?_eq_some_iff.2 h]
      rfl
    | minus h =>
      rw [integer?, natural?_eq_some_iff.2 h]
      rfl

/-- The 64 bits hold the integer itself, and no other that leaves the same remainder. -/
theorem int64?_eq_some_iff {s : String} {n : Int64} :
    int64? s = some n ↔ IsInteger s.toList n.toInt := by
  rw [int64?, ← integer?_eq_some_iff, Option.bind_eq_some_iff, Int64.toInt_minValue,
    Int64.toInt_maxValue]
  constructor
  · rintro ⟨z, hz, h⟩
    obtain ⟨⟨hmin, hmax⟩, hn⟩ := Option.ite_none_right_eq_some.1 h
    rw [← Option.some.inj hn, Int64.toInt_ofInt_of_le hmin (by omega)]
    exact hz
  · intro h
    have hmin := n.le_toInt
    have hmax := n.toInt_lt
    exact ⟨n.toInt, h, by rw [if_pos (by omega), Int64.ofInt_toInt]⟩

end Accepted

/-! ## What is written in base ten -/

theorem isDigit_of_mem_toDigits {n : Nat} {c : Char} (h : c ∈ Nat.toDigits 10 n) :
    c.isDigit = true :=
  Nat.isDigit_of_mem_toDigits (by decide) (by decide) h

theorem exists_toDigits_eq_cons (n : Nat) :
    ∃ c cs, Nat.toDigits 10 n = c :: cs ∧ c.isDigit = true := by
  obtain ⟨c, cs, hcs⟩ := List.exists_cons_of_ne_nil (Nat.toDigits_ne_nil (n := n) (b := 10))
  exact ⟨c, cs, hcs, isDigit_of_mem_toDigits (hcs ▸ List.mem_cons_self)⟩

theorem natural?_toDigits (n : Nat) : natural? (Nat.toDigits 10 n) = some n := by
  have h : (Nat.toDigits 10 n).all Char.isDigit = true :=
    List.all_eq_true.2 fun _ hc => isDigit_of_mem_toDigits hc
  simp only [natural?, ne_eq, Nat.toDigits_ne_nil, not_false_eq_true, h, and_self, ↓reduceIte,
    Nat.ofDigitChars_ten_toDigits]

theorem isNatural_toDigits (n : Nat) : IsNatural (Nat.toDigits 10 n) n :=
  natural?_eq_some_iff.1 (natural?_toDigits n)

section

variable {rest : List Char} (h : rest.head?.any Char.isDigit = false)
include h

theorem takeWhile_toDigits (n : Nat) :
    (Nat.toDigits 10 n ++ rest).takeWhile Char.isDigit = Nat.toDigits 10 n := by
  rw [List.takeWhile_append_of_pos fun _ hc => isDigit_of_mem_toDigits hc]
  cases rest with
  | nil => exact List.append_nil _
  | cons c rest =>
    have hc : ¬ c.isDigit = true := Bool.eq_false_iff.1 h
    rw [List.takeWhile_cons_of_neg hc, List.append_nil]

theorem dropWhile_toDigits (n : Nat) :
    (Nat.toDigits 10 n ++ rest).dropWhile Char.isDigit = rest := by
  rw [List.dropWhile_append_of_pos fun _ hc => isDigit_of_mem_toDigits hc]
  cases rest with
  | nil => rfl
  | cons c rest =>
    have hc : ¬ c.isDigit = true := Bool.eq_false_iff.1 h
    rw [List.dropWhile_cons_of_neg hc]

end

end VpnGateway.Text
