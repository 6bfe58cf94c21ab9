import Mathlib.Computability.Language
import Mathlib.Data.List.Basic
import VpnGateway.Hostname
import VpnGateway.Proofs.Address

/-!
# The grammar of host names

The pass over the characters of a name accepts the names whose labels, the pieces between points, are
well-formed one by one. The same names are those of a regular expression.

* `Hostname.IsLabel`: a label of a host name;
* `Hostname.IsStart`: what the pass has seen of a label it is in;
* `Hostname.scan_iff`: what the pass accepts, from any place in a label;
* **`isHostname_iff`**: the grammar of host names;
* `Hostname.namePattern`, `isHostname_iff_mem_namePattern`: host names as a regular language.
-/

namespace VpnGateway

namespace Hostname

/-! ## Labels -/

/-- An ASCII letter, an ASCII digit or a hyphen. -/
def IsLabelChar (c : Char) : Prop :=
  'a' ≤ c ∧ c ≤ 'z' ∨ 'A' ≤ c ∧ c ≤ 'Z' ∨ '0' ≤ c ∧ c ≤ '9' ∨ c = '-'

/-- The first characters of a label, or all of it, or none. -/
structure IsStart (cs : List Char) : Prop where
  length_le : cs.length ≤ 63
  chars : ∀ c ∈ cs, IsLabelChar c
  head_ne : cs.head? ≠ some '-'

/-- A label: 1 to 63 letters, digits and hyphens, with a hyphen neither first nor last. -/
structure IsLabel (label : List Char) : Prop extends IsStart label where
  length_pos : 1 ≤ label.length
  last_ne : label.getLast? ≠ some '-'

theorem isAlphanumeric_iff {c : Char} : isAlphanumeric c = true ↔ IsLabelChar c ∧ c ≠ '-' := by
  have hletters : isAlphanumeric c = true ↔
      'a' ≤ c ∧ c ≤ 'z' ∨ 'A' ≤ c ∧ c ≤ 'Z' ∨ '0' ≤ c ∧ c ≤ '9' := by
    delta isAlphanumeric Char.isAlpha Char.isUpper Char.isLower Char.isDigit
    simp only [Bool.or_eq_true, Bool.and_eq_true, decide_eq_true_eq, Char.le_def, ge_iff_le]
    exact or_assoc.trans or_left_comm
  rw [hletters, IsLabelChar]
  constructor
  · intro h
    refine ⟨h.imp_right (.imp_right .inl), ?_⟩
    rintro rfl
    exact absurd h (by decide)
  · rintro ⟨h, hne⟩
    exact h.imp_right (.imp_right fun h => h.resolve_right hne)

theorem IsLabelChar.ne_point {c : Char} (h : IsLabelChar c) : c ≠ '.' := by
  rintro rfl
  unfold IsLabelChar at h
  exact absurd h (by decide)

theorem IsLabelChar.utf8Size_eq {c : Char} (h : IsLabelChar c) : c.utf8Size = 1 := by
  rw [Char.utf8Size_eq_one_iff, UInt32.le_iff_toNat_le]
  simp only [IsLabelChar, Char.le_def, UInt32.le_iff_toNat_le] at h
  change c.val.toNat ≤ 127
  rcases h with ⟨-, h⟩ | ⟨-, h⟩ | ⟨-, h⟩ | rfl
  · exact Nat.le_trans h (by decide)
  · exact Nat.le_trans h (by decide)
  · exact Nat.le_trans h (by decide)
  · decide

namespace IsStart

theorem nil : IsStart [] where
  length_le := by decide
  chars _ hc := absurd hc List.not_mem_nil
  head_ne := nofun

theorem not_mem {cs : List Char} (h : IsStart cs) : '.' ∉ cs :=
  fun hp => (h.chars '.' hp).ne_point rfl

theorem of_prefix {cs label : List Char} (h : IsStart label) (hcs : cs <+: label) :
    IsStart cs where
  length_le := hcs.length_le.trans h.length_le
  chars c hc := h.chars c (hcs.subset hc)
  head_ne := by
    cases cs with
    | nil => nofun
    | cons c cs =>
      obtain ⟨rest, rfl⟩ := hcs
      exact h.head_ne

/-- One more character: the label is not full, and the character may stand there. -/
theorem concat_iff {cs : List Char} (h : IsStart cs) {c : Char} :
    IsStart (cs ++ [c]) ↔ cs.length ≠ 63 ∧ IsLabelChar c ∧ (c = '-' → 1 ≤ cs.length) := by
  have hlength := h.length_le
  refine ⟨fun hc => ⟨?_, ?_, ?_⟩, fun ⟨hne, hc, hhyphen⟩ => ⟨?_, ?_, ?_⟩⟩
  · have hlength' := hc.length_le
    rw [List.length_append, List.length_singleton] at hlength'
    omega
  · exact hc.chars c (List.mem_append_right _ List.mem_cons_self)
  · rintro rfl
    cases cs with
    | nil => exact absurd rfl hc.head_ne
    | cons d cs => exact Nat.succ_pos _
  · rw [List.length_append, List.length_singleton]
    omega
  · intro d hd
    rcases List.mem_append.1 hd with hd | hd
    · exact h.chars d hd
    · exact List.mem_singleton.1 hd ▸ hc
  · cases cs with
    | nil =>
      intro he
      exact absurd (hhyphen (Option.some.inj he)) (by decide)
    | cons d cs => exact h.head_ne

theorem isLabel_iff {cs : List Char} (h : IsStart cs) :
    IsLabel cs ↔ 1 ≤ cs.length ∧ cs.getLast? ≠ some '-' :=
  ⟨fun hl => ⟨hl.length_pos, hl.last_ne⟩, fun ⟨hpos, hlast⟩ => ⟨h, hpos, hlast⟩⟩

end IsStart

/-! ## The pass over the characters -/

/-- The piece that a text begins with goes on from any part of it before a point. -/
theorem exists_prefix_mem_splitOn {front : List Char} (h : '.' ∉ front) (back : List Char) :
    ∃ label ∈ (front ++ back).splitOn '.', front <+: label := by
  by_cases hp : '.' ∈ back
  · obtain ⟨cs, rest, rfl, hcs⟩ := List.eq_append_cons_of_mem hp
    have hnot : '.' ∉ front ++ cs := by
      rw [List.mem_append]
      exact not_or_intro h hcs
    refine ⟨front ++ cs, ?_, List.prefix_append _ _⟩
    rw [← List.append_assoc, List.splitOn_append_cons_self_of_not_mem hnot]
    exact List.mem_cons_self
  · have hnot : '.' ∉ front ++ back := by
      rw [List.mem_append]
      exact not_or_intro h hp
    refine ⟨front ++ back, ?_, List.prefix_append _ _⟩
    rw [List.splitOn_eq_singleton hnot]
    exact List.mem_cons_self

/-- A character that is not a point is scanned if the label may go on with it. -/
theorem scan_cons_iff {cs : List Char} (h : IsStart cs) {hyphen : Bool} {c : Char}
    (hc : c ≠ '.') (rest : List Char) : scan cs.length hyphen (c :: rest) = true ↔
      IsStart (cs ++ [c]) ∧ scan (cs ++ [c]).length (c == '-') rest = true := by
  rw [scan, if_neg hc, h.concat_iff, List.length_append, List.length_singleton]
  by_cases hlength : cs.length = 63
  · rw [if_pos (show cs.length = maxLabel from hlength)]
    simp [hlength]
  rw [if_neg (show ¬ cs.length = maxLabel from hlength)]
  by_cases hdash : c = '-'
  · have hchar : IsLabelChar c := .inr (.inr (.inr hdash))
    rw [if_pos hdash, Bool.and_eq_true, decide_eq_true_eq]
    simp only [hdash, beq_self_eq_true, ne_eq, hlength, not_false_eq_true, true_and,
      forall_const, hdash ▸ hchar]
    rfl
  · have hbeq : (c == '-') = false := beq_eq_false_iff_ne.2 hdash
    rw [if_neg hdash, Bool.and_eq_true, isAlphanumeric_iff, hbeq]
    simp only [ne_eq, hlength, hdash, not_false_eq_true, and_true, true_and, false_implies]

/-- **From inside a label, the pass accepts what completes it to well-formed labels.** -/
theorem scan_iff {cs : List Char} (h : IsStart cs) (rest : List Char) :
    scan cs.length (cs.getLast? == some '-') rest = true ↔
      ∀ label ∈ (cs ++ rest).splitOn '.', IsLabel label := by
  induction rest generalizing cs with
  | nil =>
    rw [scan, List.append_nil, List.splitOn_eq_singleton h.not_mem, List.forall_mem_singleton,
      h.isLabel_iff]
    simp [Nat.succ_le_iff]
  | cons c rest ih =>
    by_cases hc : c = '.'
    · subst hc
      have hnil := ih .nil
      rw [List.splitOn_append_cons_self_of_not_mem h.not_mem, List.forall_mem_cons, h.isLabel_iff,
        scan, if_pos rfl]
      rw [List.nil_append] at hnil
      rw [← hnil]
      simp [Nat.succ_le_iff]
    · rw [scan_cons_iff h hc]
      -- the label that goes on with `c` has to be one, so `c` may stand in it
      have hstart : (∀ label ∈ (cs ++ c :: rest).splitOn '.', IsLabel label) →
          IsStart (cs ++ [c]) := by
        intro hall
        have hnot : '.' ∉ cs ++ [c] := by
          rw [List.mem_append, List.mem_singleton]
          exact not_or_intro h.not_mem (Ne.symm hc)
        obtain ⟨label, hmem, hprefix⟩ := exists_prefix_mem_splitOn hnot rest
        rw [List.append_assoc, List.singleton_append] at hmem
        exact (hall label hmem).toIsStart.of_prefix hprefix
      have hstep : ∀ hs : IsStart (cs ++ [c]), scan (cs ++ [c]).length (c == '-') rest = true ↔
          ∀ label ∈ (cs ++ c :: rest).splitOn '.', IsLabel label := by
        intro hs
        have hrest := ih hs
        rw [List.append_assoc, List.singleton_append, List.getLast?_concat] at hrest
        exact hrest
      exact ⟨fun ⟨hs, hscan⟩ => (hstep hs).1 hscan,
        fun hall => ⟨hstart hall, (hstep (hstart hall)).2 hall⟩⟩

/-! ## Lengths -/

theorem utf8ByteSize_eq_length {cs : List Char} (h : ∀ c ∈ cs, c.utf8Size = 1) :
    (String.ofList cs).utf8ByteSize = cs.length := by
  induction cs with
  | nil => rfl
  | cons c cs ih =>
    obtain ⟨hc, hcs⟩ := List.forall_mem_cons.1 h
    rw [String.ofList_cons, String.utf8ByteSize_append, String.utf8ByteSize_singleton,
      List.length_cons, hc, ih hcs, Nat.add_comm]

theorem utf8Size_of_isLabel {cs : List Char} (h : ∀ label ∈ cs.splitOn '.', IsLabel label) :
    ∀ c ∈ cs, c.utf8Size = 1 := by
  intro c hc
  rcases Text.mem_splitOn (x := '.') hc with rfl | ⟨label, hlabel, hmem⟩
  · decide
  · exact ((h label hlabel).chars c hmem).utf8Size_eq

end Hostname

/-- **The grammar of host names**: at most 253 characters, and between the points well-formed labels
and nothing else. -/
theorem isHostname_iff (s : String) : isHostname s = true ↔
    s.length ≤ 253 ∧ ∀ label ∈ s.toList.splitOn '.', Hostname.IsLabel label := by
  have hscan : Hostname.scan 0 false s.toList = true ↔
      ∀ label ∈ s.toList.splitOn '.', Hostname.IsLabel label :=
    Hostname.scan_iff .nil s.toList
  rw [isHostname, Bool.and_eq_true, decide_eq_true_eq, hscan]
  refine and_congr_left fun hlabels => ?_
  have hsize := Hostname.utf8ByteSize_eq_length (Hostname.utf8Size_of_isLabel hlabels)
  rw [String.ofList_toList, String.length_toList] at hsize
  rw [hsize]
  rfl

example : isHostname "example.com." = false ∧ isHostname "example.com\n" = false := by decide

/-! ## Host names as a regular language -/

namespace Hostname

open scoped Computability

/-- One character of a class. -/
def one (p : Char → Prop) : Language Char :=
  {w | ∃ c, p c ∧ w = [c]}

/-- At most `n` words of a language, one after another. -/
def upTo (l : Language Char) (n : Nat) : Language Char :=
  {w | ∃ k ≤ n, w ∈ l ^ k}

/-- A letter or digit, or two with up to 61 letters, digits and hyphens between them. -/
def labelPattern : Language Char :=
  one (isAlphanumeric · = true) +
    one (isAlphanumeric · = true) * upTo (one IsLabelChar) 61 * one (isAlphanumeric · = true)

/-- A label, and then any number of labels with a point before each. -/
def namePattern : Language Char :=
  labelPattern * (one (· = '.') * labelPattern)∗

theorem mem_one_pow_iff {p : Char → Prop} {k : Nat} {w : List Char} :
    w ∈ one p ^ k ↔ w.length = k ∧ ∀ c ∈ w, p c := by
  induction k generalizing w with
  | zero =>
    rw [pow_zero, Language.mem_one, List.length_eq_zero_iff]
    refine ⟨fun h => ⟨h, ?_⟩, And.left⟩
    rw [h]
    exact fun _ hc => absurd hc List.not_mem_nil
  | succ k ih =>
    rw [pow_succ', Language.mem_mul]
    constructor
    · rintro ⟨_, ⟨c, hc, rfl⟩, w, hw, rfl⟩
      obtain ⟨hlength, hall⟩ := ih.1 hw
      exact ⟨congrArg Nat.succ hlength, List.forall_mem_cons.2 ⟨hc, hall⟩⟩
    · rintro ⟨hlength, hall⟩
      obtain ⟨c, w, rfl⟩ := List.exists_cons_of_length_eq_add_one hlength
      obtain ⟨hc, hall⟩ := List.forall_mem_cons.1 hall
      exact ⟨[c], ⟨c, hc, rfl⟩, w, ih.2 ⟨Nat.succ.inj hlength, hall⟩, rfl⟩

theorem mem_upTo_one_iff {p : Char → Prop} {n : Nat} {w : List Char} :
    w ∈ upTo (one p) n ↔ w.length ≤ n ∧ ∀ c ∈ w, p c := by
  constructor
  · rintro ⟨k, hk, hw⟩
    obtain ⟨rfl, hall⟩ := mem_one_pow_iff.1 hw
    exact ⟨hk, hall⟩
  · rintro ⟨hlength, hall⟩
    exact ⟨w.length, hlength, mem_one_pow_iff.2 ⟨rfl, hall⟩⟩

theorem isLabel_of_mem_labelPattern {w : List Char} (h : w ∈ labelPattern) : IsLabel w := by
  rcases (Language.mem_add _ _ _).1 h with ⟨c, hc, rfl⟩ | h
  · obtain ⟨hchar, hne⟩ := isAlphanumeric_iff.1 hc
    have hhyphen : some c ≠ some '-' := mt Option.some.inj hne
    exact ⟨⟨by simp, by simpa using hchar, hhyphen⟩, by simp, hhyphen⟩
  · obtain ⟨_, hfront, _, ⟨d, hd, rfl⟩, rfl⟩ := Language.mem_mul.1 h
    obtain ⟨_, ⟨c, hc, rfl⟩, middle, hmiddle, rfl⟩ := Language.mem_mul.1 hfront
    obtain ⟨hlength, hchars⟩ := mem_upTo_one_iff.1 hmiddle
    obtain ⟨hfirst, hne⟩ := isAlphanumeric_iff.1 hc
    obtain ⟨hlast, hne'⟩ := isAlphanumeric_iff.1 hd
    refine ⟨⟨?_, ?_, mt Option.some.inj hne⟩, Nat.succ_pos _, ?_⟩
    · simp only [List.length_append, List.length_singleton]
      omega
    · simp only [List.forall_mem_append, List.forall_mem_singleton]
      exact ⟨⟨hfirst, hchars⟩, hlast⟩
    · rw [List.getLast?_concat]
      exact mt Option.some.inj hne'

theorem mem_labelPattern_of_isLabel {w : List Char} (h : IsLabel w) : w ∈ labelPattern := by
  obtain ⟨c, rest, rfl⟩ := List.exists_cons_of_length_pos h.length_pos
  have hc : isAlphanumeric c = true := isAlphanumeric_iff.2
    ⟨h.chars c List.mem_cons_self, mt (congrArg some) h.head_ne⟩
  rcases List.eq_nil_or_concat rest with rfl | ⟨middle, d, rfl⟩
  · exact (Language.mem_add _ _ _).2 (.inl ⟨c, hc, rfl⟩)
  rw [List.concat_eq_append, ← List.cons_append] at h ⊢
  have hlast := h.last_ne
  rw [List.getLast?_concat] at hlast
  have hd : isAlphanumeric d = true := isAlphanumeric_iff.2
    ⟨h.chars d (List.mem_append_right _ List.mem_cons_self), mt (congrArg some) hlast⟩
  have hmiddle : middle ∈ upTo (one IsLabelChar) 61 := by
    have hlength := h.length_le
    simp only [List.length_append, List.length_cons] at hlength
    exact mem_upTo_one_iff.2 ⟨by omega, fun e he =>
      h.chars e (List.mem_append_left _ (List.mem_cons_of_mem c he))⟩
  refine (Language.mem_add _ _ _).2 (.inr (Language.append_mem_mul ?_ ⟨d, hd, rfl⟩))
  exact Language.append_mem_mul (a := [c]) ⟨c, hc, rfl⟩ hmiddle

theorem mem_labelPattern_iff {w : List Char} : w ∈ labelPattern ↔ IsLabel w :=
  ⟨isLabel_of_mem_labelPattern, mem_labelPattern_of_isLabel⟩

theorem intercalate_cons (first : List Char) (labels : List (List Char)) :
    ['.'].intercalate (first :: labels) = first ++ (labels.map ('.' :: ·)).flatten := by
  induction labels generalizing first with
  | nil => simp
  | cons second labels ih => simp [ih]

/-- Labels with a point before each are labels. -/
theorem exists_labels {parts : List (List Char)}
    (h : ∀ part ∈ parts, part ∈ one (· = '.') * labelPattern) :
    ∃ labels : List (List Char), parts = labels.map ('.' :: ·) ∧ ∀ label ∈ labels, IsLabel label := by
  induction parts with
  | nil => exact ⟨[], rfl, nofun⟩
  | cons part parts ih =>
    obtain ⟨hpart, hparts⟩ := List.forall_mem_cons.1 h
    obtain ⟨_, ⟨_, rfl, rfl⟩, label, hlabel, rfl⟩ := Language.mem_mul.1 hpart
    obtain ⟨labels, rfl, hlabels⟩ := ih hparts
    exact ⟨label :: labels, rfl, List.forall_mem_cons.2 ⟨mem_labelPattern_iff.1 hlabel, hlabels⟩⟩

theorem mem_namePattern_iff {w : List Char} :
    w ∈ namePattern ↔ ∀ label ∈ w.splitOn '.', IsLabel label := by
  rw [namePattern, Language.mem_mul]
  constructor
  · rintro ⟨first, hfirst, _, ⟨parts, rfl, hparts⟩, rfl⟩
    obtain ⟨labels, rfl, hlabels⟩ := exists_labels hparts
    have hall : ∀ label ∈ first :: labels, IsLabel label :=
      List.forall_mem_cons.2 ⟨mem_labelPattern_iff.1 hfirst, hlabels⟩
    rw [← intercalate_cons, List.splitOn_intercalate '.' (fun label h => (hall label h).not_mem)
      (List.cons_ne_nil _ _)]
    exact hall
  · intro h
    obtain ⟨first, labels, hsplit⟩ := List.exists_cons_of_ne_nil (List.splitOn_ne_nil '.' w)
    rw [hsplit] at h
    obtain ⟨hfirst, hlabels⟩ := List.forall_mem_cons.1 h
    refine ⟨first, mem_labelPattern_iff.2 hfirst, (labels.map ('.' :: ·)).flatten,
      Language.join_mem_kstar fun part hpart => ?_, ?_⟩
    · obtain ⟨label, hlabel, rfl⟩ := List.mem_map.1 hpart
      exact Language.append_mem_mul (a := ['.']) ⟨'.', rfl, rfl⟩
        (mem_labelPattern_iff.2 (hlabels label hlabel))
    · rw [← intercalate_cons, ← hsplit, List.intercalate_splitOn]

end Hostname

/-- Host names are the words of a regular expression that are not too long. -/
theorem isHostname_iff_mem_namePattern (s : String) :
    isHostname s = true ↔ s.utf8ByteSize ≤ 253 ∧ s.toList ∈ Hostname.namePattern := by
  rw [isHostname, Bool.and_eq_true, decide_eq_true_eq, Hostname.mem_namePattern_iff]
  exact and_congr_right fun _ => Hostname.scan_iff .nil s.toList

end VpnGateway
