import VpnGateway.Proofs.Base64

/-!
# What Base64 characters denote

A character of the alphabet stands for six bits, and eight bits are a byte. The reader of sections
is lenient: the last group may lack its padding, and the bits beyond the last whole byte may be
anything.

* `Grouped`: characters in groups of four, of which the last may be short;
* `bits`, `octets`, `denoted`: the bytes that characters denote, by way of their bits;
* **`decodeLoose_eq_ok_iff`**: the reader accepts exactly what is grouped, and reads what it
  denotes;
* `decodeLoose_append_iff`: what stands in front changes what is read, unless it is blank.
-/

namespace VpnGateway.Base64

/-! ## Groups -/

/-- A character of the alphabet. -/
def isLetter (b : UInt8) : Bool :=
  (value? b).isSome

/-- Groups of four characters, of which the last may be short or padded. -/
inductive Grouped : List UInt8 → Prop
  | nil : Grouped []
  | two {a b : UInt8} (ha : isLetter a = true) (hb : isLetter b = true) : Grouped [a, b]
  | twoPadded {a b : UInt8} (ha : isLetter a = true) (hb : isLetter b = true) :
      Grouped [a, b, pad, pad]
  | three {a b c : UInt8} (ha : isLetter a = true) (hb : isLetter b = true)
      (hc : isLetter c = true) : Grouped [a, b, c]
  | threePadded {a b c : UInt8} (ha : isLetter a = true) (hb : isLetter b = true)
      (hc : isLetter c = true) : Grouped [a, b, c, pad]
  | four {a b c d : UInt8} {rest : List UInt8} (ha : isLetter a = true) (hb : isLetter b = true)
      (hc : isLetter c = true) (hd : isLetter d = true) (hr : Grouped rest) :
      Grouped (a :: b :: c :: d :: rest)

theorem isSymbol_of_isLetter {b : UInt8} (h : isLetter b = true) : isSymbol b = true :=
  Bool.or_eq_true_iff.2 (.inl h)

theorem isLetter_pad : isLetter pad = false := by decide

theorem Grouped.isSymbol {t : List UInt8} (h : Grouped t) : ∀ b ∈ t, isSymbol b = true := by
  induction h with
  | nil => exact fun b hb => absurd hb List.not_mem_nil
  | two | twoPadded | three | threePadded => simp [isSymbol_of_isLetter, isSymbol_pad, *]
  | four ha hb hc hd hr ih => simpa [isSymbol_of_isLetter, *] using ih

theorem Grouped.isLetter_head {a : UInt8} {t : List UInt8} (h : Grouped (a :: t)) :
    isLetter a = true := by
  cases h
  all_goals assumption

theorem not_grouped_one (a : UInt8) : ¬ Grouped [a] := nofun

theorem grouped_two_iff {a b : UInt8} :
    Grouped [a, b] ↔ isLetter a = true ∧ isLetter b = true := by
  refine ⟨fun h => ?_, fun h => .two h.1 h.2⟩
  cases h
  exact ⟨‹_›, ‹_›⟩

theorem grouped_three_iff {a b c : UInt8} :
    Grouped [a, b, c] ↔ isLetter a = true ∧ isLetter b = true ∧ isLetter c = true := by
  refine ⟨fun h => ?_, fun h => .three h.1 h.2.1 h.2.2⟩
  cases h
  exact ⟨‹_›, ‹_›, ‹_›⟩

/-- A group of four that ends the text. -/
theorem grouped_quad_iff {a b c d : UInt8} :
    Grouped [a, b, c, d] ↔ isLetter a = true ∧ isLetter b = true ∧
      (isLetter c = true ∧ (isLetter d = true ∨ d = pad) ∨ c = pad ∧ d = pad) := by
  refine ⟨fun h => ?_, fun ⟨ha, hb, h⟩ => ?_⟩
  · cases h with
    | twoPadded ha hb => exact ⟨ha, hb, .inr ⟨rfl, rfl⟩⟩
    | threePadded ha hb hc => exact ⟨ha, hb, .inl ⟨hc, .inr rfl⟩⟩
    | four ha hb hc hd => exact ⟨ha, hb, .inl ⟨hc, .inl hd⟩⟩
  · rcases h with ⟨hc, hd | rfl⟩ | ⟨rfl, rfl⟩
    · exact .four ha hb hc hd .nil
    · exact .threePadded ha hb hc
    · exact .twoPadded ha hb

/-- Four characters of the alphabet, and the bytes of their values. -/
def IsQuad (a b c d : UInt8) (q : List UInt8) : Prop :=
  ∃ v w x y, (value? a = some v ∧ value? b = some w ∧ value? c = some x ∧ value? d = some y) ∧
    quadBytes v w x y = q

theorem exists_isQuad_iff {a b c d : UInt8} :
    (∃ q, IsQuad a b c d q) ↔
      isLetter a = true ∧ isLetter b = true ∧ isLetter c = true ∧ isLetter d = true := by
  simp only [IsQuad, isLetter, Option.isSome_iff_exists]
  constructor
  · rintro ⟨_, v, w, x, y, ⟨ha, hb, hc, hd⟩, -⟩
    exact ⟨⟨v, ha⟩, ⟨w, hb⟩, ⟨x, hc⟩, ⟨y, hd⟩⟩
  · rintro ⟨⟨v, ha⟩, ⟨w, hb⟩, ⟨x, hc⟩, ⟨y, hd⟩⟩
    exact ⟨_, v, w, x, y, ⟨ha, hb, hc, hd⟩, rfl⟩

/-- A group of four that others follow. -/
theorem grouped_four_iff {a b c d : UInt8} {t : List UInt8} (hne : t ≠ []) :
    Grouped (a :: b :: c :: d :: t) ↔ (∃ q, IsQuad a b c d q) ∧ Grouped t := by
  rw [exists_isQuad_iff]
  refine ⟨fun h => ?_, fun ⟨⟨ha, hb, hc, hd⟩, ht⟩ => .four ha hb hc hd ht⟩
  cases h with
  | twoPadded | threePadded => exact absurd rfl hne
  | four ha hb hc hd ht => exact ⟨⟨ha, hb, hc, hd⟩, ht⟩

/-! ## Bits -/

/-- The six bits of a value, the highest first. -/
def sixBits (v : Nat) : List Bool :=
  [v.testBit 5, v.testBit 4, v.testBit 3, v.testBit 2, v.testBit 1, v.testBit 0]

/-- The bits that characters stand for; padding stands for none. -/
def bits (t : List UInt8) : List Bool :=
  t.flatMap fun b => (value? b).elim [] sixBits

/-- The number that bits write, the highest first. -/
def binary (bs : List Bool) : Nat :=
  bs.foldl (fun n b => n * 2 + b.toNat) 0

/-- The byte of eight bits, the highest first. -/
def octet (bs : List Bool) : UInt8 :=
  UInt8.ofNat (binary bs)

/-- The bytes of bits, without those that fill no byte. -/
def octets : List Bool → List UInt8
  | a :: b :: c :: d :: e :: f :: g :: h :: rest => octet [a, b, c, d, e, f, g, h] :: octets rest
  | _ => []

/-- The bytes that characters denote. -/
def denoted (t : List UInt8) : List UInt8 :=
  octets (bits t)

@[simp] theorem denoted_nil : denoted [] = [] := rfl

theorem bits_cons {a : UInt8} {v : Nat} (h : value? a = some v) (t : List UInt8) :
    bits (a :: t) = sixBits v ++ bits t := by
  rw [bits, List.flatMap_cons, h]
  rfl

theorem value?_lt {b : UInt8} {v : Nat} (h : value? b = some v) : v < 64 := by
  have hall : (value? b).all (fun v => decide (v < 64)) = true :=
    forall_byte (p := fun b => (value? b).all (fun v => decide (v < 64)) = true)
      (by decide +kernel) b
  rw [h] at hall
  exact of_decide_eq_true hall

theorem binary_append (bs cs : List Bool) :
    binary (bs ++ cs) = binary bs <<< cs.length + binary cs := by
  have h : ∀ n, cs.foldl (fun n b => n * 2 + b.toNat) n = n <<< cs.length + binary cs := by
    unfold binary
    induction cs with
    | nil => simp
    | cons c cs ih =>
      intro n
      rw [List.foldl_cons, List.foldl_cons, ih, ih (0 * 2 + c.toNat), List.length_cons,
        ← Nat.add_assoc, Nat.zero_mul, Nat.zero_add]
      simp only [Nat.shiftLeft_eq]
      rw [Nat.pow_succ, Nat.mul_comm (2 ^ cs.length) 2, ← Nat.mul_assoc, ← Nat.add_mul]
  rw [binary, List.foldl_append, h]
  rfl

/-- The numbers that the parts of six bits write. -/
theorem binary_sixBits : ∀ v < 64, binary (sixBits v) = v ∧
    binary ((sixBits v).take 2) = v / 16 ∧ binary ((sixBits v).drop 2) = v % 16 ∧
    binary ((sixBits v).take 4) = v / 4 ∧ binary ((sixBits v).drop 4) = v % 4 := by
  decide

/-- How two values make a byte, at each of the three places of a group. -/
theorem octet_two {v w : Nat} (hv : v < 64) (hw : w < 64) :
    octet (sixBits v ++ (sixBits w).take 2) = firstByte v w ∧
    octet ((sixBits v).drop 2 ++ (sixBits w).take 4) = secondByte v w ∧
    octet ((sixBits v).drop 4 ++ sixBits w) = thirdByte v w := by
  obtain ⟨hv₀, -, hv₁, -, hv₂⟩ := binary_sixBits v hv
  obtain ⟨hw₀, hw₁, -, hw₂, -⟩ := binary_sixBits w hw
  rw [octet, octet, octet, binary_append, binary_append, binary_append, hv₀, hv₁, hv₂, hw₀, hw₁,
    hw₂, Nat.shiftLeft_eq, Nat.shiftLeft_eq, Nat.shiftLeft_eq]
  exact ⟨rfl, rfl, rfl⟩

section Denoted

variable {a b c : UInt8} {v w x : Nat} (ha : value? a = some v) (hb : value? b = some w)
  (hc : value? c = some x)

include ha hb

theorem denoted_two : denoted [a, b] = [firstByte v w] := by
  rw [← (octet_two (value?_lt ha) (value?_lt hb)).1, denoted, bits_cons ha, bits_cons hb]
  rfl

include hc

theorem denoted_three : denoted [a, b, c] = [firstByte v w, secondByte w x] := by
  rw [← (octet_two (value?_lt ha) (value?_lt hb)).1,
    ← (octet_two (value?_lt hb) (value?_lt hc)).2.1, denoted, bits_cons ha, bits_cons hb,
    bits_cons hc]
  rfl

end Denoted

theorem IsQuad.denoted {a b c d : UInt8} {q : List UInt8} (h : IsQuad a b c d q)
    (t : List UInt8) : denoted (a :: b :: c :: d :: t) = q ++ denoted t := by
  obtain ⟨v, w, x, y, ⟨ha, hb, hc, hd⟩, rfl⟩ := h
  rw [quadBytes, ← (octet_two (value?_lt ha) (value?_lt hb)).1,
    ← (octet_two (value?_lt hb) (value?_lt hc)).2.1,
    ← (octet_two (value?_lt hc) (value?_lt hd)).2.2, Base64.denoted, bits_cons ha,
    bits_cons hb, bits_cons hc, bits_cons hd]
  rfl

/-! ## The lenient reader -/

theorem eq_pad_iff {b : UInt8} (hs : isSymbol b = true) : b = pad ↔ value? b = none := by
  refine ⟨fun h => h ▸ value?_pad, fun h => ?_⟩
  simpa [isSymbol, h] using hs

variable {g t bytes : List UInt8}

theorem lastQuad_eq_ok_iff : ∀ {g : List UInt8}, (∀ c ∈ g, isSymbol c = true) → g.length ≤ 4 →
    (lastQuad (g.map value?) = .ok bytes ↔ Grouped g ∧ denoted g = bytes)
  | [], _, _ => by simp [lastQuad, Grouped.nil]
  | [a], _, _ => by
    refine iff_of_false ?_ fun h => not_grouped_one a h.1
    cases ha : value? a <;> simp [lastQuad, ha]
  | [a, b], _, _ => by
    rw [grouped_two_iff]
    cases ha : value? a <;> cases hb : value? b <;> simp [lastQuad, isLetter, ha, hb]
    rw [denoted_two ha hb]
  | [a, b, c], _, _ => by
    rw [grouped_three_iff]
    cases ha : value? a <;> cases hb : value? b <;> cases hc : value? c <;>
      simp [lastQuad, isLetter, ha, hb, hc]
    rw [denoted_three ha hb hc]
  | [a, b, c, d], hs, _ => by
    rw [grouped_quad_iff, eq_pad_iff (hs c (by simp)), eq_pad_iff (hs d (by simp))]
    cases ha : value? a <;> cases hb : value? b <;> cases hc : value? c <;> cases hd : value? d <;>
      simp [lastQuad, isLetter, ha, hb, hc, hd]
    · have h : denoted [a, b, c, d] = denoted [a, b] := by simp [denoted, bits, hc, hd]
      rw [h, denoted_two ha hb]
    · have h : denoted [a, b, c, d] = denoted [a, b, c] := by simp [denoted, bits, hd]
      rw [h, denoted_three ha hb hc]
    · have h : IsQuad a b c d _ := ⟨_, _, _, _, ⟨ha, hb, hc, hd⟩, rfl⟩
      rw [h.denoted, denoted_nil, List.append_nil]
  | _ :: _ :: _ :: _ :: _ :: _, _, h => by
    simp only [List.length_cons] at h
    omega

/-- Four characters are read alike, whether more than four are left or eight are. -/
theorem lastGroup_quad {a b c d e : UInt8} {rest : List UInt8} :
    lastGroup ((a :: b :: c :: d :: e :: rest).map value?) = .ok bytes ↔
      ∃ q r, IsQuad a b c d q ∧ lastQuad ((e :: rest).map value?) = .ok r ∧ q ++ r = bytes := by
  constructor
  · intro h
    simp only [List.map_cons, lastGroup] at h
    split at h
    · rename_i v w x y ha hb hc hd
      cases hr : lastQuad (value? e :: rest.map value?) with
      | error f =>
        rw [hr] at h
        cases h
      | ok r =>
        rw [hr] at h
        cases h
        exact ⟨_, r, ⟨v, w, x, y, ⟨ha, hb, hc, hd⟩, rfl⟩, hr, rfl⟩
    · cases h
  · rintro ⟨q, r, ⟨v, w, x, y, ⟨ha, hb, hc, hd⟩, rfl⟩, hr, rfl⟩
    rw [List.map_cons] at hr
    simp only [List.map_cons, lastGroup, ha, hb, hc, hd, hr]
    rfl

theorem fullGroup_quads {a b c d e f g h : UInt8} :
    fullGroup ([a, b, c, d, e, f, g, h].map value?) = .ok bytes ↔
      ∃ q r, IsQuad a b c d q ∧ IsQuad e f g h r ∧ q ++ r = bytes := by
  constructor
  · intro hg
    unfold fullGroup at hg
    split at hg
    · rename_i hvalues
      simp only [List.map_cons, List.map_nil, List.cons.injEq, and_true] at hvalues
      obtain ⟨ha, hb, hc, hd, he, hf, hg', hh⟩ := hvalues
      cases hg
      exact ⟨_, _, ⟨_, _, _, _, ⟨ha, hb, hc, hd⟩, rfl⟩, ⟨_, _, _, _, ⟨he, hf, hg', hh⟩, rfl⟩, rfl⟩
    · cases hg
  · rintro ⟨q, r, ⟨v, w, x, y, ⟨ha, hb, hc, hd⟩, rfl⟩, ⟨v', w', x', y', ⟨he, hf, hg, hh⟩, rfl⟩, rfl⟩
    simp only [List.map_cons, List.map_nil, fullGroup, ha, hb, hc, hd, he, hf, hg, hh]

/-- What is left when the text ends: two groups at most. -/
theorem lastGroup_eq_ok_iff : ∀ {g : List UInt8}, (∀ c ∈ g, isSymbol c = true) → g.length ≤ 8 →
    ∀ {bytes}, lastGroup (g.map value?) = .ok bytes ↔ Grouped g ∧ denoted g = bytes
  | [], hs, _, _ | [_], hs, _, _ | [_, _], hs, _, _ | [_, _, _], hs, _, _
  | [_, _, _, _], hs, _, _ => by
    rw [lastGroup_of_length_le (by simp), lastQuad_eq_ok_iff hs (by simp)]
  | a :: b :: c :: d :: e :: rest, hs, hl, bytes => by
    have hlen : (e :: rest).length ≤ 4 := by
      simp only [List.length_cons] at hl ⊢
      omega
    have hrest : ∀ x ∈ e :: rest, isSymbol x = true :=
      fun x hx => hs x (by simp [List.mem_cons.1 hx])
    rw [lastGroup_quad, grouped_four_iff (List.cons_ne_nil e rest)]
    simp only [lastQuad_eq_ok_iff hrest hlen]
    constructor
    · rintro ⟨q, r, hq, ⟨hg, rfl⟩, rfl⟩
      exact ⟨⟨⟨q, hq⟩, hg⟩, hq.denoted _⟩
    · rintro ⟨⟨⟨q, hq⟩, hg⟩, rfl⟩
      exact ⟨q, _, hq, ⟨hg, rfl⟩, (hq.denoted _).symm⟩

/-- A full group is read when a symbol follows it. -/
theorem fullGroup_eq_ok_iff {b : UInt8} (hl : g.length = 8) (t : List UInt8) :
    (∃ q, fullGroup (g.map value?) = .ok q ∧ ∃ r, (Grouped (b :: t) ∧ denoted (b :: t) = r) ∧
      q ++ r = bytes) ↔ Grouped (g ++ b :: t) ∧ denoted (g ++ b :: t) = bytes := by
  match g, hl with
  | [a₁, a₂, a₃, a₄, a₅, a₆, a₇, a₈], _ =>
    simp only [fullGroup_quads, List.cons_append, List.nil_append]
    rw [grouped_four_iff (List.cons_ne_nil _ _), grouped_four_iff (List.cons_ne_nil _ _)]
    constructor
    · rintro ⟨_, ⟨q, q', hq, hq', rfl⟩, _, ⟨hg, rfl⟩, rfl⟩
      refine ⟨⟨⟨q, hq⟩, ⟨q', hq'⟩, hg⟩, ?_⟩
      rw [hq.denoted, hq'.denoted, List.append_assoc]
    · rintro ⟨⟨⟨q, hq⟩, ⟨q', hq'⟩, hg⟩, rfl⟩
      refine ⟨_, ⟨q, q', hq, hq', rfl⟩, _, ⟨hg, rfl⟩, ?_⟩
      rw [hq.denoted, hq'.denoted, List.append_assoc]

theorem append_eq_ok_iff {x y : Except Fault (List UInt8)} :
    (do let q ← x; (q ++ ·) <$> y) = .ok bytes ↔
      ∃ q, x = .ok q ∧ ∃ r, y = .ok r ∧ q ++ r = bytes := by
  cases x with
  | error f => exact iff_of_false nofun nofun
  | ok q =>
    cases y with
    | error f => exact iff_of_false nofun nofun
    | ok r => simp [bind, Except.bind, Functor.map, Except.map]

/-- What is read after the characters `g` is what they denote together with the rest. -/
theorem decodeFrom_eq_ok_iff (hs : ∀ c ∈ g, isSymbol c = true) (hl : g.length ≤ 8)
    (ht : ∀ b ∈ t, isBlank b = false) :
    decodeFrom (g.map value?) t = .ok bytes ↔ Grouped (g ++ t) ∧ denoted (g ++ t) = bytes := by
  -- a ninth symbol shows that the first eight are full groups, so these leave `g` only then
  induction t generalizing g bytes with
  | nil => rw [decodeFrom, lastGroup_eq_ok_iff hs hl, List.append_nil]
  | cons b t ih =>
    have ht' : ∀ c ∈ t, isBlank c = false := fun c hc => ht c (List.mem_cons_of_mem b hc)
    by_cases hb : isSymbol b = true
    · have hsb : ∀ c ∈ g ++ [b], isSymbol c = true := by
        simpa [or_imp, forall_and, hb] using hs
      rw [decodeFrom_symbol hb]
      by_cases h8 : g.length = 8
      · have hone : ∀ r, decodeFrom [value? b] t = .ok r ↔
            Grouped (b :: t) ∧ denoted (b :: t) = r :=
          fun r => ih (g := [b]) (by simpa using hb) (by simp) ht'
        rw [if_pos (by simpa using h8), append_eq_ok_iff, ← fullGroup_eq_ok_iff h8]
        simp only [hone]
      · rw [if_neg (by simpa using h8), ← List.map_singleton, ← List.map_append,
          ih hsb (by simp; omega) ht', List.append_assoc, List.singleton_append]
    · refine iff_of_false ?_ fun h => hb (h.1.isSymbol b (by simp))
      have hb' : ¬ (b = pad ∨ (value? b).isSome = true) := by
        simpa [isSymbol, or_comm] using hb
      rw [decodeFrom, if_neg (by simp [ht b]), if_neg hb']
      intro h
      cases h

/-- The characters of a body, without its blanks. -/
def strip (body : List UInt8) : List UInt8 :=
  body.filter fun b => !isBlank b

theorem strip_append (a b : List UInt8) : strip (a ++ b) = strip a ++ strip b :=
  List.filter_append a b

theorem decodeLoose_strip (body : List UInt8) : decodeLoose (strip body) = decodeLoose body :=
  decodeFrom_filter [] body

theorem isBlank_of_mem_strip {body : List UInt8} {b : UInt8} (h : b ∈ strip body) :
    isBlank b = false := by
  simpa using (List.mem_filter.1 h).2

/-- **The reader of sections accepts exactly what is grouped**, and reads what it denotes. -/
theorem decodeLoose_eq_ok_iff {body : List UInt8} :
    decodeLoose body = .ok bytes ↔ Grouped (strip body) ∧ denoted (strip body) = bytes := by
  rw [← decodeLoose_strip]
  exact decodeFrom_eq_ok_iff (g := []) nofun (by simp) fun b hb => isBlank_of_mem_strip hb

/-! ## Counting characters -/

theorem length_bits (t : List UInt8) : (bits t).length = 6 * t.countP isLetter := by
  induction t with
  | nil => rfl
  | cons b t ih =>
    rw [List.countP_cons]
    cases hb : value? b with
    | none =>
      have hl : isLetter b = false := by rw [isLetter, hb]; rfl
      have h : bits (b :: t) = bits t := by simp [bits, hb]
      rw [h, ih, hl]
      simp
    | some v =>
      have hl : isLetter b = true := by rw [isLetter, hb]; rfl
      rw [bits_cons hb, List.length_append, ih, hl]
      simp [sixBits]
      omega

theorem length_octets : ∀ bs : List Bool, (octets bs).length = bs.length / 8
  | [] | [_] | [_, _] | [_, _, _] | [_, _, _, _] | [_, _, _, _, _] | [_, _, _, _, _, _]
  | [_, _, _, _, _, _, _] => by simp [octets]
  | _ :: _ :: _ :: _ :: _ :: _ :: _ :: _ :: rest => by
    rw [octets, List.length_cons, length_octets rest]
    simp only [List.length_cons]
    omega

theorem length_denoted (t : List UInt8) : (denoted t).length = 6 * t.countP isLetter / 8 := by
  rw [denoted, length_octets, length_bits]

/-- One character more is one byte more, unless it is alone in its group. -/
theorem byteCount_lt {m n : Nat} (h : m < n) (hn : n % 4 ≠ 1) : 6 * m / 8 < 6 * n / 8 := by
  have hn' : n % 4 = 0 ∨ n % 4 = 2 ∨ n % 4 = 3 := by omega
  rcases hn' with hn' | hn' | hn' <;> omega

/-- A last group of one character is none. -/
theorem Grouped.countP_mod_ne {t : List UInt8} (h : Grouped t) : t.countP isLetter % 4 ≠ 1 := by
  induction h with
  | nil => decide
  | two ha hb | twoPadded ha hb => simp [isLetter_pad, ha, hb]
  | three ha hb hc | threePadded ha hb hc => simp [isLetter_pad, ha, hb, hc]
  | four ha hb hc hd hr ih =>
    simp only [List.countP_cons, ha, hb, hc, hd, if_true]
    omega

/-- What stands in front of a body changes what is read, unless it is blank. -/
theorem decodeLoose_append_iff {front body : List UInt8}
    (h : decodeLoose (front ++ body) = .ok bytes) :
    decodeLoose body = .ok bytes ↔ ∀ b ∈ front, isBlank b = true := by
  rw [decodeLoose_eq_ok_iff, strip, List.filter_append] at h
  rw [decodeLoose_eq_ok_iff]
  constructor
  · rintro ⟨-, hd⟩
    -- both are read as the same bytes, and more symbols would be more bytes
    have hlen := congrArg List.length (h.2.trans hd.symm)
    rw [length_denoted, length_denoted] at hlen
    cases hf : front.filter fun b => !isBlank b with
    | nil => simpa using List.filter_eq_nil_iff.1 hf
    | cons x xs =>
      rw [hf] at h hlen
      have hmore : (strip body).countP isLetter < (x :: xs ++ strip body).countP isLetter := by
        rw [List.cons_append, List.countP_cons_of_pos h.1.isLetter_head, List.countP_append]
        omega
      exact absurd hlen (Nat.ne_of_gt (byteCount_lt hmore h.1.countP_mod_ne))
  · intro hb
    have hf : (front.filter fun b => !isBlank b) = [] :=
      List.filter_eq_nil_iff.2 fun b hm => by simp [hb b hm]
    rw [hf] at h
    exact h

end VpnGateway.Base64
