import VpnGateway.Base64

/-!
# Base64 reads back what it writes

* `isSymbol`: the characters that written texts consist of;
* `decode?_encode`: the strict reader inverts the writer;
* `decodeFrom_filter`: the reader of sections skips blanks wherever they stand;
* **`decodeLoose_of_filter`**: it reads a written text back, on whatever lines that stands.
-/

namespace VpnGateway.Base64

/-! ## The alphabet -/

/-- A character that written texts consist of. -/
def isSymbol (b : UInt8) : Bool :=
  (value? b).isSome || b == pad

theorem value?_symbol : ∀ n < 64, value? (symbol n) = some n := by decide

theorem value?_pad : value? pad = none := by decide

theorem symbol_of_le {n : Nat} (h : 64 ≤ n) : symbol n = 47 := by
  unfold symbol
  rw [if_neg (by omega), if_neg (by omega), if_neg (by omega), if_neg (by omega)]

theorem isSymbol_symbol (n : Nat) : isSymbol (symbol n) = true := by
  by_cases h : n < 64
  · rw [isSymbol, value?_symbol n h]
    rfl
  · rw [symbol_of_le (by omega)]
    decide

theorem isSymbol_pad : isSymbol pad = true := by decide

theorem symbol_ne_pad (n : Nat) : symbol n ≠ pad := by
  by_cases h : n < 64
  · intro he
    have hv := value?_symbol n h
    rw [he, value?_pad] at hv
    exact absurd hv (by simp)
  · rw [symbol_of_le (by omega)]
    decide

theorem isSymbol_of_mem_encode {bytes : List UInt8} {b : UInt8} (h : b ∈ encode bytes) :
    isSymbol b = true := by
  induction bytes using encode.induct with
  | case1 => exact absurd h List.not_mem_nil
  | case2 x | case3 x y =>
    simp only [encode, List.mem_cons, List.not_mem_nil, or_false] at h
    rcases h with rfl | rfl | rfl | rfl
    all_goals first | exact isSymbol_symbol _ | exact isSymbol_pad
  | case4 x y z rest ih =>
    simp only [encode, List.mem_cons] at h
    rcases h with rfl | rfl | rfl | rfl | h
    all_goals first | exact isSymbol_symbol _ | exact ih h

/-- What holds of the bytes below 256 holds of every byte. -/
theorem forall_byte {p : UInt8 → Prop} (h : ∀ n < 256, p (UInt8.ofNat n)) (b : UInt8) : p b := by
  have hb := h b.toNat b.toNat_lt
  rwa [UInt8.ofNat_toNat] at hb

theorem isBlank_of_isSymbol (b : UInt8) : isSymbol b = true → isBlank b = false :=
  forall_byte (p := fun b => isSymbol b = true → isBlank b = false) (by decide +kernel) b

/-! ## Groups of bytes

The four values that three bytes give, and the bytes that these values give back. A last group has
zeros in place of the bytes that are missing. -/

section Group

variable (a b c : UInt8)

theorem value?_first : value? (symbol (a.toNat / 4)) = some (a.toNat / 4) :=
  value?_symbol _ (by have := a.toNat_lt; omega)

theorem value?_second {y : Nat} (hy : y < 16) :
    value? (symbol (a.toNat % 4 * 16 + y)) = some (a.toNat % 4 * 16 + y) :=
  value?_symbol _ (by omega)

theorem value?_third {y : Nat} (hy : y < 4) :
    value? (symbol (b.toNat % 16 * 4 + y)) = some (b.toNat % 16 * 4 + y) :=
  value?_symbol _ (by omega)

theorem value?_fourth : value? (symbol (c.toNat % 64)) = some (c.toNat % 64) :=
  value?_symbol _ (by omega)

theorem high_lt : b.toNat / 16 < 16 := by
  have hb : b.toNat < 256 := b.toNat_lt
  omega

theorem top_lt : c.toNat / 64 < 4 := by
  have hc : c.toNat < 256 := c.toNat_lt
  omega

theorem firstByte_split {y : Nat} (hy : y < 16) :
    firstByte (a.toNat / 4) (a.toNat % 4 * 16 + y) = a := by
  have h : a.toNat / 4 * 4 + (a.toNat % 4 * 16 + y) / 16 = a.toNat := by omega
  rw [firstByte, h, UInt8.ofNat_toNat]

theorem secondByte_split (x : Nat) {y : Nat} (hy : y < 4) :
    secondByte (x * 16 + b.toNat / 16) (b.toNat % 16 * 4 + y) = b := by
  have hb : b.toNat < 256 := b.toNat_lt
  have h : (x * 16 + b.toNat / 16) % 16 * 16 + (b.toNat % 16 * 4 + y) / 4 = b.toNat := by omega
  rw [secondByte, h, UInt8.ofNat_toNat]

theorem thirdByte_split (x : Nat) : thirdByte (x * 4 + c.toNat / 64) (c.toNat % 64) = c := by
  have hc : c.toNat < 256 := c.toNat_lt
  have h : (x * 4 + c.toNat / 64) % 4 * 64 + c.toNat % 64 = c.toNat := by omega
  rw [thirdByte, h, UInt8.ofNat_toNat]

/-- The values of a written text, `none` for padding. -/
def values (bytes : List UInt8) : List (Option Nat) :=
  (encode bytes).map value?

@[simp] theorem values_nil : values [] = [] := rfl

@[simp] theorem values_one :
    values [a] = [some (a.toNat / 4), some (a.toNat % 4 * 16), none, none] := by
  have h := value?_second a (y := 0) (by omega)
  simp only [values, encode, List.map_cons, List.map_nil, value?_first, value?_pad]
  rw [Nat.add_zero] at h
  rw [h]

@[simp] theorem values_two :
    values [a, b] = [some (a.toNat / 4), some (a.toNat % 4 * 16 + b.toNat / 16),
      some (b.toNat % 16 * 4), none] := by
  have h := value?_third b (y := 0) (by omega)
  simp only [values, encode, List.map_cons, List.map_nil, value?_first, value?_pad,
    value?_second a (high_lt b)]
  rw [Nat.add_zero] at h
  rw [h]

@[simp] theorem values_three (rest : List UInt8) :
    values (a :: b :: c :: rest) = some (a.toNat / 4) :: some (a.toNat % 4 * 16 + b.toNat / 16) ::
      some (b.toNat % 16 * 4 + c.toNat / 64) :: some (c.toNat % 64) :: values rest := by
  simp only [values, encode, List.map_cons, value?_first, value?_second a (high_lt b),
    value?_third b (top_lt c), value?_fourth]

theorem quadBytes_split :
    quadBytes (a.toNat / 4) (a.toNat % 4 * 16 + b.toNat / 16) (b.toNat % 16 * 4 + c.toNat / 64)
      (c.toNat % 64) = [a, b, c] := by
  rw [quadBytes, firstByte_split a (high_lt b), secondByte_split b _ (top_lt c),
    thirdByte_split c]

theorem firstByte_one : firstByte (a.toNat / 4) (a.toNat % 4 * 16) = a :=
  firstByte_split a (y := 0) (by omega)

theorem secondByte_two (x : Nat) : secondByte (x * 16 + b.toNat / 16) (b.toNat % 16 * 4) = b :=
  secondByte_split b x (y := 0) (by omega)

end Group

/-! ## Strict reading -/

theorem decode?_encode (bytes : List UInt8) : decode? (encode bytes) = some bytes := by
  induction bytes using encode.induct with
  | case1 => rfl
  | case2 a =>
    have h : value? (symbol (a.toNat % 4 * 16)) = some (a.toNat % 4 * 16) :=
      value?_second a (y := 0) (by omega)
    simp [encode, decode?, value?_first, h, firstByte_one]
  | case3 a b =>
    have h : value? (symbol (b.toNat % 16 * 4)) = some (b.toNat % 16 * 4) :=
      value?_third b (y := 0) (by omega)
    simp [encode, decode?, value?_first, value?_second a (high_lt b), h, symbol_ne_pad,
      firstByte_split a (high_lt b), secondByte_two]
  | case4 a b c rest ih =>
    have hq := quadBytes_split a b c
    simp only [quadBytes, List.cons.injEq, and_true] at hq
    -- the last four characters are read apart, since only they may be padded
    cases he : encode rest with
    | nil =>
      have hr : rest = [] := by
        rw [he] at ih
        simpa [decode?] using ih.symm
      simp [hr, encode, decode?, value?_first, value?_second a (high_lt b),
        value?_third b (top_lt c), value?_fourth, symbol_ne_pad, hq]
    | cons e es =>
      rw [he] at ih
      simp [encode, he, decode?, ih, value?_first, value?_second a (high_lt b),
        value?_third b (top_lt c), value?_fourth, hq]

/-! ## Reading between the lines of a section -/

/-- Blanks count for nothing. -/
theorem decodeFrom_filter (group : List (Option Nat)) (body : List UInt8) :
    decodeFrom group (body.filter fun b => !isBlank b) = decodeFrom group body := by
  induction body generalizing group with
  | nil => rfl
  | cons b body ih =>
    by_cases hb : isBlank b = true
    · rw [List.filter_cons_of_neg (by simp [hb]), ih, decodeFrom, if_pos hb]
    · rw [List.filter_cons_of_pos (by simp [hb]), decodeFrom, decodeFrom]
      simp only [ih]

theorem decodeFrom_symbol {b : UInt8} (hb : isSymbol b = true) (group : List (Option Nat))
    (bs : List UInt8) :
    decodeFrom group (b :: bs) = if group.length = 8 then do
      let bytes ← fullGroup group
      (bytes ++ ·) <$> decodeFrom [value? b] bs
      else decodeFrom (group ++ [value? b]) bs := by
  have h : b = pad ∨ (value? b).isSome = true := by
    simp only [isSymbol, Bool.or_eq_true, beq_iff_eq] at hb
    exact hb.symm
  rw [decodeFrom, if_neg (by rw [isBlank_of_isSymbol b hb]; exact Bool.false_ne_true), if_pos h]

/-- Symbols that fit into the group are taken up by it. -/
theorem decodeFrom_append {cs : List UInt8} (hs : ∀ c ∈ cs, isSymbol c = true)
    {group : List (Option Nat)} (hl : group.length + cs.length ≤ 8) (bs : List UInt8) :
    decodeFrom group (cs ++ bs) = decodeFrom (group ++ cs.map value?) bs := by
  induction cs generalizing group with
  | nil => simp
  | cons c cs ih =>
    rw [List.length_cons] at hl
    rw [List.cons_append, decodeFrom_symbol (hs c List.mem_cons_self), if_neg (by omega),
      ih (fun d hd => hs d (List.mem_cons_of_mem c hd)) (by simp; omega)]
    simp

/-- A full group is read when a symbol follows it. -/
theorem decodeFrom_full {cs : List UInt8} (hs : ∀ c ∈ cs, isSymbol c = true) (hne : cs ≠ [])
    (hl : cs.length ≤ 8) {group : List (Option Nat)} {bytes : List UInt8} (hg : group.length = 8)
    (hf : fullGroup group = .ok bytes) (bs : List UInt8) :
    decodeFrom group (cs ++ bs) = (bytes ++ ·) <$> decodeFrom (cs.map value?) bs := by
  obtain ⟨c, cs, rfl⟩ := List.exists_cons_of_ne_nil hne
  rw [List.length_cons] at hl
  have hone : [value? c].length + cs.length ≤ 8 := by
    rw [List.length_singleton]
    omega
  have hc := decodeFrom_append (fun d hd => hs d (List.mem_cons_of_mem c hd)) hone bs
  rw [List.cons_append, decodeFrom_symbol (hs c List.mem_cons_self), if_pos hg, hf]
  exact congrArg ((bytes ++ ·) <$> ·) hc

theorem length_encode_quad : ∀ {q : List UInt8}, q ≠ [] → q.length ≤ 3 → (encode q).length = 4
  | [], h, _ => absurd rfl h
  | [_], _, _ => rfl
  | [_, _], _, _ => rfl
  | [_, _, _], _, _ => rfl
  | _ :: _ :: _ :: _ :: _, _, h => by
    simp only [List.length_cons] at h
    omega

theorem fullGroup_values (a b c d e f : UInt8) :
    fullGroup (values [a, b, c, d, e, f]) = .ok [a, b, c, d, e, f] := by
  simp only [values_three, values_nil, fullGroup, quadBytes_split, List.cons_append,
    List.nil_append]

theorem lastQuad_values : ∀ {q : List UInt8}, q.length ≤ 3 → lastQuad (values q) = .ok q
  | [], _ => rfl
  | [a], _ => by rw [values_one, lastQuad, firstByte_one]
  | [a, b], _ => by rw [values_two, lastQuad, firstByte_split a (high_lt b), secondByte_two]
  | [a, b, c], _ => by rw [values_three, values_nil, lastQuad, quadBytes_split]
  | _ :: _ :: _ :: _ :: _, h => by
    simp only [List.length_cons] at h
    omega

theorem lastGroup_of_length_le {group : List (Option Nat)} (h : group.length ≤ 4) :
    lastGroup group = lastQuad group := by
  match group, h with
  | [], _ | [_], _ | [_, _], _ | [_, _, _], _ | [_, _, _, _], _ => rfl

/-- What is pending when the text ends: two groups of bytes at most, the last perhaps short. -/
theorem lastGroup_values : ∀ {l : List UInt8}, l.length ≤ 6 → lastGroup (values l) = .ok l
  | [], _ => rfl
  | [a], _ => by
    rw [lastGroup_of_length_le (by simp), lastQuad_values (by simp)]
  | [a, b], _ => by
    rw [lastGroup_of_length_le (by simp), lastQuad_values (by simp)]
  | a :: b :: c :: q, h => by
    have hlen : q.length ≤ 3 := by
      simp only [List.length_cons] at h
      omega
    have hq := lastQuad_values hlen
    rw [values_three]
    cases hv : values q with
    | nil =>
      rw [hv] at hq
      have hnil : q = [] := by simpa [lastQuad] using hq.symm
      rw [hnil, lastGroup_of_length_le (by simp), lastQuad, quadBytes_split]
    | cons v vs =>
      rw [hv] at hq
      simp only [lastGroup, hq, quadBytes_split]
      rfl

/-- The bytes whose text has been read and not been used: none, or one or two groups. -/
def Pending (l : List UInt8) : Prop :=
  l.length = 0 ∨ l.length = 3 ∨ l.length = 6

theorem values_append : ∀ {l : List UInt8}, Pending l → ∀ q, values (l ++ q) = values l ++ values q
  | [], _, _ => rfl
  | [a, b, c], _, q => by simp
  | [a, b, c, d, e, f], _, q => by simp
  | [_], h, _ | [_, _], h, _ | [_, _, _, _], h, _ | [_, _, _, _, _], h, _ => by simp [Pending] at h
  | _ :: _ :: _ :: _ :: _ :: _ :: _ :: _, h, _ => by simp [Pending] at h

theorem length_values {l : List UInt8} (h : Pending l) : (values l).length = l.length / 3 * 4 := by
  match l, h with
  | [], _ => rfl
  | [a, b, c], _ => simp
  | [a, b, c, d, e, f], _ => simp

/-- One group of bytes is read: it is added to the pending ones, or takes the place of two. -/
theorem decodeFrom_quad {l q : List UInt8} (hl : Pending l) (hne : q ≠ []) (hq : q.length ≤ 3)
    {bs rest : List UInt8} (hr : decodeFrom (values q) bs = .ok (q ++ rest))
    (hlr : l.length ≠ 6 → decodeFrom (values (l ++ q)) bs = .ok (l ++ q ++ rest)) :
    decodeFrom (values l) (encode q ++ bs) = .ok (l ++ (q ++ rest)) := by
  have hs : ∀ c ∈ encode q, isSymbol c = true := fun c hc => isSymbol_of_mem_encode hc
  have h4 := length_encode_quad hne hq
  have hv := length_values hl
  by_cases h6 : l.length = 6
  · have hf : fullGroup (values l) = .ok l := by
      match l, h6 with
      | [a, b, c, d, e, f], _ => exact fullGroup_values a b c d e f
    have hne' : encode q ≠ [] := fun h => by simp [h] at h4
    rw [decodeFrom_full hs hne' (by omega) (by omega) hf]
    exact congrArg ((l ++ ·) <$> ·) hr
  · have hroom : (values l).length + (encode q).length ≤ 8 := by
      rcases hl with hl | hl | hl <;> omega
    have happ := values_append hl q
    rw [values, values, values] at happ
    rw [decodeFrom_append hs hroom, values, ← happ, ← List.append_assoc]
    exact hlr h6

/-- The text of a last group that is short. -/
theorem decodeFrom_last {l q : List UInt8} (hl : Pending l) (hne : q ≠ []) (hq : q.length ≤ 3) :
    decodeFrom (values l) (encode q) = .ok (l ++ q) := by
  have hr : decodeFrom (values q) [] = .ok (q ++ []) := by
    rw [decodeFrom, lastGroup_values (by omega), List.append_nil]
  have h := decodeFrom_quad hl hne hq hr fun h6 => by
    have hroom : (l ++ q).length ≤ 6 := by
      rw [List.length_append]
      rcases hl with h | h | h <;> omega
    rw [decodeFrom, lastGroup_values hroom, List.append_nil]
  rwa [List.append_nil, List.append_nil] at h

theorem decodeFrom_encode (bytes : List UInt8) {l : List UInt8} (hl : Pending l) :
    decodeFrom (values l) (encode bytes) = .ok (l ++ bytes) := by
  induction bytes using encode.induct generalizing l with
  | case1 =>
    rw [encode, decodeFrom, lastGroup_values (by rcases hl with h | h | h <;> omega),
      List.append_nil]
  | case2 a => exact decodeFrom_last hl (by simp) (by simp)
  | case3 a b => exact decodeFrom_last hl (by simp) (by simp)
  | case4 a b c rest ih =>
    -- the pending bytes grow by one group, or are read and give way to it
    have hq : Pending [a, b, c] := .inr (.inl rfl)
    refine decodeFrom_quad (q := [a, b, c]) hl (by simp) (by simp) (ih hq) fun h6 => ?_
    have hlq : Pending (l ++ [a, b, c]) := by
      rw [Pending, List.length_append, List.length_cons, List.length_cons, List.length_singleton]
      rcases hl with h | h | h <;> omega
    exact ih hlq

/-- **A written text is read back**, whatever blanks it is interspersed with. -/
theorem decodeLoose_of_filter {body bytes : List UInt8}
    (h : (body.filter fun b => !isBlank b) = encode bytes) : decodeLoose body = .ok bytes := by
  rw [decodeLoose, ← decodeFrom_filter, h]
  exact decodeFrom_encode bytes (l := []) (.inl rfl)

end VpnGateway.Base64
