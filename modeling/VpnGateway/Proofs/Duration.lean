import VpnGateway.Duration
import VpnGateway.Proofs.Result

/-!
# Durations read back, and texts without a verdict

* `Duration.ofText_toText`: the text of a duration is read back;
* `Duration.Straddles`, `Duration.cut?_eq_none_iff`: when a fraction cannot be cut;
* `Duration.BreaksOff`: a text with such a fraction, in a token that is reached;
* **`Duration.ofText_eq_cut_iff`**: these texts alone have no verdict;
* `Duration.not_breaksOff_of_ascii`: and none of them is ASCII;
* `Duration.scale_lt_bound`, `Duration.part_lt_bound`: what is computed of a fraction is in bounds.
-/

namespace VpnGateway.Duration

/-! ## Round trip -/

theorem token?_toText (n : Nat) :
    token? (Nat.toDigits 10 n ++ ['n', 's']) = some (⟨Nat.toDigits 10 n, [], .nanosecond⟩, []) := by
  have hall : ∀ c ∈ Nat.toDigits 10 n, Text.isDecimalDigit c = true := fun c hc =>
    Text.isDecimalDigit_of_isDigit (Text.isDigit_of_mem_toDigits hc)
  have hn : Text.isDecimalDigit 'n' = false := by decide
  have hw : (Nat.toDigits 10 n ++ ['n', 's']).takeWhile Text.isDecimalDigit = Nat.toDigits 10 n := by
    rw [List.takeWhile_append_of_pos hall, List.takeWhile_cons_of_neg (by simp [hn]),
      List.append_nil]
  have hd : (Nat.toDigits 10 n ++ ['n', 's']).dropWhile Text.isDecimalDigit = ['n', 's'] := by
    rw [List.dropWhile_append_of_pos hall, List.dropWhile_cons_of_neg (by simp [hn])]
  unfold token?
  simp only [hw, hd, Nat.toDigits_ne_nil, if_false]
  rfl

@[simp] theorem tokens?_nil : tokens? [] = some [] := by
  rw [tokens?]
  rfl

theorem tokens?_of_token? {cs : List Char} {r : Token × List Char} (h : token? cs = some r) :
    tokens? cs = (tokens? r.2).map (r.1 :: ·) := by
  have hne : ¬ cs = [] := by
    rintro rfl
    cases h
  rw [tokens?, if_neg hne]
  split
  · rename_i hn
    rw [hn] at h
    cases h
  · rename_i hr
    rw [hr] at h
    rw [Option.some.inj h]

theorem tokens?_of_token?_eq_none {cs : List Char} (hne : cs ≠ []) (h : token? cs = none) :
    tokens? cs = none := by
  rw [tokens?, if_neg hne]
  split
  · rfl
  · rename_i hr
    rw [hr] at h
    cases h

theorem tokens?_toText (n : Nat) :
    tokens? (Nat.toDigits 10 n ++ ['n', 's']) =
      some [⟨Nat.toDigits 10 n, [], .nanosecond⟩] := by
  rw [tokens?_of_token? (token?_toText n), tokens?_nil, Option.map_some]

theorem value_toText {n : Nat} (h : n < bound) :
    Token.value ⟨Nat.toDigits 10 n, [], .nanosecond⟩ = .ok n := by
  have hb : bounded n = .ok n := if_pos h
  have hw : number (Nat.toDigits 10 n) = .ok n := by
    rw [number, if_neg Nat.toDigits_ne_nil, Text.natural?_toDigits]
    exact hb
  rw [Token.value, hw]
  simp [cut?, fractionBytes, number, TimeUnit.size, hb, bind, Except.bind]

/-- **The text of a duration is read back.** -/
theorem ofText_toText {d : Duration} (h : d.nanoseconds < limit) : ofText d.toText = .ok d := by
  have hb : d.nanoseconds < bound := Nat.lt_trans h (by decide)
  have hz : ¬ Nat.toDigits 10 d.nanoseconds ++ ['n', 's'] = ['0'] := by
    intro he
    have hl := congrArg List.getLast? he
    simp at hl
  have ht : total 0 [⟨Nat.toDigits 10 d.nanoseconds, [], .nanosecond⟩] = .ok d.nanoseconds := by
    rw [total, value_toText hb]
    simp [total, bounded, hb, bind, Except.bind]
  rw [ofText, toText, String.toList_ofList, ofChars, if_neg hz, tokens?_toText]
  change (total 0 [_] >>= fun n =>
    if n < limit then Except.ok (⟨n⟩ : Duration) else Except.error Fault.outOfRange) = _
  rw [ht]
  exact if_pos h

theorem ofText_empty : ofText "" = .error .malformed := by
  change ofChars [] = _
  rw [ofChars, if_neg (by simp), tokens?_nil]

theorem lt_limit_of_ofText {s : String} {d : Duration} (h : ofText s = .ok d) :
    d.nanoseconds < limit := by
  unfold ofText ofChars at h
  split at h
  · cases h
    decide
  · split at h
    · cases h
    · cases h
    · obtain ⟨n, -, hn⟩ := except_bind_eq_ok.1 h
      split at hn
      · rename_i hlt
        cases hn
        exact hlt
      · cases hn

/-! ## Cutting a fraction -/

/-- The bytes of characters. -/
def byteCount : List Char → Nat
  | [] => 0
  | c :: cs => c.utf8Size + byteCount cs

/-- A character lies across the end of the first `room` bytes. -/
def Straddles (room : Nat) (cs : List Char) : Prop :=
  ∃ front c back, cs = front ++ c :: back ∧
    byteCount front < room ∧ room < byteCount front + c.utf8Size

theorem byteCount_cons (c : Char) (cs : List Char) :
    byteCount (c :: cs) = c.utf8Size + byteCount cs := rfl

theorem straddles_cons {room : Nat} {c : Char} {cs : List Char} (h : c.utf8Size ≤ room) :
    Straddles room (c :: cs) ↔ Straddles (room - c.utf8Size) cs := by
  refine ⟨fun ⟨front, d, back, hcs, hlt, hgt⟩ => ?_, fun ⟨front, d, back, hcs, hlt, hgt⟩ => ?_⟩
  · cases front with
    | nil =>
      obtain ⟨rfl, -⟩ := List.cons.inj hcs
      simp [byteCount] at hgt
      omega
    | cons e front =>
      obtain ⟨rfl, hback⟩ := List.cons.inj hcs
      rw [byteCount_cons] at hlt hgt
      exact ⟨front, d, back, hback, by omega, by omega⟩
  · refine ⟨c :: front, d, back, by rw [hcs, List.cons_append], ?_, ?_⟩
    all_goals rw [byteCount_cons]; omega

/-- A fraction cannot be cut if a character lies across the cut. -/
theorem cut?_eq_none_iff (room : Nat) (cs : List Char) : cut? room cs = none ↔ Straddles room cs := by
  induction room, cs using cut?.induct with
  | case1 cs =>
    refine ⟨fun h => by simp [cut?] at h, fun ⟨_, _, _, _, hlt, _⟩ => absurd hlt (Nat.not_lt_zero _)⟩
  | case2 room hroom =>
    refine ⟨fun h => ?_, fun ⟨front, c, back, hcs, _⟩ => ?_⟩
    · cases room <;> simp [cut?] at h
    · simp at hcs
  | case3 room c cs h ih =>
    rw [cut?, if_pos h, Option.map_eq_none_iff, ih, straddles_cons h]
  | case4 room c cs h =>
    rw [cut?, if_neg h]
    exact ⟨fun _ => ⟨[], c, cs, rfl, by simp [byteCount], by simp [byteCount]; omega⟩, fun _ => rfl⟩

theorem byteCount_cut? {room : Nat} {cs digits : List Char} (h : cut? room cs = some digits) :
    byteCount digits ≤ room := by
  induction room, cs using cut?.induct generalizing digits with
  | case1 =>
    rw [cut?] at h
    cases h
    exact Nat.zero_le _
  | case2 room hroom =>
    rw [cut?.eq_2 _ hroom] at h
    cases h
    exact Nat.zero_le _
  | case3 room c cs hc ih =>
    rw [cut?, if_pos hc] at h
    obtain ⟨ds, hds, rfl⟩ := Option.map_eq_some_iff.1 h
    have := ih hds
    rw [byteCount_cons]
    omega
  | case4 room c cs hc =>
    rw [cut?, if_neg hc] at h
    cases h

/-! ## Sums -/

/-- A text with a token whose fraction cannot be cut, where the sum of the tokens before it and its
own whole part are in range. -/
def BreaksOff (cs : List Char) : Prop :=
  ∃ before t after n w, tokens? cs = some (before ++ t :: after) ∧ total 0 before = .ok n ∧
    number t.whole = .ok w ∧ Straddles fractionBytes t.fraction

theorem bounded_ne_cut (n : Nat) : bounded n ≠ .error .cutInsideDigit := by
  unfold bounded
  split <;> simp

theorem number_ne_cut (cs : List Char) : number cs ≠ .error .cutInsideDigit := by
  unfold number
  split
  · simp
  · split
    · exact bounded_ne_cut _
    · simp

theorem value_eq_cut_iff (t : Token) :
    t.value = .error .cutInsideDigit ↔
      (∃ w, number t.whole = .ok w) ∧ Straddles fractionBytes t.fraction := by
  rw [← cut?_eq_none_iff, Token.value, except_bind_eq_error]
  refine ⟨fun h => ?_, fun ⟨⟨w, hw⟩, hc⟩ => .inr ⟨w, hw, by rw [hc]⟩⟩
  rcases h with h | ⟨w, hw, h⟩
  · exact absurd h (number_ne_cut _)
  · refine ⟨⟨w, hw⟩, ?_⟩
    split at h
    · assumption
    · rw [except_bind_eq_error] at h
      rcases h with h | ⟨f, -, h⟩
      · exact absurd h (number_ne_cut _)
      · rw [except_bind_eq_error] at h
        rcases h with h | ⟨high, -, h⟩
        all_goals exact absurd h (bounded_ne_cut _)

theorem total_cons_eq_ok {t : Token} {v sum next n : Nat} {ts : List Token} (hv : t.value = .ok v)
    (hnext : bounded (sum + v) = .ok next) (h : total next ts = .ok n) :
    total sum (t :: ts) = .ok n :=
  except_bind_eq_ok.2 ⟨v, hv, except_bind_eq_ok.2 ⟨next, hnext, h⟩⟩

/-- The sum breaks off at a token that is reached. -/
theorem total_eq_cut_iff (sum : Nat) (ts : List Token) :
    total sum ts = .error .cutInsideDigit ↔
      ∃ before t after n, ts = before ++ t :: after ∧ total sum before = .ok n ∧
        t.value = .error .cutInsideDigit := by
  induction ts generalizing sum with
  | nil => simp [total]
  | cons t ts ih =>
    rw [total, except_bind_eq_error]
    refine ⟨fun h => ?_, fun ⟨before, u, after, n, hts, hn, hu⟩ => ?_⟩
    · rcases h with h | ⟨v, hv, h⟩
      · exact ⟨[], t, ts, sum, rfl, rfl, h⟩
      rcases except_bind_eq_error.1 h with h | ⟨next, hnext, h⟩
      · exact absurd h (bounded_ne_cut _)
      · obtain ⟨before, u, after, n, rfl, hn, hu⟩ := (ih next).1 h
        exact ⟨t :: before, u, after, n, rfl, total_cons_eq_ok hv hnext hn, hu⟩
    · cases before with
      | nil =>
        cases hts
        exact .inl hu
      | cons b before =>
        obtain ⟨rfl, rfl⟩ := List.cons.inj hts
        obtain ⟨v, hv, hn⟩ := except_bind_eq_ok.1 hn
        obtain ⟨next, hnext, hn⟩ := except_bind_eq_ok.1 hn
        -- the tokens before the last one are summed from where the first leaves off
        have hrest := (ih next).2 ⟨before, u, after, n, rfl, hn, hu⟩
        exact .inr ⟨v, hv, except_bind_eq_error.2 (.inr ⟨next, hnext, hrest⟩)⟩

theorem tokens?_zero : tokens? ['0'] = none :=
  tokens?_of_token?_eq_none (by simp) rfl

/-- **A text has no verdict if and only if it breaks off.** -/
theorem ofText_eq_cut_iff (s : String) : ofText s = .error .cutInsideDigit ↔ BreaksOff s.toList := by
  unfold ofText ofChars
  generalize s.toList = cs
  by_cases hz : cs = ['0']
  · rw [if_pos hz, hz]
    refine ⟨fun h => (by cases h), fun ⟨_, _, _, _, _, h, _⟩ => ?_⟩
    rw [tokens?_zero] at h
    cases h
  · rw [if_neg hz]
    split
    · rename_i ht
      refine ⟨fun h => (by cases h), fun ⟨_, _, _, _, _, h, _⟩ => ?_⟩
      rw [ht] at h
      cases h
    · rename_i ht
      refine ⟨fun h => (by cases h), fun ⟨_, _, _, _, _, h, _⟩ => ?_⟩
      rw [ht] at h
      simp at h
    · rename_i ts _ ht
      rw [except_bind_eq_error, total_eq_cut_iff]
      refine ⟨fun h => ?_, fun ⟨before, t, after, n, w, h, hn, hw, hs⟩ => ?_⟩
      · rcases h with ⟨before, t, after, n, rfl, hn, hv⟩ | ⟨n, -, h⟩
        · obtain ⟨⟨w, hw⟩, hs⟩ := (value_eq_cut_iff t).1 hv
          exact ⟨before, t, after, n, w, ht, hn, hw, hs⟩
        · split at h <;> cases h
      · rw [ht] at h
        exact .inl ⟨before, t, after, n, Option.some.inj h, hn,
          (value_eq_cut_iff t).2 ⟨⟨w, hw⟩, hs⟩⟩

/-! ## ASCII texts -/

theorem suffix_unit? {cs : List Char} {r : TimeUnit × List Char} (h : unit? cs = some r) :
    r.2 <:+ cs := by
  unfold unit? at h
  split at h
  case h_8 => cases h
  all_goals
    rw [← Option.some.inj h]
    first
    | exact List.suffix_append [_, _] _
    | exact List.suffix_cons _ _

/-- A fraction consists of characters of the text, and so does what follows its token. -/
theorem mem_token? {cs : List Char} {r : Token × List Char} (h : token? cs = some r) :
    r.1.fraction ⊆ cs ∧ r.2 ⊆ cs := by
  have hdrop := (List.dropWhile_suffix (l := cs) Text.isDecimalDigit).subset
  unfold token? at h
  simp only at h
  split at h
  · rename_i after heq
    have hafter : after ⊆ cs := fun c hc =>
      hdrop (by rw [heq]; exact List.mem_cons_of_mem _ hc)
    split at h
    · cases h
    · obtain ⟨u, hu, rfl⟩ := Option.map_eq_some_iff.1 h
      have hrest := (suffix_unit? hu).trans (List.dropWhile_suffix _)
      exact ⟨fun c hc => hafter ((List.takeWhile_prefix _).subset hc),
        fun c hc => hafter (hrest.subset hc)⟩
  · split at h
    · cases h
    · obtain ⟨u, hu, rfl⟩ := Option.map_eq_some_iff.1 h
      exact ⟨List.nil_subset cs, fun c hc => hdrop ((suffix_unit? hu).subset hc)⟩

theorem mem_tokens? {cs : List Char} {ts : List Token} (h : tokens? cs = some ts) :
    ∀ t ∈ ts, t.fraction ⊆ cs := by
  induction cs using tokens?.induct generalizing ts with
  | case1 =>
    rw [tokens?_nil] at h
    cases h
    exact fun _ ht => absurd ht List.not_mem_nil
  | case2 cs hne hn =>
    rw [tokens?_of_token?_eq_none hne hn] at h
    cases h
  | case3 cs hne r hr ih =>
    rw [tokens?_of_token? hr] at h
    obtain ⟨us, hus, rfl⟩ := Option.map_eq_some_iff.1 h
    obtain ⟨hfraction, hrest⟩ := mem_token? hr
    intro t ht
    rcases List.mem_cons.1 ht with rfl | ht
    · exact hfraction
    · exact fun c hc => hrest (ih hus t ht hc)

/-- A text in ASCII can be cut everywhere. -/
theorem not_breaksOff_of_ascii {cs : List Char} (h : ∀ c ∈ cs, c.utf8Size = 1) :
    ¬ BreaksOff cs := by
  rintro ⟨before, t, after, n, w, hts, -, -, front, c, back, hf, hlt, hgt⟩
  have hc : c ∈ t.fraction := by
    rw [hf]
    exact List.mem_append_right _ List.mem_cons_self
  have hmem := mem_tokens? hts t (List.mem_append_right _ List.mem_cons_self) hc
  rw [h c hmem] at hgt
  omega

/-! ## Bounds of a fraction -/

theorem length_le_byteCount (cs : List Char) : cs.length ≤ byteCount cs := by
  induction cs with
  | nil => exact Nat.le_refl _
  | cons c cs ih =>
    rw [byteCount_cons, List.length_cons]
    have := c.utf8Size_pos
    omega

theorem TimeUnit.size_le (u : TimeUnit) : u.size ≤ 3600 * 1000000000 := by
  cases u <;> decide

theorem scale_lt_bound {cs digits : List Char} (h : cut? fractionBytes cs = some digits) :
    Nat.pow 10 (byteCount digits) < bound := by
  calc Nat.pow 10 (byteCount digits) ≤ Nat.pow 10 fractionBytes :=
        Nat.pow_le_pow_right (by decide) (byteCount_cut? h)
    _ < bound := by decide

theorem ofDigitChars_lt {cs : List Char} (h : ∀ c ∈ cs, c.isDigit = true) (init : Nat) :
    Nat.ofDigitChars 10 cs init < (init + 1) * Nat.pow 10 cs.length := by
  induction cs generalizing init with
  | nil =>
    rw [Nat.ofDigitChars_nil, List.length_nil]
    calc init < init + 1 := Nat.lt_succ_self init
      _ = (init + 1) * Nat.pow 10 0 := (Nat.mul_one _).symm
  | cons c cs ih =>
    have hc : c.toNat - '0'.toNat ≤ 9 := by
      have hd := h c List.mem_cons_self
      simp only [Char.isDigit, Bool.and_eq_true, decide_eq_true_eq] at hd
      have h₂ : c.val.toNat ≤ 57 := UInt32.le_iff_toNat_le.1 hd.2
      change c.val.toNat - 48 ≤ 9
      omega
    rw [Nat.ofDigitChars_cons, List.length_cons]
    calc Nat.ofDigitChars 10 cs (10 * init + (c.toNat - '0'.toNat))
        < (10 * init + (c.toNat - '0'.toNat) + 1) * Nat.pow 10 cs.length :=
          ih (fun d hd => h d (List.mem_cons_of_mem c hd)) _
      _ ≤ ((init + 1) * 10) * Nat.pow 10 cs.length := Nat.mul_le_mul_right _ (by omega)
      _ = (init + 1) * (10 * Nat.pow 10 cs.length) := Nat.mul_assoc ..
      _ = (init + 1) * Nat.pow 10 (cs.length + 1) := congrArg _ Nat.pow_succ'.symm

/-- A number is below the power of ten that its digits reach. -/
theorem number_lt {cs : List Char} {n : Nat} (h : number cs = .ok n) : n < Nat.pow 10 cs.length := by
  unfold number at h
  split at h
  · cases h
    exact Nat.pow_pos (by decide)
  · split at h
    · rename_i m hm
      have hn : n = m := by
        unfold bounded at h
        split at h
        · cases h
          rfl
        · cases h
      unfold Text.natural? at hm
      split at hm
      · rename_i hd
        have hlt := ofDigitChars_lt (List.all_eq_true.1 hd.2) 0
        rw [Nat.zero_add, Nat.one_mul, Option.some.inj hm] at hlt
        rwa [hn]
      · cases hm
    · cases h

theorem part_lt_bound {cs digits : List Char} (h : cut? fractionBytes cs = some digits) {n : Nat}
    (hn : number digits = .ok n) (u : TimeUnit) : n * u.size < bound := by
  have hlen : digits.length ≤ fractionBytes :=
    Nat.le_trans (length_le_byteCount digits) (byteCount_cut? h)
  have hlt : n < Nat.pow 10 fractionBytes :=
    Nat.lt_of_lt_of_le (number_lt hn) (Nat.pow_le_pow_right (by decide) hlen)
  calc n * u.size ≤ Nat.pow 10 fractionBytes * (3600 * 1000000000) :=
        Nat.mul_le_mul (Nat.le_of_lt hlt) u.size_le
    _ < bound := by decide

end VpnGateway.Duration
