import VpnGateway.Address

/-!
# Addresses read back

What is written of an address is read back, and what is read consists of few characters.

* `Text.mem_splitOn`, `Text.mapM_isSome`: parts of a text, each of which was read;
* `Text.splitOn_eq_iff`: there is one way to cut a text;
* `Ipv4.ofChars?_toChars`: an IPv4 address is read back;
* `Ipv6.splitGap_groupChars`: where the first `::` of a written address stands;
* `Ipv6.longestZeros_spec`: what it stands for;
* **`Address.ofText?_toText`**: an address is read back.
-/

namespace VpnGateway

namespace Text

/-! ## Parts -/

theorem mem_intercalate {α : Type} {c : α} {sep : List α} {parts : List (List α)}
    (h : c ∈ sep.intercalate parts) : c ∈ sep ∨ ∃ p ∈ parts, c ∈ p := by
  induction parts with
  | nil => exact absurd h List.not_mem_nil
  | cons p parts ih =>
    cases parts with
    | nil =>
      rw [List.intercalate_singleton] at h
      exact .inr ⟨p, List.mem_cons_self, h⟩
    | cons q parts =>
      rw [List.intercalate_cons_cons, List.mem_append, List.mem_append] at h
      rcases h with (h | h) | h
      · exact .inr ⟨p, List.mem_cons_self, h⟩
      · exact .inl h
      · exact (ih h).imp_right fun ⟨r, hr, hc⟩ => ⟨r, List.mem_cons_of_mem p hr, hc⟩

theorem mem_splitOn {cs : List Char} {c x : Char} (h : c ∈ cs) :
    c = x ∨ ∃ p ∈ cs.splitOn x, c ∈ p := by
  have hjoin : [x].intercalate (cs.splitOn x) = cs := List.intercalate_splitOn x
  rw [← hjoin] at h
  exact (mem_intercalate h).imp_left List.mem_singleton.1

theorem not_mem_of_mem_splitOn {cs p : List Char} {x : Char} (h : p ∈ cs.splitOn x) : x ∉ p := by
  induction cs generalizing p with
  | nil =>
    rw [List.splitOn_eq_singleton List.not_mem_nil, List.mem_singleton] at h
    rw [h]
    exact List.not_mem_nil
  | cons c cs ih =>
    rw [List.splitOn_cons_eq_if_modifyHead] at h
    split at h
    · rcases List.mem_cons.1 h with rfl | h
      · exact List.not_mem_nil
      · exact ih h
    · rename_i hc
      obtain ⟨q, parts, hparts⟩ := List.exists_cons_of_ne_nil (List.splitOn_ne_nil x cs)
      rw [hparts] at h ih
      rcases List.mem_cons.1 h with rfl | h
      · rw [List.mem_cons, not_or]
        exact ⟨fun he => hc (by simp [he]), ih List.mem_cons_self⟩
      · exact ih (List.mem_cons_of_mem q h)

/-- There is one way to cut a text at every `x`. -/
theorem splitOn_eq_iff {cs : List Char} {x : Char} {parts : List (List Char)} :
    cs.splitOn x = parts ↔
      parts ≠ [] ∧ (∀ p ∈ parts, x ∉ p) ∧ [x].intercalate parts = cs := by
  constructor
  · rintro rfl
    exact ⟨List.splitOn_ne_nil x cs, fun p hp => not_mem_of_mem_splitOn hp,
      List.intercalate_splitOn x⟩
  · rintro ⟨hne, hparts, rfl⟩
    exact List.splitOn_intercalate x hparts hne

theorem mapM_isSome {α β : Type} {f : α → Option β} {l : List α} {r : List β}
    (h : l.mapM f = some r) : ∀ a ∈ l, ∃ b, f a = some b := by
  induction l generalizing r with
  | nil => exact fun _ ha => absurd ha List.not_mem_nil
  | cons a l ih =>
    rw [List.mapM_cons] at h
    obtain ⟨b, hb, h⟩ := Option.bind_eq_some_iff.1 h
    obtain ⟨bs, hbs, -⟩ := Option.bind_eq_some_iff.1 h
    intro c hc
    rcases List.mem_cons.1 hc with rfl | hc
    · exact ⟨b, hb⟩
    · exact ih hbs c hc

end Text

/-! ## IPv4 -/

namespace Ipv4

theorem octet?_toDigits (o : UInt8) : octet? (Nat.toDigits 10 o.toNat) = some o := by
  have h : ∀ n < 256, octet? (Nat.toDigits 10 n) = some (UInt8.ofNat n) := by decide +kernel
  rw [h o.toNat o.toNat_lt, UInt8.ofNat_toNat]

theorem splitOn_toChars (ip : Ipv4) :
    ip.toChars.splitOn '.' = ip.octets.map fun o => Nat.toDigits 10 o.toNat := by
  refine List.splitOn_intercalate _ (fun l hl hp => ?_) (by simp [octets])
  obtain ⟨o, -, rfl⟩ := List.mem_map.1 hl
  exact absurd (Text.isDigit_of_mem_toDigits hp) (by decide)

theorem ofChars?_toChars (ip : Ipv4) : ofChars? ip.toChars = some ip := by
  have h : (ip.octets.map fun o => Nat.toDigits 10 o.toNat).mapM octet? = some ip.octets := by
    simp only [octets, List.map_cons, List.map_nil, List.mapM_cons, List.mapM_nil,
      octet?_toDigits, Option.pure_def, Option.bind_eq_bind, Option.bind_some]
  rw [ofChars?, splitOn_toChars, h]
  rfl

theorem isDigit_of_octet? {cs : List Char} {o : UInt8} (h : octet? cs = some o) :
    ∀ c ∈ cs, c.isDigit = true := by
  unfold octet? at h
  split at h
  · cases h
  · obtain ⟨n, hn, -⟩ := Option.bind_eq_some_iff.1 h
    exact (Text.natural?_eq_some_iff.1 hn).isDigit

/-- The characters of an IPv4 text. -/
def IsLetter (c : Char) : Prop :=
  c = '.' ∨ c.isDigit = true

theorem isLetter_of_ofChars? {cs : List Char} {ip : Ipv4} (h : ofChars? cs = some ip) :
    ∀ c ∈ cs, IsLetter c := by
  intro c hc
  unfold ofChars? at h
  split at h
  · rename_i hm
    refine (Text.mem_splitOn hc).imp_right fun ⟨p, hp, hcp⟩ => ?_
    obtain ⟨o, ho⟩ := Text.mapM_isSome hm p hp
    exact isDigit_of_octet? ho c hcp
  · cases h

/-- An IPv4 text has a point. -/
theorem ofChars?_of_not_mem {cs : List Char} (h : '.' ∉ cs) : ofChars? cs = none := by
  rw [ofChars?, List.splitOn_eq_singleton h]
  cases hp : octet? cs <;> simp [hp]

/-- No character of an IPv6 text but of an IPv4 one. -/
theorem ofChars?_of_colon_mem {cs : List Char} (h : ':' ∈ cs) : ofChars? cs = none := by
  cases hp : ofChars? cs with
  | none => rfl
  | some ip => exact absurd (isLetter_of_ofChars? hp _ h) (by unfold IsLetter; decide)

end Ipv4

/-! ## Groups of IPv6 -/

namespace Text

/-- What is written in base sixteen is read back. -/
theorem hexDigits?_toDigits (n : Nat) :
    ∃ ds, (Nat.toDigits 16 n).mapM hexDigit? = some ds ∧
      ds.foldl (fun n d => n * 16 + d) 0 = n := by
  induction n using Nat.strongRecOn with
  | ind n ih =>
    by_cases h : n < 16
    · refine ⟨[n], ?_, by simp⟩
      rw [Nat.toDigits_of_lt_base h, List.mapM_cons, hexDigit?_digitChar n h]
      rfl
    · obtain ⟨ds, hds, hn⟩ := ih (n / 16) (by omega)
      refine ⟨ds ++ [n % 16], ?_, ?_⟩
      · rw [Nat.toDigits_of_base_le (by decide) (by omega), List.mapM_append, hds, List.mapM_cons,
          hexDigit?_digitChar (n % 16) (Nat.mod_lt n (by decide))]
        rfl
      · rw [List.foldl_append, hn, List.foldl_cons, List.foldl_nil, Nat.div_add_mod']

/-- `c` is a hexadecimal digit. -/
def IsHexDigit (c : Char) : Prop :=
  (hexDigit? c).isSome = true

instance (c : Char) : Decidable (IsHexDigit c) :=
  inferInstanceAs (Decidable ((hexDigit? c).isSome = true))

theorem isHexDigit_of_mapM {cs : List Char} {ds : List Nat} (h : cs.mapM hexDigit? = some ds) :
    ∀ c ∈ cs, IsHexDigit c := by
  intro c hc
  obtain ⟨d, hd⟩ := mapM_isSome h c hc
  rw [IsHexDigit, hd]
  rfl

end Text

namespace Ipv6

/-- The characters of a group. -/
def digits (g : UInt16) : List Char :=
  Nat.toDigits 16 g.toNat

theorem digits_ne_nil (g : UInt16) : digits g ≠ [] :=
  Nat.toDigits_ne_nil

theorem isHexDigit_of_mem_digits {g : UInt16} {c : Char} (h : c ∈ digits g) :
    Text.IsHexDigit c := by
  obtain ⟨ds, hds, -⟩ := Text.hexDigits?_toDigits g.toNat
  exact Text.isHexDigit_of_mapM hds c h

theorem not_mem_digits {c : Char} (h : ¬ Text.IsHexDigit c) (g : UInt16) : c ∉ digits g :=
  fun hc => h (isHexDigit_of_mem_digits hc)

theorem group?_digits (g : UInt16) : group? (digits g) = some g := by
  obtain ⟨ds, hds, hg⟩ := Text.hexDigits?_toDigits g.toNat
  have hlen : (digits g).length ≤ 4 :=
    (Nat.length_toDigits_le_iff (by decide) (by decide)).2 g.toNat_lt
  rw [group?, if_neg (not_or.2 ⟨digits_ne_nil g, by omega⟩), digits, hds, Option.map_some, hg,
    UInt16.ofNat_toNat]

theorem partsGroups?_digits (dotted : Bool) :
    ∀ gs : List UInt16, partsGroups? dotted (gs.map digits) = some gs
  | [] => rfl
  | [g] => by
    have h : (if dotted then Ipv4.ofChars? (digits g) else none) = none := by
      rw [Ipv4.ofChars?_of_not_mem (not_mem_digits (by decide) g), ite_self]
    rw [List.map_cons, List.map_nil, partsGroups?, h]
    exact congrArg (Option.map ([·])) (group?_digits g)
  | g :: g' :: gs => by
    have ih := partsGroups?_digits dotted (g' :: gs)
    rw [List.map_cons] at ih
    rw [List.map_cons, List.map_cons, partsGroups?.eq_3 _ _ _ (by simp), group?_digits, ih]
    rfl

theorem groupChars_cons_cons (g g' : UInt16) (gs : List UInt16) :
    groupChars (g :: g' :: gs) = digits g ++ ':' :: groupChars (g' :: gs) := by
  rw [groupChars, List.map_cons, List.map_cons, List.intercalate_cons_cons, List.append_assoc]
  rfl

theorem groupChars_singleton (g : UInt16) : groupChars [g] = digits g := List.intercalate_singleton

/-- A row of groups starts with a digit. -/
theorem exists_groupChars (g : UInt16) (gs : List UInt16) :
    ∃ c cs, groupChars (g :: gs) = c :: cs ∧ Text.IsHexDigit c := by
  obtain ⟨c, cs, hc⟩ := List.exists_cons_of_ne_nil (digits_ne_nil g)
  have hd : Text.IsHexDigit c := isHexDigit_of_mem_digits (by rw [hc]; exact List.mem_cons_self)
  cases gs with
  | nil => exact ⟨c, cs, by rw [groupChars_singleton, hc], hd⟩
  | cons g' gs => exact ⟨c, _, by rw [groupChars_cons_cons, hc, List.cons_append], hd⟩

theorem side?_groupChars (dotted : Bool) (gs : List UInt16) :
    side? dotted (groupChars gs) = some gs := by
  cases gs with
  | nil => rfl
  | cons g gs =>
    obtain ⟨c, cs, hc, -⟩ := exists_groupChars g gs
    have hs : (groupChars (g :: gs)).splitOn ':' = (g :: gs).map digits := by
      refine List.splitOn_intercalate _ (fun l hl => ?_) (by simp)
      obtain ⟨g, -, rfl⟩ := List.mem_map.1 hl
      exact not_mem_digits (by decide) g
    rw [side?, if_neg (by rw [hc]; simp), hs, partsGroups?_digits]

/-! ## The gap -/

theorem splitGap_append {cs : List Char} (h : ':' ∉ cs) (rest : List Char) :
    splitGap (cs ++ rest) = (splitGap rest).map fun s => (cs ++ s.1, s.2) := by
  induction cs with
  | nil => exact (Option.map_id' ..).symm
  | cons c cs ih =>
    rw [List.mem_cons, not_or] at h
    rw [List.cons_append, splitGap.eq_3 _ _ (by rintro _ rfl; exact absurd rfl h.1), ih h.2,
      Option.map_map]
    rfl

/-- The first `::` stands behind the groups that are written in front. -/
theorem splitGap_groupChars (gs : List UInt16) (rest : List Char) :
    splitGap (groupChars gs ++ rest) = (splitGap rest).map fun s => (groupChars gs ++ s.1, s.2) := by
  induction gs with
  | nil => exact (Option.map_id' ..).symm
  | cons g gs ih =>
    have hg : ':' ∉ digits g := not_mem_digits (by decide) g
    cases gs with
    | nil =>
      rw [groupChars_singleton]
      exact splitGap_append hg rest
    | cons g' gs =>
      obtain ⟨c, cs, hc, hd⟩ := exists_groupChars g' gs
      have hcolon : ∀ cs', c :: (cs ++ rest) = ':' :: cs' → False := by
        rintro _ he
        rw [(List.cons.inj he).1] at hd
        exact absurd hd (by decide)
      have hnext : splitGap (':' :: (c :: cs ++ rest)) =
          (splitGap (c :: cs ++ rest)).map fun s => (':' :: s.1, s.2) :=
        splitGap.eq_3 _ _ fun cs' _ he => hcolon cs' he
      rw [groupChars_cons_cons, List.append_assoc, splitGap_append hg, List.cons_append, hc, hnext,
        ← hc, ih, Option.map_map, Option.map_map]
      simp only [Function.comp_def, List.append_assoc, List.cons_append]

/-! ## The run of zeros -/

/-- The run of zeros stands where it is said to, and nothing else is left out with it. -/
theorem longestZeros_spec (gs : List UInt16) :
    ∃ front back, gs = front ++ List.replicate (longestZeros gs).2 0 ++ back ∧
      front.length = (longestZeros gs).1 := by
  induction gs with
  | nil => exact ⟨[], [], rfl, rfl⟩
  | cons g gs ih =>
    rw [longestZeros]
    by_cases h : (longestZeros gs).2 ≤ ((g :: gs).takeWhile (· = 0)).length
    · refine ⟨[], (g :: gs).dropWhile (· = 0), ?_, by rw [if_pos h]; rfl⟩
      have hz : (g :: gs).takeWhile (· = 0) =
          List.replicate ((g :: gs).takeWhile (· = 0)).length 0 :=
        List.eq_replicate_of_mem fun a ha => by
          simpa using List.all_eq_true.1 List.all_takeWhile a ha
      rw [if_pos h, List.nil_append, ← hz, List.takeWhile_append_dropWhile]
    · obtain ⟨front, back, hgs, hl⟩ := ih
      refine ⟨g :: front, back, ?_, ?_⟩
      · rw [if_neg h, List.cons_append, List.cons_append, ← hgs]
      · rw [if_neg h, List.length_cons, hl]

/-! ## Addresses -/

theorem ext {a b : Ipv6} (h : a.groups = b.groups) : a = b := by
  cases a
  cases b
  cases h
  rfl

/-- The two bytes of a group. -/
theorem group_eq (g : UInt16) :
    (g / 256).toUInt8.toUInt16 * 256 + g.toUInt8.toUInt16 = g := by
  have hg : g.toNat < 65536 := g.toNat_lt
  apply UInt16.toNat_inj.1
  simp
  omega

theorem groups_of_mapped? {ip : Ipv6} {v4 : Ipv4} (h : ip.mapped? = some v4) :
    ip.groups = [0, 0, 0, 0, 0, 0xFFFF] ++ groupsOfIpv4 v4 := by
  unfold mapped? at h
  split at h
  · rename_i g g' heq
    rw [heq, ← Option.some.inj h, groupsOfIpv4]
    dsimp only
    rw [group_eq, group_eq]
    rfl
  · cases h

theorem ofChars?_gap {front back : List Char} {cs : List Char} (h : splitGap cs = some (front, back))
    {head tail : List UInt16} (hf : side? false front = some head) (hb : side? true back = some tail)
    (hl : head.length + tail.length < 8) {ip : Ipv6}
    (hip : ip.groups =
      head ++ List.replicate (8 - (head.length + tail.length)) 0 ++ tail) :
    ofChars? cs = some ip := by
  rw [ofChars?, h]
  simp only [hf, hb, Option.bind_eq_bind, Option.bind_some]
  rw [dif_pos hl]
  exact congrArg some (ext hip.symm)

/-- The text of a mapped IPv4 address, after `::`. -/
theorem side?_mapped (v4 : Ipv4) :
    side? true (['f', 'f', 'f', 'f', ':'] ++ v4.toChars) = some (0xFFFF :: groupsOfIpv4 v4) := by
  have hs : (['f', 'f', 'f', 'f', ':'] ++ v4.toChars).splitOn ':' =
      [['f', 'f', 'f', 'f'], v4.toChars] := by
    have hjoin : ['f', 'f', 'f', 'f', ':'] ++ v4.toChars =
        [':'].intercalate [['f', 'f', 'f', 'f'], v4.toChars] := by
      rw [List.intercalate_cons_cons, List.intercalate_singleton]
      rfl
    rw [hjoin]
    refine List.splitOn_intercalate _ (fun l hl => ?_) (by simp)
    rw [List.mem_cons, List.mem_singleton] at hl
    rcases hl with rfl | rfl
    · decide
    · intro hc
      have hn := Ipv4.ofChars?_of_colon_mem hc
      rw [Ipv4.ofChars?_toChars] at hn
      cases hn
  have hg : group? ['f', 'f', 'f', 'f'] = some 0xFFFF := by decide
  rw [side?, if_neg (by simp), hs, partsGroups?.eq_3 _ _ _ (by simp), hg, partsGroups?,
    if_pos rfl, Ipv4.ofChars?_toChars]
  rfl

/-- An address is read back with a gap in place of zeros. -/
theorem ofChars?_groupChars_gap {ip : Ipv6} {front back : List UInt16} {n : Nat}
    (hgs : ip.groups = front ++ List.replicate n 0 ++ back) (hn : 0 < n) :
    ofChars? (groupChars front ++ [':', ':'] ++ groupChars back) = some ip := by
  have hlen := ip.length_groups
  rw [hgs, List.length_append, List.length_append, List.length_replicate] at hlen
  have hsum : n = 8 - (front.length + back.length) := by omega
  have hgap : splitGap (groupChars front ++ ([':', ':'] ++ groupChars back)) =
      some (groupChars front, groupChars back) := by
    rw [splitGap_groupChars]
    simp [splitGap]
  rw [List.append_assoc]
  refine ofChars?_gap hgap (side?_groupChars false front) (side?_groupChars true back)
    (by omega) ?_
  rw [← hsum]
  exact hgs

theorem ofChars?_toChars (ip : Ipv6) : ofChars? ip.toChars = some ip := by
  unfold toChars
  split
  · rename_i v4 h
    have hgap : splitGap (':' :: ':' :: 'f' :: 'f' :: 'f' :: 'f' :: ':' :: v4.toChars) =
      some ([], 'f' :: 'f' :: 'f' :: 'f' :: ':' :: v4.toChars) := rfl
    exact ofChars?_gap hgap rfl (side?_mapped v4) (by simp [groupsOfIpv4]) (groups_of_mapped? h)
  · dsimp only
    obtain ⟨front, back, hgs, hl⟩ := longestZeros_spec ip.groups
    -- where the run stands is all that counts, not that it is the longest
    generalize longestZeros ip.groups = run at hgs hl
    split
    · rename_i hrun
      have hf : ip.groups.take run.1 = front := by
        rw [hgs, List.append_assoc, ← hl, List.take_left]
      have hb : ip.groups.drop (run.1 + run.2) = back := by
        rw [hgs]
        exact List.drop_left' (by simp [hl])
      rw [hf, hb]
      exact ofChars?_groupChars_gap hgs (by omega)
    · have hgap := splitGap_groupChars ip.groups []
      rw [List.append_nil] at hgap
      rw [ofChars?, hgap]
      simp [splitGap, side?_groupChars, ip.length_groups]

/-- An IPv6 text has a colon. -/
theorem ofChars?_of_not_mem {cs : List Char} (h : ':' ∉ cs) : ofChars? cs = none := by
  have hgap := splitGap_append h []
  rw [List.append_nil] at hgap
  have hlen : ∀ gs, side? true cs = some gs → ¬ gs.length = 8 := by
    intro gs hgs
    rw [side?, List.splitOn_eq_singleton h, partsGroups?] at hgs
    split at hgs
    · cases hgs
      decide
    · split at hgs
      · cases hgs
        simp [groupsOfIpv4]
      · obtain ⟨g, -, rfl⟩ := Option.map_eq_some_iff.1 hgs
        simp
  rw [ofChars?, hgap]
  cases hs : side? true cs with
  | none => rfl
  | some gs =>
    change (if h : gs.length = 8 then some (⟨gs, h⟩ : Ipv6) else none) = none
    rw [dif_neg (hlen gs hs)]

end Ipv6

/-! ## Both kinds of addresses -/

namespace Address

/-- **An address is read back.** -/
theorem ofText?_toText (a : Address) : ofText? a.toText = some a := by
  rw [ofText?, toText, String.toList_ofList, ofChars?]
  cases a with
  | v4 ip =>
    rw [toChars, Ipv4.ofChars?_toChars]
  | v6 ip =>
    have hcolon : ':' ∈ ip.toChars := by
      refine Decidable.not_not.1 fun h => ?_
      have hn := Ipv6.ofChars?_of_not_mem h
      rw [Ipv6.ofChars?_toChars] at hn
      cases hn
    rw [toChars, Ipv4.ofChars?_of_colon_mem hcolon, Ipv6.ofChars?_toChars]
    rfl

end Address

end VpnGateway
