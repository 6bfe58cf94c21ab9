import VpnGateway.Proofs.Address
import VpnGateway.Provider.Cyberghost
import VpnGateway.Provider.Resolver
import VpnGateway.Rule.Apply

/-!
# Comma lists of accepted tokens

No text that is accepted as a token of a comma list has a comma in it. So the tokens of a comma list
are those that were joined.

* `Address.IsLetter`, `Network.IsLetter`, `Hostname.IsLetter`: what accepted texts consist of;
* `IsToken`, **`IsToken.commaTokens_commaJoin`**, `IsToken.commaJoin_ne_empty`: joining is undone;
* `isToken_of_isHostname`, `isToken_of_network` and their neighbours: accepted tokens are such;
* `readChoice_eq_ok`, `readHostname_eq_ok`, `readNetwork_eq_ok`: which tokens are accepted.
-/

namespace VpnGateway

/-! ## The characters of addresses and networks -/

/-- The characters of an address. -/
def Address.IsLetter (c : Char) : Prop :=
  c = ':' ∨ c = '.' ∨ Text.IsHexDigit c

theorem Text.isHexDigit_of_isDigit {c : Char} (h : c.isDigit = true) : IsHexDigit c := by
  rw [IsHexDigit, hexDigit?, if_pos]
  · rfl
  · simpa [Char.isDigit, Char.le_def] using h

theorem Ipv4.IsLetter.address {c : Char} : Ipv4.IsLetter c → Address.IsLetter c :=
  fun h => .inr (h.imp_right Text.isHexDigit_of_isDigit)

namespace Ipv6

theorem isHexDigit_of_group? {cs : List Char} {g : UInt16} (h : group? cs = some g) :
    ∀ c ∈ cs, Text.IsHexDigit c := by
  unfold group? at h
  split at h
  · cases h
  · obtain ⟨ds, hds, -⟩ := Option.map_eq_some_iff.1 h
    exact Text.isHexDigit_of_mapM hds

theorem isLetter_of_partsGroups? (dotted : Bool) {parts : List (List Char)} {gs : List UInt16}
    (h : partsGroups? dotted parts = some gs) : ∀ p ∈ parts, ∀ c ∈ p, Address.IsLetter c := by
  have hgroup : ∀ {cs g}, group? cs = some g → ∀ c ∈ cs, Address.IsLetter c :=
    fun hg c hc => .inr (.inr (isHexDigit_of_group? hg c hc))
  induction parts using partsGroups?.induct dotted generalizing gs with
  | case1 => exact fun _ hp => absurd hp List.not_mem_nil
  | case2 cs ip hip =>
    intro p hp c hc
    rw [List.mem_singleton.1 hp] at hc
    cases dotted with
    | false => cases hip
    | true => exact (Ipv4.isLetter_of_ofChars? hip c hc).address
  | case3 cs hip =>
    intro p hp c hc
    rw [List.mem_singleton.1 hp] at hc
    rw [partsGroups?, hip] at h
    obtain ⟨g, hg, -⟩ := Option.map_eq_some_iff.1 h
    exact hgroup hg c hc
  | case4 cs parts hne ih =>
    rw [partsGroups?.eq_3 _ _ _ hne] at h
    obtain ⟨g, hg, h⟩ := Option.bind_eq_some_iff.1 h
    obtain ⟨gs', hgs, -⟩ := Option.bind_eq_some_iff.1 h
    intro p hp
    rcases List.mem_cons.1 hp with rfl | hp
    · exact hgroup hg
    · exact ih hgs p hp

theorem isLetter_of_side? {dotted : Bool} {cs : List Char} {gs : List UInt16}
    (h : side? dotted cs = some gs) : ∀ c ∈ cs, Address.IsLetter c := by
  unfold side? at h
  split at h
  · rename_i hnil
    rw [hnil]
    exact fun _ hc => absurd hc List.not_mem_nil
  · intro c hc
    rcases Text.mem_splitOn (x := ':') hc with rfl | ⟨p, hp, hcp⟩
    · exact .inl rfl
    · exact isLetter_of_partsGroups? dotted h p hp c hcp

theorem splitGap_eq {cs : List Char} {s : List Char × List Char} (h : splitGap cs = some s) :
    cs = s.1 ++ ':' :: ':' :: s.2 := by
  induction cs using splitGap.induct generalizing s with
  | case1 cs =>
    rw [splitGap] at h
    rw [← Option.some.inj h]
    rfl
  | case2 => cases h
  | case3 c cs hne ih =>
    rw [splitGap.eq_3 _ _ hne] at h
    obtain ⟨t, ht, rfl⟩ := Option.map_eq_some_iff.1 h
    rw [List.cons_append, ← ih ht]

theorem isLetter_of_ofChars? {cs : List Char} {ip : Ipv6} (h : ofChars? cs = some ip) :
    ∀ c ∈ cs, Address.IsLetter c := by
  unfold ofChars? at h
  split at h
  · obtain ⟨gs, hgs, -⟩ := Option.bind_eq_some_iff.1 h
    exact isLetter_of_side? hgs
  · rename_i front back hgap
    obtain ⟨head, hh, h⟩ := Option.bind_eq_some_iff.1 h
    obtain ⟨tail, ht, -⟩ := Option.bind_eq_some_iff.1 h
    intro c hc
    rw [splitGap_eq hgap, List.mem_append, List.mem_cons, List.mem_cons] at hc
    rcases hc with hc | rfl | rfl | hc
    · exact isLetter_of_side? hh c hc
    · exact .inl rfl
    · exact .inl rfl
    · exact isLetter_of_side? ht c hc

end Ipv6

theorem Address.isLetter_of_ofChars? {cs : List Char} {a : Address} (h : ofChars? cs = some a) :
    ∀ c ∈ cs, IsLetter c := by
  unfold ofChars? at h
  split at h
  · rename_i ip hip
    exact fun c hc => (Ipv4.isLetter_of_ofChars? hip c hc).address
  · obtain ⟨ip, hip, -⟩ := Option.map_eq_some_iff.1 h
    exact Ipv6.isLetter_of_ofChars? hip

namespace Network

/-- The characters of a network. -/
def IsLetter (c : Char) : Prop :=
  c = '/' ∨ c = '+' ∨ Address.IsLetter c

theorem isLetter_of_isDigit {c : Char} (h : c.isDigit = true) : IsLetter c :=
  .inr (.inr (.inr (.inr (Text.isHexDigit_of_isDigit h))))

theorem isLetter_of_isNatural {cs : List Char} {n : Nat} (h : Text.IsNatural cs n) :
    ∀ c ∈ cs, IsLetter c :=
  fun c hc => isLetter_of_isDigit (h.isDigit c hc)

theorem isLetter_of_isUnsigned {cs : List Char} {n : Nat} (h : Text.IsUnsigned cs n) :
    ∀ c ∈ cs, IsLetter c := by
  cases h with
  | bare h => exact isLetter_of_isNatural h
  | plus h => exact List.forall_mem_cons.2 ⟨.inr (.inl rfl), isLetter_of_isNatural h⟩

theorem isLetter_of_lengthAfter? {a : Address} {cs : List Char} {n : Nat}
    (h : lengthAfter? a cs = some n) : ∀ c ∈ cs, IsLetter c := by
  unfold lengthAfter? at h
  split at h
  · rename_i ip hip
    exact fun c hc => .inr (.inr (Ipv4.isLetter_of_ofChars? hip c hc).address)
  · obtain ⟨m, hm, -⟩ := Option.bind_eq_some_iff.1 h
    exact isLetter_of_isUnsigned (Text.unsigned?_eq_some_iff.1 hm)

theorem isLetter_of_ofChars? {cs : List Char} {n : Network} (h : ofChars? cs = some n) :
    ∀ c ∈ cs, IsLetter c := by
  intro c hc
  refine (Text.mem_splitOn hc).elim .inl fun ⟨p, hp, hcp⟩ => ?_
  unfold ofChars? at h
  split at h
  · rename_i a hs
    obtain ⟨address, ha, -⟩ := Option.map_eq_some_iff.1 h
    rw [hs, List.mem_singleton] at hp
    rw [hp] at hcp
    exact .inr (.inr (Address.isLetter_of_ofChars? ha c hcp))
  · rename_i a l hs
    obtain ⟨address, ha, h⟩ := Option.bind_eq_some_iff.1 h
    obtain ⟨length, hl, -⟩ := Option.bind_eq_some_iff.1 h
    rw [hs, List.mem_cons, List.mem_singleton] at hp
    rcases hp with rfl | rfl
    · exact .inr (.inr (Address.isLetter_of_ofChars? ha c hcp))
    · exact isLetter_of_lengthAfter? hl c hcp
  · cases h

end Network

/-! ## The characters of host names -/

namespace Hostname

/-- The characters of a host name. -/
def IsLetter (c : Char) : Prop :=
  c = '.' ∨ c = '-' ∨ isAlphanumeric c = true

theorem isLetter_of_scan {length : Nat} {hyphen : Bool} {cs : List Char}
    (h : scan length hyphen cs = true) : ∀ c ∈ cs, IsLetter c := by
  induction cs generalizing length hyphen with
  | nil => exact fun _ hc => absurd hc List.not_mem_nil
  | cons c cs ih =>
    -- every branch that goes on accepts the character and scans the rest in some state
    have hstep : IsLetter c ∧ ∃ n y, scan n y cs = true := by
      unfold scan at h
      split at h
      · rename_i hp
        exact ⟨.inl hp, _, _, (Bool.and_eq_true_iff.1 h).2⟩
      split at h
      · cases h
      split at h
      · rename_i hm
        exact ⟨.inr (.inl hm), _, _, (Bool.and_eq_true_iff.1 h).2⟩
      · exact ⟨.inr (.inr (Bool.and_eq_true_iff.1 h).1), _, _, (Bool.and_eq_true_iff.1 h).2⟩
    obtain ⟨hc, n, y, hcs⟩ := hstep
    intro d hd
    rcases List.mem_cons.1 hd with rfl | hd
    · exact hc
    · exact ih hcs d hd

end Hostname

/-! ## Tokens -/

/-- A text that stands in a comma list as one token, and alone is not the empty list. -/
structure IsToken (t : String) : Prop where
  ne_empty : t ≠ ""
  not_mem : ',' ∉ t.toList

namespace IsToken

theorem commaTokens_commaJoin {tokens : List String} (hne : tokens ≠ [])
    (h : ∀ t ∈ tokens, IsToken t) : Text.commaTokens (Text.commaJoin tokens) = tokens :=
  Text.commaTokens_commaJoin hne fun t ht => (h t ht).not_mem

theorem commaJoin_ne_empty {tokens : List String} (hne : tokens ≠ [])
    (h : ∀ t ∈ tokens, IsToken t) : Text.commaJoin tokens ≠ "" := by
  intro he
  have hj := commaTokens_commaJoin hne h
  rw [he] at hj
  have hmem : "" ∈ tokens := by
    rw [← hj]
    decide
  exact (h "" hmem).ne_empty rfl

end IsToken

theorem isToken_of_isHostname {t : String} (h : isHostname t = true) : IsToken t where
  ne_empty := by
    rintro rfl
    exact absurd h (by decide)
  not_mem hc := by
    have hl := Hostname.isLetter_of_scan (Bool.and_eq_true_iff.1 h).2 _ hc
    unfold Hostname.IsLetter at hl
    exact absurd hl (by decide)

theorem isToken_of_network {t : String} (h : (Network.ofText? t).isSome = true) : IsToken t where
  ne_empty := by
    rintro rfl
    exact absurd h (by decide)
  not_mem hc := by
    obtain ⟨n, hn⟩ := Option.isSome_iff_exists.1 h
    have hl := Network.isLetter_of_ofChars? hn _ hc
    unfold Network.IsLetter Address.IsLetter at hl
    exact absurd hl (by decide)

theorem isToken_of_mem_names {t : String} (h : t ∈ Resolver.names) : IsToken t := by
  have hall : ∀ n ∈ Resolver.names, n ≠ "" ∧ ',' ∉ n.toList := by decide
  exact ⟨(hall t h).1, (hall t h).2⟩

theorem isToken_of_mem_regions {t : String} (h : t ∈ Cyberghost.regions) : IsToken t := by
  have hall : ∀ n ∈ Cyberghost.regions, n ≠ "" ∧ ',' ∉ n.toList := by decide +kernel
  exact ⟨(hall t h).1, (hall t h).2⟩

/-! ## Accepted tokens -/

section

variable {key raw t u : String} {n : Network}

theorem readChoice_eq_ok {choices : List String} :
    readChoice key choices t = .ok u ↔ u = t ∧ t ∈ choices := by
  by_cases h : t ∈ choices
  · simp [readChoice, h, eq_comm]
  · simp [readChoice, h]

theorem readHostname_eq_ok : readHostname key t = .ok u ↔ u = t ∧ isHostname t = true := by
  by_cases h : isHostname t = true
  · simp [readHostname, h, eq_comm]
  · simp [readHostname, h]

theorem readNetwork_eq_ok : readNetwork key raw = .ok n ↔ Network.ofText? raw = some n := by
  unfold readNetwork
  cases Network.ofText? raw with
  | none => simp
  | some m => simp

end

end VpnGateway
