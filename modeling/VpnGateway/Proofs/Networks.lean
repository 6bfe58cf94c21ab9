import Mathlib.Data.List.Induction
import VpnGateway.Proofs.Base64Bits
import VpnGateway.Proofs.CommaLists
import VpnGateway.Proofs.RuleErrors

/-!
# The texts of networks

An address alone is a network of its own. Otherwise there is one slash, an address in front of it, and
behind it how many bits of the address say the network: as a number or, for IPv4, as a mask.

* `Text.IsNatural.eq_toDigits`, **`Ipv4.ofChars?_eq_some_iff`**: an IPv4 address has one text;
* `Ipv4.bits`, `Ipv4.IsMask`, `Network.maskLength?_eq_some_iff`: ones and then zeros;
* `Network.GivesLength`, `Network.lengthAfter?_eq_some_iff`: what may stand behind the slash;
* **`readNetwork_exact`**: the texts of networks, and which of them say the same.
-/

namespace VpnGateway

/-! ## Numbers without a zero in front -/

namespace Text

/-- A digit is that of its number. -/
theorem digitChar_of_isDigit {c : Char} (h : c.isDigit = true) :
    c.toNat - '0'.toNat < 10 ∧ Nat.digitChar (c.toNat - '0'.toNat) = c := by
  simp only [Char.isDigit, Bool.and_eq_true, decide_eq_true_eq, ge_iff_le,
    UInt32.le_iff_toNat_le] at h
  obtain ⟨hlow, hhigh⟩ := h
  change 48 ≤ c.toNat at hlow
  change c.toNat ≤ 57 at hhigh
  change c.toNat - 48 < 10 ∧ Nat.digitChar (c.toNat - 48) = c
  refine ⟨by omega, ?_⟩
  rw [← Char.toNat_inj, Nat.toNat_digitChar_of_lt_ten (by omega)]
  omega

variable {cs front : List Char} {c : Char} {n : Nat}

theorem isNatural_singleton (h : IsNatural [c] n) : n < 10 ∧ Nat.digitChar n = c := by
  have hc := digitChar_of_isDigit h.isDigit_head
  have hn := h.value
  rw [Nat.ofDigitChars_cons, Nat.ofDigitChars_nil, Nat.mul_zero, Nat.zero_add] at hn
  rwa [hn] at hc

/-- The last digit is the remainder, and those before it are the quotient. -/
theorem isNatural_concat (hne : front ≠ []) (h : IsNatural (front ++ [c]) n) :
    IsNatural front (n / 10) ∧ Nat.digitChar (n % 10) = c := by
  obtain ⟨hlt, hc⟩ := digitChar_of_isDigit (h.isDigit c List.mem_concat_self)
  have hn := h.value
  rw [Nat.ofDigitChars_append, Nat.ofDigitChars_cons, Nat.ofDigitChars_nil] at hn
  have hmod : n % 10 = c.toNat - '0'.toNat := by omega
  rw [hmod]
  exact ⟨⟨hne, fun d hd => h.isDigit d (List.mem_append_left _ hd), by omega⟩, hc⟩

/-- Without a zero in front there is one way to write a number. -/
theorem IsNatural.eq_toDigits (h : IsNatural cs n)
    (hzero : 1 < cs.length → cs.head? ≠ some '0') : cs = Nat.toDigits 10 n := by
  induction cs using List.reverseRecOn generalizing n with
  | nil => exact absurd rfl h.ne_nil
  | append_singleton front c ih =>
    by_cases hne : front = []
    · subst hne
      obtain ⟨hlt, hc⟩ := isNatural_singleton h
      rw [Nat.toDigits_of_lt_base hlt, hc]
      rfl
    · obtain ⟨hquotient, hc⟩ := isNatural_concat hne h
      have hhead : front.head? ≠ some '0' := by
        obtain ⟨d, rest, rfl⟩ := List.exists_cons_of_ne_nil hne
        exact hzero (by simp)
      have hfront := ih hquotient fun _ => hhead
      -- a quotient of zero would be the digit zero in front
      have hten : 10 ≤ n := by
        by_contra hsmall
        rw [Nat.div_eq_of_lt (by omega)] at hfront
        rw [hfront] at hhead
        exact hhead rfl
      rw [Nat.toDigits_of_base_le (by decide) hten, ← hfront, hc]

theorem not_mem_of_isUnsigned {c : Char} (hdigit : c.isDigit = false) (hplus : c ≠ '+')
    (h : IsUnsigned cs n) : c ∉ cs := by
  have hnot : ∀ {ds : List Char} {k : Nat}, IsNatural ds k → c ∉ ds := by
    intro ds k hk hc
    rw [hk.isDigit c hc] at hdigit
    cases hdigit
  cases h with
  | bare h => exact hnot h
  | plus h => exact List.not_mem_cons_of_ne_of_not_mem hplus (hnot h)

/-- Parts that are read are what is written of their values. -/
theorem eq_map_of_mapM {α β : Type} {f : α → Option β} {g : β → α}
    (hf : ∀ a b, f a = some b → a = g b) {l : List α} {r : List β} (h : l.mapM f = some r) :
    l = r.map g := by
  induction l generalizing r with
  | nil =>
    cases h
    rfl
  | cons a l ih =>
    rw [List.mapM_cons] at h
    obtain ⟨b, hb, h⟩ := Option.bind_eq_some_iff.1 h
    obtain ⟨bs, hbs, h⟩ := Option.bind_eq_some_iff.1 h
    cases h
    rw [List.map_cons, ← hf a b hb, ← ih hbs]

end Text

/-! ## IPv4 texts -/

namespace Ipv4

variable {cs : List Char} {ip : Ipv4} {n : Nat}

theorem octet?_eq_some_iff {o : UInt8} : octet? cs = some o ↔ cs = Nat.toDigits 10 o.toNat := by
  constructor
  · intro h
    unfold octet? at h
    split at h
    · cases h
    · rename_i hform
      rw [not_or, not_and] at hform
      obtain ⟨n, hn, h⟩ := Option.bind_eq_some_iff.1 h
      obtain ⟨hlt, ho⟩ := Option.ite_none_right_eq_some.1 h
      rw [← Option.some.inj ho, UInt8.toNat_ofNat', Nat.mod_eq_of_lt hlt]
      exact (Text.natural?_eq_some_iff.1 hn).eq_toDigits hform.2
  · rintro rfl
    exact octet?_toDigits o

/-- **An address has one text.** -/
theorem ofChars?_eq_some_iff : ofChars? cs = some ip ↔ cs = ip.toChars := by
  constructor
  · intro h
    unfold ofChars? at h
    split at h
    · rename_i a b c d hm
      cases h
      have hparts := Text.eq_map_of_mapM (fun _ _ => octet?_eq_some_iff.1) hm
      have hjoin : ['.'].intercalate (cs.splitOn '.') = cs := List.intercalate_splitOn '.'
      rw [← hjoin, hparts]
      rfl
    · cases h
  · rintro rfl
    exact ofChars?_toChars ip

theorem ofChars?_of_isUnsigned (h : Text.IsUnsigned cs n) : ofChars? cs = none :=
  ofChars?_of_not_mem (Text.not_mem_of_isUnsigned (by decide) (by decide) h)

/-! ## Masks -/

/-- The bits of a byte, the highest first. -/
def byteBits (o : UInt8) : List Bool :=
  (List.range 8).map fun i => o.toNat.testBit (7 - i)

/-- The bits of an address, the highest first. -/
def bits (ip : Ipv4) : List Bool :=
  ip.octets.flatMap byteBits

/-- The first `n` bits of the address are ones, and the others are zeros. -/
structure IsMask (ip : Ipv4) (n : Nat) : Prop where
  length_le : n ≤ 32
  bits_eq : ip.bits = List.replicate n true ++ List.replicate (32 - n) false

open Base64 (binary binary_append)

theorem binary_byteBits (o : UInt8) : binary (byteBits o) = o.toNat := by
  have h : ∀ n < 256, binary ((List.range 8).map fun i => n.testBit (7 - i)) = n := by
    decide +kernel
  exact h o.toNat o.toNat_lt

theorem binary_bits (ip : Ipv4) : binary ip.bits = ip.toNat := by
  have hlength (o : UInt8) : (byteBits o).length = 8 := rfl
  simp only [bits, toNat, octets, List.flatMap_cons, List.flatMap_nil, List.append_nil,
    binary_append, binary_byteBits, List.length_append, hlength, List.foldl_cons, List.foldl_nil,
    Nat.shiftLeft_eq]
  omega

/-- Bits are told from the number that they write, and from how many they are. -/
theorem eq_of_binary_eq {bs cs : List Bool} (hlength : bs.length = cs.length)
    (h : binary bs = binary cs) : bs = cs := by
  induction bs using List.reverseRecOn generalizing cs with
  | nil => exact (List.length_eq_zero_iff.1 hlength.symm).symm
  | append_singleton bs b ih =>
    rcases List.eq_nil_or_concat cs with rfl | ⟨cs, c, rfl⟩
    · simp at hlength
    · rw [List.concat_eq_append] at hlength h ⊢
      rw [List.length_append, List.length_append] at hlength
      simp only [binary_append, List.length_singleton, Nat.shiftLeft_eq, Nat.pow_one] at h
      have hone (d : Bool) : binary [d] = d.toNat := by cases d <;> rfl
      have hb := b.toNat_lt
      have hc := c.toNat_lt
      rw [hone, hone] at h
      have hfront : bs = cs := ih (Nat.add_right_cancel hlength) (by omega)
      have hlast : b.toNat = c.toNat := by omega
      rw [hfront]
      cases b <;> cases c <;> first | rfl | cases hlast

/-- Of the numbers of 32 bits, masks are those of ones and then zeros. -/
theorem isMask_iff : ip.IsMask n ↔ n ≤ 32 ∧ Network.mask n = ip.toNat := by
  have hmask : ∀ n < 33, binary (List.replicate n true ++ List.replicate (32 - n) false) =
      Network.mask n := by decide +kernel
  constructor
  · rintro ⟨hle, hbits⟩
    rw [← hmask n (by omega), ← hbits]
    exact ⟨hle, ip.binary_bits⟩
  · rintro ⟨hle, hn⟩
    refine ⟨hle, eq_of_binary_eq ?_ ?_⟩
    · rw [List.length_append, List.length_replicate, List.length_replicate, Nat.add_sub_of_le hle]
      rfl
    · rw [hmask n (by omega), hn, ip.binary_bits]

end Ipv4

namespace Network

variable {cs : List Char} {a : Address} {n : Nat} {net : Network}

theorem maskLength?_eq_some_iff {ip : Ipv4} : maskLength? ip = some n ↔ ip.IsMask n := by
  have hdistinct : ∀ n < 33, ∀ m < n, (!mask m == mask n) = true := by decide +kernel
  rw [maskLength?, List.find?_range_eq_some, Ipv4.isMask_iff, List.mem_range, beq_iff_eq]
  constructor
  · rintro ⟨hn, hlt, -⟩
    exact ⟨by omega, hn⟩
  · rintro ⟨hle, hn⟩
    refine ⟨hn, by omega, fun m hm => ?_⟩
    rw [← hn]
    exact hdistinct n (by omega) m hm

/-! ## What stands behind the slash -/

/-- What may stand behind the slash after an address, and the length that it gives. -/
inductive GivesLength : Address → List Char → Nat → Prop
  /-- Digits with a plus sign in front or none, for no more bits than the address has. -/
  | number {a : Address} {cs : List Char} {n : Nat} (h : Text.IsUnsigned cs n) (hle : n ≤ a.width) :
      GivesLength a cs n
  /-- A mask, after an IPv4 address. -/
  | mask {ip m : Ipv4} {n : Nat} (h : m.IsMask n) : GivesLength (.v4 ip) m.toChars n

theorem length?_eq_some_iff {width : Nat} :
    length? width cs = some n ↔ Text.IsUnsigned cs n ∧ n ≤ width := by
  rw [length?, Option.bind_eq_some_iff]
  constructor
  · rintro ⟨m, hm, h⟩
    obtain ⟨hle, hn⟩ := Option.ite_none_right_eq_some.1 h
    cases hn
    exact ⟨Text.unsigned?_eq_some_iff.1 hm, hle⟩
  · rintro ⟨h, hle⟩
    exact ⟨n, Text.unsigned?_eq_some_iff.2 h, if_pos hle⟩

theorem lengthAfter?_eq_some_iff : lengthAfter? a cs = some n ↔ GivesLength a cs n := by
  unfold lengthAfter?
  split
  · rename_i ip m hm
    rw [maskLength?_eq_some_iff]
    constructor
    · intro h
      rw [Ipv4.ofChars?_eq_some_iff.1 hm]
      exact .mask h
    · intro h
      cases h with
      | number h => rw [Ipv4.ofChars?_of_isUnsigned h] at hm; cases hm
      | mask h => rw [Ipv4.ofChars?_toChars] at hm; cases hm; exact h
  · rename_i hother
    rw [length?_eq_some_iff]
    constructor
    · exact fun h => .number h.1 h.2
    · intro h
      cases h with
      | number h hle => exact ⟨h, hle⟩
      | mask h => exact (hother _ _ rfl (Ipv4.ofChars?_toChars _)).elim

/-! ## Networks -/

theorem slash_not_mem (h : Address.ofChars? cs = some a) : '/' ∉ cs := by
  intro hc
  have hl := Address.isLetter_of_ofChars? h _ hc
  unfold Address.IsLetter at hl
  exact absurd hl (by decide)

/-- The characters of a network: an address alone, or an address, one slash, and a length. -/
theorem ofChars?_eq_some_iff : ofChars? cs = some net ↔
    Address.ofChars? cs = some net.address ∧ net.length = net.address.width ∨
      ∃ front back, cs = front ++ '/' :: back ∧ '/' ∉ front ∧ '/' ∉ back ∧
        Address.ofChars? front = some net.address ∧
        GivesLength net.address back net.length := by
  constructor
  · intro h
    unfold ofChars? at h
    split at h
    · rename_i front hsplit
      obtain ⟨-, -, hjoin⟩ := Text.splitOn_eq_iff.1 hsplit
      rw [List.intercalate_singleton] at hjoin
      obtain ⟨a, ha, rfl⟩ := Option.map_eq_some_iff.1 h
      rw [hjoin] at ha
      exact .inl ⟨ha, rfl⟩
    · rename_i front back hsplit
      obtain ⟨-, hparts, hjoin⟩ := Text.splitOn_eq_iff.1 hsplit
      rw [List.intercalate_cons_cons, List.intercalate_singleton, List.append_assoc] at hjoin
      obtain ⟨hfront, hback, -⟩ := List.forall_mem_cons.1 hparts |>.imp_right List.forall_mem_cons.1
      obtain ⟨a, ha, h⟩ := Option.bind_eq_some_iff.1 h
      obtain ⟨n, hn, h⟩ := Option.bind_eq_some_iff.1 h
      cases h
      exact .inr ⟨front, back, hjoin.symm, hfront, hback, ha, lengthAfter?_eq_some_iff.1 hn⟩
    · cases h
  · obtain ⟨a, n⟩ := net
    rintro (⟨ha, hn⟩ | ⟨front, back, rfl, hfront, hback, ha, hn⟩)
    · obtain rfl : n = a.width := hn
      rw [ofChars?, List.splitOn_eq_singleton (slash_not_mem ha)]
      exact Option.map_eq_some_iff.2 ⟨a, ha, rfl⟩
    · have hlength : lengthAfter? a back = some n := lengthAfter?_eq_some_iff.2 hn
      rw [ofChars?, List.splitOn_append_cons_self_of_not_mem hfront,
        List.splitOn_eq_singleton hback]
      simp only [ha, hlength, Option.bind_eq_bind, Option.bind_some, Option.pure_def]

end Network

section

variable {key raw : String}

/-- An address with a length behind it is a network. -/
theorem readNetwork_slash {a : Address} {length : Nat} {cs : List Char}
    (ha : Address.ofText? raw = some a) (hcs : '/' ∉ cs) (h : Network.GivesLength a cs length) :
    readNetwork key (raw ++ "/" ++ String.ofList cs) = .ok ⟨a, length⟩ := by
  have hchars : (raw ++ "/" ++ String.ofList cs).toList = raw.toList ++ '/' :: cs := by
    simp
  rw [readNetwork_eq_ok, Network.ofText?, hchars, Network.ofChars?_eq_some_iff]
  exact .inr ⟨raw.toList, cs, rfl, Network.slash_not_mem ha, hcs, ha, h⟩

theorem readNetwork_alone {a : Address} (ha : Address.ofText? raw = some a) :
    readNetwork key raw = .ok ⟨a, a.width⟩ := by
  rw [readNetwork_eq_ok, Network.ofText?, Network.ofChars?_eq_some_iff]
  exact .inl ⟨ha, rfl⟩

theorem readNetwork_number {a : Address} {length : Nat} (ha : Address.ofText? raw = some a)
    (hle : length ≤ a.width) : readNetwork key (raw ++ "/" ++ toString length) = .ok ⟨a, length⟩ := by
  have hdigits : Text.IsUnsigned (Nat.toDigits 10 length) length :=
    .bare (Text.isNatural_toDigits length)
  rw [Nat.toString_eq_ofList_toDigits]
  exact readNetwork_slash ha (Text.not_mem_of_isUnsigned (by decide) (by decide) hdigits)
    (.number hdigits hle)

theorem readNetwork_mask {ip m : Ipv4} {length : Nat} (ha : Address.ofText? raw = some (.v4 ip))
    (hm : m.IsMask length) : readNetwork key (raw ++ "/" ++ m.toText) = .ok ⟨.v4 ip, length⟩ := by
  have hslash : '/' ∉ m.toChars := fun hc =>
    absurd (Ipv4.isLetter_of_ofChars? (Ipv4.ofChars?_toChars m) _ hc)
      (by unfold Ipv4.IsLetter; decide)
  exact readNetwork_slash ha hslash (.mask hm)

end

/-- **The texts of networks**: addresses alone, with a number of bits, or with a mask of IPv4. -/
theorem readNetwork_exact (key raw : String) :
    (∀ n, readNetwork key raw = .ok n ↔
      Address.ofText? raw = some n.address ∧ n.length = n.address.width ∨
        ∃ front back, raw.toList = front ++ '/' :: back ∧ '/' ∉ front ∧ '/' ∉ back ∧
          Address.ofChars? front = some n.address ∧
          Network.GivesLength n.address back n.length) ∧
    ((∀ n, readNetwork key raw ≠ .ok n) →
      readNetwork key raw = .error (.malformed key raw .notNetwork)) ∧
    (∀ a, Address.ofText? raw = some a →
      readNetwork key (raw ++ "/" ++ toString a.width) = readNetwork key raw) ∧
    ∀ (ip m : Ipv4) (length : Nat), Address.ofText? raw = some (.v4 ip) → m.IsMask length →
      readNetwork key (raw ++ "/" ++ m.toText) =
        readNetwork key (raw ++ "/" ++ toString length) := by
  refine ⟨fun n => ?_, fun h => ?_, fun a ha => ?_, fun ip m length ha hm => ?_⟩
  · rw [readNetwork_eq_ok]
    exact Network.ofChars?_eq_some_iff
  · cases hread : readNetwork key raw with
    | ok n => exact absurd hread (h n)
    | error e => rw [(readNetwork_eq_error.1 hread).2]
  · rw [readNetwork_number ha (Nat.le_refl _), readNetwork_alone ha]
  · rw [readNetwork_mask ha hm, readNetwork_number ha hm.length_le]

example : readNetwork "K" "10.1.2.3/255.0.0.0" = .ok ⟨.v4 ⟨10, 1, 2, 3⟩, 8⟩ ∧
    readNetwork "K" "10.1.2.3/255.0.255.0" =
      .error (.malformed "K" "10.1.2.3/255.0.255.0" .notNetwork) :=
  ⟨rfl, rfl⟩

end VpnGateway
