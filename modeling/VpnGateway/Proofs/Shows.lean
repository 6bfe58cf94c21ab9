import VpnGateway.Log
import VpnGateway.Proofs.Pem

/-!
# Payloads within texts

Whether a text shows a long part of a payload. What stands in front of it and behind it does not
matter, as long as it is short and set off by a character that no payload has.

* `LongBase64`: the bytes are Base64, as long as a line of a section at least;
* `Shows`: a text shows bytes;
* **`LongBase64.shows_append_left`**, `LongBase64.shows_append_right`: what is set off is left out;
* `LongBase64.shows_quoted`: quoting hides nothing of a payload.
-/

namespace VpnGateway

open Credential (asciiText)
open Text (IsAscii asciiChar toList_asciiText)

/-- The bytes are the standard Base64 text of some bytes, 64 characters or more. -/
structure LongBase64 (b : List UInt8) : Prop where
  length_le : 64 ≤ b.length
  encoded : ∃ bytes, Base64.encode bytes = b

/-- The text shows ASCII bytes. -/
def Shows (text : String) (b : List UInt8) : Prop :=
  (asciiText b).toList <:+: text.toList

/-- The character is not one of Base64. -/
def isApart (c : Char) : Bool :=
  !Base64.isSymbol (UInt8.ofNat c.toNat)

/-- A short text, set off from what follows it. -/
def EndsApart (s : String) : Prop :=
  s.toList.length ≤ 64 ∧ s.toList.getLast?.any isApart = true

instance (s : String) : Decidable (EndsApart s) := inferInstanceAs (Decidable (_ ∧ _))

/-- A short text, set off from what stands before it. -/
def StartsApart (s : String) : Prop :=
  s.toList.length ≤ 64 ∧ s.toList.head?.any isApart = true

instance (s : String) : Decidable (StartsApart s) := inferInstanceAs (Decidable (_ ∧ _))

/-! ## Parts of lists -/

theorem eq_nil_of_prefix_cons {α : Type} {b back : List α} {c : α} (hc : c ∉ b)
    (h : b <+: c :: back) : b = [] := by
  rcases List.prefix_cons_iff.1 h with h | ⟨t, rfl, -⟩
  · exact h
  · exact absurd List.mem_cons_self hc

/-- A part without the character stands on one side of it. -/
theorem infix_append_cons_iff {α : Type} {b front back : List α} {c : α} (hc : c ∉ b) :
    b <:+: front ++ c :: back ↔ b <:+: front ∨ b <:+: back := by
  refine ⟨fun h => ?_, fun h => ?_⟩
  · rcases List.infix_append_iff_ne_nil.1 h with h | h | ⟨l₁, l₂, -, hne, rfl, -, h⟩
    · exact .inl h
    · rcases List.infix_cons_iff.1 h with h | h
      · rw [eq_nil_of_prefix_cons hc h]
        exact .inl List.nil_infix
      · exact .inr h
    · exact absurd (eq_nil_of_prefix_cons (fun h => hc (List.mem_append_right l₁ h)) h) hne
  · rcases h with h | h
    · exact List.infix_append_of_infix_left h
    · exact List.infix_append_of_infix_right (List.infix_cons h)

/-! ## Printable characters -/

namespace Text

/-- A printable ASCII character stands alone. -/
theorem standsAlone_of_ascii {c : Char} (hlow : 0x20 ≤ c.toNat) (hhigh : c.toNat ≤ 0x7e) :
    standsAlone c = true := by
  have hout : ∀ ranges : CharRanges,
      (∀ r ∈ ranges, r.2 < 0x20 ∨ 0x7e < r.1) → ranges.contains c = false := by
    intro ranges h
    rw [CharRanges.contains, List.any_eq_false]
    intro r hr hin
    have hr' := h r hr
    rw [Bool.and_eq_true, decide_eq_true_eq, decide_eq_true_eq] at hin
    omega
  rw [standsAlone, hout unprintable (by decide +kernel), hout graphemeExtenders (by decide +kernel)]
  rfl

theorem escape_of_ascii {c : Char} (hlow : 0x20 ≤ c.toNat) (hhigh : c.toNat ≤ 0x7e)
    (hquote : c ≠ '"') (hslash : c ≠ '\\') : escape c = [c] := by
  unfold escape
  split
  · exact absurd rfl hquote
  · exact absurd rfl hslash
  iterate 4
    · exact absurd hlow (by decide)
  · exact if_pos (standsAlone_of_ascii hlow hhigh)

end Text

/-! ## Payloads within texts -/

namespace LongBase64

variable {b : List UInt8}

theorem isSymbol_of_mem (hb : LongBase64 b) : ∀ x ∈ b, Base64.isSymbol x = true := by
  obtain ⟨bytes, rfl⟩ := hb.encoded
  exact fun x hx => Base64.isSymbol_of_mem_encode hx

theorem isAscii (hb : LongBase64 b) : IsAscii b :=
  fun x hx => (Credential.of_isSymbol x (hb.isSymbol_of_mem x hx)).1

theorem not_mem (hb : LongBase64 b) {c : Char} (hc : isApart c = true) :
    c ∉ (asciiText b).toList := by
  rw [toList_asciiText]
  intro hm
  obtain ⟨x, hx, rfl⟩ := List.mem_map.1 hm
  rw [isApart, Text.toNat_asciiChar (hb.isAscii x hx), UInt8.ofNat_toNat,
    hb.isSymbol_of_mem x hx] at hc
  cases hc

theorem length_toList (b : List UInt8) : (asciiText b).toList.length = b.length := by
  rw [toList_asciiText, List.length_map]

theorem not_infix (hb : LongBase64 b) {cs : List Char} (h : cs.length < 64) :
    ¬ (asciiText b).toList <:+: cs := by
  intro hi
  have hl := hi.length_le
  rw [length_toList] at hl
  have := hb.length_le
  omega

theorem not_shows (hb : LongBase64 b) {s : String} (h : s.toList.length < 64) : ¬ Shows s b :=
  hb.not_infix h

/-- What stands in front shows nothing. -/
theorem shows_append_left (hb : LongBase64 b) {front text : String} (h : EndsApart front) :
    Shows (front ++ text) b ↔ Shows text b := by
  obtain ⟨hlen, hlast⟩ := h
  obtain ⟨c, hc, hapart⟩ := (Option.any_eq_true _ _).1 hlast
  obtain ⟨cs, hcs⟩ := List.getLast?_eq_some_iff.1 hc
  have hshort : cs.length < 64 := by
    rw [hcs, List.length_append, List.length_singleton] at hlen
    omega
  rw [Shows, String.toList_append, hcs, List.append_assoc, List.singleton_append,
    infix_append_cons_iff (hb.not_mem hapart)]
  exact or_iff_right (hb.not_infix hshort)

/-- What stands behind shows nothing. -/
theorem shows_append_right (hb : LongBase64 b) {text back : String} (h : StartsApart back) :
    Shows (text ++ back) b ↔ Shows text b := by
  obtain ⟨hlen, hhead⟩ := h
  obtain ⟨c, hc, hapart⟩ := (Option.any_eq_true _ _).1 hhead
  obtain ⟨cs, hcs⟩ := List.head?_eq_some_iff.1 hc
  have hshort : cs.length < 64 := by
    rw [hcs, List.length_cons] at hlen
    omega
  rw [Shows, String.toList_append, hcs, infix_append_cons_iff (hb.not_mem hapart)]
  exact or_iff_left (hb.not_infix hshort)

theorem escape_asciiChar {x : UInt8} (h : Base64.isSymbol x = true) :
    Text.escape (asciiChar x) = [asciiChar x] := by
  have hx : ∀ x, Base64.isSymbol x = true → 0x20 ≤ x.toNat ∧ x.toNat ≤ 0x7e ∧ x ≠ 34 ∧ x ≠ 92 :=
    Base64.forall_byte
      (p := fun x => Base64.isSymbol x = true →
        0x20 ≤ x.toNat ∧ x.toNat ≤ 0x7e ∧ x ≠ 34 ∧ x ≠ 92) (by decide +kernel)
  obtain ⟨hlow, hhigh, hquote, hslash⟩ := hx x h
  have hn := Text.toNat_asciiChar (Credential.of_isSymbol x h).1
  have hne : ∀ (c : Char) (y : UInt8), c.toNat = y.toNat → x ≠ y → asciiChar x ≠ c := by
    intro c y hc hxy he
    rw [he, hc] at hn
    exact hxy (UInt8.toNat_inj.1 hn.symm)
  exact Text.escape_of_ascii (by omega) (by omega) (hne _ 34 rfl hquote) (hne _ 92 rfl hslash)

/-- Quoting hides nothing of a payload. -/
theorem shows_quoted (hb : LongBase64 b) {s : String} (h : Shows s b) :
    Shows (Text.quoted s) b := by
  have hflat : (asciiText b).toList.flatMap Text.escape = (asciiText b).toList := by
    rw [toList_asciiText, List.flatMap_map]
    have hs := hb.isSymbol_of_mem
    clear h hb
    induction b with
    | nil => rfl
    | cons x b ih =>
      rw [List.flatMap_cons, escape_asciiChar (hs x List.mem_cons_self),
        ih fun y hy => hs y (List.mem_cons_of_mem x hy)]
      rfl
  obtain ⟨front, back, hs⟩ := h
  rw [Shows, Text.quoted, String.toList_ofList, ← hs, List.flatMap_append, List.flatMap_append,
    hflat]
  refine List.infix_append_of_infix_left (List.infix_cons ?_)
  exact List.infix_append_of_infix_left List.infix_append_right

/-- A part of bytes is shown where they are quoted. -/
theorem shows_quoted_utf8Lossy (hb : LongBase64 b) {bytes : List UInt8} (h : b <:+: bytes) :
    Shows (Text.quoted (Text.utf8Lossy bytes)) b :=
  hb.shows_quoted (Text.utf8Lossy_infix hb.isAscii h)

end LongBase64

end VpnGateway
