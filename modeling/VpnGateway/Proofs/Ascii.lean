import Mathlib.Tactic.SplitIfs
import VpnGateway.Credential

/-!
# ASCII texts

A byte below 128 is a character of its own, so ASCII bytes and their text say the same.

* `IsAscii`;
* `utf8Bytes_injective`: texts with the same bytes are the same;
* `utf8Bytes_asciiText`: the bytes of the text of ASCII bytes;
* `asciiChar_mem_of_mem`: a text whose bytes hold an ASCII byte holds its character;
* `utf8Pieces_append`: an ASCII byte begins a new piece, whatever stands before it;
* **`utf8Lossy_infix`**: ASCII bytes are shown in any reading of the bytes they stand in.
-/

namespace VpnGateway.Text

open Credential (asciiText)

theorem utf8Bytes_injective {s t : String} (h : utf8Bytes s = utf8Bytes t) : s = t := by
  rw [← String.toByteArray_inj, ← String.utf8Encode_toList, ← String.utf8Encode_toList]
  exact congrArg List.toByteArray h

/-- The bytes are ASCII. -/
def IsAscii (bytes : List UInt8) : Prop :=
  ∀ b ∈ bytes, b < 128

/-- The character of an ASCII byte. -/
def asciiChar (b : UInt8) : Char :=
  Char.ofNat b.toNat

theorem toList_asciiText (bytes : List UInt8) : (asciiText bytes).toList = bytes.map asciiChar := by
  rw [asciiText, String.toList_ofList]
  rfl

theorem toNat_lt_of_lt {b : UInt8} (h : b < 128) : b.toNat < 128 := by
  have hn := UInt8.lt_iff_toNat_lt.1 h
  simpa using hn

theorem toNat_asciiChar {b : UInt8} (h : b < 128) : (asciiChar b).toNat = b.toNat := by
  have hb := toNat_lt_of_lt h
  have hv : b.toNat.isValidChar := .inl (by omega)
  rw [asciiChar, Char.ofNat, dif_pos hv]
  rfl

theorem utf8EncodeChar_asciiChar {b : UInt8} (h : b < 128) :
    String.utf8EncodeChar (asciiChar b) = [b] := by
  have hb := toNat_lt_of_lt h
  have hc : (asciiChar b).val.toNat = b.toNat := toNat_asciiChar h
  rw [String.utf8EncodeChar, hc]
  simp only [UInt8.ofNat_toNat]
  exact if_pos (by omega)

theorem utf8Bytes_asciiText {bytes : List UInt8} (h : IsAscii bytes) :
    utf8Bytes (asciiText bytes) = bytes := by
  rw [utf8Bytes, toList_asciiText]
  induction bytes with
  | nil => rfl
  | cons b bytes ih =>
    rw [List.map_cons, List.flatMap_cons, utf8EncodeChar_asciiChar (h b List.mem_cons_self),
      ih fun c hc => h c (List.mem_cons_of_mem b hc)]
    rfl

/-- An ASCII byte is in no other character than its own. -/
theorem eq_asciiChar_of_mem {b : UInt8} (hb : b < 128) {c : Char}
    (h : b ∈ String.utf8EncodeChar c) : c = asciiChar b := by
  have hlt := toNat_lt_of_lt hb
  have hnat : c.toNat = b.toNat := by
    have hmem := List.mem_map_of_mem (f := UInt8.toNat) h
    have hval : c.val.toNat = c.toNat := rfl
    simp only [String.utf8EncodeChar, hval] at hmem
    split_ifs at hmem <;> simp at hmem <;> omega
  rw [Char.ext_iff, ← UInt32.toNat_inj]
  exact hnat.trans (toNat_asciiChar hb).symm

theorem asciiChar_mem_of_mem {b : UInt8} (hb : b < 128) {s : String} (h : b ∈ utf8Bytes s) :
    asciiChar b ∈ s.toList := by
  obtain ⟨c, hc, hmem⟩ := List.mem_flatMap.1 h
  rwa [← eq_asciiChar_of_mem hb hmem]

/-! ## ASCII among other bytes -/

theorem ofByte?_ascii {b : UInt8} (h : b < 128) :
    Lead.ofByte? b = some ⟨b.toNat, 0, 0x80, 0xBF⟩ := by
  rw [Lead.ofByte?, if_pos h]

theorem utf8Pieces_cons_ascii {b : UInt8} (h : b < 128) (bytes : List UInt8) :
    utf8Pieces (b :: bytes) = some (asciiChar b) :: utf8Pieces bytes := by
  rw [utf8Pieces, ofByte?_ascii h]
  rfl

/-- The bounds of continuation bytes are above ASCII. -/
theorem Lead.low_ge {b : UInt8} {lead : Lead} (h : Lead.ofByte? b = some lead) :
    128 ≤ lead.low := by
  unfold Lead.ofByte? at h
  split at h
  · rw [← Option.some.inj h]
    exact UInt8.le_refl _
  split at h
  · simp at h
  split at h
  · rw [← Option.some.inj h]
    exact UInt8.le_refl _
  split at h
  · rw [← Option.some.inj h]
    dsimp only
    split <;> decide
  split at h
  · rw [← Option.some.inj h]
    dsimp only
    split <;> decide
  · simp at h

/-- An ASCII byte ends a piece that is not complete before it. -/
theorem continuation_append {low : UInt8} (hlow : 128 ≤ low) (high : UInt8) (more bits : Nat)
    (front : List UInt8) {a : UInt8} (ha : a < 128) (back : List UInt8) :
    continuation low high more bits (front ++ a :: back) =
      ((continuation low high more bits front).1,
        (continuation low high more bits front).2 ++ a :: back) := by
  induction front generalizing low high more bits with
  | nil =>
    cases more with
    | zero => rfl
    | succ more =>
      -- an ASCII byte is below every continuation byte
      have h : ¬ (low ≤ a ∧ a ≤ high) := fun h =>
        absurd (UInt8.lt_of_lt_of_le ha (UInt8.le_trans hlow h.1)) (UInt8.lt_irrefl a)
      rw [List.nil_append, continuation.eq_3, if_neg h]
      rfl
  | cons b front ih =>
    cases more with
    | zero => rfl
    | succ more =>
      rw [List.cons_append, continuation.eq_3, continuation.eq_3]
      split
      · exact ih (by decide) ..
      · rfl

theorem utf8Pieces_append (front : List UInt8) {a : UInt8} (ha : a < 128) (back : List UInt8) :
    utf8Pieces (front ++ a :: back) = utf8Pieces front ++ utf8Pieces (a :: back) := by
  induction front using utf8Pieces.induct with
  | case1 =>
    rw [List.nil_append, utf8Pieces.eq_1]
    rfl
  | case2 b front h ih =>
    rw [List.cons_append, utf8Pieces.eq_2, utf8Pieces.eq_2, h]
    exact congrArg (none :: ·) ih
  | case3 b front lead h piece ih =>
    rw [List.cons_append, utf8Pieces.eq_2, utf8Pieces.eq_2, h]
    simp only [continuation_append (Lead.low_ge h) _ _ _ front ha back]
    exact congrArg (_ :: ·) ih

theorem utf8Pieces_ascii_append {bytes : List UInt8} (h : IsAscii bytes) (back : List UInt8) :
    utf8Pieces (bytes ++ back) = bytes.map (fun b => some (asciiChar b)) ++ utf8Pieces back := by
  induction bytes with
  | nil => rfl
  | cons b bytes ih =>
    rw [List.cons_append, utf8Pieces_cons_ascii (h b List.mem_cons_self),
      ih fun c hc => h c (List.mem_cons_of_mem b hc)]
    rfl

/-- **ASCII bytes are shown in any reading of the bytes they stand in.** -/
theorem utf8Lossy_infix {part bytes : List UInt8} (ha : IsAscii part) (h : part <:+: bytes) :
    (asciiText part).toList <:+: (utf8Lossy bytes).toList := by
  rw [toList_asciiText, utf8Lossy, String.toList_ofList]
  obtain ⟨front, back, rfl⟩ := h
  cases part with
  | nil => exact List.nil_infix
  | cons a part =>
    have hp : utf8Pieces (front ++ (a :: part) ++ back) =
        utf8Pieces front ++ ((a :: part).map (fun b => some (asciiChar b)) ++ utf8Pieces back) := by
      rw [List.append_assoc, List.cons_append, utf8Pieces_append front (ha a List.mem_cons_self),
        ← List.cons_append, utf8Pieces_ascii_append ha]
    rw [hp, List.map_append, List.map_append, List.map_map]
    exact ⟨_, _, (List.append_assoc ..)⟩

end VpnGateway.Text
