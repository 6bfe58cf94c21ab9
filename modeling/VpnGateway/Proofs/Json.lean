import Mathlib.Data.List.Basic
import VpnGateway.Text.Hex
import VpnGateway.Text.Json
import VpnGateway.Text.Numeral

/-!
# Compact documents are read in one way

A compact document begins as no document of another kind does, and it is told where it ends: texts,
lists and records by the character that closes them, and numbers where no digit follows.

* `Json.unescape`, `Json.stringChars_append_inj`: a text between quotes is told in front of anything;
* `Json.Kind`, `Json.kind_eq_of_append`: the first character of a document tells its kind;
* `Json.Told`, `Json.told_separated`: what can be told can be told in a list;
* `Json.told_compactChars`, **`Json.compact_injective`**: no two documents have one compact form.
-/

namespace VpnGateway.Json

open Text

/-! ## Texts between quotes -/

/-- The character that stands in front, maybe escaped, and what follows it. -/
def unescape : List Char → Option (Char × List Char)
  | '\\' :: 'u' :: '0' :: '0' :: a :: b :: rest => do
    let high ← hexDigit? a
    let low ← hexDigit? b
    return (Char.ofNat (high * 16 + low), rest)
  | '\\' :: 'n' :: rest => some ('\n', rest)
  | '\\' :: 'r' :: rest => some ('\r', rest)
  | '\\' :: 't' :: rest => some ('\t', rest)
  | '\\' :: 'b' :: rest => some ('\x08', rest)
  | '\\' :: 'f' :: rest => some ('\x0c', rest)
  | '\\' :: c :: rest => some (c, rest)
  | '"' :: _ => none
  | c :: rest => some (c, rest)
  | [] => none

theorem unescape_escape (c : Char) (rest : List Char) :
    unescape (escape c ++ rest) = some (c, rest) := by
  unfold escape
  split
  iterate 7 rfl
  next hquote hbackslash _ _ _ _ _ =>
    split
    · next hlow =>
      have hhigh := hexDigit?_digitChar (c.toNat / 16) (by omega)
      have hrest := hexDigit?_digitChar (c.toNat % 16) (by omega)
      simp [unescape, hhigh, hrest, Nat.div_add_mod', Char.ofNat_toNat]
    · -- what is read otherwise begins with a backslash or a quote
      rw [List.singleton_append, unescape]
      all_goals grind

theorem unescape_flatMap (c : Char) (cs rest : List Char) :
    unescape ((c :: cs).flatMap escape ++ rest) = some (c, cs.flatMap escape ++ rest) := by
  rw [List.flatMap_cons, List.append_assoc, unescape_escape]

/-- Of two texts in front of a quote that ends them, the characters are the same. -/
theorem flatMap_escape_append_inj {cs cs' rest rest' : List Char}
    (h : cs.flatMap escape ++ '"' :: rest = cs'.flatMap escape ++ '"' :: rest') :
    cs = cs' ∧ rest = rest' := by
  induction cs generalizing cs' with
  | nil =>
    cases cs' with
    | nil => exact ⟨rfl, List.tail_eq_of_cons_eq h⟩
    | cons c' cs' => cases (congrArg unescape h).trans (unescape_flatMap c' cs' _)
  | cons c cs ih =>
    have hread := (unescape_flatMap c cs _).symm.trans (congrArg unescape h)
    cases cs' with
    | nil => cases hread
    | cons c' cs' =>
      rw [unescape_flatMap, Option.some.injEq, Prod.mk.injEq] at hread
      obtain ⟨rfl, hrest⟩ := hread
      obtain ⟨rfl, rfl⟩ := ih hrest
      exact ⟨rfl, rfl⟩

/-- A text between quotes is told in front of anything. -/
theorem stringChars_append_inj {s s' : String} {rest rest' : List Char}
    (h : stringChars s ++ rest = stringChars s' ++ rest') : s = s' ∧ rest = rest' := by
  simp only [stringChars, List.append_assoc, List.cons_append, List.nil_append, List.cons.injEq,
    true_and] at h
  obtain ⟨hchars, rfl⟩ := flatMap_escape_append_inj h
  exact ⟨String.toList_inj.1 hchars, rfl⟩

/-! ## Kinds of documents -/

/-- What a document is. -/
inductive Kind
  | bool | number | text | list | record
  deriving DecidableEq

/-- The kind of a document. -/
def kind : Json → Kind
  | bool _ => .bool
  | number _ => .number
  | text _ => .text
  | list _ => .list
  | record _ => .record

/-- The kind of the documents that begin with a character. -/
def kindOf? (c : Char) : Option Kind :=
  if c.isDigit then some .number
  else match c with
    | 't' | 'f' => some .bool
    | '"' => some .text
    | '[' => some .list
    | '\x7b' => some .record
    | _ => none

theorem kindOf?_head (d : Json) (rest : List Char) :
    (d.compactChars ++ rest).head?.bind kindOf? = some d.kind := by
  cases d with
  | bool b => cases b <;> rfl
  | number n =>
    obtain ⟨c, cs, hcs, hc⟩ := exists_toDigits_eq_cons n
    rw [compactChars, hcs]
    exact if_pos hc
  | text s => rfl
  | list items => rw [compactChars]; rfl
  | record fields => rw [compactChars]; rfl

theorem kind_eq_of_append {d d' : Json} {rest rest' : List Char}
    (h : d.compactChars ++ rest = d'.compactChars ++ rest') : d.kind = d'.kind := by
  have hd := kindOf?_head d rest
  rw [h, kindOf?_head] at hd
  exact (Option.some.inj hd).symm

/-! ## Lists -/

section Lists

variable {α : Type} {f : α → List Char}

/-- What follows does not go on a number. -/
def Ends (rest : List Char) : Prop :=
  rest.head?.any Char.isDigit = false

/-- What is written for `a` is written for nothing else, and it is told where it ends. -/
def Told (f : α → List Char) (a : α) : Prop :=
  ∀ a' rest rest', Ends rest → Ends rest' → f a ++ rest = f a' ++ rest' → a = a' ∧ rest = rest'

/-- What is written for items, with commas in between. -/
def separated (f : α → List Char) : List α → List Char
  | [] => []
  | a :: l => f a ++ l.flatMap fun a => ',' :: f a

theorem separated_cons_cons (a b : α) (l : List α) :
    separated f (a :: b :: l) = f a ++ ',' :: separated f (b :: l) := rfl

variable {close : Char} {rest rest' : List Char}

theorem ends_flatMap (h : close.isDigit = false) (l : List α) :
    Ends ((l.flatMap fun a => ',' :: f a) ++ close :: rest) := by
  cases l with
  | nil => exact h
  | cons a l => rfl

/-- What can be told can be told after commas, up to what closes the row. -/
theorem told_flatMap (hclose : close ≠ ',') (hdigit : close.isDigit = false) {l l' : List α}
    (hl : ∀ a ∈ l, Told f a)
    (h : (l.flatMap fun a => ',' :: f a) ++ close :: rest =
      (l'.flatMap fun a => ',' :: f a) ++ close :: rest') : l = l' ∧ rest = rest' := by
  induction l generalizing l' with
  | nil =>
    cases l' with
    | nil => exact ⟨rfl, List.tail_eq_of_cons_eq h⟩
    | cons a' l' => exact absurd (List.head_eq_of_cons_eq h) hclose
  | cons a l ih =>
    cases l' with
    | nil => exact absurd (List.head_eq_of_cons_eq h).symm hclose
    | cons a' l' =>
      simp only [List.flatMap_cons, List.cons_append, List.append_assoc, List.cons.injEq,
        true_and] at h
      obtain ⟨rfl, hrest⟩ := hl a List.mem_cons_self a' _ _ (ends_flatMap hdigit l)
        (ends_flatMap hdigit l') h
      obtain ⟨rfl, rfl⟩ := ih (fun b hb => hl b (List.mem_cons_of_mem a hb)) hrest
      exact ⟨rfl, rfl⟩

/-- What can be told can be told in a list, if nothing begins with what closes the list. -/
theorem told_separated (hclose : close ≠ ',') (hdigit : close.isDigit = false)
    (hopen : ∀ a rest, (f a ++ rest).head? ≠ some close) {l l' : List α} (hl : ∀ a ∈ l, Told f a)
    (h : separated f l ++ close :: rest = separated f l' ++ close :: rest') :
    l = l' ∧ rest = rest' := by
  cases l with
  | nil =>
    cases l' with
    | nil => exact ⟨rfl, List.tail_eq_of_cons_eq h⟩
    | cons a' l' =>
      rw [separated, separated, List.append_assoc] at h
      exact absurd (congrArg List.head? h).symm (hopen a' _)
  | cons a l =>
    cases l' with
    | nil =>
      rw [separated, separated, List.append_assoc] at h
      exact absurd (congrArg List.head? h) (hopen a _)
    | cons a' l' =>
      simp only [separated, List.append_assoc] at h
      obtain ⟨rfl, hrest⟩ := hl a List.mem_cons_self a' _ _ (ends_flatMap hdigit l)
        (ends_flatMap hdigit l') h
      obtain ⟨rfl, rfl⟩ :=
        told_flatMap hclose hdigit (fun b hb => hl b (List.mem_cons_of_mem a hb)) hrest
      exact ⟨rfl, rfl⟩

end Lists

/-! ## Documents -/

/-- A field of a record. -/
def fieldText (field : String × Json) : List Char :=
  stringChars field.1 ++ ':' :: field.2.compactChars

theorem itemChars_eq (items : List Json) : itemChars items = separated compactChars items := by
  induction items with
  | nil => rfl
  | cons item items ih =>
    cases items with
    | nil => simp [itemChars, separated]
    | cons next items => rw [itemChars, ih, separated_cons_cons]; nofun

theorem fieldChars_eq (fields : List (String × Json)) :
    fieldChars fields = separated fieldText fields := by
  induction fields with
  | nil => rfl
  | cons field fields ih =>
    cases fields with
    | nil => simp [fieldChars, separated, fieldText]
    | cons next fields => rw [fieldChars, ih, separated_cons_cons, fieldText]; nofun

theorem head?_compactChars_append {c : Char} (h : kindOf? c = none) (d : Json)
    (rest : List Char) : (d.compactChars ++ rest).head? ≠ some c := by
  intro hc
  have hkind := kindOf?_head d rest
  rw [hc, Option.bind_some, h] at hkind
  cases hkind

theorem head?_fieldText_append (field : String × Json) (rest : List Char) :
    (fieldText field ++ rest).head? ≠ some '\x7d' := by
  rw [fieldText, stringChars]
  exact fun h => absurd (Option.some.inj h) (by decide)

theorem Told.fieldText {name : String} {value : Json} (h : Told compactChars value) :
    Told fieldText (name, value) := by
  rintro ⟨name', value'⟩ rest rest' hrest hrest' heq
  simp only [Json.fieldText, List.append_assoc, List.cons_append] at heq
  obtain ⟨rfl, hvalue⟩ := stringChars_append_inj heq
  obtain ⟨rfl, rfl⟩ := h value' rest rest' hrest hrest' (List.tail_eq_of_cons_eq hvalue)
  exact ⟨rfl, rfl⟩

theorem told_toDigits (n : Nat) : Told (Nat.toDigits 10) n := by
  intro n' rest rest' hrest hrest' h
  have hdigits := congrArg (List.takeWhile Char.isDigit) h
  rw [takeWhile_toDigits hrest, takeWhile_toDigits hrest'] at hdigits
  have hn := congrArg (Nat.ofDigitChars 10 · 0) hdigits
  simp only [Nat.ofDigitChars_ten_toDigits] at hn
  exact ⟨hn, List.append_cancel_left (hdigits ▸ h)⟩

/-- Documents of a kind are told from one another if those that they hold are. -/
theorem told_of_kind {d : Json}
    (h : ∀ d' rest rest', Ends rest → Ends rest' → d.kind = d'.kind →
      d.compactChars ++ rest = d'.compactChars ++ rest' → d = d' ∧ rest = rest') :
    Told compactChars d :=
  fun d' rest rest' hrest hrest' heq => h d' rest rest' hrest hrest' (kind_eq_of_append heq) heq

theorem told_bool (b : Bool) : Told compactChars (bool b) := by
  refine told_of_kind fun d' rest rest' _ _ hkind h => ?_
  cases d' with
  | bool b' =>
    cases b <;> cases b' <;> simp_all [compactChars, boolChars]
  | _ => cases hkind

theorem told_number (n : Nat) : Told compactChars (number n) := by
  refine told_of_kind fun d' rest rest' hrest hrest' hkind h => ?_
  cases d' with
  | number n' =>
    obtain ⟨rfl, rfl⟩ := told_toDigits n n' rest rest' hrest hrest' h
    exact ⟨rfl, rfl⟩
  | _ => cases hkind

theorem told_text (s : String) : Told compactChars (text s) := by
  refine told_of_kind fun d' rest rest' _ _ hkind h => ?_
  cases d' with
  | text s' =>
    obtain ⟨rfl, rfl⟩ := stringChars_append_inj h
    exact ⟨rfl, rfl⟩
  | _ => cases hkind

theorem told_list {items : List Json} (hitems : ∀ item ∈ items, Told compactChars item) :
    Told compactChars (list items) := by
  refine told_of_kind fun d' rest rest' _ _ hkind h => ?_
  cases d' with
  | list items' =>
    simp only [compactChars, itemChars_eq, List.cons_append, List.append_assoc, List.nil_append,
      List.cons.injEq, true_and] at h
    obtain ⟨rfl, rfl⟩ := told_separated (by decide) (by decide) (head?_compactChars_append rfl)
      hitems h
    exact ⟨rfl, rfl⟩
  | _ => cases hkind

theorem told_record {fields : List (String × Json)}
    (hfields : ∀ field ∈ fields, Told compactChars field.2) :
    Told compactChars (record fields) := by
  refine told_of_kind fun d' rest rest' _ _ hkind h => ?_
  cases d' with
  | record fields' =>
    simp only [compactChars, fieldChars_eq, List.cons_append, List.append_assoc, List.nil_append,
      List.cons.injEq, true_and] at h
    obtain ⟨rfl, rfl⟩ := told_separated (by decide) (by decide) head?_fieldText_append
      (fun field hfield => (hfields field hfield).fieldText) h
    exact ⟨rfl, rfl⟩
  | _ => cases hkind

theorem sizeOf_lt_list {item : Json} {items : List Json} (h : item ∈ items) :
    sizeOf item < sizeOf (list items) := by
  have hlt := List.sizeOf_lt_of_mem h
  rw [list.sizeOf_spec]
  omega

theorem sizeOf_lt_record {field : String × Json} {fields : List (String × Json)}
    (h : field ∈ fields) : sizeOf field.2 < sizeOf (record fields) := by
  have hlt := List.sizeOf_lt_of_mem h
  cases field
  simp only [record.sizeOf_spec, Prod.mk.sizeOf_spec] at hlt ⊢
  omega

/-- **A document is told from what stands for it**, and where it ends, in front of anything that does
not go on a number. -/
theorem told_compactChars : (d : Json) → Told compactChars d
  | bool b => told_bool b
  | number n => told_number n
  | text s => told_text s
  | list items => told_list fun item _ => told_compactChars item
  | record fields => told_record fun field _ => told_compactChars field.2
termination_by d => sizeOf d
decreasing_by
  · exact sizeOf_lt_list ‹item ∈ items›
  · exact sizeOf_lt_record ‹field ∈ fields›

/-- **No two documents have one compact form.** -/
theorem compact_injective : Function.Injective compact := by
  intro d d' h
  have hchars : d.compactChars ++ [] = d'.compactChars ++ [] :=
    congrArg (· ++ []) (String.ofList_injective h)
  exact (told_compactChars d d' [] [] rfl rfl hchars).1

end VpnGateway.Json
