import VpnGateway.Proofs.Json

/-!
# The indented form is the compact form with blanks

Line ends, indents and the blanks after colons stand between the texts of a document. Whoever leaves
them out has the compact form, and so no two documents have one indented form.

* `Json.Place`, `Json.Place.next`: where a character stands, and where the one after it does;
* `Json.squeeze`: characters without the blanks between texts;
* `Json.Squeezes`: what characters come to, in front of anything;
* **`Json.squeeze_pretty`**: the indented form comes to the compact form;
* `Json.pretty_injective`: no two documents have one indented form.
-/

namespace VpnGateway.Json

/-! ## Blanks between texts -/

/-- Where a character stands. -/
inductive Place
  | between | inText | escaped

/-- Where the character after `c` stands. -/
def Place.next (c : Char) : Place → Place
  | between => if c = '"' then inText else between
  | inText => if c = '"' then between else if c = '\\' then escaped else inText
  | escaped => inText

/-- What is left of characters without the blanks between texts. -/
def squeeze : Place → List Char → List Char
  | _, [] => []
  | .between, c :: cs =>
    if c = ' ' ∨ c = '\n' then squeeze .between cs else c :: squeeze (Place.between.next c) cs
  | .inText, c :: cs => c :: squeeze (Place.inText.next c) cs
  | .escaped, c :: cs => c :: squeeze .inText cs

/-- Between texts, `cs` comes to `ds`, and so it does in front of anything. -/
def Squeezes (cs ds : List Char) : Prop :=
  ∀ rest, squeeze .between (cs ++ rest) = ds ++ squeeze .between rest

theorem Squeezes.nil : Squeezes [] [] :=
  fun _ => rfl

theorem Squeezes.append {cs cs' ds ds' : List Char} (h : Squeezes cs ds) (h' : Squeezes cs' ds') :
    Squeezes (cs ++ cs') (ds ++ ds') := by
  intro rest
  rw [List.append_assoc, h, h', List.append_assoc]

/-- A character that is no blank and begins no text stays. -/
theorem Squeezes.cons {c : Char} {cs ds : List Char} (h : Squeezes cs ds)
    (hblank : ¬ (c = ' ' ∨ c = '\n')) (hquote : c ≠ '"') : Squeezes (c :: cs) (c :: ds) := by
  intro rest
  rw [List.cons_append, squeeze, if_neg hblank, Place.next, if_neg hquote, h, List.cons_append]

theorem Squeezes.blank {cs ds : List Char} (h : Squeezes cs ds) : Squeezes (' ' :: cs) ds := by
  intro rest
  rw [List.cons_append, squeeze, if_pos (.inl rfl), h]

/-- A line end and an indent come to nothing. -/
theorem squeezes_newline (level : Nat) : Squeezes (newline level) [] := by
  have hblanks (n : Nat) : Squeezes (List.replicate n ' ') [] := by
    induction n with
    | zero => exact .nil
    | succ n ih => exact ih.blank
  intro rest
  rw [newline, List.cons_append, squeeze, if_pos (.inr rfl), hblanks]

/-- Digits, and other characters that are neither blanks nor quotes, stay. -/
theorem squeezes_of_forall {cs : List Char}
    (h : ∀ c ∈ cs, ¬ (c = ' ' ∨ c = '\n') ∧ c ≠ '"') : Squeezes cs cs := by
  induction cs with
  | nil => exact .nil
  | cons c cs ih =>
    rw [List.forall_mem_cons] at h
    exact (ih h.2).cons h.1.1 h.1.2

theorem squeezes_boolChars (b : Bool) : Squeezes (boolChars b) (boolChars b) := by
  apply squeezes_of_forall
  cases b <;> simp [boolChars]

theorem squeezes_toDigits (n : Nat) : Squeezes (Nat.toDigits 10 n) (Nat.toDigits 10 n) := by
  apply squeezes_of_forall
  intro c hc
  have hdigit : c.isDigit = true := Nat.isDigit_of_mem_toDigits (by omega) (by omega) hc
  refine ⟨?_, ?_⟩
  · rintro (rfl | rfl)
    · cases hdigit
    · cases hdigit
  · rintro rfl
    cases hdigit

/-! ## Texts -/

theorem squeeze_inText_cons {c : Char} (hquote : c ≠ '"') (hbackslash : c ≠ '\\') (cs : List Char) :
    squeeze .inText (c :: cs) = c :: squeeze .inText cs := by
  rw [squeeze, Place.next, if_neg hquote, if_neg hbackslash]

theorem squeeze_inText_digitChar {n : Nat} (h : n < 16) (cs : List Char) :
    squeeze .inText (Nat.digitChar n :: cs) = Nat.digitChar n :: squeeze .inText cs := by
  have hread := Text.hexDigit?_digitChar n h
  apply squeeze_inText_cons
  · intro hquote
    rw [hquote] at hread
    cases hread
  · intro hbackslash
    rw [hbackslash] at hread
    cases hread

/-- A character of a text stays, maybe escaped. -/
theorem squeeze_escape (c : Char) (rest : List Char) :
    squeeze .inText (escape c ++ rest) = escape c ++ squeeze .inText rest := by
  unfold escape
  split
  iterate 7 rfl
  next hquote hbackslash _ _ _ _ _ =>
    split
    · next hlow =>
      have hcode (cs : List Char) : squeeze .inText ('\\' :: 'u' :: '0' :: '0' :: cs) =
          '\\' :: 'u' :: '0' :: '0' :: squeeze .inText cs := rfl
      simp only [List.cons_append, List.nil_append, hcode]
      rw [squeeze_inText_digitChar (by omega), squeeze_inText_digitChar (by omega)]
    · exact squeeze_inText_cons hquote hbackslash rest

theorem squeeze_flatMap_escape (cs rest : List Char) :
    squeeze .inText (cs.flatMap escape ++ rest) = cs.flatMap escape ++ squeeze .inText rest := by
  induction cs with
  | nil => rfl
  | cons c cs ih => rw [List.flatMap_cons, List.append_assoc, squeeze_escape, ih, List.append_assoc]

theorem squeezes_stringChars (s : String) : Squeezes (stringChars s) (stringChars s) := by
  intro rest
  have hopen : squeeze .between ('"' :: (s.toList.flatMap escape ++ '"' :: rest)) =
      '"' :: squeeze .inText (s.toList.flatMap escape ++ '"' :: rest) := rfl
  have hclose : squeeze .inText ('"' :: rest) = '"' :: squeeze .between rest := rfl
  simp only [stringChars, List.cons_append, List.append_assoc, List.nil_append, hopen,
    squeeze_flatMap_escape, hclose]

/-! ## Documents -/

theorem squeezes_prettyItems {items : List Json}
    (h : ∀ item ∈ items, ∀ level, Squeezes (prettyChars level item) (compactChars item))
    (level : Nat) : Squeezes (prettyItems level items) (itemChars items) := by
  induction items with
  | nil => exact .nil
  | cons item items ih =>
    rw [List.forall_mem_cons] at h
    have hitem := (squeezes_newline level).append (h.1 level)
    cases items with
    | nil => exact hitem
    | cons next items =>
      rw [prettyItems, itemChars]
      · exact hitem.append ((ih h.2).cons (by simp) (by simp))
      · simp
      · simp

theorem squeezes_prettyFields {fields : List (String × Json)}
    (h : ∀ field ∈ fields, ∀ level, Squeezes (prettyChars level field.2) (compactChars field.2))
    (level : Nat) : Squeezes (prettyFields level fields) (fieldChars fields) := by
  induction fields with
  | nil => exact .nil
  | cons field fields ih =>
    obtain ⟨name, value⟩ := field
    rw [List.forall_mem_cons] at h
    have hvalue : Squeezes (':' :: ' ' :: prettyChars level value) (':' :: compactChars value) :=
      (h.1 level).blank.cons (by simp) (by simp)
    have hfield := ((squeezes_newline level).append (squeezes_stringChars name)).append hvalue
    cases fields with
    | nil => exact hfield
    | cons next fields =>
      rw [prettyFields, fieldChars]
      · exact hfield.append ((ih h.2).cons (by simp) (by simp))
      · simp
      · simp

/-- What stands between brackets, with a line end before the last one. -/
theorem Squeezes.enclosed {cs ds : List Char} (h : Squeezes cs ds) {left right : Char}
    (hleft : ¬ (left = ' ' ∨ left = '\n') ∧ left ≠ '"')
    (hright : ¬ (right = ' ' ∨ right = '\n') ∧ right ≠ '"') (level : Nat) :
    Squeezes (left :: cs ++ newline level ++ [right]) (left :: ds ++ [right]) := by
  have hlast : Squeezes [right] [right] := Squeezes.nil.cons hright.1 hright.2
  have hinside := (h.cons hleft.1 hleft.2).append (squeezes_newline level)
  rw [List.append_nil] at hinside
  exact hinside.append hlast

theorem squeezes_brackets : Squeezes ['[', ']'] ['[', ']'] :=
  squeezes_of_forall (by simp)

theorem squeezes_braces : Squeezes ['\x7b', '\x7d'] ['\x7b', '\x7d'] :=
  squeezes_of_forall (by simp)

/-- The indented form comes to the compact form, in front of anything. -/
theorem squeezes_prettyChars (d : Json) (level : Nat) :
    Squeezes (prettyChars level d) d.compactChars :=
  match d with
  | bool b => squeezes_boolChars b
  | number n => squeezes_toDigits n
  | text s => squeezes_stringChars s
  | list [] => squeezes_brackets
  | list (first :: items) =>
    (squeezes_prettyItems (fun item _ level => squeezes_prettyChars item level) (level + 1)).enclosed
      (by simp) (by simp) level
  | record [] => squeezes_braces
  | record (first :: fields) =>
    (squeezes_prettyFields (fun field _ level => squeezes_prettyChars field.2 level)
      (level + 1)).enclosed (by simp) (by simp) level
termination_by sizeOf d
decreasing_by
  · exact sizeOf_lt_list ‹item ∈ first :: items›
  · exact sizeOf_lt_record ‹field ∈ first :: fields›

/-- **Without the blanks between texts, the indented form is the compact form.** -/
theorem squeeze_pretty (d : Json) :
    String.ofList (squeeze .between d.pretty.toList) = d.compact := by
  have h := squeezes_prettyChars d 0 []
  rw [List.append_nil] at h
  rw [pretty, String.toList_ofList, h, squeeze, List.append_nil, compact]

/-- No two documents have one indented form. -/
theorem pretty_injective : Function.Injective pretty := by
  intro d d' h
  apply compact_injective
  rw [← squeeze_pretty, ← squeeze_pretty, h]

end VpnGateway.Json
