import VpnGateway.Pem.Section

/-!
# Lines

How a text is cut into lines: at each line feed and each carriage return.

* `flatten_lines`: nothing is lost;
* `lines_append`, `lines_flatMap`: the lines of a text that is put together from lines;
* `EndsLine`, `lines_append_of_endsLine`: a text whose last line is ended, with more behind it;
* **`exists_lines_append`**: more text changes the last line at most, and only its end.
-/

namespace VpnGateway.Pem

theorem lines_append {l : List UInt8} (h : ∀ b ∈ l, isLineEnd b = false) {e : UInt8}
    (he : isLineEnd e = true) (rest : List UInt8) :
    lines (l ++ e :: rest) = (l ++ [e]) :: lines rest := by
  induction l with
  | nil => rw [List.nil_append, lines, if_pos he, List.nil_append]
  | cons b l ih =>
    have hb : ¬ isLineEnd b = true := by rw [h b List.mem_cons_self]; exact Bool.false_ne_true
    rw [List.cons_append, lines, if_neg hb, ih fun c hc => h c (List.mem_cons_of_mem b hc)]
    rfl

theorem lines_of_noLineEnd {l : List UInt8} (h : ∀ b ∈ l, isLineEnd b = false) (hne : l ≠ []) :
    lines l = [l] := by
  induction l with
  | nil => exact absurd rfl hne
  | cons b l ih =>
    have hb : ¬ isLineEnd b = true := by rw [h b List.mem_cons_self]; exact Bool.false_ne_true
    rw [lines, if_neg hb]
    cases l with
    | nil => rfl
    | cons c l => rw [ih (fun d hd => h d (List.mem_cons_of_mem b hd)) (List.cons_ne_nil c l)]

theorem lines_flatMap {ls : List (List UInt8)} (h : ∀ l ∈ ls, ∀ b ∈ l, isLineEnd b = false)
    {e : UInt8} (he : isLineEnd e = true) (rest : List UInt8) :
    lines (ls.flatMap (· ++ [e]) ++ rest) = ls.map (· ++ [e]) ++ lines rest := by
  induction ls with
  | nil => rfl
  | cons l ls ih =>
    rw [List.flatMap_cons, List.append_assoc, List.append_assoc, List.singleton_append,
      lines_append (h l List.mem_cons_self) he, ih fun m hm => h m (List.mem_cons_of_mem l hm)]
    rfl

theorem flatten_lines (bs : List UInt8) : (lines bs).flatten = bs := by
  induction bs with
  | nil => rfl
  | cons b bs ih =>
    rw [lines]
    split
    · rw [List.flatten_cons, ih, List.singleton_append]
    · split
      · rename_i h
        rw [h] at ih
        rw [← ih]
        rfl
      · rename_i l ls h
        rw [h] at ih
        rw [← ih]
        rfl

/-- The text is empty or its last line is ended. -/
def EndsLine (bs : List UInt8) : Prop :=
  ∀ b ∈ bs.getLast?, isLineEnd b = true

instance (bs : List UInt8) : Decidable (EndsLine bs) :=
  inferInstanceAs (Decidable (∀ b ∈ bs.getLast?, isLineEnd b = true))

theorem lines_append_of_endsLine {a : List UInt8} (h : EndsLine a) (b : List UInt8) :
    lines (a ++ b) = lines a ++ lines b := by
  induction a with
  | nil => rfl
  | cons x a ih =>
    cases a with
    | nil =>
      have hx : isLineEnd x = true := h x rfl
      rw [List.cons_append, lines, lines, if_pos hx, if_pos hx]
      rfl
    | cons y a =>
      have ih' := ih h
      rw [List.cons_append, lines, lines, ih']
      split
      · rfl
      · -- a text that goes on has a next line
        cases hl : lines (y :: a) with
        | nil =>
          have hf := flatten_lines (y :: a)
          rw [hl] at hf
          cases hf
        | cons l ls => rfl

/-- More text may go on with the last line, and leaves all lines before it. -/
theorem exists_lines_append {a : List UInt8} (b : List UInt8) {front after : List (List UInt8)}
    {last : List UInt8} (h : lines a = front ++ last :: after) :
    ∃ tail after', lines (a ++ b) = front ++ (last ++ tail) :: after' := by
  induction a generalizing front last after with
  | nil => cases front <;> cases h
  | cons x a ih =>
    rw [List.cons_append, lines]
    rw [lines] at h
    by_cases hx : isLineEnd x = true
    · rw [if_pos hx] at h ⊢
      cases front with
      | nil =>
        cases h
        exact ⟨[], lines (a ++ b), rfl⟩
      | cons f front =>
        rw [List.cons_append, List.cons.injEq] at h
        obtain ⟨tail, after', hab⟩ := ih h.2
        exact ⟨tail, after', by rw [hab, h.1]; rfl⟩
    · rw [if_neg hx] at h ⊢
      cases hl : lines a with
      | nil =>
        rw [hl] at h
        cases front with
        | nil =>
          cases h
          cases lines (a ++ b) with
          | nil => exact ⟨[], [], rfl⟩
          | cons l ls => exact ⟨l, ls, rfl⟩
        | cons f front => cases front <;> cases h
      | cons l ls =>
        rw [hl] at h
        cases front with
        | nil =>
          cases h
          obtain ⟨tail, after', hab⟩ := ih (hl.trans (List.nil_append _).symm)
          exact ⟨tail, after', by rw [hab]; rfl⟩
        | cons f front =>
          rw [List.cons_append, List.cons.injEq] at h
          have hl' : lines a = (l :: front) ++ last :: after := by rw [hl, h.2]; rfl
          obtain ⟨tail, after', hab⟩ := ih hl'
          exact ⟨tail, after', by rw [hab, ← h.1]; rfl⟩

end VpnGateway.Pem
